/-
  Command-line arguments.

  An argument is an option, a plain argument, or the two dashes after which every argument is
  plain.  Long options may be shortened as long as one option begins so, and take a value after
  `=` or as the next argument; short options take it in the same argument or the next, and those
  without a value can be run together.  Two dashes for a value take an option back: it has no value
  then, whatever it had before.  The first plain argument is the file.

  All arguments are told apart before any is used, so a doubtful option is refused even behind a
  request for help; otherwise the arguments are used from left to right, and a request for help
  ends the reading.
-/
import ThriftScala.Text.Digit
import ThriftScala.Text.Split

namespace ThriftScala.Cli

/-- An option, by what it is for. -/
inductive Flag where
  | help
  | language
  | output
  | config
  | packageName
  | fieldCase
  | noComments
  | finagleClient
  | finagleService
  | ostrichServer
  | verbose
  | listLanguages
  deriving DecidableEq, Repr

/-- Does the option take a value? -/
def Flag.takesValue : Flag → Bool
  | .language | .output | .config | .packageName | .fieldCase => true
  | _ => false

/-- The spellings of the options. -/
def spellings : List (String × Flag) :=
  [("-h", .help), ("--help", .help), ("--language", .language), ("-l", .language),
   ("--output", .output), ("-o", .output), ("--config", .config), ("--namespace", .packageName),
   ("--field-case", .fieldCase), ("--no-comments", .noComments),
   ("--finagle-client", .finagleClient), ("--finagle-service", .finagleService),
   ("--ostrich-server", .ostrichServer), ("--verbose", .verbose),
   ("--list-languages", .listLanguages)]

/-- What the arguments ask for.  There is a language unless it is taken back. -/
structure Request where
  file : Option String := none
  language : Option String := some "scala"
  output : Option String := none
  config : Option String := none
  packageName : Option String := none
  fieldCase : Option String := none
  noComments : Bool := false
  finagleClient : Bool := false
  finagleService : Bool := false
  ostrichServer : Bool := false
  verbose : Bool := false
  listLanguages : Bool := false
  deriving DecidableEq, Repr

/-- What becomes of the arguments. -/
inductive Parsed where
  | request (r : Request)
  | help
  | rejected
  deriving DecidableEq, Repr

/-! ## Telling arguments apart -/

/-- An argument. -/
inductive Word where
  /-- Two dashes: what follows is plain. -/
  | dashes
  | plain (s : String)
  /-- An option, or something that looks like one but is none; `isShort` tells a single dash, and
      `attached` is what follows in the same argument. -/
  | option (known : Option Flag) (isShort : Bool) (attached : Option (List Char))
  deriving DecidableEq, Repr

/-- Cuts a text at its first `=`. -/
def cutAtEquals (cs : List Char) : List Char × Option (List Char) :=
  match cs.dropWhile (· ≠ '=') with
  | _ :: value => (cs.takeWhile (· ≠ '='), some value)
  | [] => (cs, none)

/-- Digits to the end, up to one line feed. -/
def areDigits (cs : List Char) : Bool :=
  let ds := if cs.getLast? = some '\n' then cs.dropLast else cs
  !ds.isEmpty && ds.all Text.isDigit

/-- Does the text write a negative number, as a whole one or with a point before its last digits?
    A line feed at its end does not matter. -/
def isNegativeNumber : List Char → Bool
  | '-' :: r =>
    areDigits r ||
      match r.dropWhile Text.isDigit with
      | '.' :: ds => areDigits ds
      | _ => false
  | _ => false

/-- An argument that begins with a dash and is no spelling of an option as it stands; nothing if
    several options begin like it. -/
def Word.ofDashed? (s : String) : Option Word :=
  let cs := s.toList
  let unknown : Word :=
    if isNegativeNumber cs || cs.contains ' ' then .plain s else .option none false none
  match cs with
  | '-' :: '-' :: _ =>
    let (stem, value) := cutAtEquals cs
    match spellings.filter fun e => stem.isPrefixOf e.1.toList with
    | [] => some unknown
    | [e] => some (.option (some e.2) false value)
    | _ => none
  | '-' :: c :: value =>
    match spellings.lookup (.ofList ['-', c]) with
    | some o => some (.option (some o) true (some value))
    | none => some unknown
  | _ => some (.plain s)

/-- An argument before the two dashes; nothing if several options begin like it. -/
def Word.ofText? (s : String) : Option Word :=
  match s.toList with
  | '-' :: c :: _ =>
    let (stem, value) := cutAtEquals s.toList
    match spellings.lookup s, value, spellings.lookup (.ofList stem) with
    | some o, _, _ => some (.option (some o) (c ≠ '-') none)
    | none, some v, some o => some (.option (some o) (c ≠ '-') (some v))
    | _, _, _ => Word.ofDashed? s
  | _ => some (.plain s)

/-- All arguments; nothing if one of them is doubtful. -/
def words? : List String → Option (List Word)
  | [] => some []
  | s :: ss =>
    if s = "--" then some (.dashes :: ss.map .plain)
    else do
      let w ← Word.ofText? s
      let ws ← words? ss
      pure (w :: ws)

/-! ## Using arguments -/

/-- The words for naming cases that can be chosen here. -/
def fieldCaseWords : List String := ["camel", "pascal", "snake"]

/-- Sets what an option is for, or takes it back; nothing if its value is none of those there
    are. -/
def Request.set? (r : Request) (o : Flag) (value : String) : Option Request :=
  let given := if value = "--" then none else some value
  match o with
  | .help => some r
  | .language => some { r with language := given }
  | .output => some { r with output := given }
  | .config => some { r with config := given }
  | .packageName => some { r with packageName := given }
  | .fieldCase =>
    if given.all fieldCaseWords.contains then some { r with fieldCase := given } else none
  | .noComments => some { r with noComments := true }
  | .finagleClient => some { r with finagleClient := true }
  | .finagleService => some { r with finagleService := true }
  | .ostrichServer => some { r with ostrichServer := true }
  | .verbose => some { r with verbose := true }
  | .listLanguages => some { r with listLanguages := true }

/-- Options that one argument gives, with their values.  Only the last can take a value; if it has
    none, the value is still to come. -/
abbrev Chain := List (Flag × Option String)

/-- The chain of a short option and the text behind it: a value if the option takes one, else more
    short options; nothing if a character is none. -/
def chain? (o : Flag) : List Char → Option Chain
  | [] => if o.takesValue then some [(o, some "")] else none
  | c :: r =>
    if o.takesValue then some [(o, some (.ofList (c :: r)))]
    else
      match spellings.lookup (.ofList ['-', c]) with
      | none => none
      | some next =>
        if r.isEmpty then some [(o, none), (next, none)]
        else (chain? next r).map ((o, none) :: ·)

/-- The options of an argument; nothing if the argument cannot be used. -/
def optionsOf? (o : Flag) (isShort : Bool) : Option (List Char) → Option Chain
  | none => some [(o, none)]
  | some value =>
    if o.takesValue then some [(o, some (.ofList value))]
    else if isShort then chain? o value
    else none

/-- Sets the options of a chain one by one; the last may take `next` for its value. -/
def setAll (r : Request) (next : Option String) : Chain → Parsed
  | [] => .request r
  | (o, value) :: os =>
    if o = .help then .help
    else
      match r.set? o ((value <|> next).getD "") with
      | some r => setAll r next os
      | none => .rejected

/-- Does the last option of a chain wait for the next argument? -/
def waits (os : Chain) : Bool :=
  match os.getLast? with
  | some (o, none) => o.takesValue
  | _ => false

/-- Uses the arguments from left to right.  `fileRead` tells that the place of the file is taken,
    `leftOver` that something could not be used, which is refused at the end. -/
def use (r : Request) (fileRead leftOver : Bool) : List Word → Parsed
  | [] => if leftOver then .rejected else .request r
  | .option none _ _ :: ws => use r fileRead true ws
  | .option (some o) isShort attached :: ws =>
    match optionsOf? o isShort attached with
    | none => .rejected
    | some os =>
      if waits os then
        match ws with
        | .plain s :: ws =>
          match setAll r (some s) os with
          | .request r => use r fileRead leftOver ws
          | other => other
        | _ => .rejected
      else
        match setAll r none os with
        | .request r => use r fileRead leftOver ws
        | other => other
  | .plain s :: ws =>
    if fileRead then use r true true ws
    else
      match ws with
      | .dashes :: ws => use { r with file := some s } true leftOver ws
      | ws => use { r with file := some s } true leftOver ws
  | .dashes :: ws =>
    if fileRead then use r true true ws
    else
      match ws with
      | .plain s :: ws => use { r with file := some s } true leftOver ws
      | ws => use r true leftOver ws

/-- What becomes of the arguments. -/
def parse (args : List String) : Parsed :=
  match words? args with
  | some ws => use {} false false ws
  | none => .rejected

end ThriftScala.Cli
