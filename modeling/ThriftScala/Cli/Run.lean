/-
  The command: from arguments, a disk and a directory to what is printed, the exit code and the
  directory afterwards.

  A run makes a file from a document, or tells about the command or the languages.  What is wrong
  with the document, the settings or the language is printed with exit code 1; arguments that
  cannot be used end with 2.  A misuse, code that cannot be encoded, or a message whose markup is
  wrong breaks the run; files stay as the writing left them.
-/
import ThriftScala.Cli.Arguments
import ThriftScala.Cli.Table
import ThriftScala.Generate

namespace ThriftScala.Cli

/-- Why a run breaks. -/
inductive Breakdown where
  | failure (f : Failure)
  | markup (e : Markup.Fault)

/-- What a breakdown says. -/
def Breakdown.message : Breakdown → String
  | .markup e => e.message
  | .failure f =>
    if f.misuse?.isSome then "a name or a setting has a value that cannot stand there"
    else f.message

/-- What a run prints, and its exit code. -/
structure Ending where
  exitCode : Nat
  lines : List String
  deriving DecidableEq, Repr

/-- What a run comes to. -/
structure Outcome where
  files : Files
  ending : Except Breakdown Ending

/-! ## Requests as settings -/

/-- The options of services that are asked for. -/
def Request.serviceOptions (r : Request) : List Json :=
  (if r.finagleClient then [.str "finagle_client"] else [])
    ++ (if r.finagleService then [.str "finagle_service"] else [])
    ++ (if r.ostrichServer then [.str "ostrich_server"] else [])

/-- A text that is asked for and not empty, as an override. -/
def textOverride (key : String) : Option String → Entries Json
  | some s => if s = "" then [] else [(key, .str s)]
  | none => []

/-- The overrides of the settings that are asked for. -/
def Request.overrides (r : Request) : Entries Json :=
  let options := r.serviceOptions
  textOverride "package_name" r.packageName
    ++ textOverride "field_case" r.fieldCase
    ++ (if r.noComments then [("add_comments", .bool false)] else [])
    ++ textOverride "output_file" r.output
    ++ (if options.isEmpty then [] else [("service_options", .arr options)])

/-! ## Messages -/

/-- Lines as they are printed: without blanks at their ends, and without blank lines at the end. -/
def trimmedLines (ls : List String) : List String :=
  let texts := ls.map fun l => Text.trimEnd l.toList
  ((texts.reverse.dropWhile (·.isEmpty)).reverse).map .ofList

/-- The lines of marked messages. -/
def messageLines (messages : List String) : Except Breakdown (List String) := do
  pure (← (messages.mapM Markup.lines).mapError .markup).flatten

/-- A run that prints marked messages. -/
def printing (exitCode : Nat) (messages : List String) : Except Breakdown Ending := do
  pure ⟨exitCode, trimmedLines (← messageLines messages)⟩

/-- A run that ends with an error. -/
def stopping (message : String) : Except Breakdown Ending :=
  printing 1 ["[red]✗ Error:[/red] " ++ message]

/-- A failure is printed, unless it is a misuse. -/
def stoppingAt (message : String) (f : Failure) : Except Breakdown Ending :=
  match f.misuse? with
  | some _ => .error (.failure f)
  | none => stopping message

/-- The lines of code on a console: tabs are four wide, and all line ends count.  Code that ends
    with a line feed is followed by an empty line; a carriage return at its end ends a line only. -/
def codeLines (code : String) : List String :=
  let shown (cs : List Char) : List Char :=
    (Text.unifyLineEnds (Text.expandTabs 4 cs)).filter (!Markup.isHidden ·)
  let cs := code.toList
  if cs.getLast? = some '\n' then Markup.shownLines (shown cs)
  else Markup.shownLines (shown (cs ++ ['\n'])).dropLast

/-- The messages of warnings. -/
def warningMessages (warnings : List String) : List String :=
  if warnings.isEmpty then []
  else "[yellow]Warnings:[/yellow]" :: warnings.map ("  [yellow]•[/yellow] " ++ ·)

/-- What is told about a file on demand, as rows of a table. -/
def summaryRows (s : Scala.Generator.Summary) : List (String × String) :=
  [("Language", Scala.Generator.languageName),
   ("File Extension", Scala.Generator.fileExtension),
   ("Namespace", s.namespaceName.display),
   ("Const Count", toString s.constCount),
   ("Enum Count", toString s.enumCount),
   ("Struct Count", toString s.structCount),
   ("Service Count", toString s.serviceCount)]

/-- What is printed for a file, behind the lines that tell about its code. -/
def deliveryLines (r : Request) (warnings : List String) (summary : Scala.Generator.Summary) :
    Except Breakdown (List String) := do
  let table ←
    if r.verbose then (Table.lines (summaryRows summary)).mapError .markup else pure []
  pure (table ++ (← messageLines (warningMessages warnings)))

/-- How the command is used. -/
def usage : List String :=
  ["usage: thriftgen [options] file",
   "",
   "Generates Scala code from a JSON description of a schema document.",
   "",
   "  -h, --help            show this text",
   "  -l, --language NAME   target language (scala)",
   "  -o, --output FILE     file for the code",
   "  --config FILE         JSON file with settings",
   "  --namespace NS        package of documents that name none",
   "  --field-case CASE     " ++ String.joinedBy ", " fieldCaseWords,
   "  --no-comments         no comments in the code",
   "  --finagle-client      a client class for each service",
   "  --finagle-service     a service class for each service",
   "  --ostrich-server      a server trait for each service, with its service class",
   "  --verbose             tell what the code was made from",
   "  --list-languages      list the target languages"]

/-- The languages with their other names. -/
def languageLines : List String :=
  Registry.builtIn.allNames.map fun e => String.joinedBy ", " e.2

/-! ## Runs -/

/-- The settings that are asked for, for a language. -/
def Request.settings (r : Request) (files : Files) (language : String) :
    Except SettingsError Settings :=
  Settings.load files language.lowered (r.config.getD "") (.obj r.overrides)

/-- A file that is not written, or not in full, is told about, unless it is a misuse. -/
def notWritten (left : Files) (path : String) (fault : FileFault) : Outcome :=
  match fault.misuse? with
  | some m => ⟨left, .error (.failure (.settings (.misuse m)))⟩
  | none => ⟨left, stopping ("Failed to write to " ++ path ++ ": " ++ fault.message)⟩

/-- Prints a file, or writes it where the settings say. -/
def deliver (disk : Disk) (files : Files) (r : Request) (output : Json) (code : String)
    (warnings : List String) (summary : Scala.Generator.Summary) : Outcome :=
  let ending (first : Except Breakdown (List String)) : Except Breakdown Ending := do
    pure ⟨0, trimmedLines ((← first) ++ (← deliveryLines r warnings summary))⟩
  if output.truthy then
    match output with
    | .str path =>
      let p := (Path.ofText path).toText
      match files.put disk (.ofText path) code with
      | (written, none) =>
        ⟨written, ending (messageLines
          ["[green]✓[/green] Generated " ++ Scala.Generator.languageName
            ++ " code saved to [cyan]" ++ p ++ "[/cyan]"])⟩
      | (left, some fault) => notWritten left p fault
    | _ => ⟨files, .error (.failure (.settings (.misuse .wrongKind)))⟩
  else ⟨files, ending (.ok (codeLines code))⟩

/-- A generator for a language with some settings, and the document at a path. -/
def prepare (files : Files) (language : String) (settings : Settings) (path : String) :
    Except Failure (Scala.Generator × Document) := do
  let g ← generatorFor files language (.settings settings)
  let d ← (Document.ofFile files path settings.packageName).mapError .document
  pure (g, d)

/-- Makes a file in a language from the document at a path. -/
def Request.make (r : Request) (disk : Disk) (files : Files) (language path : String) : Outcome :=
  match r.settings files language with
  | .error e => ⟨files, stoppingAt ("Configuration error: " ++ e.message) (.settings e)⟩
  | .ok settings =>
    match prepare files language settings path with
    | .error f => ⟨files, stoppingAt f.message f⟩
    | .ok (g, d) =>
      match g.run d with
      | .error e => ⟨files, .error (.failure (.generation e))⟩
      | .ok (.failed e) =>
        ⟨files, printing 1
          ["[red]✗ Code generation failed:[/red] " ++ Scala.Generator.failureMessage e]⟩
      | .ok (.code code warnings summary) =>
        deliver disk files r settings.outputFile code warnings summary

/-- Does what is asked for. -/
def Request.run (r : Request) (disk : Disk) (files : Files) : Outcome :=
  if r.listLanguages then ⟨files, .ok ⟨0, languageLines⟩⟩
  else
    match r.file, r.language with
    | none, _ | some "", _ => ⟨files, stopping "Input file required (use --help for usage)"⟩
    | some _, none => ⟨files, .error (.failure (.settings (.misuse .noOperation)))⟩
    | some path, some language => r.make disk files language path

/-- Runs the command. -/
def run (disk : Disk) (files : Files) (args : List String) : Outcome :=
  match parse args with
  | .request r => r.run disk files
  | .help => ⟨files, .ok ⟨0, usage⟩⟩
  | .rejected => ⟨files, .ok ⟨2, usage⟩⟩

end ThriftScala.Cli
