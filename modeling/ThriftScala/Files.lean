/-
  A directory of text files, and paths into it.

  A path is normalized as text: empty pieces and single dots do not count, two dots are kept and
  followed when the path is looked up.  Looking a path up walks its pieces, so a file on the way is
  a fault of its own.  Files outside of the directory are known by paths that begin with two dots
  or with a root.  Everything is a value; writing gives new files.

  A file is written in three steps.  It is opened, which makes it empty, or new; its text is
  encoded; and the disk takes the text.  Each step can fail, and a file that was opened stays as it
  is then: empty, or with the beginning of the text that the disk took.
-/
import ThriftScala.Entries
import ThriftScala.Text.Line
import ThriftScala.Text.Quoted
import ThriftScala.Text.Split
import ThriftScala.Text.Surrogate

namespace ThriftScala

/-- A path: what it starts at, and its pieces. -/
structure Path where
  /-- Empty for a path that starts at the directory. -/
  root : String
  pieces : List String
  deriving DecidableEq, Repr

namespace Path

/-- The root that leading slashes stand for: two are kept, any other number is one. -/
def rootOf (slashes : Nat) : String :=
  match slashes with
  | 0 => ""
  | 2 => "//"
  | _ => "/"

/-- Reads a path. -/
def ofText (s : String) : Path :=
  let cs := s.toList
  let pieces := (Text.splitAt '/' cs).map String.ofList
  ⟨rootOf (cs.takeWhile (· == '/')).length, pieces.filter fun p => p ≠ "" && p ≠ "."⟩

/-- The path as text. -/
def toText (p : Path) : String :=
  if p.root = "" && p.pieces.isEmpty then "." else p.root ++ String.joinedBy "/" p.pieces

/-- The last piece, or nothing. -/
def name (p : Path) : String := p.pieces.getLast?.getD ""

/-- What the name ends with from its last dot on; a dot at either end of the name does not count. -/
def suffix (p : Path) : String :=
  let cs := p.name.toList
  let after := cs.reverse.takeWhile (· ≠ '.')
  if after.isEmpty || cs.length ≤ after.length + 1 then ""
  else .ofList ('.' :: after.reverse)

/-- Does a zero character stand in the path?  No file can have such a path. -/
def hasZero (p : Path) : Bool := p.pieces.any fun piece => piece.toList.contains '\x00'

/-- Can the path be encoded?  Bytes that are no text are encoded as themselves. -/
def isEncodable (p : Path) : Bool :=
  p.pieces.all fun piece => piece.toList.all fun c => !Text.isLoneHalf c || Text.isEscapedByte c

/-- The longest name of a file, in bytes. -/
def maxNameSize : Nat := 255

/-- The longest path, in bytes. -/
def maxSize : Nat := 4095

/-- Is the whole path too long? -/
def isTooLong (p : Path) : Bool := maxSize < p.toText.utf8ByteSize

end Path

/-- Why a file cannot be read or written. -/
inductive FileFault where
  | noSuchFile (path : String)
  | notADirectory (path : String)
  | isADirectory (path : String)
  | nameTooLong (path : String)
  /-- A zero character stands in the path. -/
  | zeroInPath
  /-- Half of a surrogate pair stands in the path or in the text. -/
  | notEncodable
  /-- The disk does not take the text. -/
  | disk (message : String)
  deriving DecidableEq, Repr

/-- What a fault says. -/
def FileFault.message : FileFault → String
  | .noSuchFile p => "[Errno 2] No such file or directory: " ++ p.inQuotes
  | .notADirectory p => "[Errno 20] Not a directory: " ++ p.inQuotes
  | .isADirectory p => "[Errno 21] Is a directory: " ++ p.inQuotes
  | .nameTooLong p => "[Errno 36] File name too long: " ++ p.inQuotes
  | .zeroInPath => "a zero character stands in a path"
  | .notEncodable => "surrogates not allowed"
  | .disk message => message

/-! ## Disks -/

/-- What a disk does with a text that is written. -/
structure Disk where
  /-- Where it does not take the text: what it takes of it, and what it reports. -/
  failure? : String → Option (String × String)
  /-- What it takes is the beginning of the text. -/
  isPrefix_of_failure : ∀ {text beginning message : String},
    failure? text = some (beginning, message) → beginning.toList <+: text.toList

namespace Disk

/-- A disk that takes every text. -/
def ample : Disk := ⟨fun _ => none, nofun⟩

/-- The characters that fit into some bytes, from the first one on. -/
def fitting : Nat → List Char → List Char
  | _, [] => []
  | room, c :: cs => if c.utf8Size ≤ room then c :: fitting (room - c.utf8Size) cs else []

theorem fitting_isPrefix : ∀ (room : Nat) (cs : List Char), fitting room cs <+: cs
  | _, [] => List.prefix_rfl
  | room, c :: cs => by
    rw [fitting]
    split
    · exact (List.cons_prefix_cons.mpr ⟨rfl, fitting_isPrefix _ cs⟩)
    · exact List.nil_prefix

/-- A disk with room for some bytes. -/
def ofSize (room : Nat) : Disk where
  failure? text :=
    if text.utf8ByteSize ≤ room then none
    else some (.ofList (fitting room text.toList), "[Errno 28] No space left on device")
  isPrefix_of_failure := by
    intro text beginning message h
    split at h
    · cases h
    · cases h
      rw [String.toList_ofList]
      exact fitting_isPrefix room text.toList

end Disk

/-- Files by the text of their path, and directories without a text. -/
abbrev Files := Entries (Option String)

namespace Path

/-- The path that a piece leads to.  Two dots go back, but not from a root, and a path that starts
    at the directory can go back beyond it. -/
def step (here : Path) (piece : String) : Path :=
  if piece ≠ ".." then { here with pieces := here.pieces ++ [piece] }
  else if here.pieces.all (· = "..") then
    if here.root = "" then { here with pieces := here.pieces ++ [piece] } else here
  else { here with pieces := here.pieces.dropLast }

/-- Does the path stay where it starts, or only go back? -/
def goesBack (p : Path) : Bool := p.pieces.all (· = "..")

/-- Is the path under the directory? -/
def isInside (p : Path) : Bool := p.root = "" && p.pieces.head? ≠ some ".."

end Path

namespace Files

/-- Files by paths that need not be normalized. -/
def ofEntries (es : Entries (Option String)) : Files :=
  es.map fun e => ((Path.ofText e.1).toText, e.2)

/-- What a path leads to. -/
inductive Target where
  | file (path : Path) (text : String)
  | directory (path : Path)
  /-- Nothing there; `isLast` if only the last piece is missing. -/
  | missing (path : Path) (isLast : Bool)
  | throughFile
  | nameTooLong
  deriving DecidableEq, Repr

/-- Is there a directory at the path?  Every file makes those above it, and those above the
    directory itself are there. -/
def hasDirectory (files : Files) (p : Path) : Bool :=
  p.goesBack
    || files.any fun e => e.1 = p.toText && e.2.isNone || (p.toText ++ "/").isPrefixOf e.1

/-- Walks pieces from a directory. -/
def walk (files : Files) (here : Path) : List String → Target
  | [] => .directory here
  | piece :: pieces =>
    let next := here.step piece
    if Path.maxNameSize < piece.utf8ByteSize then .nameTooLong
    else
      match files.get? next.toText with
      | some (some text) => if pieces.isEmpty then .file next text else .throughFile
      | _ =>
        if hasDirectory files next then walk files next pieces else .missing next pieces.isEmpty

/-- What a path leads to. -/
def find (files : Files) (p : Path) : Target :=
  if p.isTooLong then .nameTooLong else walk files ⟨p.root, []⟩ p.pieces

/-- Is there a file or a directory at the path?  A name that is too long cannot be asked about. -/
def has (files : Files) (p : Path) : Except FileFault Bool :=
  if p.hasZero || !p.isEncodable then .ok false
  else
    match files.find p with
    | .file _ _ | .directory _ => .ok true
    | .missing _ _ | .throughFile => .ok false
    | .nameTooLong => .error (.nameTooLong p.toText)

/-- The text of a file, with line feeds for all line ends. -/
def read (files : Files) (p : Path) : Except FileFault String :=
  match files.find p with
  | .file _ text => .ok (.ofList (Text.unifyLineEnds text.toList))
  | .directory _ => .error (.isADirectory p.toText)
  | .missing _ _ => .error (.noSuchFile p.toText)
  | .throughFile => .error (.notADirectory p.toText)
  | .nameTooLong => .error (.nameTooLong p.toText)

/-- The place that a path leads to, if a file is there or can be made there. -/
def place (files : Files) (p : Path) : Except FileFault Path :=
  if !p.isEncodable then .error .notEncodable
  else if p.hasZero then .error .zeroInPath
  else
    match files.find p with
    | .file path _ => .ok path
    | .missing path true => .ok path
    | .missing _ false => .error (.noSuchFile p.toText)
    | .directory _ => .error (.isADirectory p.toText)
    | .throughFile => .error (.notADirectory p.toText)
    | .nameTooLong => .error (.nameTooLong p.toText)

/-- Writes a text to a path: the files that this leaves, and what goes wrong. -/
def put (disk : Disk) (files : Files) (p : Path) (text : String) : Files × Option FileFault :=
  match files.place p with
  | .error fault => (files, some fault)
  | .ok path =>
    if !text.isEncodable then (files.set path.toText (some ""), some .notEncodable)
    else
      match disk.failure? text with
      | some (beginning, message) =>
        (files.set path.toText (some beginning), some (.disk message))
      | none => (files.set path.toText (some text), none)

/-- The files after writing a text to a path, on a disk that takes every text. -/
def write (files : Files) (p : Path) (text : String) : Except FileFault Files :=
  match files.put .ample p text with
  | (written, none) => .ok written
  | (_, some fault) => .error fault

/-- The files that are new or have another text than before. -/
def changes (before after : Files) : Entries String :=
  after.filterMap fun e =>
    match e.2 with
    | some text => if before.get? e.1 = some (some text) then none else some (e.1, text)
    | none => none

/-- The path from a directory to a file below it. -/
def pathFrom? (here p : Path) : Option String :=
  let rest := p.pieces.drop here.pieces.length
  if p.root = here.root && here.pieces.isPrefixOf p.pieces && rest.head? ≠ some ".." then
    some (String.joinedBy "/" rest)
  else none

/-- The files below a path, by their paths from there, with line feeds for all line ends. -/
def below (files : Files) (p : Path) : Entries String :=
  match files.find p with
  | .directory here =>
    files.filterMap fun e => do
      let text ← e.2
      let path ← pathFrom? here (.ofText e.1)
      pure (path, .ofList (Text.unifyLineEnds text.toList))
  | _ => []

end Files

end ThriftScala
