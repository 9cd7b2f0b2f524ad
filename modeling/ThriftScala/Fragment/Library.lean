/-
  Libraries of fragment sources.

  A library reads sources from memory and from the files of a directory; a source in memory hides
  the file of its name.  A fragment that was compiled from a file is kept under its name, since
  the file does not change, and so stays in force when a source of that name is added later.

  `Bound` is a fragment with the way to make its model; `Bindings` are bound fragments by name, in
  the order in which they were bound, each name once.
-/
import ThriftScala.Fragment.Render

namespace ThriftScala

/-- Why something that is asked of fragments cannot be done. -/
inductive FragmentError where
  | source (fragment : String) (e : Fragment.SourceError)
  | model (e : ModelError)
  | render (e : RenderError)
  | notFound (name : String)
  | alreadyBound (name : String)
  | notBound (name : String)
  /-- A fragment is asked for a model, but has no way to make one. -/
  | noTransform (name : String)
  /-- Something else than a mapping is offered as a model. -/
  | misuse (m : Misuse)

/-- What an error says; a misuse and endless splicing have no words of their own. -/
def FragmentError.message : FragmentError → String
  | .source fragment e => e.message fragment
  | .model e => e.message
  | .render (.binding e) => e.message
  | .render .tooDeep => ""
  | .notFound name => "Fragment not found: " ++ name
  | .alreadyBound name => "Fragment already bound: " ++ name
  | .notBound name => "Fragment not bound: " ++ name
  | .noTransform name => "Fragment '" ++ name ++ "' has no transform bound"
  | .misuse _ => ""

namespace Fragment

/-- Reads a fragment, with its name in the error. -/
def compile (name source : String) : Except FragmentError Fragment :=
  (Fragment.ofSource name source).mapError (.source name)

/-- The text of a fragment for a model. -/
def fill (f : Fragment) (m : Model) : Except FragmentError String :=
  (f.render m).mapError .render

/-- The model that a datum offers.  A datum that counts as nothing is the empty model. -/
def modelOf : Datum → Except FragmentError Model
  | .mapping entries => (Model.ofData entries).mapError .model
  | .sequence [] | .text "" | .flag false => .ok []
  | .other v => if v.truthy then .error (.misuse .noOperation) else .ok []
  | _ => .error (.misuse .noOperation)

/-- The names that entries given one by one cannot have. -/
def takenNames : List String := ["self", "entries"]

/-- The model of a datum and of entries that are given one by one; these replace entries of the
    same name. -/
def modelOfParts (entries others : Datum) : Except FragmentError Model := do
  match others with
  | .mapping es => if es.any fun e => takenNames.contains e.1 then throw (.misuse .wrongKind)
  | _ => pure ()
  let model ← modelOf entries
  pure (Entries.update model (← modelOf others))

/-- The name of a fragment that has no other. -/
def anonymous : String := "<string>"

end Fragment

/-- A fragment with the way to make a model from what it is about. -/
structure Bound (α : Type) where
  fragment : Fragment
  transform? : Option (α → Except FragmentError Model)

namespace Bound

/-- The model of a subject. -/
def unpack {α : Type} (b : Bound α) (subject : α) : Except FragmentError Model :=
  match b.transform? with
  | some transform => transform subject
  | none => .error (.noTransform b.fragment.name)

/-- The text of a subject. -/
def render {α : Type} (b : Bound α) (subject : α) : Except FragmentError String := do
  b.fragment.fill (← b.unpack subject)

end Bound

/-- Sources of fragments. -/
structure Library where
  /-- The files of the directory, by their path in it. -/
  files : Entries String := []
  /-- The sources in memory, by name. -/
  sources : Entries String := []
  /-- The names that were compiled from a file. -/
  kept : List String := []

namespace Library

/-- What the file name of a source ends with. -/
def suffix : String := ".mustache"

/-- The path in a directory that a name with slashes stands for: empty pieces and single dots do
    not count, and there is no way up. -/
def path? (name : String) : Option String :=
  let pieces := (Text.splitAt '/' (name ++ suffix).toList).map String.ofList
  if pieces.contains ".." then none
  else some (String.joinedBy "/" (pieces.filter fun p => p ≠ "" && p ≠ "."))

/-- The text of the file of a name. -/
def file? (lib : Library) (name : String) : Option String :=
  (path? name).bind lib.files.get?

/-- Puts a source in memory. -/
def add (lib : Library) (name source : String) : Library :=
  { lib with sources := lib.sources.set name source }

/-- Is there a source of the name? -/
def has (lib : Library) (name : String) : Bool := lib.sources.has name || (lib.file? name).isSome

/-- A list of texts in order, each once. -/
def sortedOnce (names : List String) : List String := names.eraseDups.mergeSort (fun a b => a ≤ b)

/-- The names of all sources, in order. -/
def names (lib : Library) : List String :=
  let stems := lib.files.keys.filterMap fun p => (p.dropSuffix? suffix).map (·.toString)
  sortedOnce (lib.sources.keys ++ stems)

/-- The fragment of a name, and the library that remembers what was compiled from a file. -/
def compile (lib : Library) (name : String) : Except FragmentError (Fragment × Library) :=
  let fromFile : Except FragmentError (Fragment × Library) :=
    match lib.file? name with
    | some source => do
      let f ← Fragment.compile name source
      pure (f, if name ∈ lib.kept then lib else { lib with kept := name :: lib.kept })
    | none => .error (.notFound name)
  if name ∈ lib.kept then fromFile
  else
    match lib.sources.get? name with
    | some source => (Fragment.compile name source).map (·, lib)
    | none => fromFile

end Library

/-- Bound fragments by name, in the order of binding. -/
abbrev Bindings (α : Type) := Entries (Bound α)

namespace Bindings

/-- Compiles a fragment of a library and binds it; a name is bound once. -/
def bind {α : Type} (bs : Bindings α) (lib : Library) (name : String)
    (transform? : Option (α → Except FragmentError Model)) :
    Except FragmentError (Bound α × Bindings α × Library) :=
  if Entries.has bs name then .error (.alreadyBound name)
  else do
    let (f, lib) ← lib.compile name
    let b : Bound α := ⟨f, transform?⟩
    pure (b, bs ++ [(name, b)], lib)

/-- The fragment that is bound to a name. -/
def get {α : Type} (bs : Bindings α) (name : String) : Except FragmentError (Bound α) :=
  match Entries.get? bs name with
  | some b => .ok b
  | none => .error (.notBound name)

end Bindings

end ThriftScala
