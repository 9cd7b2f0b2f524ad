/-
  From a JSON document to code in one step, with the built-in registry.
-/
import ThriftScala.Registry
import ThriftScala.Schema.Layout

namespace ThriftScala

/-- Whatever can go wrong on the way from JSON to code. -/
inductive Failure where
  | document (e : DocumentError)
  | settings (e : SettingsError)
  | registry (e : RegistryError)
  | generation (e : Scala.GenerationError)

/-- What a failure says. -/
def Failure.message : Failure → String
  | .document e => e.message
  | .settings e => e.message
  | .registry e => e.message
  | .generation e => e.message

/-- The misuse that a failure is, if it is one. -/
def Failure.misuse? : Failure → Option Misuse
  | .document (.misuse m) | .settings (.misuse m) | .registry (.misuse m)
  | .registry (.creationFailed _ (.misuse m))
  | .generation (.misuse m) | .generation (.fragment (.misuse m)) => some m
  | _ => none

/-- Reads a document from a file. -/
def Document.ofFile (files : Files) (path : String) (defaultNamespace : Json) :
    Except DocumentError Document := do
  let p := Path.ofText path
  if !(← (files.has p).mapError fun _ => .misuse .nameTooLong) then throw (.fileNotFound p.toText)
  let text ← (files.read p).mapError fun fault => .fileUnreadable p.toText fault.message
  let v ← (Json.read text).mapError (.fileNotJson p.toText)
  Document.ofJson defaultNamespace v

/-- A generator from the built-in registry. -/
def generatorFor (files : Files) (language : String) (source : SettingsSource) :
    Except Failure Scala.Generator :=
  ((Registry.builtIn.create files language source).map (·.2)).mapError .registry

/-- The result for a document that is read with a default package. -/
def resultFor (g : Scala.Generator) (defaultNamespace v : Json) :
    Except Failure Scala.Generator.Result := do
  let d ← (Document.ofJson defaultNamespace v).mapError .document
  (g.run d).mapError .generation

/-- The names that options cannot have. -/
def takenOptions : List String := ["data", "language"]

/-- The code for a document with options as settings; a failed result is an error. -/
def quickGenerate (language : String) (options : Entries Json) (v : Json) :
    Except Failure String := do
  if options.keys.any takenOptions.contains then throw (.settings (.misuse .wrongKind))
  let g ← generatorFor [] language (.value (.obj options))
  match ← resultFor g g.settings.packageName v with
  | .code text _ _ => pure text
  | .failed e => throw (.generation e)

end ThriftScala
