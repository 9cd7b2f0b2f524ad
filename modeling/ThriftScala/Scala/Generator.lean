/-
  The generator: a Scala source file for a document.

  A file is the head, the constants, the enums, the structs one by one and the services one by
  one.  The head is made last, so an error in any other part comes first.  `Generator.run` also
  collects warnings and tidies the text; what goes wrong with the schema is then part of the
  result.
-/
import ThriftScala.Scala.Models
import ThriftScala.Settings.Basic
import ThriftScala.Text.Tidy

namespace ThriftScala.Scala

/-- A generator with its settings. -/
structure Generator where
  settings : Settings
  names : TypeNames

namespace Generator

/-- The name of the target language. -/
def languageName : String := "scala"

/-- The extension of generated files. -/
def fileExtension : String := ".scala"

/-- The fragments in the order in which they are bound. -/
def fragments : List Fragment :=
  [Fragments.header, Fragments.consts, Fragments.enum, Fragments.enums, Fragments.struct,
   Fragments.finagleClient, Fragments.finagleService, Fragments.ostrichServer, Fragments.service]

/-- The generator with the given settings. -/
def ofSettings (settings : Settings) : Except Misuse Generator := do
  pure ⟨settings, ← TypeNames.ofCustom settings.custom.toJson⟩

variable (g : Generator)

/-! ## Parts of a file -/

/-- The head of the file of a document. -/
def header (d : Document) : Generated String := do
  filled Fragments.header (← headerModel g.settings.addComments d)

/-- The text of constants. -/
def constsText (consts : List Const) : Generated String := do
  filled Fragments.consts (← constsModel g.names consts)

/-- The text of an enum. -/
def enumText (e : EnumDef) : Generated String := do
  filled Fragments.enum (← enumModel e)

/-- The text of all enums. -/
def enumsText (enums : List EnumDef) : Generated String := do
  filled Fragments.enums (← enumsModel enums)

/-- The text of a struct. -/
def structText (s : Struct) : Generated String := do
  filled Fragments.struct (← structModel g.names s)

/-- The text of a service with its options. -/
def serviceText (options : List ServiceOption) (s : Service) : Generated String := do
  filled Fragments.service (← serviceModel g.names options s)

/-- Texts, each ended by a line feed. -/
def joinSections (texts : List String) : String := String.join (texts.map (· ++ "\n"))

/-! ## Parts with the head in front -/

/-- A file with the constants only. -/
def renderConsts (d : Document) : Generated String := do
  pure ((← g.header d) ++ (← g.constsText d.consts))

/-- A file with one enum. -/
def renderEnum (d : Document) (e : EnumDef) : Generated String := do
  pure ((← g.header d) ++ (← enumText e))

/-- A file with one struct. -/
def renderStruct (d : Document) (s : Struct) : Generated String := do
  pure ((← g.header d) ++ (← g.structText s))

/-- A file with one service. -/
def renderService (d : Document) (s : Service) (options : List Json) : Generated String := do
  let options ← ServiceOption.resolve options
  pure ((← g.header d) ++ (← g.serviceText options s))

/-! ## Whole files -/

/-- The file of a document whose names have their case already. -/
def assemble (options : List ServiceOption) (d : Document) : Generated String := do
  let consts ← g.constsText d.consts
  let enums ← enumsText d.enums
  let structs ← d.structs.mapM g.structText
  let services ← d.services.mapM (g.serviceText options)
  let head ← g.header d
  pure (head ++ "\n" ++ consts ++ enums ++ joinSections structs ++ joinSections services)

/-- The file of a document with the given options, or with those of the settings. -/
def generate (options? : Option (List Json)) (d : Document) : Generated String := do
  let options ←
    match options? with
    | some options => ServiceOption.resolve options
    | none => ServiceOption.ofSetting g.settings.serviceOptions
  let case ← used g.settings.namingCase
  let d ← used (d.normalize case)
  g.assemble options d

/-! ## Warnings -/

/-- The warnings about a field of `owner`: its name changes, or is a keyword then. -/
def fieldWarnings (case : NamingCase) (owner kind : String) (f : Field) :
    Except Misuse (List String) := do
  let renamed := (← f.normalize case).name.display
  let name := f.name.display
  pure
    ((if renamed = name then []
      else [kind ++ " " ++ owner ++ "." ++ name ++ " renamed to " ++ renamed])
    ++ (if isReserved renamed then
        [kind ++ " " ++ owner ++ "." ++ renamed ++ " is a Scala keyword and will be quoted"]
      else []))

/-- The warnings about a document. -/
def warnings (d : Document) : Except Misuse (List String) := do
  let case ← g.settings.namingCase
  let fields ← d.structs.mapM fun s =>
    s.fields.mapM (fieldWarnings case s.name.display "Field")
  let args ← d.services.mapM fun s => s.functions.mapM fun f =>
    f.args.mapM (fieldWarnings case (s.name.display ++ "." ++ f.name.display) "Argument")
  pure (fields.flatten.flatten ++ args.flatten.flatten.flatten)

/-! ## Results -/

/-- What a file was made from. -/
structure Summary where
  namespaceName : Json
  constCount : Nat
  enumCount : Nat
  structCount : Nat
  serviceCount : Nat

/-- What the generation of a file comes to. -/
inductive Result where
  | code (text : String) (warnings : List String) (summary : Summary)
  | failed (e : GenerationError)

/-- What is wrong, as a failed result says it. -/
def failureMessage (e : GenerationError) : String := "Code generation failed: " ++ e.message

/-- Tidies code by the line ending of the settings. -/
def format (code : String) : Generated String := do
  pure (formatCode (← used (g.settings.lineEnding.textOr .noOperation)) code)

/-- The summary of a document. -/
def summary (d : Document) : Summary :=
  { namespaceName := d.targetNamespace
    constCount := d.consts.length
    enumCount := d.enums.length
    structCount := d.structs.length
    serviceCount := d.services.length }

/-- Warnings and tidy code of a document. -/
def produce (d : Document) : Generated (List String × String) := do
  let warnings ← used (g.warnings d)
  let code ← g.generate none d
  pure (warnings, ← g.format code)

/-- Generates the file of a document.  Whatever is wrong with the schema makes a failed result and
    no code at all; a misuse is an error. -/
def run (d : Document) : Generated Result :=
  match g.produce d with
  | .ok (warnings, code) => .ok (.code code warnings (summary d))
  | .error e => if e.isReported then .ok (.failed e) else .error e

end Generator

end ThriftScala.Scala
