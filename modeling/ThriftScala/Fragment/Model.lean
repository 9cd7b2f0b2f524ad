/-
  Models: what a fragment is filled with.

  A model has texts, truth values, models, sequences of models and fragments under its keys.
  `Datum` is what may be offered for a value, and `Value.ofDatum` accepts exactly those data that
  have one of these shapes at every depth; the first that has none is the error.
-/
import ThriftScala.Entries
import ThriftScala.Fragment.Tree
import ThriftScala.Json.Basic

namespace ThriftScala

/-- A value of a model. -/
inductive Value where
  | text (s : String)
  | flag (b : Bool)
  | model (entries : List (String × Value))
  | sequence (items : List (List (String × Value)))
  | fragment (f : Fragment)
  deriving Inhabited

/-- Values by key, in order. -/
abbrev Model := List (String × Value)

/-- What may be offered for a value of a model. -/
inductive Datum where
  | text (s : String)
  | flag (b : Bool)
  | fragment (f : Fragment)
  | mapping (entries : List (String × Datum))
  | sequence (items : List Datum)
  /-- A JSON value that is neither a text nor a truth value, a list or an object. -/
  | other (v : Json)
  deriving Inhabited

/-- Why data are no model. -/
inductive ModelError where
  /-- The value under a key has no shape of a value. -/
  | badValue (key kind : String)
  /-- The sequence under a key holds something else than a mapping. -/
  | badItem (key kind : String)
  deriving DecidableEq, Repr

/-- What an error says. -/
def ModelError.message : ModelError → String
  | .badValue key kind => "Dictionary key '" ++ key ++ "' has unsupported value type " ++ kind
  | .badItem key kind =>
    "Dictionary key '" ++ key ++ "' holds a sequence with a " ++ kind
      ++ " item; only dictionaries are allowed"

namespace Datum

/-- The word for the kind of a datum. -/
def kind : Datum → String
  | .text _ => "str"
  | .flag _ => "bool"
  | .fragment _ => "Fragment"
  | .mapping _ => "dict"
  | .sequence _ => "list"
  | .other v => v.kind

mutual

/-- A JSON value as a datum. -/
def ofJson : Json → Datum
  | .str s => .text s
  | .bool b => .flag b
  | .arr elems => .sequence (ofElems elems)
  | .obj members => .mapping (ofMembers members)
  | .null => .other .null
  | .int n => .other (.int n)
  | .double x => .other (.double x)

/-- The elements of a JSON list as data. -/
def ofElems : List Json → List Datum
  | [] => []
  | v :: vs => ofJson v :: ofElems vs

/-- The members of a JSON object as data. -/
def ofMembers : List (String × Json) → List (String × Datum)
  | [] => []
  | (k, v) :: ms => (k, ofJson v) :: ofMembers ms

end

end Datum

mutual

/-- The value that a datum offers under a key. -/
def Value.ofDatum (key : String) : Datum → Except ModelError Value
  | .text s => .ok (.text s)
  | .flag b => .ok (.flag b)
  | .fragment f => .ok (.fragment f)
  | .mapping entries => (Model.ofData entries).map .model
  | .sequence items => (Value.itemsOfData key items).map .sequence
  | .other v => .error (.badValue key v.kind)

/-- The model that entries offer, taken in order. -/
def Model.ofData : List (String × Datum) → Except ModelError Model
  | [] => .ok []
  | (k, d) :: entries => do
    let v ← Value.ofDatum k d
    let model ← Model.ofData entries
    pure ((k, v) :: model)

/-- The models that the items of a sequence under a key offer. -/
def Value.itemsOfData (key : String) : List Datum → Except ModelError (List Model)
  | [] => .ok []
  | .mapping entries :: items => do
    let model ← Model.ofData entries
    let models ← Value.itemsOfData key items
    pure (model :: models)
  | d :: _ => .error (.badItem key d.kind)

end

/-- The value that a JSON value offers under a key. -/
def Value.ofJson (key : String) (v : Json) : Except ModelError Value :=
  Value.ofDatum key (Datum.ofJson v)

mutual

/-- The datum that a value is. -/
def Value.toDatum : Value → Datum
  | .text s => .text s
  | .flag b => .flag b
  | .fragment f => .fragment f
  | .model entries => .mapping (Model.toData entries)
  | .sequence items => .sequence (Value.itemsToData items)

/-- The entries of a model as data. -/
def Model.toData : List (String × Value) → List (String × Datum)
  | [] => []
  | (k, v) :: entries => (k, v.toDatum) :: Model.toData entries

/-- The items of a sequence as data. -/
def Value.itemsToData : List (List (String × Value)) → List Datum
  | [] => []
  | m :: items => .mapping (Model.toData m) :: Value.itemsToData items

end

/-! ## The form in which messages show a model -/

/-- A model whose entries are shown as given. -/
def Model.shownWith (entries : List String) : String :=
  "Dictionary(\x7b" ++ String.joinedBy ", " entries ++ "\x7d)"

/-- A fragment as messages show it. -/
def Fragment.shown (f : Fragment) : String := "Fragment(" ++ f.name.inQuotes ++ ")"

mutual

/-- A value as messages show it. -/
def Value.shown : Value → String
  | .text s => s.inQuotes
  | .flag b => (Json.bool b).literal
  | .model entries => Model.shownWith (Model.shownEntries entries)
  | .sequence [m] => "(" ++ Model.shownWith (Model.shownEntries m) ++ ",)"
  | .sequence items => "(" ++ String.joinedBy ", " (Value.shownItems items) ++ ")"
  | .fragment f => f.shown

/-- The entries of a model as messages show them. -/
def Model.shownEntries : List (String × Value) → List String
  | [] => []
  | (k, v) :: entries => (k.inQuotes ++ ": " ++ v.shown) :: Model.shownEntries entries

/-- The items of a sequence as messages show them. -/
def Value.shownItems : List (List (String × Value)) → List String
  | [] => []
  | m :: items => Model.shownWith (Model.shownEntries m) :: Value.shownItems items

end

/-- A model as messages show it. -/
def Model.shown (m : Model) : String := Model.shownWith (Model.shownEntries m)

end ThriftScala
