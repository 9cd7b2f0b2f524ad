/-
  Custom settings: whatever is set beside the settings that have names of their own.

  They are entries by key, in the order in which the keys came first.  An object gives entries
  whose keys are texts; a sequence of pairs gives entries too, and then a key may be a number, a
  truth value or null.  Equal numbers are one key, whatever kind of number or truth value they
  are, and a text is never the key of a number, even where both are written in the same way.
  A value that is no object stays as it is until its entries are asked for.
-/
import ThriftScala.Json.Writer

namespace ThriftScala

namespace Json

/-- Are two values the same key?  Not-a-number is a key like any other. -/
def sameKey : Json → Json → Bool
  | .double .nan, .double .nan => true
  | k, l => k.same l

/-- The text of a key. -/
def keyText : Json → String
  | .str s => s
  | k => k.write

/-- The entry that a sequence of two stands for; lists and objects are no keys. -/
def entry (v : Json) : Except Misuse (Json × Json) := do
  match ← v.elements with
  | [k, w] => if k.isAtomic then pure (k, w) else throw .wrongKind
  | _ => throw .badValue

end Json

/-- Entries by keys that are values. -/
abbrev KeyedEntries := List (Json × Json)

namespace KeyedEntries

/-- Entries by text. -/
def ofEntries (es : Entries Json) : KeyedEntries := es.map fun e => (.str e.1, e.2)

/-- Sets a key: in place if it is there, else at the end.  A key that is there stays as it was
    written first. -/
def set : KeyedEntries → Json → Json → KeyedEntries
  | [], k, v => [(k, v)]
  | (j, w) :: es, k, v => if j.sameKey k then (j, v) :: es else (j, w) :: set es k v

/-- Sets every entry of the second list in the first, in order. -/
def update (es new : KeyedEntries) : KeyedEntries := new.foldl (fun es e => es.set e.1 e.2) es

/-- The entries by the texts of their keys.  Two keys may have one text. -/
def texts (es : KeyedEntries) : List (String × Json) := es.map fun e => (e.1.keyText, e.2)

theorem texts_ofEntries (es : Entries Json) : (ofEntries es).texts = es := by
  simp [texts, ofEntries, Function.comp_def, Json.keyText]

/-- Setting a text in entries by text is the same as in the entries themselves. -/
theorem set_ofEntries (es : Entries Json) (k : String) (v : Json) :
    (ofEntries es).set (.str k) v = ofEntries (es.set k v) := by
  induction es with
  | nil => rfl
  | cons e es ih =>
    obtain ⟨j, w⟩ := e
    simp only [ofEntries, List.map_cons] at ih ⊢
    by_cases h : j = k <;> simp [set, Entries.set, Json.sameKey, Json.same, h, ih]

end KeyedEntries

/-- Custom settings. -/
inductive Custom where
  | entries (es : KeyedEntries)
  /-- A value that is no object. -/
  | value (v : Json)

namespace Custom

/-- The custom settings that a value gives. -/
def ofJson : Json → Custom
  | .obj members => .entries (.ofEntries members)
  | v => .value v

/-- Custom settings as a value.  Of keys with one text the last counts. -/
def toJson : Custom → Json
  | .entries es => .obj (Entries.update [] es.texts)
  | .value v => v

/-- The entries; a value gives those that its pairs stand for. -/
def toEntries : Custom → Except Misuse KeyedEntries
  | .entries es => .ok es
  | .value v => do
    let pairs ← (← v.elements).mapM Json.entry
    pure (KeyedEntries.update [] pairs)

end Custom

end ThriftScala
