/-
  Keyed entries in the order in which the keys came first.

  Setting a key that is there replaces its value in place; a new key goes to the end.  This is the
  order in which objects are shown, settings are saved and languages are listed.
-/

namespace ThriftScala

/-- Entries by key, in order. -/
abbrev Entries (α : Type) := List (String × α)

namespace Entries

variable {α : Type}

/-- The keys in order. -/
def keys (es : Entries α) : List String := es.map (·.1)

/-- The value under a key. -/
def get? (es : Entries α) (k : String) : Option α := es.lookup k

/-- Is there a value under the key? -/
def has (es : Entries α) (k : String) : Bool := (es.get? k).isSome

/-- Sets a key: in place if it is there, else at the end. -/
def set : Entries α → String → α → Entries α
  | [], k, v => [(k, v)]
  | (j, w) :: es, k, v => if j = k then (j, v) :: es else (j, w) :: set es k v

/-- Sets every entry of the second list in the first, in order. -/
def update (es new : Entries α) : Entries α := new.foldl (fun es e => es.set e.1 e.2) es

/-- Takes a key out. -/
def erase (es : Entries α) (k : String) : Entries α := es.filter (·.1 ≠ k)

@[simp] theorem get?_nil (k : String) : get? ([] : Entries α) k = none := rfl

theorem get?_cons (j : String) (w : α) (es : Entries α) (k : String) :
    get? ((j, w) :: es) k = if j = k then some w else es.get? k := by
  by_cases h : j = k
  · simp [get?, h]
  · have : (k == j) = false := by simp [Ne.symm h]
    simp [get?, List.lookup_cons, h, this]

/-- Setting a key changes the value under that key and no other. -/
theorem get?_set (es : Entries α) (k : String) (v : α) (j : String) :
    (es.set k v).get? j = if k = j then some v else es.get? j := by
  induction es with
  | nil => simp [set, get?_cons]
  | cons e es ih =>
    obtain ⟨i, w⟩ := e
    by_cases h : i = k
    · subst h; by_cases hj : i = j <;> simp [set, get?_cons, hj]
    · simp only [set, if_neg h, get?_cons, ih]
      by_cases hj : i = j
      · have : ¬ k = j := fun e => h (hj.trans e.symm)
        simp [hj, this]
      · simp [hj]

theorem keys_cons (k : String) (v : α) (es : Entries α) : keys ((k, v) :: es) = k :: keys es := rfl

/-- Setting keeps the keys and their order, and adds a new key at the end. -/
theorem keys_set (es : Entries α) (k : String) (v : α) :
    (es.set k v).keys = if k ∈ es.keys then es.keys else es.keys ++ [k] := by
  induction es with
  | nil => simp [set, keys]
  | cons e es ih =>
    obtain ⟨i, w⟩ := e
    by_cases h : i = k
    · subst h; simp [set, keys]
    · have hk : ¬ k = i := fun e => h e.symm
      rw [set, if_neg h, keys_cons, keys_cons, ih]
      by_cases hm : k ∈ keys es <;> simp [hm, hk]

end Entries

end ThriftScala
