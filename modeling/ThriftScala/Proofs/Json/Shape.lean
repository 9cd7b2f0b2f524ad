/-
  The shape of JSON values: what holds everywhere inside of them.

  `Everywhere p v` says that `p` holds of `v` and of every value inside of `v`; `induction` goes
  from what is inside of a value to the value.  A value is well formed if no object in it has a key
  twice, which is so of every value that was read from a text (`wellFormed_of_read`): a key that
  comes twice in the text is set twice in one object.
-/
import ThriftScala.Json.Reader
import ThriftScala.Proofs.Entries
import ThriftScala.Proofs.Outcome

namespace ThriftScala.Json

open Outcome

/-! ## Everywhere in a value -/

mutual

/-- Does `p` hold of the value and of all values inside of it? -/
def Everywhere (p : Json → Prop) : Json → Prop
  | .arr elems => p (.arr elems) ∧ EverywhereAmong p elems
  | .obj members => p (.obj members) ∧ EverywhereUnder p members
  | v => p v

/-- Does `p` hold everywhere in the elements of a list? -/
def EverywhereAmong (p : Json → Prop) : List Json → Prop
  | [] => True
  | v :: vs => v.Everywhere p ∧ EverywhereAmong p vs

/-- Does `p` hold everywhere in the members of an object? -/
def EverywhereUnder (p : Json → Prop) : List (String × Json) → Prop
  | [] => True
  | (_, v) :: ms => v.Everywhere p ∧ EverywhereUnder p ms

end

variable {p : Json → Prop}

theorem everywhereAmong_iff {vs : List Json} :
    EverywhereAmong p vs ↔ ∀ v ∈ vs, v.Everywhere p := by
  induction vs with
  | nil => simp [EverywhereAmong]
  | cons v vs ih => simp [EverywhereAmong, ih]

theorem everywhereUnder_iff {ms : List (String × Json)} :
    EverywhereUnder p ms ↔ ∀ m ∈ ms, m.2.Everywhere p := by
  induction ms with
  | nil => simp [EverywhereUnder]
  | cons m ms ih => simp [EverywhereUnder, ih]

/-- What holds everywhere in a list holds of the list and everywhere in its elements. -/
theorem everywhere_arr {vs : List Json} :
    (Json.arr vs).Everywhere p ↔ p (.arr vs) ∧ ∀ v ∈ vs, v.Everywhere p := by
  rw [Everywhere, everywhereAmong_iff]

/-- What holds everywhere in an object holds of the object and everywhere in its values. -/
theorem everywhere_obj {ms : List (String × Json)} :
    (Json.obj ms).Everywhere p ↔ p (.obj ms) ∧ ∀ m ∈ ms, m.2.Everywhere p := by
  rw [Everywhere, everywhereUnder_iff]

/-- What holds everywhere in a value holds of the value. -/
theorem Everywhere.self {v : Json} (h : v.Everywhere p) : p v := by
  cases v with
  | arr vs => exact (everywhere_arr.mp h).1
  | obj ms => exact (everywhere_obj.mp h).1
  | _ => exact h

/-! ## Induction -/

/-- An element is smaller than its list. -/
theorem sizeOf_lt_arr {v : Json} {vs : List Json} (h : v ∈ vs) : sizeOf v < sizeOf (arr vs) := by
  have hlt := List.sizeOf_lt_of_mem h
  simp only [arr.sizeOf_spec]
  omega

/-- A value is smaller than the object it stands in. -/
theorem sizeOf_lt_obj {m : String × Json} {ms : List (String × Json)} (h : m ∈ ms) :
    sizeOf m.2 < sizeOf (obj ms) := by
  have hlt := List.sizeOf_lt_of_mem h
  obtain ⟨k, v⟩ := m
  simp only [Prod.mk.sizeOf_spec] at hlt
  simp only [obj.sizeOf_spec]
  omega

/-- What holds of all values with nothing inside, and of lists and objects if it holds of what is
    inside of them, holds of every value. -/
theorem induction {motive : Json → Prop} (atom : ∀ v, v.isAtomic = true → motive v)
    (list : ∀ vs, (∀ v ∈ vs, motive v) → motive (.arr vs))
    (object : ∀ ms : List (String × Json), (∀ m ∈ ms, motive m.2) → motive (.obj ms)) :
    ∀ v, motive v
  | .null => atom _ rfl
  | .bool _ => atom _ rfl
  | .int _ => atom _ rfl
  | .double _ => atom _ rfl
  | .str _ => atom _ rfl
  | .arr vs => list vs fun v _ => induction atom list object v
  | .obj ms => object ms fun m _ => induction atom list object m.2
termination_by v => sizeOf v
decreasing_by
  · exact sizeOf_lt_arr ‹_›
  · exact sizeOf_lt_obj ‹_›

/-- What holds of every value holds everywhere in a value. -/
theorem everywhere_of_forall (h : ∀ v, p v) (v : Json) : v.Everywhere p := by
  induction v using induction with
  | atom v hatom => cases v <;> first | exact h _ | cases hatom
  | list vs ih => exact everywhere_arr.mpr ⟨h _, ih⟩
  | object ms ih => exact everywhere_obj.mpr ⟨h _, ih⟩

/-! ## Distinct keys -/

/-- No key comes twice, if the value is an object. -/
def HasDistinctKeys : Json → Prop
  | .obj members => (Entries.keys members).Nodup
  | _ => True

/-- No object in the value has a key twice. -/
def WellFormed (v : Json) : Prop := v.Everywhere HasDistinctKeys

/-- A list is well formed if its elements are. -/
theorem wellFormed_arr {vs : List Json} :
    (Json.arr vs).WellFormed ↔ ∀ v ∈ vs, v.WellFormed := by
  simp [WellFormed, everywhere_arr, HasDistinctKeys]

/-- An object is well formed if its keys are distinct and its values well formed. -/
theorem wellFormed_obj {ms : List (String × Json)} :
    (Json.obj ms).WellFormed ↔ (Entries.keys ms).Nodup ∧ ∀ m ∈ ms, m.2.WellFormed := by
  simp [WellFormed, everywhere_obj, HasDistinctKeys]

theorem wellFormed_str (s : String) : (Json.str s).WellFormed := trivial

/-! ## Doubles -/

/-- Is the value anything but a double? -/
def IsNoDouble : Json → Prop
  | .double _ => False
  | _ => True

/-- No value in the value is a double. -/
def HasNoDouble (v : Json) : Prop := v.Everywhere IsNoDouble

/-- A list has no doubles if its elements have none. -/
theorem hasNoDouble_arr {vs : List Json} :
    (Json.arr vs).HasNoDouble ↔ ∀ v ∈ vs, v.HasNoDouble := by
  simp [HasNoDouble, everywhere_arr, IsNoDouble]

/-- An object has no doubles if its values have none. -/
theorem hasNoDouble_obj {ms : List (String × Json)} :
    (Json.obj ms).HasNoDouble ↔ ∀ m ∈ ms, m.2.HasNoDouble := by
  simp [HasNoDouble, everywhere_obj, IsNoDouble]

/-- Is the value well formed and without doubles? -/
structure IsPlain (v : Json) : Prop where
  wellFormed : v.WellFormed
  noDouble : v.HasNoDouble

/-- A list is plain if its elements are. -/
theorem isPlain_arr {vs : List Json} : (Json.arr vs).IsPlain ↔ ∀ v ∈ vs, v.IsPlain := by
  constructor
  · rintro ⟨hwell, hdouble⟩ v hv
    exact ⟨wellFormed_arr.mp hwell v hv, hasNoDouble_arr.mp hdouble v hv⟩
  · exact fun h => ⟨wellFormed_arr.mpr fun v hv => (h v hv).wellFormed,
      hasNoDouble_arr.mpr fun v hv => (h v hv).noDouble⟩

/-- An object is plain if its keys are distinct and its values plain. -/
theorem isPlain_obj {ms : List (String × Json)} :
    (Json.obj ms).IsPlain ↔ (Entries.keys ms).Nodup ∧ ∀ m ∈ ms, m.2.IsPlain := by
  constructor
  · rintro ⟨hwell, hdouble⟩
    obtain ⟨hkeys, hvalues⟩ := wellFormed_obj.mp hwell
    exact ⟨hkeys, fun m hm => ⟨hvalues m hm, hasNoDouble_obj.mp hdouble m hm⟩⟩
  · rintro ⟨hkeys, h⟩
    exact ⟨wellFormed_obj.mpr ⟨hkeys, fun m hm => (h m hm).wellFormed⟩,
      hasNoDouble_obj.mpr fun m hm => (h m hm).noDouble⟩

theorem isPlain_null : Json.null.IsPlain := ⟨trivial, trivial⟩

theorem isPlain_bool (b : Bool) : (Json.bool b).IsPlain := ⟨trivial, trivial⟩

theorem isPlain_str (s : String) : (Json.str s).IsPlain := ⟨trivial, trivial⟩

/-! ## Values that were read -/

/-- A number without its sign is well formed. -/
theorem wellFormed_readUnsigned {negative : Bool} {cs : List Char} {reading : Json × List Char}
    (h : readUnsigned? negative cs = some reading) : reading.1.WellFormed := by
  simp only [readUnsigned?] at h
  split_ifs at h <;> cases h <;> exact trivial

/-- A number is well formed. -/
theorem wellFormed_readNumber {cs : List Char} {reading : Json × List Char}
    (h : readNumber? cs = some reading) : reading.1.WellFormed := by
  unfold readNumber? at h
  split at h
  · cases h; exact trivial
  · cases h; exact trivial
  · cases h; exact trivial
  · exact wellFormed_readUnsigned h
  · exact wellFormed_readUnsigned h

/-- What the readers give with this fuel is well formed, if what they have seen before is. -/
structure ReadersGiveWellFormed (fuel : Nat) : Prop where
  value : ∀ {cs v r}, readValue fuel cs = .ok (v, r) → v.WellFormed
  members : ∀ {seen : Entries Json} {cs v r}, seen.keys.Nodup → (∀ m ∈ seen, m.2.WellFormed) →
    readMembers fuel seen cs = .ok (v, r) → v.WellFormed
  elems : ∀ {seen : List Json} {cs v r}, (∀ w ∈ seen, w.WellFormed) →
    readElems fuel seen cs = .ok (v, r) → v.WellFormed

namespace ReadersGiveWellFormed

variable {fuel : Nat} {cs r : List Char} {v : Json}

/-- A value is well formed if what is inside of it is. -/
theorem value_succ (ih : ReadersGiveWellFormed fuel)
    (h : readValue (fuel + 1) cs = .ok (v, r)) : v.WellFormed := by
  -- the arms of the reader in order: nothing, a text, an object, a list, three words, a number
  unfold readValue at h
  split at h
  · cases h
  · obtain ⟨text, -, h⟩ := bind_eq_ok.mp h
    cases h
    exact trivial
  · rename_i hfuel
    cases hfuel
    split at h
    · cases h
      exact wellFormed_obj.mpr ⟨List.nodup_nil, by simp⟩
    · have hnone : (Entries.keys ([] : Entries Json)).Nodup := List.nodup_nil
      exact ih.members hnone (by simp) h
  · rename_i hfuel
    cases hfuel
    split at h
    · cases h
      exact wellFormed_arr.mpr (by simp)
    · have hnone : ∀ w ∈ ([] : List Json), w.WellFormed := by simp
      exact ih.elems hnone h
  · cases h; exact trivial
  · cases h; exact trivial
  · cases h; exact trivial
  · split at h
    · rename_i hreading
      cases h
      exact wellFormed_readNumber hreading
    · cases h

/-- A key that comes twice is set twice, so the keys seen stay distinct. -/
theorem members_succ (ih : ReadersGiveWellFormed fuel) {seen : Entries Json}
    (hkeys : seen.keys.Nodup) (hseen : ∀ m ∈ seen, m.2.WellFormed)
    (h : readMembers (fuel + 1) seen cs = .ok (v, r)) : v.WellFormed := by
  unfold readMembers at h
  split at h
  · cases h
  · rename_i hfuel
    cases hfuel
    obtain ⟨⟨k, r₁⟩, -, h⟩ := bind_eq_ok.mp h
    dsimp only at h
    split at h
    · obtain ⟨⟨w, r₂⟩, hw, h⟩ := bind_eq_ok.mp h
      have hkeys' := Entries.nodup_keys_set hkeys (.ofList k) w
      have hseen' := Entries.forall_set hseen (ih.value hw) (.ofList k)
      dsimp only at h
      split at h
      · cases h
        exact wellFormed_obj.mpr ⟨hkeys', hseen'⟩
      · exact ih.members hkeys' hseen' h
      · cases h
    · cases h
  · cases h

/-- The elements of a list are well formed, those read and those to come. -/
theorem elems_succ (ih : ReadersGiveWellFormed fuel) {seen : List Json}
    (hseen : ∀ w ∈ seen, w.WellFormed) (h : readElems (fuel + 1) seen cs = .ok (v, r)) :
    v.WellFormed := by
  unfold readElems at h
  obtain ⟨⟨w, r₁⟩, hw, h⟩ := bind_eq_ok.mp h
  have hseen' := List.forall_mem_cons.mpr ⟨ih.value hw, hseen⟩
  dsimp only at h
  split at h
  · cases h
    exact wellFormed_arr.mpr fun u hu => hseen' u (List.mem_reverse.mp hu)
  · exact ih.elems hseen' h
  · cases h

end ReadersGiveWellFormed

/-- **The readers give well-formed values**, by induction on the fuel. -/
theorem readersGiveWellFormed (fuel : Nat) : ReadersGiveWellFormed fuel := by
  induction fuel with
  | zero =>
    constructor
    · intro _ _ _ h; cases h
    · intro _ _ _ _ _ _ h; cases h
    · intro _ _ _ _ _ h; cases h
  | succ fuel ih => exact ⟨ih.value_succ, ih.members_succ, ih.elems_succ⟩

/-- **No object that was read has a key twice.** -/
theorem wellFormed_of_read {text : String} {v : Json} (h : read text = .ok v) : v.WellFormed := by
  unfold read at h
  cases hchars : readChars text.toList with
  | error fault =>
    rw [hchars] at h
    cases h
  | ok w =>
    rw [hchars] at h
    cases h
    unfold readChars at hchars
    split at hchars
    · cases hchars
    · obtain ⟨⟨u, r⟩, hu, hchars⟩ := bind_eq_ok.mp hchars
      dsimp only at hchars
      split at hchars
      · cases hchars
        exact (readersGiveWellFormed _).value hu
      · cases hchars

end ThriftScala.Json
