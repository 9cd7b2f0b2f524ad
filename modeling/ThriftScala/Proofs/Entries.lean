/-
  Laws of keyed entries.

  Setting a key that is not there appends it, and setting a key to what it holds changes nothing.
  Entries laid over others are found first (`get?_update`), provided that no key comes twice among
  them; if moreover no key is in both, they are appended (`update_eq_append`), and if they begin with
  the keys of the others, they replace them (`update_of_prefix`).
-/
import Mathlib.Data.List.Nodup
import ThriftScala.Entries

namespace ThriftScala.Entries

variable {α : Type}

/-! ## Look-up -/

/-- A key is there if a value stands under it. -/
theorem mem_keys {es : Entries α} {k : String} : k ∈ es.keys ↔ ∃ v, (k, v) ∈ es := by
  simp [keys]

/-- Nothing is found exactly under keys that are not there. -/
theorem get?_eq_none_iff {es : Entries α} {k : String} : es.get? k = none ↔ k ∉ es.keys := by
  induction es with
  | nil => simp [keys]
  | cons e es ih =>
    obtain ⟨j, w⟩ := e
    by_cases h : j = k
    · simp [get?_cons, keys_cons, h]
    · simp [get?_cons, keys_cons, h, ih, Ne.symm h]

/-- Something is found exactly under keys that are there. -/
theorem get?_isSome_iff {es : Entries α} {k : String} : (es.get? k).isSome ↔ k ∈ es.keys := by
  rw [Option.isSome_iff_ne_none, ne_eq, get?_eq_none_iff, not_not]

theorem has_iff {es : Entries α} {k : String} : es.has k = true ↔ k ∈ es.keys := get?_isSome_iff

theorem has_eq_false_iff {es : Entries α} {k : String} : es.has k = false ↔ k ∉ es.keys := by
  rw [← has_iff, Bool.not_eq_true]

/-- What is found under a key stands under it. -/
theorem mem_of_get? {es : Entries α} {k : String} {v : α} (h : es.get? k = some v) :
    (k, v) ∈ es := by
  obtain ⟨before, after, hsplit, -⟩ := List.lookup_eq_some_iff.mp h
  simp [hsplit]

/-- An entry is found if no key comes twice. -/
theorem get?_of_mem {es : Entries α} (h : es.keys.Nodup) {k : String} {v : α} (he : (k, v) ∈ es) :
    es.get? k = some v := by
  induction es with
  | nil => cases he
  | cons e es ih =>
    obtain ⟨j, w⟩ := e
    rw [keys_cons, List.nodup_cons] at h
    rcases List.mem_cons.mp he with heq | he
    · cases heq
      rw [get?_cons, if_pos rfl]
    · have hj : j ≠ k := fun heq => h.1 (heq ▸ mem_keys.mpr ⟨v, he⟩)
      rw [get?_cons, if_neg hj, ih h.2 he]

/-- Entries in front are found first. -/
theorem get?_append (es fs : Entries α) (k : String) :
    (es ++ fs : Entries α).get? k = (es.get? k).or (fs.get? k) := by
  induction es with
  | nil => rfl
  | cons e es ih =>
    obtain ⟨j, w⟩ := e
    have hcons : ((j, w) :: es ++ fs : Entries α) = (j, w) :: (es ++ fs) := rfl
    rw [hcons, get?_cons, get?_cons, ih]
    split <;> rfl

theorem keys_append (es fs : Entries α) : keys (es ++ fs) = es.keys ++ fs.keys := by
  simp [keys]

/-! ## One key -/

/-- A new key goes to the end. -/
theorem set_of_absent {es : Entries α} {k : String} (h : k ∉ es.keys) (v : α) :
    es.set k v = es ++ [(k, v)] := by
  induction es with
  | nil => rfl
  | cons e es ih =>
    obtain ⟨j, w⟩ := e
    rw [keys_cons, List.mem_cons, not_or] at h
    rw [set, if_neg (Ne.symm h.1), ih h.2]
    rfl

/-- The other entries stay when a key is set. -/
theorem mem_set_of_ne {es : Entries α} {e : String × α} (h : e ∈ es) {k : String} (hk : e.1 ≠ k)
    (v : α) : e ∈ es.set k v := by
  induction es with
  | nil => cases h
  | cons f es ih =>
    obtain ⟨j, w⟩ := f
    rw [set]
    split
    · rename_i hj
      rcases List.mem_cons.mp h with rfl | h
      · exact absurd hj hk
      · exact List.mem_cons_of_mem _ h
    · rcases List.mem_cons.mp h with rfl | h
      · exact List.mem_cons_self
      · exact List.mem_cons_of_mem _ (ih h)

/-- A key that is set to what it holds stays as it is. -/
theorem set_of_bound {es : Entries α} {k : String} {v : α} (h : es.get? k = some v) :
    es.set k v = es := by
  induction es with
  | nil => simp at h
  | cons e es ih =>
    obtain ⟨j, w⟩ := e
    rw [get?_cons] at h
    by_cases hj : j = k
    · rw [if_pos hj, Option.some.injEq] at h
      rw [set, if_pos hj, h]
    · rw [if_neg hj] at h
      rw [set, if_neg hj, ih h]

/-- Setting a key adds this key only. -/
theorem mem_keys_set {es : Entries α} {k j : String} {v : α} :
    j ∈ (es.set k v).keys ↔ j = k ∨ j ∈ es.keys := by
  rw [keys_set]
  split
  · rename_i hk
    exact ⟨.inr, fun h => h.elim (fun heq => heq ▸ hk) id⟩
  · rw [List.mem_append, List.mem_singleton, or_comm]

/-- What is there after a key is set was there before, or is what was set. -/
theorem mem_of_mem_set {es : Entries α} {k : String} {v : α} {e : String × α}
    (h : e ∈ es.set k v) : e = (k, v) ∨ e ∈ es := by
  induction es with
  | nil => exact .inl (List.mem_singleton.mp h)
  | cons f es ih =>
    obtain ⟨j, w⟩ := f
    rw [set] at h
    split at h
    · rename_i hj
      rcases List.mem_cons.mp h with heq | h
      · exact .inl (by rw [heq, hj])
      · exact .inr (List.mem_cons_of_mem _ h)
    · rcases List.mem_cons.mp h with rfl | h
      · exact .inr List.mem_cons_self
      · exact (ih h).imp_right (List.mem_cons_of_mem _)

/-- Setting a key never makes one come twice. -/
theorem nodup_keys_set {es : Entries α} (h : es.keys.Nodup) (k : String) (v : α) :
    (es.set k v).keys.Nodup := by
  rw [keys_set]
  split
  · exact h
  · rename_i hk
    exact List.nodup_append.mpr ⟨h, List.nodup_singleton k, fun a ha b hb hab =>
      hk (by rwa [← List.mem_singleton.mp hb, ← hab])⟩

/-- What holds of all values still does when a value is set of which it holds. -/
theorem forall_set {p : α → Prop} {es : Entries α} {v : α} (h : ∀ e ∈ es, p e.2) (hv : p v)
    (k : String) : ∀ e ∈ es.set k v, p e.2 := by
  induction es with
  | nil => simpa [set] using hv
  | cons e es ih =>
    obtain ⟨j, w⟩ := e
    rw [List.forall_mem_cons] at h
    rw [set]
    split
    · exact List.forall_mem_cons.mpr ⟨hv, h.2⟩
    · exact List.forall_mem_cons.mpr ⟨h.1, ih h.2⟩

/-! ## Many keys -/

theorem update_nil (es : Entries α) : es.update [] = es := rfl

theorem update_cons (es : Entries α) (k : String) (v : α) (new : Entries α) :
    es.update ((k, v) :: new) = (es.set k v).update new := rfl

/-- An update adds the new keys. -/
theorem mem_keys_update {es new : Entries α} {k : String} :
    k ∈ (es.update new).keys ↔ k ∈ es.keys ∨ k ∈ new.keys := by
  induction new generalizing es with
  | nil => simp [update_nil, keys]
  | cons e new ih =>
    obtain ⟨j, w⟩ := e
    rw [update_cons, ih, keys_set, keys_cons, List.mem_cons]
    by_cases hj : j ∈ es.keys
    · rw [if_pos hj]
      by_cases hk : k = j <;> simp [hk, hj]
    · rw [if_neg hj, List.mem_append, List.mem_singleton, or_assoc]

/-- The keys of what is below keep their places, and the new ones follow in their order. -/
theorem keys_update (es : Entries α) {new : Entries α} (h : new.keys.Nodup) :
    (es.update new).keys = es.keys ++ new.keys.filter (· ∉ es.keys) := by
  induction new generalizing es with
  | nil => simp [update_nil, keys]
  | cons e new ih =>
    obtain ⟨k, v⟩ := e
    rw [keys_cons, List.nodup_cons] at h
    rw [update_cons, ih _ h.2, keys_set, keys_cons]
    by_cases hk : k ∈ es.keys
    · simp [hk]
    · -- no later entry has the key, so it makes no difference to them that it is there now
      have hlater : (keys new).filter (· ∉ es.keys ++ [k]) = (keys new).filter (· ∉ es.keys) := by
        refine List.filter_congr fun j hj => ?_
        have hne : j ≠ k := fun heq => h.1 (heq ▸ hj)
        simp [hne]
      rw [if_neg hk, hlater]
      simp [hk]

/-- An update never makes a key come twice. -/
theorem nodup_keys_update {es : Entries α} (h : es.keys.Nodup) (new : Entries α) :
    (es.update new).keys.Nodup := by
  induction new generalizing es with
  | nil => exact h
  | cons e new ih => exact ih (nodup_keys_set h e.1 e.2)

/-- What holds of all values of two lists of entries holds of all values when one is laid over the
    other. -/
theorem forall_update {p : α → Prop} {es new : Entries α} (h : ∀ e ∈ es, p e.2)
    (hnew : ∀ e ∈ new, p e.2) : ∀ e ∈ es.update new, p e.2 := by
  induction new generalizing es with
  | nil => exact h
  | cons e new ih =>
    rw [List.forall_mem_cons] at hnew
    exact ih (forall_set h hnew.1 e.1) hnew.2

/-- Entries laid over others are found first. -/
theorem get?_update {es new : Entries α} (h : new.keys.Nodup) (k : String) :
    (es.update new).get? k = (new.get? k).or (es.get? k) := by
  induction new generalizing es with
  | nil => rfl
  | cons e new ih =>
    obtain ⟨j, w⟩ := e
    rw [keys_cons, List.nodup_cons] at h
    -- no later entry has the key of the first one, so what this sets is found in the end
    rw [update_cons, ih h.2, get?_set, get?_cons]
    by_cases hj : j = k
    · subst hj
      simp [get?_eq_none_iff.mpr h.1]
    · simp [hj]

/-- Entries with keys of their own are appended. -/
theorem update_eq_append {es new : Entries α} (h : (es.keys ++ new.keys).Nodup) :
    es.update new = es ++ new := by
  induction new generalizing es with
  | nil => simp [update_nil]
  | cons e new ih =>
    obtain ⟨k, v⟩ := e
    rw [keys_cons] at h
    have habsent : k ∉ es.keys := fun hmem =>
      (List.nodup_append.mp h).2.2 k hmem k List.mem_cons_self rfl
    rw [update_cons, set_of_absent habsent, ih, List.append_assoc]
    · rfl
    · rw [keys_append, List.append_assoc]
      exact h

/-- Distinct new entries over nothing are the new entries. -/
theorem nil_update {new : Entries α} (h : new.keys.Nodup) : update [] new = new :=
  update_eq_append h

/-- What is laid over a new entry that it does not set leaves the entry in front. -/
theorem update_cons_of_absent {k : String} {new : Entries α} (h : k ∉ new.keys) (v : α)
    (es : Entries α) : update ((k, v) :: es) new = (k, v) :: es.update new := by
  induction new generalizing es with
  | nil => rfl
  | cons e new ih =>
    obtain ⟨j, w⟩ := e
    rw [keys_cons, List.mem_cons, not_or] at h
    rw [update_cons, update_cons, ← ih h.2, set, if_neg h.1]

/-- The keys of what is below come first. -/
theorem keys_prefix_update (es new : Entries α) : es.keys <+: (es.update new).keys := by
  induction new generalizing es with
  | nil => exact List.prefix_rfl
  | cons e new ih =>
    refine List.IsPrefix.trans ?_ (ih (es.set e.1 e.2))
    rw [keys_set]
    split
    · exact List.prefix_rfl
    · exact List.prefix_append _ _

/-- Entries that set all keys of those below, in the same order, replace them. -/
theorem update_of_prefix {es new : Entries α} (h : es.keys <+: new.keys) (hnew : new.keys.Nodup) :
    es.update new = new := by
  induction es generalizing new with
  | nil => exact nil_update hnew
  | cons e es ih =>
    obtain ⟨k, v⟩ := e
    cases new with
    | nil => simp [keys] at h
    | cons f new =>
      obtain ⟨j, w⟩ := f
      rw [keys_cons, keys_cons, List.cons_prefix_cons] at h
      rw [keys_cons, List.nodup_cons] at hnew
      obtain ⟨rfl, h⟩ := h
      rw [update_cons, set, if_pos rfl, update_cons_of_absent hnew.1, ih h hnew.2]

/-! ## Some of the entries -/

/-- Leaving entries out makes no key come twice. -/
theorem nodup_keys_filter {es : Entries α} (h : es.keys.Nodup) (p : String × α → Bool) :
    (keys (es.filter p)).Nodup :=
  h.sublist (List.filter_sublist.map _)

/-- Erasing takes one key away. -/
theorem mem_keys_erase {es : Entries α} {j k : String} :
    k ∈ (es.erase j).keys ↔ k ∈ es.keys ∧ k ≠ j := by
  simp only [mem_keys, erase, List.mem_filter, decide_eq_true_eq]
  constructor
  · rintro ⟨v, hv, hk⟩
    exact ⟨⟨v, hv⟩, hk⟩
  · rintro ⟨⟨v, hv⟩, hk⟩
    exact ⟨v, hv, hk⟩

/-- Nothing is taken out for a key that is not there. -/
theorem erase_of_absent {es : Entries α} {k : String} (h : k ∉ es.keys) : es.erase k = es := by
  rw [erase, List.filter_eq_self]
  intro e he
  have hne : e.1 ≠ k := fun heq => h (heq ▸ List.mem_map_of_mem he)
  simpa using hne

/-- A new key that is taken out again leaves no trace. -/
theorem erase_set {es : Entries α} {k : String} (h : k ∉ es.keys) (v : α) :
    (es.set k v).erase k = es := by
  rw [set_of_absent h, erase, List.filter_append]
  simpa [erase] using erase_of_absent h

/-- Entries chosen by their keys can be chosen before or after one is set. -/
theorem filter_set (p : String → Bool) (es : Entries α) (k : String) (v : α) :
    (es.set k v).filter (fun e => p e.1) =
      if p k then set (es.filter fun e => p e.1) k v else es.filter fun e => p e.1 := by
  induction es with
  | nil => cases h : p k <;> simp [set, h]
  | cons e es ih =>
    obtain ⟨j, w⟩ := e
    by_cases hj : j = k
    · subst hj
      cases h : p j <;> simp [set, h]
    · cases hk : p k <;> cases h : p j <;> simp [set, hj, h, hk, ih]

/-- The entries with some keys come from the entries with those keys. -/
theorem filter_update (p : String → Bool) (es new : Entries α) :
    (es.update new).filter (fun e => p e.1) =
      update (es.filter fun e => p e.1) (new.filter fun e => p e.1) := by
  induction new generalizing es with
  | nil => rfl
  | cons e new ih =>
    obtain ⟨k, v⟩ := e
    rw [update_cons, ih, filter_set]
    cases h : p k <;> simp [h, update_cons]

/-- Of chosen entries only those with a chosen key are found. -/
theorem get?_filter (es : Entries α) (p : String → Bool) (k : String) :
    get? (es.filter fun e => p e.1) k = if p k then es.get? k else none := by
  induction es with
  | nil => simp
  | cons e es ih =>
    obtain ⟨j, w⟩ := e
    rw [List.filter_cons]
    by_cases hj : j = k
    · subst hj
      by_cases hp : p j = true <;> simp [hp, get?_cons, ih]
    · by_cases hp : p j = true <;> simp [hp, get?_cons, ih, hj]

end ThriftScala.Entries
