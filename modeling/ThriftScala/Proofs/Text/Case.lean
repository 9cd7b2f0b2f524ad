/-
  Lower case is reached in one step.

  A text in lower case is its own lower case (`lowered_lowered`), so a name that was lowered once is
  found however often it is lowered again.

  The reason lies in the table: no run of capitals moves a letter into a run of capitals.  That is
  checked for each pair of runs by their ends (`runs_apart`) and not letter by letter, so a letter
  that a run gives is its own lower case (`isLow_of_image`).  A capital sigma is lowered by what
  stands around it, but to one of two small letters in any case.
-/
import ThriftScala.Text.Case

namespace ThriftScala.Text

/-! ## Runs -/

theorem CaseRun.image?_eq_some {r : CaseRun} {n m : Nat} :
    r.image? n = some m ↔
      r.first ≤ n ∧ n ≤ r.last ∧ (n - r.first) % r.step = 0 ∧ m = (n + r.shift).toNat := by
  rw [image?]
  split
  · rename_i h
    simp only [Bool.and_eq_true, decide_eq_true_eq, beq_iff_eq] at h
    simp [h, eq_comm]
  · rename_i h
    simp only [Bool.and_eq_true, decide_eq_true_eq, beq_iff_eq, not_and] at h
    simp only [reduceCtorEq, false_iff]
    exact fun ⟨hfirst, hlast, hstep, _⟩ => h ⟨hfirst, hlast⟩ hstep

/-- The first code point that a run moves to. -/
def CaseRun.low (r : CaseRun) : Nat := (r.first + r.shift).toNat

/-- The last code point that a run moves to. -/
def CaseRun.high (r : CaseRun) : Nat := (r.last + r.shift).toNat

/-- Does `r` move nothing into `s`?  Either the ends tell so, or `s` takes every second code point
    and those that `r` moves to are the ones between. -/
def CaseRun.avoids (r s : CaseRun) : Bool :=
  r.high.blt s.first || s.last.blt r.low
    || ((r.step == 2 || r.first == r.last) && s.step == 2 && s.first.ble r.low
      && (r.low - s.first) % 2 == 1)

theorem CaseRun.image?_of_avoids {r s : CaseRun} (h : r.avoids s = true) {n m : Nat}
    (hm : r.image? n = some m) : s.image? m = none := by
  obtain ⟨hfirst, hlast, hstep, rfl⟩ := image?_eq_some.mp hm
  rw [Option.eq_none_iff_forall_ne_some]
  intro k hk
  obtain ⟨hsfirst, hslast, hsstep, -⟩ := image?_eq_some.mp hk
  simp only [avoids, Bool.or_eq_true, Bool.and_eq_true, Nat.blt_eq, Nat.ble_eq, beq_iff_eq] at h
  unfold low high at h
  rcases h with (hbelow | habove) | ⟨⟨⟨hr, hs⟩, hle⟩, hodd⟩
  · omega
  · omega
  · rw [hs] at hsstep
    rcases hr with hr | hr
    · rw [hr] at hstep
      omega
    · omega

/-- The runs of the table move nothing into one another. -/
theorem runs_apart : (lowerRuns.all fun r => lowerRuns.all fun s => r.avoids s) = true := by
  decide +kernel

/-- The runs of the table do not move anything to the letter with a table entry of its own. -/
theorem runs_miss_special : (lowerRuns.all fun r => r.avoids ⟨0x130, 0x130, 1, 0⟩) = true := by
  decide

/-- One letter has an entry of its own. -/
theorem lookup_lowerSpecials (n : Nat) :
    lowerSpecials.lookup n = if n = 0x130 then some [0x69, 0x307] else none := by
  split
  · rename_i h
    rw [h]
    rfl
  · rename_i h
    have hne : (n == 0x130) = false := by simp [h]
    simp [lowerSpecials, List.lookup_cons, hne]

/-! ## Letters that stay -/

/-- Is the letter its own lower case, whatever stands around it? -/
def IsLow (c : Char) : Prop := lowerChar c = [c] ∧ c ≠ 'Σ'

instance (c : Char) : Decidable (IsLow c) := inferInstanceAs (Decidable (_ ∧ _))

/-- Do all letters stay? -/
def AreLow (cs : List Char) : Prop := ∀ c ∈ cs, IsLow c

instance (cs : List Char) : Decidable (AreLow cs) := List.decidableBAll _ _

/-- The small letters of ASCII are found by their number in the table as well. -/
theorem lowerChar_of_none {c : Char} (hs : lowerSpecials.lookup c.toNat = none)
    (hr : lowerRuns.findSome? (·.image? c.toNat) = none) : lowerChar c = [c] := by
  rw [List.findSome?_eq_none_iff] at hr
  unfold lowerChar
  split
  · split
    · rename_i hc
      have hcapital : CaseRun.image? ⟨0x41, 0x5A, 1, 32⟩ c.toNat = some (c.toNat + 32 : Int).toNat :=
        CaseRun.image?_eq_some.mpr ⟨hc.1, hc.2, Nat.mod_one _, rfl⟩
      rw [hr ⟨0x41, 0x5A, 1, 32⟩ (List.mem_of_getElem? (i := 0) rfl)] at hcapital
      cases hcapital
    · rfl
  · rw [recase, hs, List.findSome?_eq_none_iff.mpr hr]

/-- A letter that no table knows stays. -/
theorem isLow_of_none {c : Char} (hs : lowerSpecials.lookup c.toNat = none)
    (hr : lowerRuns.findSome? (·.image? c.toNat) = none) : IsLow c := by
  refine ⟨lowerChar_of_none hs hr, ?_⟩
  rintro rfl
  rw [List.findSome?_eq_none_iff] at hr
  cases hr ⟨0x3A3, 0x3AB, 1, 32⟩ (List.mem_of_getElem? (i := 70) rfl)

/-- A letter that a run gives stays. -/
theorem isLow_of_image {r : CaseRun} (hr : r ∈ lowerRuns) {n m : Nat} (h : r.image? n = some m) :
    IsLow (Char.ofNat m) := by
  by_cases hvalid : m.isValidChar
  · have hm : (Char.ofNat m).toNat = m := by rw [Char.ofNat, dif_pos hvalid]; rfl
    refine isLow_of_none ?_ ?_
    · rw [hm]
      have hspecial := CaseRun.image?_of_avoids (List.all_eq_true.mp runs_miss_special r hr) h
      have hne : m ≠ 0x130 := by
        rintro rfl
        cases hspecial
      exact (lookup_lowerSpecials m).trans (if_neg hne)
    · rw [hm, List.findSome?_eq_none_iff]
      intro s hs
      have hapart := List.all_eq_true.mp runs_apart r hr
      exact CaseRun.image?_of_avoids (List.all_eq_true.mp hapart s hs) h
  · rw [Char.ofNat, dif_neg hvalid]
    decide

/-- Whatever lower case a letter has, it stays. -/
theorem isLow_of_mem_lowerChar {c d : Char} (hd : d ∈ lowerChar c) : IsLow d := by
  have hascii : ∀ n < 128, AreLow (lowerChar (Char.ofNat n)) := by decide +kernel
  by_cases h : c.toNat < 128
  · exact hascii c.toNat h d (by rwa [Char.ofNat_toNat])
  · rw [lowerChar, if_neg h, recase] at hd
    split at hd
    · rename_i ns hs
      rw [lookup_lowerSpecials] at hs
      split at hs
      · cases hs
        have hdotted : AreLow ([0x69, 0x307].map Char.ofNat) := by decide
        exact hdotted d hd
      · cases hs
    · rename_i hs
      split at hd
      · rename_i n hn
        obtain ⟨r, hr, himage⟩ := List.exists_of_findSome?_eq_some hn
        rw [List.mem_singleton.mp hd]
        exact isLow_of_image hr himage
      · rename_i hn
        rw [List.mem_singleton.mp hd]
        exact isLow_of_none hs hn

/-! ## Whole texts -/

/-- All letters of a text in lower case stay. -/
theorem isLow_of_mem_lowerFrom : ∀ {cs : List Char} {afterCased : Bool} {d : Char},
    d ∈ lowerFrom afterCased cs → IsLow d
  | [], _, _, hd => by cases hd
  | c :: cs, afterCased, d, hd => by
    rw [lowerFrom, List.mem_append] at hd
    rcases hd with hd | hd
    · by_cases hc : c = 'Σ'
      · rw [if_pos hc, List.mem_singleton] at hd
        rw [hd]
        split <;> decide
      · rw [if_neg hc] at hd
        exact isLow_of_mem_lowerChar hd
    · exact isLow_of_mem_lowerFrom hd

/-- A text of letters that stay is its own lower case. -/
theorem lowerFrom_of_isLow : ∀ {cs : List Char} (afterCased : Bool), AreLow cs →
    lowerFrom afterCased cs = cs
  | [], _, _ => rfl
  | c :: cs, afterCased, h => by
    obtain ⟨hc, hsigma⟩ := h c List.mem_cons_self
    have hrest : ∀ b, lowerFrom b cs = cs := fun b =>
      lowerFrom_of_isLow b fun d hd => h d (List.mem_cons_of_mem c hd)
    rw [lowerFrom, if_neg hsigma, hc, hrest]
    rfl

end ThriftScala.Text

/-- **A name in lower case is its own lower case.** -/
theorem String.lowered_lowered (s : String) : s.lowered.lowered = s.lowered := by
  have hlow : ThriftScala.Text.lower (ThriftScala.Text.lower s.toList) =
      ThriftScala.Text.lower s.toList :=
    ThriftScala.Text.lowerFrom_of_isLow false fun _ hc => ThriftScala.Text.isLow_of_mem_lowerFrom hc
  simp only [String.lowered, String.toList_ofList, hlow]
