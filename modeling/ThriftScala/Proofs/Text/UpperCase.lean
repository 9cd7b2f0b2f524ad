/-
  Upper case and back.

  A letter that stands in an upper case is found again when it is lowered and raised
  (`isHigh_of_mem_upperChar`).  And it makes no difference to the upper case of a lowered letter
  whether the letter was raised before (`foldCase_upperChar`), so `foldCase`, the upper case of the
  lower case, is the same for texts that differ in letter case only.

  Both are facts about the tables, and are checked run by run.  The runs of a table are sorted and
  lie apart (`isSorted`).  So a letter between the ends of a run can only be found in this run
  (`findSome?_of_isSorted`), a run that takes all that another one gives tells where each letter of
  it goes (`image?_of_followUp`), and runs of two tables that have a letter in common meet when both
  tables are gone through side by side (`check_of_sweep`).

  `TableFits` says what each table is checked for, and `TablesAgree` what both are checked for
  together.  All that is computed about the tables is computed there, once.
-/
import ThriftScala.Proofs.Text.Case

namespace ThriftScala.Text

/-! ## Sorted tables -/

/-- Do the runs stand in order, each of them behind the end of the one before? -/
def isSorted : List CaseRun → Bool
  | [] => true
  | [r] => r.first.ble r.last
  | r :: s :: runs => r.first.ble r.last && r.last.blt s.first && isSorted (s :: runs)

/-- In a sorted table every run ends before the next one begins. -/
theorem pairwise_of_isSorted : ∀ {runs : List CaseRun}, isSorted runs = true →
    (∀ r ∈ runs, r.first ≤ r.last) ∧ runs.Pairwise (fun r s => r.last < s.first)
  | [], _ => ⟨fun _ h => absurd h List.not_mem_nil, .nil⟩
  | [r], h => by
    rw [isSorted, Nat.ble_eq] at h
    exact ⟨by simpa using h, List.pairwise_singleton _ r⟩
  | r :: s :: runs, h => by
    rw [isSorted, Bool.and_eq_true, Bool.and_eq_true, Nat.ble_eq, Nat.blt_eq] at h
    obtain ⟨⟨hr, hnext⟩, hrest⟩ := h
    obtain ⟨hends, hpairs⟩ := pairwise_of_isSorted hrest
    refine ⟨List.forall_mem_cons.mpr ⟨hr, hends⟩, List.pairwise_cons.mpr ⟨?_, hpairs⟩⟩
    intro t ht
    rcases List.mem_cons.mp ht with rfl | ht
    · exact hnext
    · -- whatever stands behind the next run stands behind its end too
      have hs := hends s List.mem_cons_self
      have hbehind := (List.pairwise_cons.mp hpairs).1 t ht
      omega

/-- A run does not move what lies outside of it. -/
theorem CaseRun.image?_eq_none_of_out {r : CaseRun} {n : Nat} (h : n < r.first ∨ r.last < n) :
    r.image? n = none := by
  rw [Option.eq_none_iff_forall_ne_some]
  intro m hm
  obtain ⟨hfirst, hlast, -, -⟩ := image?_eq_some.mp hm
  omega

/-- A letter between the ends of a run is found in this run or not at all. -/
theorem findSome?_of_isSorted {runs : List CaseRun} (h : isSorted runs = true) {s : CaseRun}
    (hs : s ∈ runs) {n : Nat} (hfirst : s.first ≤ n) (hlast : n ≤ s.last) :
    runs.findSome? (·.image? n) = s.image? n := by
  have hpairs := (pairwise_of_isSorted h).2
  clear h
  induction runs with
  | nil => cases hs
  | cons r runs ih =>
    rw [List.pairwise_cons] at hpairs
    rw [List.findSome?_cons]
    rcases List.mem_cons.mp hs with rfl | hs
    · cases himage : s.image? n with
      | some m => rfl
      | none =>
        rw [List.findSome?_eq_none_iff]
        intro t ht
        have hbehind := hpairs.1 t ht
        exact CaseRun.image?_eq_none_of_out (.inl (by omega))
    · have hbefore := hpairs.1 s hs
      rw [CaseRun.image?_eq_none_of_out (.inr (by omega))]
      exact ih hs hpairs.2

/-- Goes through two tables side by side and checks the runs that meet. -/
def sweep (check : CaseRun → CaseRun → Bool) : List CaseRun → List CaseRun → Bool
  | [], _ => true
  | r :: rs, ss =>
    ((ss.dropWhile fun s => s.last.blt r.first).takeWhile fun s => s.first.ble r.last).all (check r)
      && sweep check rs (ss.dropWhile fun s => s.last.blt r.first)

/-- What a test refuses is not dropped. -/
theorem mem_dropWhile_of_not {α : Type} {p : α → Bool} {l : List α} {a : α} (ha : a ∈ l)
    (hp : p a = false) : a ∈ l.dropWhile p := by
  rw [← List.takeWhile_append_dropWhile (p := p) (l := l), List.mem_append] at ha
  rcases ha with ha | ha
  · rw [List.all_eq_true.mp List.all_takeWhile a ha] at hp
    cases hp
  · exact ha

/-- Runs that begin soon enough are taken, for those in front of them begin sooner. -/
theorem mem_takeWhile_of_first {ss : List CaseRun} {s : CaseRun} {n : Nat}
    (hends : ∀ r ∈ ss, r.first ≤ r.last) (hpairs : ss.Pairwise fun r s => r.last < s.first)
    (hs : s ∈ ss) (hfirst : s.first ≤ n) : s ∈ ss.takeWhile fun s => s.first.ble n := by
  induction ss with
  | nil => cases hs
  | cons t ss ih =>
    rw [List.forall_mem_cons] at hends
    rw [List.pairwise_cons] at hpairs
    have ht : t.first ≤ n := by
      rcases List.mem_cons.mp hs with rfl | hs
      · exact hfirst
      · have hbefore := hpairs.1 s hs
        omega
    rw [List.takeWhile_cons, if_pos (Nat.ble_eq.mpr ht), List.mem_cons]
    exact (List.mem_cons.mp hs).imp_right (ih hends.2 hpairs.2)

/-- Runs with a letter in common have been checked. -/
theorem check_of_sweep {check : CaseRun → CaseRun → Bool} {rs ss : List CaseRun}
    (hrs : isSorted rs = true) (hss : isSorted ss = true) (h : sweep check rs ss = true)
    {r s : CaseRun} (hr : r ∈ rs) (hs : s ∈ ss) {n : Nat} (hfirst : r.first ≤ n)
    (hlast : n ≤ r.last) (hfirst' : s.first ≤ n) (hlast' : n ≤ s.last) : check r s = true := by
  obtain ⟨hrends, hrpairs⟩ := pairwise_of_isSorted hrs
  obtain ⟨hends, hpairs⟩ := pairwise_of_isSorted hss
  clear hrs hss
  induction rs generalizing ss with
  | nil => cases hr
  | cons t rs ih =>
    rw [sweep, Bool.and_eq_true] at h
    rw [List.forall_mem_cons] at hrends
    rw [List.pairwise_cons] at hrpairs
    have ht : t.first ≤ n := by
      rcases List.mem_cons.mp hr with rfl | hr
      · exact hfirst
      · have hbefore := hrpairs.1 r hr
        omega
    -- what ends in front of a run does not meet a later one either
    have hkept := mem_dropWhile_of_not (p := fun s => s.last.blt t.first) hs (by
      rw [Bool.eq_false_iff, Ne, Nat.blt_eq]
      omega)
    have hsub : (ss.dropWhile fun s => s.last.blt t.first).Sublist ss := List.dropWhile_sublist _
    rcases List.mem_cons.mp hr with rfl | hr
    · refine List.all_eq_true.mp h.1 s ?_
      exact mem_takeWhile_of_first (fun q hq => hends q (hsub.subset hq)) (hpairs.sublist hsub)
        hkept (by omega)
    · exact ih h.2 hr hkept hrends.2 hrpairs.2 (fun q hq => hends q (hsub.subset hq))
        (hpairs.sublist hsub)

/-! ## From run to run -/

/-- The table without runs that end in front of `n`, as far as they go by the dozen. -/
def seek (n : Nat) : Nat → List CaseRun → List CaseRun
  | 0, runs => runs
  | fuel + 1, runs =>
    match runs.drop 12 with
    | [] => runs
    | s :: rest => if s.first.ble n then seek n fuel (s :: rest) else runs

/-- A run of the table that does not end in front of `n`. -/
def runAt? (runs : List CaseRun) (n : Nat) : Option CaseRun :=
  (seek n 20 runs).find? fun s => n.ble s.last

/-- Seeking leaves runs out and adds none. -/
theorem mem_of_mem_seek {n : Nat} {s : CaseRun} : ∀ {fuel : Nat} {runs : List CaseRun},
    s ∈ seek n fuel runs → s ∈ runs
  | 0, _, h => h
  | fuel + 1, runs, h => by
    rw [seek] at h
    split at h
    · exact h
    · rename_i t rest hdrop
      split at h
      · exact List.mem_of_mem_drop (hdrop ▸ mem_of_mem_seek h)
      · exact h

theorem mem_of_runAt {runs : List CaseRun} {n : Nat} {s : CaseRun} (h : runAt? runs n = some s) :
    s ∈ runs := mem_of_mem_seek (List.mem_of_find?_eq_some h)

/-- Does `s` move everything that `r` moves to? -/
def CaseRun.feeds (r s : CaseRun) : Bool :=
  decide (0 ≤ r.first + r.shift) && s.first.ble r.low && r.high.ble s.last
    && (r.low - s.first) % s.step == 0 && (r.first == r.last || r.step % s.step == 0)

/-- The run that moves on what `r` gives, if one run of the table does so for all of it. -/
def followUp? (runs : List CaseRun) (r : CaseRun) : Option CaseRun :=
  match runAt? runs r.low with
  | some s => if r.feeds s then some ⟨r.low, r.high, r.step, s.shift⟩ else none
  | none => none

/-- A run moves to code points between its own ends. -/
theorem CaseRun.image?_bounds {r : CaseRun} {n m : Nat} (hm : r.image? n = some m) :
    r.low ≤ m ∧ m ≤ r.high := by
  obtain ⟨hfirst, hlast, -, rfl⟩ := image?_eq_some.mp hm
  unfold low high
  omega

/-- What a run gives lies between its new ends, at the distance of its steps. -/
theorem CaseRun.image?_follow {r s : CaseRun} (h : r.feeds s = true) {n m : Nat}
    (hm : r.image? n = some m) :
    (m : Int) = n + r.shift ∧ s.image? m = some (m + s.shift).toNat ∧
      CaseRun.image? ⟨r.low, r.high, r.step, s.shift⟩ m = some (m + s.shift).toNat := by
  simp only [feeds, Bool.and_eq_true, decide_eq_true_eq, Nat.ble_eq, beq_iff_eq,
    Bool.or_eq_true] at h
  obtain ⟨⟨⟨⟨hpos, hlow⟩, hhigh⟩, hfit⟩, hstep⟩ := h
  obtain ⟨hge, hle⟩ := image?_bounds hm
  obtain ⟨hfirst, hlast, hin, hmEq⟩ := image?_eq_some.mp hm
  have hlowEq : (r.low : Int) = r.first + r.shift := by unfold low; omega
  have hdist : m - r.low = n - r.first := by omega
  refine ⟨by omega, image?_eq_some.mpr ⟨Nat.le_trans hlow hge, Nat.le_trans hle hhigh, ?_, rfl⟩,
    image?_eq_some.mpr ⟨hge, hle, ?_, rfl⟩⟩
  · -- from the first of `s` to that of `r`, and from there in steps of `r`
    have hsum : m - s.first = (r.low - s.first) + (n - r.first) := by omega
    rw [hsum]
    refine Nat.mod_eq_zero_of_dvd (Nat.dvd_add (Nat.dvd_of_mod_eq_zero hfit) ?_)
    rcases hstep with hone | hstep
    · have hzero : n - r.first = 0 := by omega
      rw [hzero]
      exact Nat.dvd_zero _
    · exact Nat.dvd_trans (Nat.dvd_of_mod_eq_zero hstep) (Nat.dvd_of_mod_eq_zero hin)
  · rw [hdist]
    exact hin

/-- What a run gives is found in the run that follows it. -/
theorem image?_of_followUp {runs : List CaseRun} (hsorted : isSorted runs = true) {r t : CaseRun}
    (h : followUp? runs r = some t) {n m : Nat} (hm : r.image? n = some m) :
    (m : Int) = n + r.shift ∧ t.image? m = some (m + t.shift).toNat ∧
      runs.findSome? (·.image? m) = some (m + t.shift).toNat := by
  unfold followUp? at h
  split at h
  · rename_i s hs
    split at h
    · rename_i hfeeds
      cases h
      obtain ⟨hmEq, himage, hpart⟩ := CaseRun.image?_follow hfeeds hm
      obtain ⟨hfirst, hlast, -, -⟩ := CaseRun.image?_eq_some.mp himage
      exact ⟨hmEq, hpart,
        (findSome?_of_isSorted hsorted (mem_of_runAt hs) hfirst hlast).trans himage⟩
    · cases h
  · cases h

/-- Does the run move to characters only? -/
def CaseRun.isValid (r : CaseRun) : Bool :=
  r.high.blt 0xD800 || (Nat.blt 0xDFFF r.low && r.high.blt 0x110000)

/-- What a valid run moves to is a character. -/
theorem CaseRun.isValidChar_image {r : CaseRun} (h : r.isValid = true) {n m : Nat}
    (hm : r.image? n = some m) : m.isValidChar := by
  obtain ⟨hge, hle⟩ := image?_bounds hm
  simp only [isValid, Bool.or_eq_true, Bool.and_eq_true, Nat.blt_eq] at h
  unfold Nat.isValidChar
  omega

/-! ## The tables as a whole -/

theorem toNat_ofNat {n : Nat} (h : n.isValidChar) : (Char.ofNat n).toNat = n := by
  rw [Char.ofNat, dif_pos h]
  rfl

/-- A letter in a run moves as the run does. -/
theorem recase_of_run {runs : List CaseRun} {specials : List (Nat × List Nat)} {c : Char} {m : Nat}
    (hs : specials.lookup c.toNat = none) (hr : runs.findSome? (·.image? c.toNat) = some m) :
    recase runs specials c = [Char.ofNat m] := by
  rw [recase, hs, hr]

/-- A letter in no run stays. -/
theorem recase_of_none {runs : List CaseRun} {specials : List (Nat × List Nat)} {c : Char}
    (hs : specials.lookup c.toNat = none) (hr : runs.findSome? (·.image? c.toNat) = none) :
    recase runs specials c = [c] := by
  rw [recase, hs, hr]

theorem mem_of_lookup {specials : List (Nat × List Nat)} {n : Nat} {ns : List Nat}
    (h : specials.lookup n = some ns) : (n, ns) ∈ specials := by
  obtain ⟨before, behind, rfl, -⟩ := List.lookup_eq_some_iff.mp h
  exact List.mem_append_right before List.mem_cons_self

/-- Where a letter of another case comes from. -/
theorem mem_recase {runs : List CaseRun} {specials : List (Nat × List Nat)} {c d : Char}
    (h : d ∈ recase runs specials c) :
    (∃ e ∈ specials, ∃ n ∈ e.2, specials.lookup c.toNat = some e.2 ∧ d = Char.ofNat n) ∨
    (∃ r ∈ runs, ∃ m, r.image? c.toNat = some m ∧ specials.lookup c.toNat = none ∧
      runs.findSome? (·.image? c.toNat) = some m ∧ d = Char.ofNat m) ∨
    (d = c ∧ specials.lookup c.toNat = none ∧ runs.findSome? (·.image? c.toNat) = none) := by
  unfold recase at h
  split at h
  · rename_i ns hs
    obtain ⟨n, hn, rfl⟩ := List.mem_map.mp h
    exact .inl ⟨(c.toNat, ns), mem_of_lookup hs, n, hn, hs, rfl⟩
  · rename_i hs
    split at h
    · rename_i m hm
      obtain ⟨r, hr, himage⟩ := List.exists_of_findSome?_eq_some hm
      exact .inr (.inl ⟨r, hr, m, himage, hs, hm, List.mem_singleton.mp h⟩)
    · rename_i hm
      exact .inr (.inr ⟨List.mem_singleton.mp h, hs, hm⟩)

/-- The code point as a run. -/
def CaseRun.single (n : Nat) : CaseRun := ⟨n, n, 1, 0⟩

theorem CaseRun.image?_single (n : Nat) : (single n).image? n = some n :=
  image?_eq_some.mpr ⟨Nat.le_refl n, Nat.le_refl n, Nat.mod_one _, (Int.toNat_natCast n).symm⟩

/-- Nothing is moved to what `t` holds. -/
def keepsOut (runs : List CaseRun) (specials : List (Nat × List Nat)) (t : CaseRun) : Bool :=
  runs.all (·.avoids t)
    && specials.all fun e => e.2.all fun n => (CaseRun.single n).isValid && (t.image? n).isNone

/-- What a table keeps out of a run comes only from letters that stay. -/
theorem eq_of_keepsOut {runs : List CaseRun} {specials : List (Nat × List Nat)} {t : CaseRun}
    (h : keepsOut runs specials t = true) (hruns : runs.all (·.isValid) = true) {c d : Char}
    {k : Nat} (hd : d ∈ recase runs specials c) (ht : t.image? d.toNat = some k) :
    d = c ∧ runs.findSome? (·.image? c.toNat) = none := by
  rw [keepsOut, Bool.and_eq_true] at h
  rcases mem_recase hd with ⟨e, he, n, hn, -, rfl⟩ | ⟨r, hr, m, hm, -, -, rfl⟩ | ⟨hsame, -, hnone⟩
  · have hout := List.all_eq_true.mp (List.all_eq_true.mp h.2 e he) n hn
    rw [Bool.and_eq_true, Option.isNone_iff_eq_none] at hout
    have himage := CaseRun.image?_single n
    rw [toNat_ofNat (CaseRun.isValidChar_image hout.1 himage), hout.2] at ht
    cases ht
  · have hvalid := CaseRun.isValidChar_image (List.all_eq_true.mp hruns r hr) hm
    rw [toNat_ofNat hvalid, CaseRun.image?_of_avoids (List.all_eq_true.mp h.1 r hr) hm] at ht
    cases ht
  · exact ⟨hsame, hnone⟩

/-- What separates the words of a name: an underscore or a hyphen. -/
def IsSeparator (c : Char) : Prop := c = '_' ∨ c = '-'

instance (c : Char) : Decidable (IsSeparator c) := inferInstanceAs (Decidable (_ ∨ _))

/-- What a table is checked for. -/
structure TableFits (runs : List CaseRun) (specials : List (Nat × List Nat)) : Prop where
  sorted : isSorted runs = true
  valid : runs.all (·.isValid) = true
  /-- In ASCII only the first run moves anything. -/
  runs_beyond : (runs.tail.all fun s => Nat.ble 128 s.first) = true
  specials_beyond : (specials.all fun e => Nat.ble 128 e.1) = true
  /-- No letter is left out. -/
  specials_filled : (specials.all fun e => !e.2.isEmpty) = true
  underscore_out : keepsOut runs specials (.single 0x5F) = true
  hyphen_out : keepsOut runs specials (.single 0x2D) = true

/-- The first run alone decides about letters of ASCII. -/
theorem TableFits.recase_ascii {r : CaseRun} {runs : List CaseRun}
    {specials : List (Nat × List Nat)} (h : TableFits (r :: runs) specials) {c : Char}
    (hc : c.toNat < 128) :
    recase (r :: runs) specials c = [((r.image? c.toNat).map Char.ofNat).getD c] := by
  have hs : specials.lookup c.toNat = none := by
    rw [List.lookup_eq_none_iff]
    intro e he
    have hle := Nat.le_of_ble_eq_true (List.all_eq_true.mp h.specials_beyond e he)
    rw [bne_iff_ne]
    omega
  have hnone : runs.findSome? (·.image? c.toNat) = none := by
    rw [List.findSome?_eq_none_iff]
    intro s hmem
    have hle := Nat.le_of_ble_eq_true (List.all_eq_true.mp h.runs_beyond s hmem)
    rw [Option.eq_none_iff_forall_ne_some]
    intro m hm
    have hfirst := (CaseRun.image?_eq_some.mp hm).1
    omega
  rw [recase, hs, List.findSome?_cons]
  cases himage : r.image? c.toNat with
  | some m => rfl
  | none => simp [hnone]

/-- A letter never becomes nothing. -/
theorem TableFits.recase_ne_nil {runs : List CaseRun} {specials : List (Nat × List Nat)}
    (h : TableFits runs specials) (c : Char) : recase runs specials c ≠ [] := by
  unfold recase
  split
  · rename_i ns hs
    have hne := List.all_eq_true.mp h.specials_filled _ (mem_of_lookup hs)
    simpa using hne
  · split <;> exact List.cons_ne_nil _ _

/-- A table moves nothing to a separator. -/
theorem TableFits.eq_of_separator {runs : List CaseRun} {specials : List (Nat × List Nat)}
    (h : TableFits runs specials) {c d : Char} (hd : d ∈ recase runs specials c)
    (hsep : IsSeparator d) : d = c := by
  rcases hsep with rfl | rfl
  · exact (eq_of_keepsOut h.underscore_out h.valid hd rfl).1
  · exact (eq_of_keepsOut h.hyphen_out h.valid hd rfl).1

/-- The table of small letters is sorted, valid and keeps separators out. -/
theorem lowerTable_fits : TableFits lowerRuns lowerSpecials := by
  constructor <;> decide +kernel

/-- The table of capitals is sorted, valid and keeps separators out. -/
theorem upperTable_fits : TableFits upperRuns upperSpecials := by
  constructor <;> decide +kernel

/-! ## The tables together -/

/-- Lowering and raising gives back everything that the run moves to. -/
def CaseRun.returns (r : CaseRun) : Bool :=
  match followUp? lowerRuns r with
  | some t =>
    match followUp? upperRuns t with
    | some q => r.isValid && t.isValid && q.shift + t.shift == 0
    | none => false
  | none => false

/-- Raising what `s` lowers is the same as raising by `r`, or `r` and `s` have nothing in common. -/
def CaseRun.agrees (r s : CaseRun) : Bool :=
  CaseRun.avoids ⟨r.first, r.last, r.step, 0⟩ s
    || match followUp? upperRuns ⟨r.first, r.last, r.step, s.shift⟩ with
      | some q => s.shift + q.shift == r.shift
      | none => false

/-- The letters with an upper case of several letters. -/
def specialKeys : List CaseRun := upperSpecials.map fun e => .single e.1

/-- The upper case of the lower case of a letter. -/
def foldChar (c : Char) : List Char := upper (lowerChar c)

/-- What the two tables are checked for together. -/
structure TablesAgree : Prop where
  keys_sorted : isSorted specialKeys = true
  keys_in_no_run : sweep (fun r k => (r.image? k.first).isNone) upperRuns specialKeys = true
  /-- Letters with an upper case of several letters have the same one when they are lowered. -/
  keys_agree :
    sweep (fun s k =>
      match s.image? k.first with
      | some l => upperSpecials.lookup l == upperSpecials.lookup k.first
      | none => true) lowerRuns specialKeys = true
  runs_agree : sweep CaseRun.agrees upperRuns lowerRuns = true
  runs_return : upperRuns.all (·.returns) = true
  /-- What several letters stand in is found again, or is no letter. -/
  specials_return :
    (upperSpecials.all fun e => e.2.all fun n => (CaseRun.single n).returns
      || (lowerRuns.findSome? (·.image? n)).isNone && (upperRuns.findSome? (·.image? n)).isNone
        && (lowerSpecials.lookup n).isNone && (upperSpecials.lookup n).isNone
        && (CaseRun.single n).isValid) = true
  /-- The letter with a lower case of several letters is in no run and stays when it is raised. -/
  dotted : lowerRuns.findSome? (·.image? 0x130) = none ∧
    upperChar (Char.ofNat 0x130) = [Char.ofNat 0x130]
  /-- Both small sigmas have the same upper case. -/
  sigmas : ∀ b : Bool, upper [if b then 'ς' else 'σ'] = foldChar 'Σ'
  small_out : keepsOut upperRuns upperSpecials ⟨0x61, 0x7A, 1, 0⟩ = true

/-- **The two tables fit together**, checked run by run. -/
theorem tables_agree : TablesAgree := by
  constructor <;> decide +kernel

/-! ## Letters -/

/-- The letter is found again when it is lowered and raised. -/
structure IsHigh (c : Char) : Prop where
  back : upper (lowerChar c) = [c]

/-- The small letters of ASCII follow from the table. -/
theorem lowerChar_eq_recase (c : Char) : lowerChar c = recase lowerRuns lowerSpecials c := by
  unfold lowerChar
  split
  · rename_i hc
    refine Eq.trans ?_ (lowerTable_fits.recase_ascii hc).symm
    by_cases hcapital : 'A' ≤ c ∧ c ≤ 'Z'
    · have himage : CaseRun.image? ⟨0x41, 0x5A, 1, 32⟩ c.toNat = some (c.toNat + 32) :=
        CaseRun.image?_eq_some.mpr ⟨hcapital.1, hcapital.2, Nat.mod_one _, by dsimp only; omega⟩
      rw [if_pos hcapital, himage]
      rfl
    · have himage : CaseRun.image? ⟨0x41, 0x5A, 1, 32⟩ c.toNat = none := by
        rw [Option.eq_none_iff_forall_ne_some]
        intro m hm
        obtain ⟨hfirst, hlast, -, -⟩ := CaseRun.image?_eq_some.mp hm
        exact hcapital ⟨hfirst, hlast⟩
      rw [if_neg hcapital, himage]
      rfl
  · rfl

/-- The capitals of ASCII follow from the table. -/
theorem upperChar_eq_recase (c : Char) : upperChar c = recase upperRuns upperSpecials c := by
  unfold upperChar
  split
  · rename_i hc
    refine Eq.trans ?_ (upperTable_fits.recase_ascii hc).symm
    by_cases hsmall : 'a' ≤ c ∧ c ≤ 'z'
    · have hfirst : 0x61 ≤ c.toNat := hsmall.1
      have himage : CaseRun.image? ⟨0x61, 0x7A, 1, -32⟩ c.toNat = some (c.toNat - 32) :=
        CaseRun.image?_eq_some.mpr ⟨hfirst, hsmall.2, Nat.mod_one _, by dsimp only; omega⟩
      rw [if_pos hsmall, himage]
      rfl
    · have himage : CaseRun.image? ⟨0x61, 0x7A, 1, -32⟩ c.toNat = none := by
        rw [Option.eq_none_iff_forall_ne_some]
        intro m hm
        obtain ⟨hfirst, hlast, -, -⟩ := CaseRun.image?_eq_some.mp hm
        exact hsmall ⟨hfirst, hlast⟩
      rw [if_neg hsmall, himage]
      rfl
  · rfl

theorem lowerChar_ne_nil (c : Char) : lowerChar c ≠ [] := by
  rw [lowerChar_eq_recase]
  exact lowerTable_fits.recase_ne_nil c

theorem upperChar_ne_nil (c : Char) : upperChar c ≠ [] := by
  rw [upperChar_eq_recase]
  exact upperTable_fits.recase_ne_nil c

/-- Nothing but a separator is lowered to a separator. -/
theorem eq_of_separator_mem_lowerChar {c d : Char} (hd : d ∈ lowerChar c) (hsep : IsSeparator d) :
    d = c := by
  rw [lowerChar_eq_recase] at hd
  exact lowerTable_fits.eq_of_separator hd hsep

/-- Nothing but a separator is raised to a separator. -/
theorem eq_of_separator_mem_upperChar {c d : Char} (hd : d ∈ upperChar c) (hsep : IsSeparator d) :
    d = c := by
  rw [upperChar_eq_recase] at hd
  exact upperTable_fits.eq_of_separator hd hsep

/-! ## Back from the upper case -/

theorem upper_singleton (c : Char) : upper [c] = upperChar c := List.append_nil _

/-- A letter in a run of capitals has no entry of its own. -/
theorem lookup_upperSpecials_of_run {n m : Nat} (h : upperRuns.findSome? (·.image? n) = some m) :
    upperSpecials.lookup n = none := by
  obtain ⟨r, hr, himage⟩ := List.exists_of_findSome?_eq_some h
  obtain ⟨hfirst, hlast, -, -⟩ := CaseRun.image?_eq_some.mp himage
  rw [List.lookup_eq_none_iff]
  intro e he
  rw [bne_iff_ne]
  rintro rfl
  have hkey : CaseRun.single e.1 ∈ specialKeys := List.mem_map_of_mem he
  have hnone := check_of_sweep upperTable_fits.sorted tables_agree.keys_sorted
    tables_agree.keys_in_no_run hr hkey hfirst hlast (Nat.le_refl e.1) (Nat.le_refl e.1)
  rw [Option.isNone_iff_eq_none] at hnone
  rw [CaseRun.single, himage] at hnone
  cases hnone

/-- A letter in a run of small letters has no entry of its own. -/
theorem lookup_lowerSpecials_of_run {n m : Nat} (h : lowerRuns.findSome? (·.image? n) = some m) :
    lowerSpecials.lookup n = none := by
  rw [lookup_lowerSpecials, if_neg]
  rintro rfl
  rw [tables_agree.dotted.1] at h
  cases h

/-- What a run that returns moves to is found again when it is lowered and raised. -/
theorem isHigh_of_returns {r : CaseRun} (h : r.returns = true) {n m : Nat}
    (hm : r.image? n = some m) : IsHigh (Char.ofNat m) := by
  unfold CaseRun.returns at h
  split at h
  · rename_i t ht
    split at h
    · rename_i q hq
      rw [Bool.and_eq_true, Bool.and_eq_true, beq_iff_eq] at h
      obtain ⟨⟨hrvalid, htvalid⟩, hshift⟩ := h
      obtain ⟨-, htimage, hlower⟩ := image?_of_followUp lowerTable_fits.sorted ht hm
      obtain ⟨hback, -, hupper⟩ := image?_of_followUp upperTable_fits.sorted hq htimage
      -- the way to lower case and back ends where it started
      have hsame : (((m + t.shift).toNat : Nat) + q.shift : Int).toNat = m := by omega
      rw [hsame] at hupper
      have hmvalid := toNat_ofNat (CaseRun.isValidChar_image hrvalid hm)
      have hlvalid := toNat_ofNat (CaseRun.isValidChar_image htvalid htimage)
      constructor
      rw [lowerChar_eq_recase,
        recase_of_run (by rw [hmvalid]; exact lookup_lowerSpecials_of_run hlower)
          (by rw [hmvalid]; exact hlower),
        upper_singleton, upperChar_eq_recase,
        recase_of_run (by rw [hlvalid]; exact lookup_upperSpecials_of_run hupper)
          (by rw [hlvalid]; exact hupper)]
    · cases h
  · cases h

/-- A letter that neither table moves is found again. -/
theorem isHigh_of_unmoved {c : Char} (hlower : lowerChar c = [c]) (hupper : upperChar c = [c]) :
    IsHigh c := by
  constructor
  rw [hlower, upper_singleton, hupper]

/-- **The letters of an upper case are found again**, unless there is nothing to raise. -/
theorem isHigh_of_mem_upperChar {c d : Char} (hd : d ∈ upperChar c) :
    IsHigh d ∨ upperChar c = [c] := by
  rw [upperChar_eq_recase] at hd ⊢
  rcases mem_recase hd with ⟨e, he, n, hn, -, rfl⟩ | ⟨r, hr, m, hm, -, -, rfl⟩ | ⟨-, hs, hnone⟩
  · have hreturn := List.all_eq_true.mp (List.all_eq_true.mp tables_agree.specials_return e he) n hn
    have himage := CaseRun.image?_single n
    rw [Bool.or_eq_true] at hreturn
    rcases hreturn with hreturn | hreturn
    · exact .inl (isHigh_of_returns hreturn himage)
    · simp only [Bool.and_eq_true, Option.isNone_iff_eq_none] at hreturn
      obtain ⟨⟨⟨⟨hlr, hur⟩, hls⟩, hus⟩, hvalid⟩ := hreturn
      have hn := toNat_ofNat (CaseRun.isValidChar_image hvalid himage)
      left
      refine isHigh_of_unmoved ?_ ?_
      · rw [lowerChar_eq_recase]
        exact recase_of_none (by rw [hn]; exact hls) (by rw [hn]; exact hlr)
      · rw [upperChar_eq_recase]
        exact recase_of_none (by rw [hn]; exact hus) (by rw [hn]; exact hur)
  · exact .inl (isHigh_of_returns (List.all_eq_true.mp tables_agree.runs_return r hr) hm)
  · exact .inr (recase_of_none hs hnone)

/-- The letters of the upper case of a small letter are found again. -/
theorem isHigh_of_isLow {c d : Char} (hc : IsLow c) (hd : d ∈ upperChar c) : IsHigh d := by
  rcases isHigh_of_mem_upperChar hd with hhigh | hsame
  · exact hhigh
  · rw [hsame, List.mem_singleton] at hd
    rw [hd]
    exact isHigh_of_unmoved hc.1 hsame

/-! ## Letter case aside -/

/-- A text without the difference between upper and lower case. -/
def foldCase (cs : List Char) : List Char := cs.flatMap foldChar

/-- Folding goes letter by letter. -/
theorem foldCase_append (cs ds : List Char) : foldCase (cs ++ ds) = foldCase cs ++ foldCase ds :=
  List.flatMap_append

/-- Both small sigmas have the same upper case, so it does not matter which of them is taken. -/
theorem upper_lowerFrom : ∀ (afterCased : Bool) (cs : List Char),
    upper (lowerFrom afterCased cs) = foldCase cs
  | _, [] => rfl
  | afterCased, c :: cs => by
    have hhere : upper (if c = 'Σ' then [if afterCased && !casedNext cs then 'ς' else 'σ']
        else lowerChar c) = foldChar c := by
      split
      · rename_i hc
        subst hc
        exact tables_agree.sigmas _
      · rfl
    rw [lowerFrom, upper, List.flatMap_append, ← upper, ← upper, hhere, upper_lowerFrom]
    rfl

/-- A text of letters that are found again is folded already. -/
theorem foldCase_of_isHigh {cs : List Char} (h : ∀ c ∈ cs, IsHigh c) : foldCase cs = cs := by
  induction cs with
  | nil => rfl
  | cons c cs ih =>
    rw [List.forall_mem_cons] at h
    rw [foldCase, List.flatMap_cons, foldChar, h.1.back, ← foldCase, ih h.2]
    rfl

/-- What is in lower case has its upper case for a fold. -/
theorem foldCase_of_areLow {cs : List Char} (h : AreLow cs) : foldCase cs = upper cs := by
  induction cs with
  | nil => rfl
  | cons c cs ih =>
    have hc := h c List.mem_cons_self
    have hrest := ih fun d hd => h d (List.mem_cons_of_mem c hd)
    rw [foldCase, List.flatMap_cons, foldChar, hc.1, upper_singleton, ← foldCase, hrest]
    rfl

/-- A letter may be lowered before. -/
theorem foldCase_lowerChar (c : Char) : foldCase (lowerChar c) = foldChar c :=
  foldCase_of_areLow fun _ hd => isLow_of_mem_lowerChar hd

/-- A letter with an upper case of several letters has the same one when it is lowered. -/
theorem lookup_upperSpecials_of_lowerRun {s : CaseRun} (hs : s ∈ lowerRuns) {n l : Nat}
    (hl : s.image? n = some l) {ns : List Nat} (h : upperSpecials.lookup n = some ns) :
    upperSpecials.lookup l = some ns := by
  have hkey : CaseRun.single n ∈ specialKeys := List.mem_map_of_mem (mem_of_lookup h)
  obtain ⟨hfirst, hlast, -, -⟩ := CaseRun.image?_eq_some.mp hl
  have hagree := check_of_sweep lowerTable_fits.sorted tables_agree.keys_sorted
    tables_agree.keys_agree hs hkey hfirst hlast (Nat.le_refl n) (Nat.le_refl n)
  rw [CaseRun.single, hl] at hagree
  rw [beq_iff_eq.mp hagree, h]

/-- A letter that two runs have in common is raised to the same letter by way of its lower case. -/
theorem findSome?_of_agrees {r s : CaseRun} (h : r.agrees s = true) {n m l : Nat}
    (hm : r.image? n = some m) (hl : s.image? n = some l) :
    upperRuns.findSome? (·.image? l) = some m := by
  obtain ⟨hfirst, hlast, hstep, hmEq⟩ := CaseRun.image?_eq_some.mp hm
  rw [CaseRun.agrees, Bool.or_eq_true] at h
  rcases h with havoids | hfollow
  · have hstay : CaseRun.image? ⟨r.first, r.last, r.step, 0⟩ n = some n :=
      CaseRun.image?_eq_some.mpr ⟨hfirst, hlast, hstep, by dsimp only; omega⟩
    rw [CaseRun.image?_of_avoids havoids hstay] at hl
    cases hl
  · split at hfollow
    · rename_i q hq
      -- the letters of `r`, moved as `s` moves them
      have hpart : CaseRun.image? ⟨r.first, r.last, r.step, s.shift⟩ n = some l :=
        CaseRun.image?_eq_some.mpr ⟨hfirst, hlast, hstep, (CaseRun.image?_eq_some.mp hl).2.2.2⟩
      obtain ⟨hlEq, -, hupper⟩ := image?_of_followUp upperTable_fits.sorted hq hpart
      have hshift := beq_iff_eq.mp hfollow
      dsimp only at hlEq
      have hsame : ((l : Int) + q.shift).toNat = m := by omega
      rwa [hsame] at hupper
    · cases hfollow

/-- A letter that has a lower case of one letter: if it is raised at all, it is raised like that. -/
theorem upperChar_of_lowerRun {c : Char} {l : Nat}
    (hl : lowerRuns.findSome? (·.image? c.toNat) = some l) (hmoved : upperChar c ≠ [c]) :
    upperChar (Char.ofNat l) = upperChar c := by
  obtain ⟨s, hs, hsimage⟩ := List.exists_of_findSome?_eq_some hl
  have hvalid := toNat_ofNat
    (CaseRun.isValidChar_image (List.all_eq_true.mp lowerTable_fits.valid s hs) hsimage)
  rw [upperChar_eq_recase] at hmoved ⊢
  rw [upperChar_eq_recase]
  cases hspecial : upperSpecials.lookup c.toNat with
  | some ns =>
    rw [recase, recase, hvalid, lookup_upperSpecials_of_lowerRun hs hsimage hspecial, hspecial]
  | none =>
    cases hr : upperRuns.findSome? (·.image? c.toNat) with
    | none => exact absurd (recase_of_none hspecial hr) hmoved
    | some m =>
      obtain ⟨r, hrmem, hrimage⟩ := List.exists_of_findSome?_eq_some hr
      obtain ⟨hfirst, hlast, -, -⟩ := CaseRun.image?_eq_some.mp hrimage
      obtain ⟨hsfirst, hslast, -, -⟩ := CaseRun.image?_eq_some.mp hsimage
      have hagree := check_of_sweep upperTable_fits.sorted lowerTable_fits.sorted
        tables_agree.runs_agree hrmem hs hfirst hlast hsfirst hslast
      have hupper := findSome?_of_agrees hagree hrimage hsimage
      rw [recase_of_run hspecial hr,
        recase_of_run (by rw [hvalid]; exact lookup_upperSpecials_of_run hupper)
          (by rw [hvalid]; exact hupper)]

/-- **A letter may be raised before it is lowered and raised.** -/
theorem foldCase_upperChar (c : Char) : foldCase (upperChar c) = foldChar c := by
  by_cases hmoved : upperChar c = [c]
  · rw [hmoved]
    exact List.append_nil _
  · have hhigh : ∀ d ∈ upperChar c, IsHigh d := fun d hd =>
      (isHigh_of_mem_upperChar hd).resolve_right hmoved
    rw [foldCase_of_isHigh hhigh, foldChar]
    cases hspecial : lowerSpecials.lookup c.toNat with
    | some ns =>
      rw [lookup_lowerSpecials] at hspecial
      split at hspecial
      · rename_i hc
        refine absurd ?_ hmoved
        rw [← Char.ofNat_toNat c, hc]
        exact tables_agree.dotted.2
      · cases hspecial
    | none =>
      rw [lowerChar_eq_recase]
      cases hl : lowerRuns.findSome? (·.image? c.toNat) with
      | none => rw [recase_of_none hspecial hl, upper_singleton]
      | some l =>
        rw [recase_of_run hspecial hl, upper_singleton, upperChar_of_lowerRun hl hmoved]

/-! ## No small letters among the capitals -/

/-- No small letter of ASCII stands in an upper case. -/
theorem isLower_of_mem_upperChar {c d : Char} (hd : d ∈ upperChar c) : d.isLower = false := by
  rw [Bool.eq_false_iff]
  intro hlower
  rw [upperChar_eq_recase] at hd
  have hrange : 0x61 ≤ d.toNat ∧ d.toNat ≤ 0x7A := by
    obtain ⟨hfirst, hlast⟩ := (Bool.and_eq_true _ _).mp hlower
    exact ⟨of_decide_eq_true hfirst, of_decide_eq_true hlast⟩
  have himage : CaseRun.image? ⟨0x61, 0x7A, 1, 0⟩ d.toNat = some d.toNat :=
    CaseRun.image?_eq_some.mpr ⟨hrange.1, hrange.2, Nat.mod_one _, by dsimp only; omega⟩
  obtain ⟨rfl, hnone⟩ := eq_of_keepsOut tables_agree.small_out upperTable_fits.valid hd himage
  -- but it is a capital that such a letter is raised to
  rw [List.findSome?_eq_none_iff] at hnone
  have hfirst := hnone ⟨0x61, 0x7A, 1, -32⟩ (List.mem_of_getElem? (i := 0) rfl)
  have hraised : CaseRun.image? ⟨0x61, 0x7A, 1, -32⟩ d.toNat = some (d.toNat - 32) :=
    CaseRun.image?_eq_some.mpr ⟨hrange.1, hrange.2, Nat.mod_one _, by dsimp only; omega⟩
  rw [hraised] at hfirst
  cases hfirst

end ThriftScala.Text
