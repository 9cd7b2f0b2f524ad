/-
  Kinds of characters that conversions keep.

  A conversion of a name brings in underscores and the other cases of letters, and no other
  characters.  So a kind of characters that holds the underscore, and with a letter what the letter
  becomes in either case (`KeptByCase`), holds of all characters of a converted name if it holds of
  those of the name (`KeptByCase.convertChars`).

  The capital sigma is left out of such a kind: it is lowered by what stands around it, and no
  letter alone tells to what.
-/
import ThriftScala.Naming

namespace ThriftScala.Text

/-- A kind of characters that letters stay in when their case changes, with the underscore. -/
structure KeptByCase (p : Char → Prop) : Prop where
  underscore : p '_'
  lowerChar : ∀ c, p c → ∀ d ∈ lowerChar c, p d
  upperChar : ∀ c, p c → ∀ d ∈ upperChar c, p d
  sigma : ¬ p 'Σ'

/-- Does the kind hold of what a character becomes in either case, if it holds of the character? -/
def keepsCase (p : Char → Bool) (c : Char) : Bool := !p c || (lowerChar c ++ upperChar c).all p

/-- A kind of characters of ASCII is checked character by character. -/
theorem KeptByCase.of_ascii {p : Char → Bool} (hascii : ∀ c, p c = true → c.toNat < 128)
    (hunderscore : p '_' = true)
    (hcase : ((List.range 128).all fun n => keepsCase p (Char.ofNat n)) = true) :
    KeptByCase (p · = true) := by
  have heach (c : Char) (hc : p c = true) :
      ∀ d ∈ Text.lowerChar c ++ Text.upperChar c, p d = true := by
    have hnumber := List.all_eq_true.mp hcase c.toNat (List.mem_range.mpr (hascii c hc))
    rw [Char.ofNat_toNat, keepsCase, hc, Bool.not_true, Bool.false_or] at hnumber
    exact List.all_eq_true.mp hnumber
  refine ⟨hunderscore, fun c hc d hd => ?_, fun c hc d hd => ?_, fun hsigma => ?_⟩
  · exact heach c hc d (List.mem_append_left _ hd)
  · exact heach c hc d (List.mem_append_right _ hd)
  · exact absurd (hascii 'Σ' hsigma) (by decide)

namespace KeptByCase

variable {p : Char → Prop} {cs : List Char}

theorem upper (hp : KeptByCase p) (h : ∀ c ∈ cs, p c) : ∀ d ∈ upper cs, p d := by
  intro d hd
  obtain ⟨c, hc, hd⟩ := List.mem_flatMap.mp hd
  exact hp.upperChar c (h c hc) d hd

theorem lowerFrom (hp : KeptByCase p) (h : ∀ c ∈ cs, p c) (afterCased : Bool) :
    ∀ d ∈ lowerFrom afterCased cs, p d := by
  induction cs generalizing afterCased with
  | nil => exact h
  | cons c cs ih =>
    rw [List.forall_mem_cons] at h
    have hsigma : c ≠ 'Σ' := by
      rintro rfl
      exact hp.sigma h.1
    rw [Text.lowerFrom, if_neg hsigma]
    exact List.forall_mem_append.mpr ⟨hp.lowerChar c h.1, ih h.2 _⟩

end KeptByCase

end ThriftScala.Text

namespace ThriftScala.NamingCase

open Text

/-- The characters of a piece are those of the whole. -/
theorem mem_of_mem_splitAt {sep c : Char} {cs l : List Char} (hl : l ∈ splitAt sep cs)
    (hc : c ∈ l) : c ∈ cs := by
  induction cs generalizing l with
  | nil =>
    rw [splitAt, List.mem_singleton] at hl
    rwa [hl] at hc
  | cons d cs ih =>
    rw [splitAt] at hl
    split at hl
    · rcases List.mem_cons.mp hl with rfl | hl
      · cases hc
      · exact List.mem_cons_of_mem d (ih hl hc)
    · obtain ⟨m, ms, hsplit⟩ := List.exists_cons_of_ne_nil (splitAt_ne_nil sep cs)
      simp only [hsplit, List.mem_cons] at hl ih
      rcases hl with rfl | hl
      · rcases List.mem_cons.mp hc with rfl | hc
        · exact List.mem_cons_self
        · exact List.mem_cons_of_mem d (ih (.inl rfl) hc)
      · exact List.mem_cons_of_mem d (ih (.inr hl) hc)

section Kept

variable {p : Char → Prop} {cs : List Char}

theorem kept_lowerFirst (hp : KeptByCase p) (h : ∀ c ∈ cs, p c) : ∀ d ∈ lowerFirst cs, p d := by
  cases cs with
  | nil => exact h
  | cons c cs =>
    rw [List.forall_mem_cons] at h
    exact List.forall_mem_append.mpr ⟨hp.lowerChar c h.1, h.2⟩

theorem kept_raiseFirst (hp : KeptByCase p) (h : ∀ c ∈ cs, p c) : ∀ d ∈ raiseFirst cs, p d := by
  cases cs with
  | nil => exact h
  | cons c cs =>
    rw [List.forall_mem_cons] at h
    exact List.forall_mem_append.mpr ⟨hp.upperChar c h.1, h.2⟩

theorem kept_toCamel (hp : KeptByCase p) (h : ∀ c ∈ cs, p c) : ∀ d ∈ toCamel cs, p d := by
  unfold toCamel
  split
  · exact h
  · rename_i w ws hwords
    have hword : ∀ v ∈ w :: ws, ∀ c ∈ v, p c := by
      intro v hv c hc
      rw [← hwords, words, List.mem_filter] at hv
      exact h c (mem_of_mem_splitAt hv.1 hc)
    rw [List.forall_mem_cons] at hword
    have hlead : ∀ c ∈ cs.takeWhile (· == '_'), p c := fun c hc =>
      h c ((List.takeWhile_prefix _).subset hc)
    have hrest : ∀ d ∈ ws.flatMap raiseFirst, p d := by
      intro d hd
      obtain ⟨v, hv, hd⟩ := List.mem_flatMap.mp hd
      exact kept_raiseFirst hp (hword.2 v hv) d hd
    have hfirst := List.forall_mem_append.mpr ⟨hlead, kept_lowerFirst hp hword.1⟩
    exact List.forall_mem_append.mpr ⟨hfirst, hrest⟩

theorem kept_breakWords (hp : KeptByCase p) (h : ∀ c ∈ cs, p c) : ∀ d ∈ breakWords cs, p d := by
  fun_induction breakWords cs with
  | case1 c d cs hbreak ih =>
    rw [List.forall_mem_cons] at h
    exact List.forall_mem_cons.mpr ⟨h.1, List.forall_mem_cons.mpr ⟨hp.underscore, ih h.2⟩⟩
  | case2 c d cs hbreak ih =>
    rw [List.forall_mem_cons] at h
    exact List.forall_mem_cons.mpr ⟨h.1, ih h.2⟩
  | case3 cs => exact h

theorem collapse_sublist (cs : List Char) : (collapse cs).Sublist cs := by
  fun_induction collapse cs with
  | case1 r ih => exact ih.cons '_'
  | case2 c r _ ih => exact ih.cons_cons c
  | case3 => exact .slnil

theorem kept_toSnake (hp : KeptByCase p) (h : ∀ c ∈ cs, p c) : ∀ d ∈ toSnake cs, p d := by
  have hmarked : ∀ d ∈ cs.map fun c => if c = '-' then '_' else c, p d := by
    intro d hd
    obtain ⟨c, hc, rfl⟩ := List.mem_map.mp hd
    by_cases hyphen : c = '-'
    · rw [if_pos hyphen]
      exact hp.underscore
    · rw [if_neg hyphen]
      exact h c hc
  have hlower := hp.lowerFrom (kept_breakWords hp hmarked) false
  intro d hd
  -- what is cut off at both ends does not bring anything in
  have hd := (List.dropWhile_suffix _).subset (List.mem_reverse.mp hd)
  have hd := (List.dropWhile_suffix _).subset (List.mem_reverse.mp hd)
  exact hlower d ((collapse_sublist _).subset hd)

/-- **A conversion keeps every such kind.** -/
theorem kept_convertChars (hp : KeptByCase p) (case : NamingCase) (h : ∀ c ∈ cs, p c) :
    ∀ d ∈ case.convertChars cs, p d := by
  cases case with
  | camel => exact kept_toCamel hp h
  | pascal =>
    refine kept_raiseFirst hp fun c hc => ?_
    exact kept_toCamel hp h c ((List.dropWhile_suffix _).subset hc)
  | snake => exact kept_toSnake hp h
  | screamingSnake => exact hp.upper (kept_toSnake hp h)

end Kept

end ThriftScala.NamingCase
