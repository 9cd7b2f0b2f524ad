/-
  Names in a case, converted to the same case again.

  Camel, Pascal and snake case leave a converted name as it is.  Snake case in capitals does not: a
  digit in front of a letter is no place to break, but in front of the capital that the letter has
  become it is one.  So the converted name changes again exactly if a digit stands right in front of
  a capital in it (`convert_convert_iff`).

  1. **Words** — a text in the other case has its separators where they were (`Recases`), so
     underscores that stand alone between words still do (`Recases.isSpaced`).

  2. **Snake case** — what it gives is spaced and in lower case, and of such a text it only breaks
     and lowers (`toSnake_of_isSpaced`).  There is no capital to break at, unless the text was
     raised in between; then there is one new underscore for every break (`breakWords_cases`), and
     no change of letter case takes it away.

  3. **Camel and Pascal case** — what they give is one word behind its underscores, and its first
     letter is one that is found again when it is lowered and raised.
-/
import Mathlib.Data.List.Chain
import ThriftScala.Proofs.Schema.AsciiNames
import ThriftScala.Proofs.Text.UpperCase

namespace ThriftScala.Text

/-! ## Texts of words -/

/-- The second text is the first one in another case: separators stay, and every other character
    becomes one or more characters that are no separators. -/
inductive Recases : List Char → List Char → Prop where
  | nil : Recases [] []
  | separator {c : Char} {cs ds : List Char} :
      IsSeparator c → Recases cs ds → Recases (c :: cs) (c :: ds)
  | letter {c : Char} {p cs ds : List Char} :
      ¬ IsSeparator c → p ≠ [] → (∀ d ∈ p, ¬ IsSeparator d) → Recases cs ds →
        Recases (c :: cs) (p ++ ds)

/-- A character in front may become several, but neither lose nor gain a separator. -/
theorem Recases.cons {c : Char} {p cs ds : List Char} (hp : p ≠ [])
    (hkeep : IsSeparator c → p = [c]) (hnew : ∀ d ∈ p, IsSeparator d → d = c)
    (h : Recases cs ds) : Recases (c :: cs) (p ++ ds) := by
  by_cases hc : IsSeparator c
  · rw [hkeep hc]
    exact .separator hc h
  · refine .letter hc hp (fun d hd hsep => hc ?_) h
    rw [← hnew d hd hsep]
    exact hsep

/-- Raising a text keeps its separators where they are. -/
theorem recases_upper : ∀ cs : List Char, Recases cs (upper cs)
  | [] => .nil
  | c :: cs => by
    refine .cons (upperChar_ne_nil c) ?_ (fun d hd => eq_of_separator_mem_upperChar hd)
      (recases_upper cs)
    rintro (rfl | rfl) <;> decide

/-- Lowering a text keeps its separators where they are. -/
theorem recases_lowerFrom : ∀ (afterCased : Bool) (cs : List Char),
    Recases cs (lowerFrom afterCased cs)
  | _, [] => .nil
  | afterCased, c :: cs => by
    rw [lowerFrom]
    by_cases hc : c = 'Σ'
    · subst hc
      refine .letter (by decide) ?_ ?_ (recases_lowerFrom _ cs)
      · simp
      · intro d hd
        rw [if_pos rfl, List.mem_singleton] at hd
        rw [hd]
        split <;> decide
    · rw [if_neg hc]
      refine .cons (lowerChar_ne_nil c) ?_ (fun d hd => eq_of_separator_mem_lowerChar hd)
        (recases_lowerFrom _ cs)
      rintro (rfl | rfl) <;> decide

/-! ## Underscores between words -/

/-- Underscores stand alone, and between other characters. -/
structure IsSpaced (cs : List Char) : Prop where
  apart : cs.IsChain fun a b => a = '_' → b ≠ '_'
  first : cs.head? ≠ some '_'
  last : cs.getLast? ≠ some '_'

section Recases

variable {cs ds : List Char}

/-- The same separators stand in both texts. -/
theorem Recases.mem_iff (h : Recases cs ds) {c : Char} (hc : IsSeparator c) :
    c ∈ ds ↔ c ∈ cs := by
  induction h with
  | nil => rfl
  | separator _ _ ih => rw [List.mem_cons, List.mem_cons, ih]
  | @letter d p cs ds hd _ hp _ ih =>
    have hleft : c ∉ p := fun hmem => hp c hmem hc
    have hright : c ≠ d := fun heq => hd (heq ▸ hc)
    rw [List.mem_append, List.mem_cons, ih]
    simp [hleft, hright]

/-- There are as many underscores as before. -/
theorem Recases.count_eq (h : Recases cs ds) : ds.count '_' = cs.count '_' := by
  induction h with
  | nil => rfl
  | separator _ _ ih => rw [List.count_cons, List.count_cons, ih]
  | @letter d p cs ds hd _ hp _ ih =>
    have hnone : p.count '_' = 0 := List.count_eq_zero_of_not_mem fun hmem => hp _ hmem (.inl rfl)
    rw [List.count_append, hnone, Nat.zero_add, ih,
      List.count_cons_of_ne fun heq => hd (.inl heq)]

/-- An underscore in front was there before. -/
theorem Recases.head?_eq (h : Recases cs ds) (hds : ds.head? = some '_') : cs.head? = some '_' := by
  cases h with
  | nil => exact hds
  | separator _ _ => exact hds
  | @letter c p cs ds hc hne hp _ =>
    obtain ⟨d, p, rfl⟩ := List.exists_cons_of_ne_nil hne
    obtain rfl : d = '_' := by simpa using hds
    exact absurd (.inl rfl) (hp '_' List.mem_cons_self)

/-- Nothing comes only from nothing. -/
theorem Recases.eq_nil (h : Recases cs ds) (hds : ds = []) : cs = [] := by
  cases h with
  | nil => rfl
  | separator _ _ => cases hds
  | letter _ hne _ _ => exact absurd (List.append_eq_nil_iff.mp hds).1 hne

/-- An underscore at the end was there before. -/
theorem Recases.getLast?_eq (h : Recases cs ds) (hds : ds.getLast? = some '_') :
    cs.getLast? = some '_' := by
  induction h with
  | nil => exact hds
  | @separator c cs ds _ hrest ih =>
    rw [List.getLast?_cons] at hds ⊢
    cases hlast : ds.getLast? with
    | none =>
      rw [hlast] at hds
      rw [hrest.eq_nil (List.getLast?_eq_none_iff.mp hlast)]
      exact hds
    | some d =>
      rw [hlast] at hds
      rw [ih (hlast.trans hds)]
      rfl
  | @letter c p cs ds _ _ hp _ ih =>
    rw [List.getLast?_append] at hds
    cases hlast : ds.getLast? with
    | none =>
      rw [hlast, Option.none_or] at hds
      exact absurd (.inl rfl) (hp '_' (List.mem_of_getLast? hds))
    | some d =>
      rw [hlast] at hds
      rw [List.getLast?_cons, ih (hlast.trans hds)]
      rfl

/-- A text of words is one in the other case. -/
theorem Recases.isSpaced (h : Recases cs ds) (hcs : IsSpaced cs) : IsSpaced ds := by
  refine ⟨?_, fun hds => hcs.first (h.head?_eq hds), fun hds => hcs.last (h.getLast?_eq hds)⟩
  have hapart := hcs.apart
  clear hcs
  induction h with
  | nil => exact .nil
  | @separator c cs ds _ hrest ih =>
    rw [List.isChain_cons] at hapart ⊢
    refine ⟨?_, ih hapart.2⟩
    rintro d hd rfl rfl
    exact hapart.1 '_' (hrest.head?_eq hd) rfl rfl
  | @letter c p cs ds _ _ hp _ ih =>
    have hpiece : ∀ d ∈ p, d ≠ '_' := fun d hd heq => hp d hd (.inl heq)
    rw [List.isChain_append]
    refine ⟨?_, ih (List.isChain_cons.mp hapart).2, ?_⟩
    · rw [List.isChain_iff_getElem]
      intro i hi heq
      exact absurd heq (hpiece _ (List.getElem_mem _))
    · intro d hd _ _ heq
      exact absurd heq (hpiece d (List.mem_of_getLast? hd))

end Recases

/-- A capital of ASCII does not stay when it is lowered. -/
theorem isUpper_of_isLow {c : Char} (h : IsLow c) : c.isUpper = false := by
  rw [Bool.eq_false_iff]
  intro hcapital
  have hrange : 'A' ≤ c ∧ c ≤ 'Z' := of_decide_eq_true hcapital
  have hlast : c.toNat ≤ 0x5A := hrange.2
  have hvalid : (c.toNat + 32).isValidChar := by
    unfold Nat.isValidChar
    omega
  have hlower := h.1
  rw [lowerChar, if_pos (by omega), if_pos hrange, List.cons.injEq] at hlower
  have hsame : c.toNat + 32 = c.toNat := by
    rw [← toNat_ofNat hvalid, hlower.1]
  omega

section Trim

variable {p : Char → Bool} {cs : List Char}

/-- Nothing is dropped if the first character is kept. -/
theorem dropWhile_of_head (h : ∀ c ∈ cs.head?, p c = false) : cs.dropWhile p = cs := by
  cases cs with
  | nil => rfl
  | cons c cs => rw [List.dropWhile_cons_of_neg (by simp [h c rfl])]

/-- There is nothing to trim where the ends stay. -/
theorem trimWhile_eq_self (hfirst : ∀ c ∈ cs.head?, p c = false)
    (hlast : ∀ c ∈ cs.getLast?, p c = false) : trimWhile p cs = cs := by
  rw [trimWhile, dropWhile_of_head hfirst, dropWhile_of_head, List.reverse_reverse]
  rwa [List.head?_reverse]

/-- Trimming at the end leaves a beginning of what was trimmed in front. -/
theorem isPrefix_trimWhile (p : Char → Bool) (cs : List Char) :
    trimWhile p cs <+: cs.dropWhile p := by
  rw [← List.reverse_suffix, trimWhile, List.reverse_reverse]
  exact List.dropWhile_suffix p

theorem isInfix_trimWhile (p : Char → Bool) (cs : List Char) : trimWhile p cs <:+: cs :=
  (isPrefix_trimWhile p cs).isInfix.trans (List.dropWhile_suffix p).isInfix

/-- A trimmed text does not end with what was to be trimmed. -/
theorem getLast?_trimWhile {c : Char} (h : (trimWhile p cs).getLast? = some c) : p c = false := by
  rw [trimWhile, List.getLast?_reverse] at h
  have hnot := List.head?_dropWhile_not p (cs.dropWhile p).reverse
  rwa [h] at hnot

/-- A trimmed text does not begin with what was to be trimmed. -/
theorem head?_trimWhile {c : Char} (h : (trimWhile p cs).head? = some c) : p c = false := by
  obtain ⟨behind, hbehind⟩ := isPrefix_trimWhile p cs
  have hnot := List.head?_dropWhile_not p cs
  rwa [← hbehind, List.head?_append, h] at hnot

end Trim

end ThriftScala.Text

namespace ThriftScala.NamingCase

open Text

/-! ## Snake case -/

/-- A small letter or digit right in front of a capital. -/
def IsBreak (c d : Char) : Prop := (c.isLower = true ∨ c.isDigit = true) ∧ d.isUpper = true

/-- There is a place to break the name. -/
def HasBreak (cs : List Char) : Prop := ∃ c d, IsBreak c d ∧ [c, d] <:+: cs

/-- A break stands between the first two characters or further behind. -/
theorem hasBreak_cons_cons {c d : Char} {cs : List Char} :
    HasBreak (c :: d :: cs) ↔ IsBreak c d ∨ HasBreak (d :: cs) := by
  constructor
  · rintro ⟨a, b, hbreak, hin⟩
    rcases List.infix_cons_iff.mp hin with hprefix | hin
    · rw [List.cons_prefix_cons, List.cons_prefix_cons] at hprefix
      obtain ⟨rfl, rfl, -⟩ := hprefix
      exact .inl hbreak
    · exact .inr ⟨a, b, hbreak, hin⟩
  · rintro (hbreak | ⟨a, b, hbreak, hin⟩)
    · exact ⟨c, d, hbreak, [], cs, rfl⟩
    · exact ⟨a, b, hbreak, List.infix_cons hin⟩

/-- Two characters are needed for a break. -/
theorem not_hasBreak_of_length {cs : List Char} (h : cs.length < 2) : ¬ HasBreak cs := by
  rintro ⟨a, b, -, hin⟩
  have hlen := hin.length_le
  simp only [List.length_cons, List.length_nil] at hlen
  omega

theorem isBreak_iff {c d : Char} :
    ((c.isLower || c.isDigit) && d.isUpper) = true ↔ IsBreak c d := by
  rw [Bool.and_eq_true, Bool.or_eq_true, IsBreak]

/-- Behind every break there is a new underscore, and a name without a break stays. -/
theorem breakWords_cases (cs : List Char) :
    (¬ HasBreak cs ∧ breakWords cs = cs) ∨
      (HasBreak cs ∧ cs.count '_' < (breakWords cs).count '_') := by
  fun_induction breakWords cs with
  | case1 c d r hbreak ih =>
    right
    refine ⟨hasBreak_cons_cons.mpr (.inl (isBreak_iff.mp hbreak)), ?_⟩
    -- whichever case holds behind, no underscore is lost there
    have hle : (d :: r).count '_' ≤ (breakWords (d :: r)).count '_' := by
      rcases ih with ⟨-, heq⟩ | ⟨-, hlt⟩
      · exact Nat.le_of_eq (congrArg (List.count '_') heq.symm)
      · exact Nat.le_of_lt hlt
    rw [List.count_cons, List.count_cons (a := '_') (b := c), List.count_cons_self]
    omega
  | case2 c d r hbreak ih =>
    rw [isBreak_iff] at hbreak
    rw [hasBreak_cons_cons]
    rcases ih with ⟨hno, heq⟩ | ⟨hhas, hlt⟩
    · exact .inl ⟨not_or.mpr ⟨hbreak, hno⟩, by rw [heq]⟩
    · refine .inr ⟨.inr hhas, ?_⟩
      rw [List.count_cons, List.count_cons (a := '_') (b := c)]
      omega
  | case3 cs hshort =>
    left
    refine ⟨not_hasBreak_of_length ?_, rfl⟩
    rcases cs with _ | ⟨c, _ | ⟨d, r⟩⟩
    · simp
    · simp
    · exact absurd rfl (hshort c d r)

/-- Breaking words puts nothing but underscores in. -/
theorem mem_breakWords {cs : List Char} {e : Char} (h : e ∈ breakWords cs) : e = '_' ∨ e ∈ cs := by
  fun_induction breakWords cs with
  | case1 c d r _ ih =>
    rw [List.mem_cons, List.mem_cons] at h
    rcases h with rfl | rfl | h
    · exact .inr List.mem_cons_self
    · exact .inl rfl
    · exact (ih h).imp_right (List.mem_cons_of_mem c)
  | case2 c d r _ ih =>
    rcases List.mem_cons.mp h with rfl | h
    · exact .inr List.mem_cons_self
    · exact (ih h).imp_right (List.mem_cons_of_mem c)
  | case3 cs _ => exact .inr h

/-- Breaking words puts nothing in front. -/
theorem head?_breakWords (cs : List Char) : (breakWords cs).head? = cs.head? := by
  fun_cases breakWords cs <;> rfl

/-- Breaking words puts nothing at the end. -/
theorem getLast?_breakWords (cs : List Char) : (breakWords cs).getLast? = cs.getLast? := by
  fun_induction breakWords cs with
  | case1 c d r _ ih | case2 c d r _ ih =>
    simp only [List.getLast?_cons, ih, Option.getD_some]
  | case3 cs _ => rfl

/-- New underscores stand between other characters. -/
theorem isSpaced_breakWords {cs : List Char} (h : IsSpaced cs) : IsSpaced (breakWords cs) := by
  refine ⟨?_, ?_, ?_⟩
  · have hapart := h.apart
    clear h
    fun_induction breakWords cs with
    -- the new underscore stands between a small letter and a capital, so beside none
    | case1 c d r hbreak ih =>
      have hcapital : d ≠ '_' := by
        rintro rfl
        exact absurd (isBreak_iff.mp hbreak).2 (by decide)
      have hsmall : c ≠ '_' := by
        rintro rfl
        rcases (isBreak_iff.mp hbreak).1 with h | h <;> exact absurd h (by decide)
      rw [List.isChain_cons, List.isChain_cons]
      refine ⟨fun _ _ heq => absurd heq hsmall, ?_, ih (List.isChain_cons.mp hapart).2⟩
      intro e he _
      rw [head?_breakWords] at he
      rwa [← Option.some.inj he]
    | case2 c d r _ ih =>
      rw [List.isChain_cons] at hapart ⊢
      refine ⟨fun e he => ?_, ih hapart.2⟩
      rw [head?_breakWords] at he
      exact hapart.1 e he
    | case3 cs _ => exact hapart
  · rw [head?_breakWords]
    exact h.first
  · rw [getLast?_breakWords]
    exact h.last

/-- Collapsing keeps the first character. -/
theorem head?_collapse (cs : List Char) : (collapse cs).head? = cs.head? := by
  fun_induction collapse cs with
  | case1 r ih => exact ih
  | case2 c r _ => rfl
  | case3 => rfl

/-- Runs of underscores become single ones. -/
theorem isChain_collapse (cs : List Char) :
    (collapse cs).IsChain fun a b => a = '_' → b ≠ '_' := by
  fun_induction collapse cs with
  | case1 r ih => exact ih
  | case2 c r hsingle ih =>
    rw [List.isChain_cons]
    refine ⟨?_, ih⟩
    rintro d hd rfl rfl
    rw [head?_collapse] at hd
    obtain ⟨r', rfl⟩ := List.head?_eq_some_iff.mp hd
    exact hsingle r' rfl rfl
  | case3 => exact .nil

/-- Where underscores stand alone, there is no run of them. -/
theorem collapse_eq_self {cs : List Char} (h : cs.IsChain fun a b => a = '_' → b ≠ '_') :
    collapse cs = cs := by
  fun_induction collapse cs with
  | case1 r _ => exact absurd rfl ((List.isChain_cons.mp h).1 '_' rfl rfl)
  | case2 c r _ ih => rw [ih (List.isChain_cons.mp h).2]
  | case3 => rfl

/-- What snake case does to a text of words: it breaks and lowers. -/
theorem toSnake_of_isSpaced {cs : List Char} (h : IsSpaced cs) (hhyphen : '-' ∉ cs) :
    toSnake cs = lower (breakWords cs) := by
  have hmap : (cs.map fun c => if c = '-' then '_' else c) = cs := by
    have hsame : (cs.map fun c => if c = '-' then '_' else c) = cs.map id :=
      List.map_congr_left fun c hc => if_neg fun (heq : c = '-') => hhyphen (heq ▸ hc)
    rw [hsame, List.map_id]
  have hspaced : IsSpaced (lower (breakWords cs)) :=
    (recases_lowerFrom false _).isSpaced (isSpaced_breakWords h)
  have hends : ∀ c : Char, some c ≠ some '_' → (c == '_') = false := by
    intro c hc
    simpa using hc
  rw [toSnake, hmap, collapse_eq_self hspaced.apart]
  refine trimWhile_eq_self (fun c hc => hends c ?_) (fun c hc => hends c ?_)
  · rw [← hc]
    exact hspaced.first
  · rw [← hc]
    exact hspaced.last

/-- Snake case gives words in lower case with single underscores between them. -/
theorem toSnake_spec (cs : List Char) :
    IsSpaced (toSnake cs) ∧ '-' ∉ toSnake cs ∧ AreLow (toSnake cs) := by
  unfold toSnake
  dsimp only
  generalize hmarked : (cs.map fun c => if c = '-' then '_' else c) = marked
  have hsub : ∀ c ∈ trimWhile (· == '_') (collapse (lower (breakWords marked))),
      c ∈ lower (breakWords marked) := fun c hc =>
    (collapse_sublist _).subset ((isInfix_trimWhile _ _).subset hc)
  refine ⟨⟨?_, fun h => ?_, fun h => ?_⟩, ?_, ?_⟩
  -- no two underscores in a row, and none at either end
  · have hapart := isChain_collapse (lower (breakWords marked))
    obtain ⟨before, behind, hwhole⟩ :=
      isInfix_trimWhile (· == '_') (collapse (lower (breakWords marked)))
    rw [← hwhole] at hapart
    exact hapart.left_of_append.right_of_append
  · exact absurd (head?_trimWhile h) (by decide)
  · exact absurd (getLast?_trimWhile h) (by decide)
  -- no stage after the first writes a hyphen
  · intro hhyphen
    have hbroken := ((recases_lowerFrom false _).mem_iff (.inr rfl)).mp (hsub _ hhyphen)
    rcases mem_breakWords hbroken with hnew | hold
    · exact absurd hnew (by decide)
    · rw [← hmarked] at hold
      obtain ⟨c, -, hc⟩ := List.mem_map.mp hold
      split at hc
      · exact absurd hc (by decide)
      · rename_i hne
        exact hne hc
  · exact fun c hc => isLow_of_mem_lowerFrom (hsub c hc)

/-- A name in snake case is in snake case. -/
theorem toSnake_toSnake (cs : List Char) : toSnake (toSnake cs) = toSnake cs := by
  obtain ⟨hspaced, hhyphen, hlow⟩ := toSnake_spec cs
  rw [toSnake_of_isSpaced hspaced hhyphen]
  rcases breakWords_cases (toSnake cs) with ⟨-, heq⟩ | ⟨⟨c, d, ⟨-, hcapital⟩, hin⟩, -⟩
  · rw [heq]
    exact lowerFrom_of_isLow false hlow
  · -- there is no capital left to break at
    rw [isUpper_of_isLow (hlow d (hin.subset (by simp)))] at hcapital
    cases hcapital

/-- Snake case in capitals: whatever is not broken stays, and whatever is broken gets longer. -/
theorem screaming_screaming (cs : List Char) :
    upper (toSnake (upper (toSnake cs))) = upper (toSnake cs) ↔
      ¬ HasBreak (upper (toSnake cs)) := by
  obtain ⟨hspaced, hhyphen, hlow⟩ := toSnake_spec cs
  have hrecases := recases_upper (toSnake cs)
  rw [toSnake_of_isSpaced (hrecases.isSpaced hspaced)
    (fun h => hhyphen ((hrecases.mem_iff (.inr rfl)).mp h))]
  have hhigh : ∀ d ∈ upper (toSnake cs), IsHigh d := by
    intro d hd
    obtain ⟨c, hc, hd⟩ := List.mem_flatMap.mp hd
    exact isHigh_of_isLow (hlow c hc) hd
  rcases breakWords_cases (upper (toSnake cs)) with ⟨hno, heq⟩ | ⟨hhas, hlt⟩
  · simp only [hno, not_false_eq_true, iff_true]
    rw [heq, lower, upper_lowerFrom, foldCase_of_isHigh hhigh]
  · simp only [hhas, not_true_eq_false, iff_false]
    intro hsame
    -- the case of letters does not change the number of underscores
    have hcount := (recases_upper (lower (breakWords (upper (toSnake cs))))).count_eq
    rw [lower, (recases_lowerFrom false _).count_eq, ← lower, hsame] at hcount
    omega

/-! ## Camel and Pascal case -/

/-- Words are not empty and have no underscores. -/
theorem not_mem_of_mem_words {cs w : List Char} (h : w ∈ words cs) : '_' ∉ w ∧ w ≠ [] := by
  obtain ⟨hmem, hne⟩ := List.mem_filter.mp h
  refine ⟨not_mem_of_mem_splitAt hmem, ?_⟩
  rintro rfl
  cases hne

/-- An underscore in front adds no word. -/
theorem words_cons_underscore (cs : List Char) : words ('_' :: cs) = words cs := by
  rw [words, splitAt, if_pos rfl]
  rfl

/-- Behind leading underscores a text without underscores is one word. -/
theorem words_lead_body {lead body : List Char} (hlead : ∀ c ∈ lead, c = '_') (hbody : '_' ∉ body)
    (hne : body ≠ []) : words (lead ++ body) = [body] := by
  induction lead with
  | nil =>
    have hnone : splitAt '_' [] = [[]] := rfl
    have hwhole := splitAt_append hbody hnone
    rw [List.append_nil] at hwhole
    rw [List.nil_append, words, hwhole, List.filter_cons_of_pos (by simpa using hne)]
    rfl
  | cons c lead ih =>
    rw [List.forall_mem_cons] at hlead
    rw [hlead.1, List.cons_append, words_cons_underscore, ih hlead.2]

/-- Only underscores have no word. -/
theorem eq_underscore_of_words_nil {cs : List Char} (h : words cs = []) : ∀ c ∈ cs, c = '_' := by
  induction cs with
  | nil => exact fun _ hc => nomatch hc
  | cons c cs ih =>
    by_cases hc : c = '_'
    · rw [hc, words_cons_underscore] at h
      exact List.forall_mem_cons.mpr ⟨hc, ih h⟩
    · obtain ⟨l, ls, hsplit⟩ := List.exists_cons_of_ne_nil (splitAt_ne_nil '_' cs)
      rw [words, splitAt, if_neg hc, hsplit, List.filter_cons_of_pos rfl] at h
      cases h

theorem not_mem_lowerFirst {w : List Char} (h : '_' ∉ w) : '_' ∉ lowerFirst w := by
  cases w with
  | nil => exact h
  | cons c r =>
    rw [List.mem_cons, not_or] at h
    rw [lowerFirst, List.mem_append, not_or]
    exact ⟨fun hmem => h.1 (eq_of_separator_mem_lowerChar hmem (.inl rfl)), h.2⟩

theorem not_mem_raiseFirst {w : List Char} (h : '_' ∉ w) : '_' ∉ raiseFirst w := by
  cases w with
  | nil => exact h
  | cons c r =>
    rw [List.mem_cons, not_or] at h
    rw [raiseFirst, List.mem_append, not_or]
    exact ⟨fun hmem => h.1 (eq_of_separator_mem_upperChar hmem (.inl rfl)), h.2⟩

/-- In camel case underscores in front stay, and one word behind them only loses a capital. -/
theorem toCamel_lead_body {lead body : List Char} (hlead : ∀ c ∈ lead, c = '_') (hbody : '_' ∉ body)
    (hne : body ≠ []) : toCamel (lead ++ body) = lead ++ lowerFirst body := by
  have htake : (lead ++ body).takeWhile (· == '_') = lead := by
    rw [List.takeWhile_append_of_pos (by simpa using hlead)]
    obtain ⟨c, body, rfl⟩ := List.exists_cons_of_ne_nil hne
    rw [List.takeWhile_cons_of_neg, List.append_nil]
    simpa using fun heq : c = '_' => hbody (heq ▸ List.mem_cons_self)
  rw [toCamel, words_lead_body hlead hbody hne, htake]
  simp

theorem eq_of_mem_lead {cs : List Char} : ∀ c ∈ cs.takeWhile (· == '_'), c = '_' := fun c hc => by
  simpa using List.all_eq_true.mp List.all_takeWhile c hc

/-- What camel case gives: the leading underscores, and behind them one word that starts small. -/
theorem toCamel_cases (cs : List Char) :
    ((∀ c ∈ cs, c = '_') ∧ toCamel cs = cs) ∨
      ∃ h body, toCamel cs = cs.takeWhile (· == '_') ++ h :: body ∧ '_' ∉ h :: body ∧ IsLow h := by
  cases hwords : words cs with
  | nil =>
    left
    refine ⟨eq_underscore_of_words_nil hwords, ?_⟩
    rw [toCamel, hwords]
  | cons w ws =>
    right
    have hword : ∀ v ∈ w :: ws, '_' ∉ v ∧ v ≠ [] := fun v hv =>
      not_mem_of_mem_words (hwords ▸ hv)
    obtain ⟨hw, hne⟩ := hword w List.mem_cons_self
    obtain ⟨c, r, rfl⟩ := List.exists_cons_of_ne_nil hne
    obtain ⟨h, hs, hlower⟩ := List.exists_cons_of_ne_nil (lowerChar_ne_nil c)
    have hlow : IsLow h := isLow_of_mem_lowerChar (hlower ▸ List.mem_cons_self)
    have hfirst := not_mem_lowerFirst hw
    rw [lowerFirst, hlower] at hfirst
    -- the words behind the first one hold no underscores either
    have hrest : '_' ∉ ws.flatMap raiseFirst := by
      intro hmem
      obtain ⟨v, hv, hmem⟩ := List.mem_flatMap.mp hmem
      exact not_mem_raiseFirst (hword v (List.mem_cons_of_mem _ hv)).1 hmem
    refine ⟨h, hs ++ r ++ ws.flatMap raiseFirst, ?_, ?_, hlow⟩
    · rw [toCamel, hwords]
      simp [lowerFirst, hlower]
    · rw [← List.cons_append, ← List.cons_append, List.mem_append, not_or]
      exact ⟨hfirst, hrest⟩

/-- A name in camel case is in camel case. -/
theorem toCamel_toCamel (cs : List Char) : toCamel (toCamel cs) = toCamel cs := by
  rcases toCamel_cases cs with ⟨-, heq⟩ | ⟨h, body, heq, hbody, hlow⟩
  · rw [heq, heq]
  · rw [heq, toCamel_lead_body eq_of_mem_lead hbody (List.cons_ne_nil h body), lowerFirst, hlow.1]
    rfl

/-- A letter that is found again when it is lowered and raised becomes one letter in between. -/
theorem exists_lowerChar_of_isHigh {u : Char} (hu : IsHigh u) :
    ∃ l, lowerChar u = [l] ∧ upperChar l = [u] := by
  obtain ⟨l, ls, hlower⟩ := List.exists_cons_of_ne_nil (lowerChar_ne_nil u)
  have hback := hu.back
  rw [hlower, upper, List.flatMap_cons] at hback
  cases ls with
  | nil => exact ⟨l, hlower, by simpa using hback⟩
  | cons k ls =>
    have hlen := congrArg List.length hback
    have hl := List.length_pos_iff.mpr (upperChar_ne_nil l)
    have hk := List.length_pos_iff.mpr (upperChar_ne_nil k)
    rw [List.flatMap_cons, List.length_append, List.length_append, List.length_singleton] at hlen
    omega

/-- Dropping the underscores in front leaves the word behind them. -/
theorem dropWhile_lead_body {lead body : List Char} {h : Char} (hlead : ∀ c ∈ lead, c = '_')
    (hbody : '_' ∉ h :: body) : (lead ++ h :: body).dropWhile (· == '_') = h :: body := by
  rw [List.dropWhile_append_of_pos (by simpa using hlead), List.dropWhile_cons_of_neg]
  simpa using fun heq : h = '_' => hbody (heq ▸ List.mem_cons_self)

/-- What Pascal case gives: nothing, or one word that starts with what a small letter is raised to. -/
theorem toPascal_cases (cs : List Char) :
    ((∀ c ∈ cs, c = '_') ∧ toPascal cs = []) ∨
      ∃ u body, toPascal cs = u :: body ∧ '_' ∉ u :: body ∧ ∃ h, IsLow h ∧ u ∈ upperChar h := by
  rcases toCamel_cases cs with ⟨hall, heq⟩ | ⟨h, body, heq, hbody, hlow⟩
  · left
    refine ⟨hall, ?_⟩
    have hnone : (cs ++ []).dropWhile (· == '_') = [] :=
      List.dropWhile_append_of_pos (by simpa using hall)
    rw [List.append_nil] at hnone
    rw [toPascal, heq, hnone]
    rfl
  · right
    obtain ⟨u, us, hupper⟩ := List.exists_cons_of_ne_nil (upperChar_ne_nil h)
    have hword := not_mem_raiseFirst hbody
    rw [raiseFirst, hupper, List.cons_append] at hword
    refine ⟨u, us ++ body, ?_, hword, h, hlow, hupper ▸ List.mem_cons_self⟩
    rw [toPascal, heq, dropWhile_lead_body eq_of_mem_lead hbody, raiseFirst, hupper,
      List.cons_append]

/-- A name in Pascal case is in Pascal case. -/
theorem toPascal_toPascal (cs : List Char) : toPascal (toPascal cs) = toPascal cs := by
  rcases toPascal_cases cs with ⟨-, hnone⟩ | ⟨u, body, hpascal, hword, h, hlow, hu⟩
  · rw [hnone]
    rfl
  · obtain ⟨l, hlower, hraise⟩ := exists_lowerChar_of_isHigh (isHigh_of_isLow hlow hu)
    -- the capital starts the only word, and lowering it is undone
    have hnot : l ≠ '_' := by
      rintro rfl
      refine hword ?_
      rw [eq_of_separator_mem_lowerChar (hlower ▸ List.mem_singleton_self '_') (.inl rfl)]
      exact List.mem_cons_self
    have hcamel : toCamel (u :: body) = l :: body := by
      have hlead : ∀ c ∈ ([] : List Char), c = '_' := fun _ hc => nomatch hc
      have hall := toCamel_lead_body hlead hword (List.cons_ne_nil _ _)
      rw [lowerFirst, hlower] at hall
      exact hall
    rw [hpascal, toPascal, hcamel, List.dropWhile_cons_of_neg (by simpa using hnot), raiseFirst,
      hraise]
    rfl

/-! ## All cases -/

/-- A digit right in front of a capital (ASCII). -/
def DigitBeforeCapital (s : String) : Prop :=
  ∃ c d, c.isDigit = true ∧ d.isUpper = true ∧ [c, d] <:+: s.toList

/-- Among raised letters only a digit breaks. -/
theorem hasBreak_upper {cs : List Char} :
    HasBreak (upper cs) ↔ ∃ c d, c.isDigit = true ∧ d.isUpper = true ∧ [c, d] <:+: upper cs := by
  constructor
  · rintro ⟨c, d, ⟨hsmall | hdigit, hcapital⟩, hin⟩
    · obtain ⟨e, -, hc⟩ := List.mem_flatMap.mp (hin.subset List.mem_cons_self)
      rw [isLower_of_mem_upperChar hc] at hsmall
      cases hsmall
    · exact ⟨c, d, hdigit, hcapital, hin⟩
  · rintro ⟨c, d, hdigit, hcapital, hin⟩
    exact ⟨c, d, ⟨.inr hdigit, hcapital⟩, hin⟩

/-- **A converted name is converted already**, unless snake case in capitals finds a digit in front
    of a capital that it has made itself. -/
theorem convert_convert_iff (case : NamingCase) (s : String) :
    case.convert (case.convert s) = case.convert s ↔
      (case = .screamingSnake → ¬ DigitBeforeCapital (case.convert s)) := by
  have hchars : case.convert (case.convert s) = case.convert s ↔
      case.convertChars (case.convertChars s.toList) = case.convertChars s.toList := by
    rw [convert, convert, String.toList_ofList, String.ofList_inj]
  rw [hchars]
  cases case with
  | camel => simpa [convertChars] using toCamel_toCamel s.toList
  | pascal => simpa [convertChars] using toPascal_toPascal s.toList
  | snake => simpa [convertChars] using toSnake_toSnake s.toList
  | screamingSnake =>
    have hdigit : DigitBeforeCapital (screamingSnake.convert s) ↔
        HasBreak (upper (toSnake s.toList)) := by
      rw [hasBreak_upper, DigitBeforeCapital, convert, String.toList_ofList]
      rfl
    rw [hdigit]
    simpa [convertChars] using screaming_screaming s.toList

end ThriftScala.NamingCase
