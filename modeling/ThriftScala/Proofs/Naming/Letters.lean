/-
  What a conversion leaves of a name.

  A case moves underscores and hyphens and changes letters to the other case, and nothing else.  So
  the letters of a name, read without separators and without the difference between upper and lower
  case, are the same before and after (`letters_convert`).  Two names that come out alike had the
  same letters.
-/
import ThriftScala.Proofs.Naming.Settled

namespace ThriftScala.NamingCase

open Text

/-- A text without separators. -/
def unseparated (cs : List Char) : List Char := cs.filter fun c => !decide (IsSeparator c)

/-- The letters of a text, without separators and letter case. -/
def lettersOf (cs : List Char) : List Char := foldCase (unseparated cs)

/-- The letters of a name, without separators and letter case. -/
def letters (name : String) : String := .ofList (lettersOf name.toList)

/-! ## Separators -/

/-- Separators are left out of both parts. -/
theorem unseparated_append (cs ds : List Char) :
    unseparated (cs ++ ds) = unseparated cs ++ unseparated ds := List.filter_append ..

theorem unseparated_cons_separator {c : Char} (hc : IsSeparator c) (cs : List Char) :
    unseparated (c :: cs) = unseparated cs := List.filter_cons_of_neg (by simpa using hc)

/-- A character in front changes nothing about what stands behind it. -/
theorem unseparated_cons {c : Char} {cs ds : List Char} (h : unseparated cs = unseparated ds) :
    unseparated (c :: cs) = unseparated (c :: ds) := by
  rw [unseparated, unseparated, List.filter_cons, List.filter_cons, ← unseparated, h]
  rfl

/-- Breaking words puts separators in and nothing else. -/
theorem unseparated_breakWords (cs : List Char) : unseparated (breakWords cs) = unseparated cs := by
  fun_induction breakWords cs with
  | case1 c d r _ ih =>
    exact unseparated_cons ((unseparated_cons_separator (.inl rfl) _).trans ih)
  | case2 c d r _ ih => exact unseparated_cons ih
  | case3 cs _ => rfl

/-- Collapsing takes separators away and nothing else. -/
theorem unseparated_collapse (cs : List Char) : unseparated (collapse cs) = unseparated cs := by
  fun_induction collapse cs with
  | case1 r ih => rw [ih, unseparated_cons_separator (.inl rfl) ('_' :: r)]
  | case2 c r _ ih => exact unseparated_cons ih
  | case3 => rfl

/-- Underscores in front are separators. -/
theorem unseparated_dropWhile (cs : List Char) :
    unseparated (cs.dropWhile (· == '_')) = unseparated cs := by
  induction cs with
  | nil => rfl
  | cons c cs ih =>
    by_cases hc : c = '_'
    · rw [List.dropWhile_cons_of_pos (by simpa using hc), ih,
        unseparated_cons_separator (.inl hc)]
    · rw [List.dropWhile_cons_of_neg (by simpa using hc)]

/-- Underscores at both ends are separators. -/
theorem unseparated_trimWhile (cs : List Char) :
    unseparated (trimWhile (· == '_') cs) = unseparated cs := by
  have hreverse : ∀ ds : List Char, unseparated ds.reverse = (unseparated ds).reverse := fun ds =>
    List.filter_reverse ..
  rw [trimWhile, hreverse, unseparated_dropWhile, hreverse, List.reverse_reverse,
    unseparated_dropWhile]

/-- A hyphen and the underscore that replaces it are separators. -/
theorem unseparated_hyphens (cs : List Char) :
    unseparated (cs.map fun c => if c = '-' then '_' else c) = unseparated cs := by
  induction cs with
  | nil => rfl
  | cons c cs ih =>
    rw [List.map_cons]
    split
    · rename_i hc
      rw [unseparated_cons_separator (.inl rfl), unseparated_cons_separator (.inr hc), ih]
    · exact unseparated_cons ih

/-- The words hold everything but the underscores. -/
theorem unseparated_words (cs : List Char) : unseparated (words cs).flatten = unseparated cs := by
  induction cs with
  | nil => rfl
  | cons c cs ih =>
    by_cases hc : c = '_'
    · rw [hc, words_cons_underscore, ih, unseparated_cons_separator (.inl rfl)]
    · obtain ⟨l, ls, hsplit⟩ := List.exists_cons_of_ne_nil (splitAt_ne_nil '_' cs)
      have hwords : (words (c :: cs)).flatten = c :: (words cs).flatten := by
        rw [words, words, splitAt, if_neg hc, hsplit, List.filter_cons_of_pos rfl,
          List.flatten_cons, List.cons_append]
        cases l with
        | nil => rfl
        | cons d l => rw [List.filter_cons_of_pos rfl, List.flatten_cons]
      rw [hwords]
      exact unseparated_cons ih

/-! ## Letter case -/

/-- The letters of a text are those of its parts in order. -/
theorem lettersOf_append (cs ds : List Char) :
    lettersOf (cs ++ ds) = lettersOf cs ++ lettersOf ds := by
  rw [lettersOf, unseparated_append, foldCase_append, ← lettersOf, ← lettersOf]

/-- What keeps the letters of each word keeps those of all words. -/
theorem lettersOf_flatMap {f : List Char → List Char} (h : ∀ cs, lettersOf (f cs) = lettersOf cs)
    (ws : List (List Char)) : lettersOf (ws.flatMap f) = lettersOf ws.flatten := by
  induction ws with
  | nil => rfl
  | cons w ws ih =>
    rw [List.flatMap_cons, List.flatten_cons, lettersOf_append, lettersOf_append, h, ih]

/-- What a letter becomes in the other case has its letters. -/
theorem lettersOf_piece {c : Char} {p : List Char} (hkeep : IsSeparator c → p = [c])
    (hnew : ∀ d ∈ p, IsSeparator d → d = c) (hfold : foldCase p = foldChar c) :
    lettersOf p = lettersOf [c] := by
  by_cases hc : IsSeparator c
  · rw [hkeep hc]
  · have hpiece : unseparated p = p := by
      refine List.filter_eq_self.mpr fun d hd => ?_
      have hd : ¬ IsSeparator d := fun hsep => hc (hnew d hd hsep ▸ hsep)
      simpa using hd
    have hletter : unseparated [c] = [c] := List.filter_cons_of_pos (by simpa using hc)
    rw [lettersOf, lettersOf, hpiece, hletter, hfold, foldCase, List.flatMap_singleton]

/-- Lowering keeps a letter as it is seen without case. -/
theorem lettersOf_lowerChar (c : Char) : lettersOf (lowerChar c) = lettersOf [c] := by
  refine lettersOf_piece ?_ (fun d hd => eq_of_separator_mem_lowerChar hd) (foldCase_lowerChar c)
  rintro (rfl | rfl) <;> decide

/-- Raising keeps a letter as it is seen without case. -/
theorem lettersOf_upperChar (c : Char) : lettersOf (upperChar c) = lettersOf [c] := by
  refine lettersOf_piece ?_ (fun d hd => eq_of_separator_mem_upperChar hd) (foldCase_upperChar c)
  rintro (rfl | rfl) <;> decide

/-- Lowering the first character keeps the letters. -/
theorem lettersOf_lowerFirst (cs : List Char) : lettersOf (lowerFirst cs) = lettersOf cs := by
  cases cs with
  | nil => rfl
  | cons c cs =>
    rw [lowerFirst, lettersOf_append, lettersOf_lowerChar, ← lettersOf_append]
    rfl

/-- Raising the first character keeps the letters. -/
theorem lettersOf_raiseFirst (cs : List Char) : lettersOf (raiseFirst cs) = lettersOf cs := by
  cases cs with
  | nil => rfl
  | cons c cs =>
    rw [raiseFirst, lettersOf_append, lettersOf_upperChar, ← lettersOf_append]
    rfl

/-- Raising a text keeps the letters. -/
theorem lettersOf_upper (cs : List Char) : lettersOf (upper cs) = lettersOf cs := by
  induction cs with
  | nil => rfl
  | cons c cs ih =>
    rw [upper, List.flatMap_cons, lettersOf_append, lettersOf_upperChar, ← upper, ih,
      ← lettersOf_append]
    rfl

/-- Lowering a text keeps the letters, whatever stands in front of it. -/
theorem lettersOf_lowerFrom : ∀ (afterCased : Bool) (cs : List Char),
    lettersOf (lowerFrom afterCased cs) = lettersOf cs
  | _, [] => rfl
  | afterCased, c :: cs => by
    have hhere : lettersOf (if c = 'Σ' then [if afterCased && !casedNext cs then 'ς' else 'σ']
        else lowerChar c) = lettersOf [c] := by
      split
      · rename_i hc
        subst hc
        split <;> decide
      · exact lettersOf_lowerChar c
    rw [lowerFrom, lettersOf_append, hhere, lettersOf_lowerFrom, ← lettersOf_append]
    rfl

/-! ## Names -/

/-- Camel case keeps the letters. -/
theorem lettersOf_toCamel (cs : List Char) : lettersOf (toCamel cs) = lettersOf cs := by
  cases hwords : words cs with
  | nil => rw [toCamel, hwords]
  | cons w ws =>
    have hlead : lettersOf (cs.takeWhile (· == '_')) = [] := by
      have hnone : unseparated (cs.takeWhile (· == '_')) = [] := by
        rw [unseparated, List.filter_eq_nil_iff]
        intro c hc
        simp [IsSeparator, eq_of_mem_lead c hc]
      rw [lettersOf, hnone]
      rfl
    rw [toCamel, hwords, lettersOf_append, lettersOf_append, hlead, lettersOf_lowerFirst,
      lettersOf_flatMap lettersOf_raiseFirst, List.nil_append, ← lettersOf_append,
      ← List.flatten_cons, ← hwords, lettersOf, unseparated_words, ← lettersOf]

/-- Snake case keeps the letters. -/
theorem lettersOf_toSnake (cs : List Char) : lettersOf (toSnake cs) = lettersOf cs := by
  rw [toSnake, lettersOf, unseparated_trimWhile, unseparated_collapse, ← lettersOf, lower,
    lettersOf_lowerFrom, lettersOf, unseparated_breakWords, unseparated_hyphens, ← lettersOf]

/-- **Every case keeps the letters of a name.** -/
theorem lettersOf_convertChars (case : NamingCase) (cs : List Char) :
    lettersOf (case.convertChars cs) = lettersOf cs := by
  cases case with
  | camel => exact lettersOf_toCamel cs
  | pascal =>
    rw [convertChars, toPascal, lettersOf_raiseFirst, lettersOf, unseparated_dropWhile, ← lettersOf,
      lettersOf_toCamel]
  | snake => exact lettersOf_toSnake cs
  | screamingSnake =>
    rw [convertChars, lettersOf_upper, lettersOf_toSnake]

/-- **A name has the same letters in every case.** -/
theorem letters_convert (case : NamingCase) (s : String) :
    letters (case.convert s) = letters s := by
  rw [letters, letters, convert, String.toList_ofList, lettersOf_convertChars]

end ThriftScala.NamingCase
