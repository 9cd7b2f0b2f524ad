/-
  What converted names look like.

  1. **Nothing is lost.**  A name and its conversions have the same letters when separators and
     letter case do not count (`lettersOf_convertChars`).  Letter case is taken away there by raising
     what was lowered; among the letters of ASCII lowering undoes the raising
     (`lower_eq_flatMap_fold`), so the same holds of names without separators in lower case.

  2. **The shape of each case.**  Snake case gives words in lower case with single underscores
     between them, and the capitals of such a text have its underscores where they were
     (`screaming_spec`).  Camel case gives the leading underscores and one word that starts small,
     and Pascal case one word that starts with a capital (`toCamel_cases`, `toPascal_cases`).

  The main statement puts both together for names of ASCII (`convert_reaches_normal_form`).
-/
import ThriftScala.Proofs.Naming.Letters

namespace ThriftScala.Text

/-! ## ASCII -/

/-- Is the character one of ASCII? -/
def isAscii (c : Char) : Bool := c.toNat < 128

/-- Are all characters of ASCII? -/
def IsAscii (cs : List Char) : Prop := ∀ c ∈ cs, isAscii c = true

instance (cs : List Char) : Decidable (IsAscii cs) := List.decidableBAll _ _

theorem keptByCase_isAscii : KeptByCase (isAscii · = true) :=
  .of_ascii (fun _ => of_decide_eq_true) rfl (by decide)

/-- Letters of ASCII that were lowered and raised are found again when they are lowered. -/
theorem lowerChar_foldChar {c : Char} (hc : isAscii c = true) :
    (foldChar c).flatMap lowerChar = lowerChar c := by
  have hall : ((List.range 128).all fun n =>
      (foldChar (Char.ofNat n)).flatMap lowerChar == lowerChar (Char.ofNat n)) = true := by decide
  have hnumber := List.all_eq_true.mp hall c.toNat (List.mem_range.mpr (of_decide_eq_true hc))
  rwa [Char.ofNat_toNat, beq_iff_eq] at hnumber

/-- **The lower case of an ASCII text can be made from its fold.** -/
theorem lower_eq_flatMap_fold {cs : List Char} (h : IsAscii cs) :
    lower cs = (foldCase cs).flatMap lowerChar := by
  -- what stands before a letter does not matter, for none of the letters is a sigma
  have hfrom : ∀ afterCased, lowerFrom afterCased cs = (foldCase cs).flatMap lowerChar := by
    induction cs with
    | nil => exact fun _ => rfl
    | cons c cs ih =>
      intro afterCased
      have hsigma : c ≠ 'Σ' := by
        rintro rfl
        exact absurd (h 'Σ' List.mem_cons_self) (by decide)
      have hrest := ih fun d hd => h d (List.mem_cons_of_mem c hd)
      have hfold : foldCase (c :: cs) = foldChar c ++ foldCase cs := List.flatMap_cons
      rw [lowerFrom, if_neg hsigma, hrest, hfold, List.flatMap_append,
        lowerChar_foldChar (h c List.mem_cons_self)]
  exact hfrom false

end ThriftScala.Text

/-- Is the text one of ASCII? -/
def String.IsAscii (s : String) : Prop := ThriftScala.Text.IsAscii s.toList

instance (s : String) : Decidable s.IsAscii :=
  inferInstanceAs (Decidable (ThriftScala.Text.IsAscii _))

namespace ThriftScala.NamingCase

open Text

/-- The word characters of a name: it without underscores and hyphens, in lower case. -/
def wordCharacters (name : String) : String := (String.ofList (unseparated name.toList)).lowered

/-- A conversion keeps an ASCII name one. -/
theorem isAscii_convert (case : NamingCase) {s : String} (h : s.IsAscii) :
    (case.convert s).IsAscii := by
  unfold String.IsAscii convert
  rw [String.toList_ofList]
  exact kept_convertChars keptByCase_isAscii case h

/-- **No word character is lost, and none is new.** -/
theorem wordCharacters_convert (case : NamingCase) {s : String} (h : s.IsAscii) :
    wordCharacters (case.convert s) = wordCharacters s := by
  have hlower {cs : List Char} (hcs : IsAscii cs) :
      lower (unseparated cs) = (lettersOf cs).flatMap lowerChar :=
    lower_eq_flatMap_fold fun c hc => hcs c (List.mem_of_mem_filter hc)
  have hconverted : IsAscii (case.convertChars s.toList) :=
    kept_convertChars keptByCase_isAscii case h
  have hsame : lower (unseparated (case.convertChars s.toList)) = lower (unseparated s.toList) := by
    rw [hlower hconverted, hlower h, lettersOf_convertChars]
  unfold wordCharacters String.lowered convert
  simp only [String.toList_ofList, hsame]

/-- Snake case in capitals: words without small letters, with single underscores between them. -/
theorem screaming_spec (cs : List Char) :
    IsSpaced (upper (toSnake cs)) ∧ '-' ∉ upper (toSnake cs) ∧
      ∀ c ∈ upper (toSnake cs), c.isLower = false := by
  obtain ⟨hspaced, hhyphen, -⟩ := toSnake_spec cs
  have hraised := recases_upper (toSnake cs)
  refine ⟨hraised.isSpaced hspaced, fun h => hhyphen ((hraised.mem_iff (.inr rfl)).mp h), ?_⟩
  intro c hc
  obtain ⟨l, -, hc⟩ := List.mem_flatMap.mp hc
  exact isLower_of_mem_upperChar hc

/-- **Conversions keep the word characters and reach the form of their case.**  Every conversion of
    an ASCII name is one and has its word characters.  In snake case there are no capitals, in snake
    case in capitals no small letters, and in both neither hyphens nor underscores other than single
    ones between words.  A name with something else than underscores is in camel case its leading
    underscores and a word without underscores that does not start with a capital.  In Pascal case
    there is no underscore, and no small letter at the start. -/
theorem convert_reaches_normal_form {s : String} (h : s.IsAscii) :
    (∀ case : NamingCase, (case.convert s).IsAscii ∧
      wordCharacters (case.convert s) = wordCharacters s) ∧
    (IsSpaced (snake.convert s).toList ∧ '-' ∉ (snake.convert s).toList ∧
      ∀ c ∈ (snake.convert s).toList, c.isUpper = false) ∧
    (IsSpaced (screamingSnake.convert s).toList ∧ '-' ∉ (screamingSnake.convert s).toList ∧
      ∀ c ∈ (screamingSnake.convert s).toList, c.isLower = false) ∧
    ((∃ c ∈ s.toList, c ≠ '_') → ∃ first rest,
      (camel.convert s).toList = s.toList.takeWhile (· == '_') ++ first :: rest ∧
        '_' ∉ first :: rest ∧ first.isUpper = false) ∧
    '_' ∉ (pascal.convert s).toList ∧
      ∀ c ∈ (pascal.convert s).toList.head?, c.isLower = false := by
  have hchars (case : NamingCase) : (case.convert s).toList = case.convertChars s.toList := by
    rw [convert, String.toList_ofList]
  simp only [hchars, convertChars]
  refine ⟨fun case => ⟨case.isAscii_convert h, wordCharacters_convert case h⟩, ?_, ?_, ?_, ?_⟩
  · obtain ⟨hspaced, hhyphen, hlow⟩ := toSnake_spec s.toList
    exact ⟨hspaced, hhyphen, fun c hc => isUpper_of_isLow (hlow c hc)⟩
  · exact screaming_spec s.toList
  · rintro ⟨c, hc, hne⟩
    rcases toCamel_cases s.toList with ⟨hall, -⟩ | ⟨first, rest, heq, hword, hlow⟩
    · exact absurd (hall c hc) hne
    · exact ⟨first, rest, heq, hword, isUpper_of_isLow hlow⟩
  · rcases toPascal_cases s.toList with ⟨-, heq⟩ | ⟨u, body, heq, hword, l, -, hu⟩
    · rw [heq]
      refine ⟨List.not_mem_nil, fun c hc => ?_⟩
      cases hc
    · rw [heq]
      refine ⟨hword, fun c hc => ?_⟩
      obtain rfl : u = c := Option.some.inj hc
      exact isLower_of_mem_upperChar hu

/-- A name with everything: underscores at both ends and in a row, a hyphen, capitals and digits. -/
theorem mixed_name_in_every_case :
    let s := "__user-ID__nameX2Y_"
    s.IsAscii ∧ (∃ c ∈ s.toList, c ≠ '_') ∧
      all.map (·.convert s) =
        ["__user-IDNameX2Y", "User-IDNameX2Y", "user_id_name_x2_y", "USER_ID_NAME_X2_Y"] ∧
      wordCharacters s = "useridnamex2y" ∧
      (∀ case : NamingCase, wordCharacters (case.convert s) = "useridnamex2y") ∧
      IsSpaced (snake.convert s).toList ∧
      ∃ first rest, (camel.convert s).toList = ['_', '_'] ++ first :: rest ∧
        '_' ∉ first :: rest ∧ first.isUpper = false := by
  intro s
  have hascii : s.IsAscii := by decide
  have hother : ∃ c ∈ s.toList, c ≠ '_' := ⟨'u', by decide, by decide⟩
  have hword : wordCharacters s = "useridnamex2y" := by decide
  have hlead : s.toList.takeWhile (· == '_') = ['_', '_'] := by decide
  obtain ⟨hkept, ⟨hspaced, -⟩, -, hcamel, -⟩ := convert_reaches_normal_form hascii
  rw [hlead] at hcamel
  refine ⟨hascii, hother, by decide, hword, fun case => ?_, hspaced, hcamel hother⟩
  rw [(hkept case).2, hword]

end ThriftScala.NamingCase
