/-
  Text literals and integers are read back.

  A character is written as itself or as an escape, and either is read as that character
  (`readText_escapedChar`), so a text literal is read as its text.  The digits of a number are taken
  up to the first character that is none; a number has no zero in front, so the reader takes all of
  them.  What follows a number must not go on with it: `Stops` says that a comma or a line break
  comes next, or nothing.
-/
import Mathlib.Tactic.SplitIfs
import ThriftScala.Json.Reader
import ThriftScala.Json.Writer

namespace ThriftScala.Json

/-! ## Texts -/

theorem hexValue_hexDigit {n : Nat} (h : n < 16) : hexValue? (Text.hexDigit n) = some n := by
  have hall : ∀ m < 16, hexValue? (Text.hexDigit m) = some m := by decide
  exact hall n h

/-- The four digits of a unit are read as the unit. -/
theorem hexDigits_unit {n : Nat} (h : n < 0x10000) :
    ∃ a b c d, Text.hexDigits 4 n = [a, b, c, d] ∧ hexValue4? a b c d = some n := by
  refine ⟨Text.hexDigit (n / 16 / 16 / 16 % 16), Text.hexDigit (n / 16 / 16 % 16),
    Text.hexDigit (n / 16 % 16), Text.hexDigit (n % 16), rfl, ?_⟩
  have hdigit : ∀ m, hexValue? (Text.hexDigit (m % 16)) = some (m % 16) := fun m =>
    hexValue_hexDigit (Nat.mod_lt m (by decide))
  have hvalue : ((n / 16 / 16 / 16 % 16 * 16 + n / 16 / 16 % 16) * 16 + n / 16 % 16) * 16 + n % 16 =
      n := by omega
  simp only [hexValue4?, hdigit, Option.bind_eq_bind, Option.bind_some, hvalue, Option.pure_def]

/-- **What is written for a character**: a short escape of it, the escape of its code if it is
    another control, or the character itself. -/
theorem escapedChar_cases (c : Char) :
    (∃ e, escapedChar c = ['\\', e] ∧ simpleEscape? e = some c) ∨
    (escapedChar c = '\\' :: 'u' :: Text.hexDigits 4 c.toNat ∧ c.toNat < 0x20) ∨
    (escapedChar c = [c] ∧ 0x20 ≤ c.toNat ∧ c ≠ '"' ∧ c ≠ '\\') := by
  unfold escapedChar
  by_cases hquote : c = '"'
  · exact .inl ⟨'"', if_pos hquote, by rw [hquote]; rfl⟩
  rw [if_neg hquote]
  by_cases hslash : c = '\\'
  · exact .inl ⟨'\\', if_pos hslash, by rw [hslash]; rfl⟩
  rw [if_neg hslash]
  by_cases hn : c = '\n'
  · exact .inl ⟨'n', if_pos hn, by rw [hn]; rfl⟩
  rw [if_neg hn]
  by_cases hr : c = '\r'
  · exact .inl ⟨'r', if_pos hr, by rw [hr]; rfl⟩
  rw [if_neg hr]
  by_cases ht : c = '\t'
  · exact .inl ⟨'t', if_pos ht, by rw [ht]; rfl⟩
  rw [if_neg ht]
  by_cases hb : c = '\x08'
  · exact .inl ⟨'b', if_pos hb, by rw [hb]; rfl⟩
  rw [if_neg hb]
  by_cases hf : c = '\x0c'
  · exact .inl ⟨'f', if_pos hf, by rw [hf]; rfl⟩
  rw [if_neg hf]
  by_cases hcontrol : c.toNat < 0x20
  · exact .inr (.inl ⟨if_pos hcontrol, hcontrol⟩)
  · exact .inr (.inr ⟨if_neg hcontrol, Nat.le_of_not_lt hcontrol, hquote, hslash⟩)

/-- **One character is read back**, if something follows it. -/
theorem readText_escapedChar (start : Nat) (c : Char) {r : List Char} (hr : r ≠ []) :
    readText start (escapedChar c ++ r) = after c (readText start r) := by
  rcases escapedChar_cases c with
    ⟨e, hchar, hescape⟩ | ⟨hchar, hcontrol⟩ | ⟨hchar, hcontrol, hquote, hslash⟩
  · have hne : e ≠ 'u' := by
      rintro rfl
      cases hescape
    rw [hchar, List.cons_append, List.cons_append, List.nil_append, readText, hescape]
    · rintro x₁ x₂ x₃ x₄ r' rfl
      exact absurd rfl hne
    · exact hne
  · obtain ⟨x₁, x₂, x₃, x₄, hdigits, hvalue⟩ := hexDigits_unit (Nat.lt_trans hcontrol (by decide))
    -- a control character is no half of a pair, so its escape is read alone
    have hhigh : isHighHalf c.toNat = false := by
      simp only [isHighHalf, Bool.and_eq_false_iff, decide_eq_false_iff_not]
      omega
    have hlow : isLowHalf c.toNat = false := by
      simp only [isLowHalf, Bool.and_eq_false_iff, decide_eq_false_iff_not]
      omega
    have hrest : r.isEmpty = false := by simpa using hr
    rw [hchar, hdigits]
    simp [readText, hvalue, hhigh, hlow, hrest, unitChar, Char.ofNat_toNat]
  · have hplain : readText start (c :: r) =
        if c.toNat < 0x20 then .error ⟨.controlCharacter, r.length + 1⟩
        else after c (readText start r) := by
      rw [readText] <;> simp_all
    rw [hchar, List.singleton_append, hplain, if_neg (Nat.not_lt.mpr hcontrol)]

/-- **A text is read back** up to its closing quote. -/
theorem readText_escaped (start : Nat) (cs r : List Char) :
    readText start (cs.flatMap escapedChar ++ '"' :: r) = .ok (cs, r) := by
  induction cs with
  | nil => simp [readText]
  | cons c cs ih =>
    rw [List.flatMap_cons, List.append_assoc, readText_escapedChar start c (by simp), ih]
    rfl

theorem toList_writeText (s : String) :
    (writeText s).toList = '"' :: (s.toList.flatMap escapedChar ++ ['"']) := by
  simp [writeText]

/-! ## Numbers -/

/-- What follows a value: a comma, a line break, or nothing. -/
def Stops : List Char → Prop
  | [] => True
  | c :: _ => c = ',' ∨ c = '\n'

theorem not_isDigit_of_stops {c : Char} {r : List Char} (h : Stops (c :: r)) :
    c.isDigit = false := by
  rcases h with rfl | rfl <;> rfl

/-- The digits in front end where a value ends. -/
theorem digits_append {ds r : List Char} (hds : ∀ d ∈ ds, d.isDigit) (hr : Stops r) :
    digits (ds ++ r) = ds := by
  rw [digits, List.takeWhile_append_of_pos hds]
  cases r with
  | nil => simp
  | cons c r => simp [not_isDigit_of_stops hr]

theorem readFraction_of_stops {r : List Char} (h : Stops r) : readFraction r = ([], r) := by
  cases r with
  | nil => rfl
  | cons c r => rcases h with rfl | rfl <;> rfl

theorem readExponent_of_stops {r : List Char} (h : Stops r) : readExponent r = (none, r) := by
  cases r with
  | nil => rfl
  | cons c r => rcases h with rfl | rfl <;> rfl

theorem digitsValue_toDigits (n : Nat) : digitsValue (Nat.toDigits 10 n) = n := by
  have h := Nat.ofDigitChars_toDigits (b := 10) (n := n) (by decide) (by decide)
  rwa [Nat.ofDigitChars_eq_foldl] at h

theorem isDigit_of_mem_toDigits {n : Nat} {d : Char} (h : d ∈ Nat.toDigits 10 n) : d.isDigit :=
  Nat.isDigit_of_mem_toDigits (by decide) (by decide) h

/-- A number begins with a digit. -/
theorem exists_toDigits_cons (n : Nat) : ∃ d ds, Nat.toDigits 10 n = d :: ds ∧ d.isDigit := by
  obtain ⟨d, ds, hcons⟩ := List.exists_cons_of_ne_nil (Nat.toDigits_ne_nil (n := n) (b := 10))
  exact ⟨d, ds, hcons, isDigit_of_mem_toDigits (n := n) (by simp [hcons])⟩

/-- A number other than zero has no zero in front. -/
theorem head?_toDigits_ne {n : Nat} (h : n ≠ 0) : (Nat.toDigits 10 n).head? ≠ some '0' := by
  induction n using Nat.strongRecOn with
  | ind n ih =>
    by_cases hsmall : n < 10
    · have hall : ∀ m < 10, m ≠ 0 → Nat.digitChar m ≠ '0' := by decide
      rw [Nat.toDigits_of_lt_base hsmall]
      simpa using hall n hsmall h
    · have hfront := ih (n / 10) (by omega) (by omega)
      obtain ⟨d, ds, hcons, -⟩ := exists_toDigits_cons (n / 10)
      rw [Nat.toDigits_of_base_le (by decide) (Nat.le_of_not_lt hsmall)]
      rw [hcons] at hfront ⊢
      exact hfront

/-- **The digits of a number are read back.** -/
theorem readUnsigned_toDigits (negative : Bool) (n : Nat) {r : List Char} (hr : Stops r) :
    readUnsigned? negative (Nat.toDigits 10 n ++ r) =
      some (.int (if negative then -n else n), r) := by
  by_cases hn : n = 0
  · subst hn
    simp [readUnsigned?, readFraction_of_stops hr, readExponent_of_stops hr, digitsValue]
  · have hdigits := digits_append (fun _ => isDigit_of_mem_toDigits (n := n)) hr
    have hvalue := digitsValue_toDigits n
    have hhead := head?_toDigits_ne hn
    obtain ⟨d, ds, hcons, -⟩ := exists_toDigits_cons n
    rw [hcons] at hdigits hvalue hhead ⊢
    -- a zero in front would be taken for the whole number
    have hd : d ≠ '0' := by simpa using hhead
    rw [List.cons_append] at hdigits ⊢
    simp [readUnsigned?, hd, hdigits, readFraction_of_stops hr, readExponent_of_stops hr, hvalue]

/-- The text of a number: a minus in front if it is negative, and its digits. -/
theorem toList_toString_int (n : Int) : (toString n).toList =
    if 0 ≤ n then Nat.toDigits 10 n.toNat else '-' :: Nat.toDigits 10 (-n).toNat := by
  have hrepr : toString n = n.repr := rfl
  rw [hrepr, Int.repr_eq_if]
  split <;> simp [Nat.repr_eq_ofList_toDigits]

/-- The text of a number begins with a minus or a digit. -/
theorem exists_toString_cons (n : Int) :
    ∃ c cs, (toString n).toList = c :: cs ∧ (c = '-' ∨ c.isDigit) := by
  rw [toList_toString_int]
  split
  · obtain ⟨d, ds, hcons, hdigit⟩ := exists_toDigits_cons n.toNat
    exact ⟨d, ds, hcons, .inr hdigit⟩
  · exact ⟨'-', _, rfl, .inl rfl⟩

/-- What begins with a digit is a number without a sign. -/
theorem readNumber_digit {d : Char} (h : d.isDigit) (cs : List Char) :
    readNumber? (d :: cs) = readUnsigned? false (d :: cs) := by
  rw [readNumber?]
  all_goals
    rintro _ heq
    cases heq
    simp at h

/-- A minus with a digit after it is the sign of a number. -/
theorem readNumber_minus {d : Char} (h : d.isDigit) (cs : List Char) :
    readNumber? ('-' :: d :: cs) = readUnsigned? true (d :: cs) := by
  rw [readNumber?]
  rintro _ heq
  cases heq
  simp at h

/-- **A number is read back.** -/
theorem readNumber_toString (n : Int) {r : List Char} (hr : Stops r) :
    readNumber? ((toString n).toList ++ r) = some (.int n, r) := by
  rw [toList_toString_int]
  split
  · rename_i hn
    have hunsigned := readUnsigned_toDigits false n.toNat hr
    obtain ⟨d, ds, hcons, hdigit⟩ := exists_toDigits_cons n.toNat
    rw [hcons, List.cons_append] at hunsigned ⊢
    rw [readNumber_digit hdigit, hunsigned]
    simp [Int.toNat_of_nonneg hn]
  · rename_i hn
    have hunsigned := readUnsigned_toDigits true (-n).toNat hr
    obtain ⟨d, ds, hcons, hdigit⟩ := exists_toDigits_cons (-n).toNat
    rw [hcons, List.cons_append] at hunsigned
    rw [hcons, List.cons_append, List.cons_append, readNumber_minus hdigit, hunsigned]
    have hback : -((-n).toNat : Int) = n := by omega
    simp only [if_true, hback]

/-- Different numbers have different texts. -/
theorem toString_int_inj {m n : Int} (h : toString m = toString n) : m = n := by
  have hm := readNumber_toString m (r := []) trivial
  rw [h, readNumber_toString n (r := []) trivial] at hm
  simpa using hm.symm

end ThriftScala.Json
