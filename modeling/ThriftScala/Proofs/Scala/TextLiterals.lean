/-
  A text literal stands for the text that it was made from.

  1. **What a literal says.**  Inside a literal a backslash begins an escape, either of one character
     or of a unit of sixteen bits; everything else stands for itself.  `readUnits` takes escapes and
     characters together as units, and `joinUnits` puts the units back together, where two halves
     make one character.  `readLiteral` does both.

  2. **What is written for a character** (`literalChar_cases`): a short escape, the character
     itself, or the escapes of its units.  All facts on literals follow from this one, character by
     character, with any rest behind: the reader takes the units of the character and goes on with
     the rest (`readUnits_literalChar`), and no quote stands open (`hasBareQuote_literalChar`).

  3. **Halves.**  A character is never one half, so where the units of a character end the next
     character begins (`joinUnits_units`).
-/
import ThriftScala.Proofs.Json.Tokens
import ThriftScala.Scala.Literal

namespace ThriftScala.Scala

/-! ## The meaning of a literal -/

/-- The character that a short escape stands for, by the character behind the backslash. -/
def shortEscape? : Char → Option Char
  | '"' => some '"'
  | '\\' => some '\\'
  | 'n' => some '\n'
  | 'r' => some '\r'
  | 't' => some '\t'
  | 'b' => some '\x08'
  | 'f' => some '\x0c'
  | _ => none

/-- The units of sixteen bits of a character: one, or two halves beyond the first plane. -/
def units (c : Char) : List Nat :=
  if c.toNat < 0x10000 then [c.toNat]
  else [0xD800 + (c.toNat - 0x10000) / 0x400, 0xDC00 + (c.toNat - 0x10000) % 0x400]

/-- The units that the inside of a literal stands for; none if it is no inside, because a quote or
    a line end stands in it or a backslash begins no escape. -/
def readUnits : List Char → Option (List Nat)
  | [] => some []
  | '\\' :: 'u' :: x₁ :: x₂ :: x₃ :: x₄ :: r => do
    let n ← Json.hexValue4? x₁ x₂ x₃ x₄
    let us ← readUnits r
    pure (n :: us)
  | '\\' :: e :: r => do
    let c ← shortEscape? e
    let us ← readUnits r
    pure (units c ++ us)
  | c :: r =>
    if c = '"' ∨ c = '\\' ∨ c = '\n' ∨ c = '\r' then none
    else (readUnits r).map (units c ++ ·)

/-- The characters of units; none if a half has no other half. -/
def joinUnits : List Nat → Option (List Char)
  | [] => some []
  | u :: us =>
    if Json.isHighHalf u then
      match us with
      | low :: us =>
        if Json.isLowHalf low then (joinUnits us).map (Json.joinHalves u low :: ·) else none
      | [] => none
    else if Json.isLowHalf u then none
    else (joinUnits us).map (Char.ofNat u :: ·)

/-- The text that the inside of a literal stands for, if it stands for one. -/
def readLiteral (inside : String) : Option String := do
  let us ← readUnits inside.toList
  let cs ← joinUnits us
  pure (.ofList cs)

/-- Does a quote stand here without a backslash that belongs to it?  It would end the literal. -/
def hasBareQuote : List Char → Bool
  | [] => false
  | '\\' :: _ :: r => hasBareQuote r
  | c :: r => c == '"' || hasBareQuote r

/-- Is the character one of printable ASCII? -/
def isPrintableAscii (c : Char) : Bool := 0x20 ≤ c.toNat && c.toNat < 0x7F

/-! ## What is written for a character -/

/-- The codes of characters end where halves can no longer reach. -/
theorem toNat_lt (c : Char) : c.toNat < 0x110000 := by
  rcases c.valid with hc | ⟨-, hc⟩
  · exact Nat.lt_trans hc (by decide)
  · exact hc

/-- A unit has sixteen bits. -/
theorem units_lt {c : Char} {u : Nat} (h : u ∈ units c) : u < 0x10000 := by
  have hmax := toNat_lt c
  unfold units at h
  split at h
  · rw [List.mem_singleton] at h
    omega
  · simp only [List.mem_cons, List.not_mem_nil, or_false] at h
    omega

/-- **What is written for a character**: a short escape of it, the character itself, or an escape
    for each of its units. -/
theorem literalChar_cases (c : Char) :
    (∃ e, literalChar c = ['\\', e] ∧ shortEscape? e = some c) ∨
    (literalChar c = [c] ∧ isPrintableAscii c ∧ c ≠ '"' ∧ c ≠ '\\') ∨
    literalChar c = (units c).flatMap unitEscape := by
  unfold literalChar
  by_cases hquote : c = '"'
  · exact .inl ⟨'"', if_pos hquote, by rw [hquote]; rfl⟩
  rw [if_neg hquote]
  by_cases hslash : c = '\\'
  · exact .inl ⟨'\\', if_pos hslash, by rw [hslash]; rfl⟩
  rw [if_neg hslash]
  by_cases hn : c = '\n'
  · exact .inl ⟨'n', if_pos hn, by rw [hn]; rfl⟩
  rw [if_neg hn]
  by_cases hr : c = '\r'
  · exact .inl ⟨'r', if_pos hr, by rw [hr]; rfl⟩
  rw [if_neg hr]
  by_cases ht : c = '\t'
  · exact .inl ⟨'t', if_pos ht, by rw [ht]; rfl⟩
  rw [if_neg ht]
  by_cases hb : c = '\x08'
  · exact .inl ⟨'b', if_pos hb, by rw [hb]; rfl⟩
  rw [if_neg hb]
  by_cases hf : c = '\x0c'
  · exact .inl ⟨'f', if_pos hf, by rw [hf]; rfl⟩
  rw [if_neg hf]
  by_cases hplain : 0x20 ≤ c.toNat ∧ c.toNat < 0x7F
  · exact .inr (.inl ⟨if_pos hplain, by simpa [isPrintableAscii] using hplain, hquote, hslash⟩)
  rw [if_neg hplain]
  refine .inr (.inr ?_)
  by_cases hsmall : c.toNat ≤ 0xFFFF
  · rw [if_pos hsmall, units, if_pos (Nat.lt_succ_of_le hsmall), List.flatMap_singleton]
  · rw [if_neg hsmall, units, if_neg (by omega), List.flatMap_cons, List.flatMap_singleton]

/-- A short escape is made of printable characters. -/
theorem isPrintableAscii_of_shortEscape {e c : Char} (h : shortEscape? e = some c) :
    isPrintableAscii e = true := by
  unfold shortEscape? at h
  split at h
  all_goals cases h
  all_goals decide

/-- A digit is printable and neither a quote nor a backslash. -/
theorem hexDigit_plain {n : Nat} (h : n < 16) :
    isPrintableAscii (Text.hexDigit n) ∧ Text.hexDigit n ≠ '"' ∧ Text.hexDigit n ≠ '\\' := by
  have hall : ∀ m < 16, isPrintableAscii (Text.hexDigit m) ∧ Text.hexDigit m ≠ '"' ∧
      Text.hexDigit m ≠ '\\' := by decide
  exact hall n h

/-! ## Escapes of units -/

/-- The escape of a unit: two marks and four digits that are read as the unit. -/
theorem exists_unitEscape {u : Nat} (h : u < 0x10000) :
    ∃ x₁ x₂ x₃ x₄, unitEscape u = ['\\', 'u', x₁, x₂, x₃, x₄] ∧
      Json.hexValue4? x₁ x₂ x₃ x₄ = some u := by
  obtain ⟨x₁, x₂, x₃, x₄, hdigits, hvalue⟩ := Json.hexDigits_unit h
  exact ⟨x₁, x₂, x₃, x₄, by rw [unitEscape, hdigits], hvalue⟩

/-- The escape of a unit is read as the unit. -/
theorem readUnits_unitEscape {u : Nat} (h : u < 0x10000) (r : List Char) :
    readUnits (unitEscape u ++ r) = (readUnits r).map (u :: ·) := by
  obtain ⟨x₁, x₂, x₃, x₄, hescape, hvalue⟩ := exists_unitEscape h
  simp only [hescape, List.cons_append, List.nil_append, readUnits, hvalue]
  cases readUnits r <;> rfl

/-- The escapes of units are read as the units. -/
theorem readUnits_unitEscapes {us : List Nat} (h : ∀ u ∈ us, u < 0x10000) (r : List Char) :
    readUnits (us.flatMap unitEscape ++ r) = (readUnits r).map (us ++ ·) := by
  induction us with
  | nil => simp
  | cons u us ih =>
    rw [List.forall_mem_cons] at h
    rw [List.flatMap_cons, List.append_assoc, readUnits_unitEscape h.1, ih h.2, Option.map_map]
    rfl

/-- Digits are printable and neither quotes nor backslashes. -/
theorem hexDigits_plain (width n : Nat) : ∀ c ∈ Text.hexDigits width n,
    isPrintableAscii c ∧ c ≠ '"' ∧ c ≠ '\\' := by
  induction width generalizing n with
  | zero => simp [Text.hexDigits]
  | succ width ih =>
    rw [Text.hexDigits, List.forall_mem_append, List.forall_mem_singleton]
    exact ⟨ih (n / 16), hexDigit_plain (Nat.mod_lt n (by decide))⟩

/-- Characters that are neither a quote nor a backslash change nothing about what comes then. -/
theorem hasBareQuote_append {cs : List Char} (h : ∀ c ∈ cs, c ≠ '"' ∧ c ≠ '\\') (r : List Char) :
    hasBareQuote (cs ++ r) = hasBareQuote r := by
  induction cs with
  | nil => rfl
  | cons c cs ih =>
    rw [List.forall_mem_cons] at h
    rw [List.cons_append, hasBareQuote, ih h.2]
    · simp [h.1.1]
    · rintro d r' heq
      cases heq
      exact absurd rfl h.1.2

/-- No quote stands in the escapes of units. -/
theorem hasBareQuote_unitEscapes (us : List Nat) (r : List Char) :
    hasBareQuote (us.flatMap unitEscape ++ r) = hasBareQuote r := by
  induction us with
  | nil => rfl
  | cons u us ih =>
    have hdigits := hasBareQuote_append
      (fun c hc => (hexDigits_plain 4 u c hc).2) (us.flatMap unitEscape ++ r)
    rw [List.flatMap_cons, List.append_assoc, unitEscape, List.cons_append, List.cons_append,
      hasBareQuote, hdigits, ih]

/-! ## Literals, character by character -/

/-- **The reader takes the units of one character** and goes on with the rest. -/
theorem readUnits_literalChar (c : Char) (r : List Char) :
    readUnits (literalChar c ++ r) = (readUnits r).map (units c ++ ·) := by
  rcases literalChar_cases c with ⟨e, hchar, hescape⟩ | ⟨hchar, hascii, hquote, hslash⟩ | hchar
  · have hne : e ≠ 'u' := by
      rintro rfl
      cases hescape
    rw [hchar, List.cons_append, List.cons_append, List.nil_append, readUnits, hescape]
    · cases readUnits r <;> rfl
    · rintro x₁ x₂ x₃ x₄ r' heq
      cases heq
      exact absurd rfl hne
  · have hprintable : 0x20 ≤ c.toNat := by
      simp only [isPrintableAscii, Bool.and_eq_true, decide_eq_true_eq] at hascii
      exact hascii.1
    have hfeed : c ≠ '\n' := by
      rintro rfl
      exact absurd hprintable (by decide)
    have hreturn : c ≠ '\r' := by
      rintro rfl
      exact absurd hprintable (by decide)
    rw [hchar, List.singleton_append, readUnits]
    · simp [hquote, hslash, hfeed, hreturn]
    all_goals simp_all
  · rw [hchar, readUnits_unitEscapes fun u hu => units_lt hu]

/-- **No quote stands open in what is written for a character.** -/
theorem hasBareQuote_literalChar (c : Char) (r : List Char) :
    hasBareQuote (literalChar c ++ r) = hasBareQuote r := by
  rcases literalChar_cases c with ⟨e, hchar, -⟩ | ⟨hchar, -, hquote, hslash⟩ | hchar
  · rw [hchar]
    rfl
  · rw [hchar]
    exact hasBareQuote_append (by simp [hquote, hslash]) r
  · rw [hchar, hasBareQuote_unitEscapes]

/-- What is written for a character is printable. -/
theorem isPrintableAscii_literalChar (c : Char) : ∀ d ∈ literalChar c, isPrintableAscii d := by
  rcases literalChar_cases c with ⟨e, hchar, hescape⟩ | ⟨hchar, hascii, -⟩ | hchar
  · rw [hchar, List.forall_mem_cons, List.forall_mem_singleton]
    exact ⟨by decide, isPrintableAscii_of_shortEscape hescape⟩
  · rwa [hchar, List.forall_mem_singleton]
  · rw [hchar]
    intro d hd
    obtain ⟨u, -, hd⟩ := List.mem_flatMap.mp hd
    rw [unitEscape, List.mem_cons, List.mem_cons] at hd
    rcases hd with rfl | rfl | hd
    · decide
    · decide
    · exact (hexDigits_plain 4 u d hd).1

/-! ## Halves -/

/-- A character is never one half. -/
theorem not_half_toNat (c : Char) :
    Json.isHighHalf c.toNat = false ∧ Json.isLowHalf c.toNat = false := by
  have hvalid : c.toNat < 0xD800 ∨ 0xDFFF < c.toNat := by
    rcases c.valid with hc | ⟨hc, -⟩
    · exact .inl hc
    · exact .inr hc
  simp only [Json.isHighHalf, Json.isLowHalf, Bool.and_eq_false_iff, decide_eq_false_iff_not]
  omega

/-- A unit that is no half is a character. -/
theorem joinUnits_single {u : Nat} (hhigh : Json.isHighHalf u = false)
    (hlow : Json.isLowHalf u = false) (us : List Nat) :
    joinUnits (u :: us) = (joinUnits us).map (Char.ofNat u :: ·) := by
  rw [joinUnits.eq_def]
  simp [hhigh, hlow]

/-- Two halves in a row are one character. -/
theorem joinUnits_halves {high low : Nat} (hhigh : Json.isHighHalf high = true)
    (hlow : Json.isLowHalf low = true) (us : List Nat) :
    joinUnits (high :: low :: us) = (joinUnits us).map (Json.joinHalves high low :: ·) := by
  rw [joinUnits.eq_def]
  simp [hhigh, hlow]

/-- **Two halves of a character make the character.** -/
theorem joinHalves_units {c : Char} (h : ¬ c.toNat < 0x10000) :
    Json.joinHalves (0xD800 + (c.toNat - 0x10000) / 0x400)
      (0xDC00 + (c.toNat - 0x10000) % 0x400) = c := by
  have hback : 0x10000 + (0xD800 + (c.toNat - 0x10000) / 0x400 - 0xD800) * 0x400 +
      (0xDC00 + (c.toNat - 0x10000) % 0x400 - 0xDC00) = c.toNat := by omega
  rw [Json.joinHalves, hback, Char.ofNat_toNat]

/-- **Where the units of a character end, the next character begins.** -/
theorem joinUnits_units (c : Char) (us : List Nat) :
    joinUnits (units c ++ us) = (joinUnits us).map (c :: ·) := by
  by_cases hsmall : c.toNat < 0x10000
  · obtain ⟨hhigh, hlow⟩ := not_half_toNat c
    rw [units, if_pos hsmall, List.singleton_append, joinUnits_single hhigh hlow,
      Char.ofNat_toNat]
  · have hmax := toNat_lt c
    have hhigh : Json.isHighHalf (0xD800 + (c.toNat - 0x10000) / 0x400) = true := by
      simp only [Json.isHighHalf, Bool.and_eq_true, decide_eq_true_eq]
      omega
    have hlow : Json.isLowHalf (0xDC00 + (c.toNat - 0x10000) % 0x400) = true := by
      simp only [Json.isLowHalf, Bool.and_eq_true, decide_eq_true_eq]
      omega
    rw [units, if_neg hsmall, List.cons_append, List.singleton_append,
      joinUnits_halves hhigh hlow, joinHalves_units hsmall]

/-! ## Whole literals -/

/-- The inside of a literal is read as the units of its text. -/
theorem readUnits_literalChars (cs : List Char) :
    readUnits (literalChars cs) = some (cs.flatMap units) := by
  induction cs with
  | nil => rfl
  | cons c cs ih =>
    rw [literalChars, List.flatMap_cons, readUnits_literalChar, ← literalChars, ih]
    rfl

/-- The units of a text make the text again. -/
theorem joinUnits_flatMap (cs : List Char) : joinUnits (cs.flatMap units) = some cs := by
  induction cs with
  | nil => rfl
  | cons c cs ih =>
    rw [List.flatMap_cons, joinUnits_units, ih]
    rfl

/-- No quote stands open inside of a literal. -/
theorem hasBareQuote_literalChars (cs : List Char) : hasBareQuote (literalChars cs) = false := by
  induction cs with
  | nil => rfl
  | cons c cs ih =>
    rw [literalChars, List.flatMap_cons, hasBareQuote_literalChar, ← literalChars, ih]

/-- **What is written for a text is read as the text.** -/
theorem readLiteral_escapeText (s : String) : readLiteral (escapeText s) = some s := by
  simp [readLiteral, escapeText, readUnits_literalChars, joinUnits_flatMap]

/-- What stands in quotes is what stands between them. -/
theorem escapeText_of_quoteText {s t : String} (h : quoteText s = quoteText t) :
    escapeText s = escapeText t := by
  have hlist := congrArg String.toList h
  simp only [quoteText, String.toList_append] at hlist
  exact String.toList_inj.mp (List.append_cancel_left (List.append_cancel_right hlist))

/-- **The literal of a text stands for the text.**  Inside the quotes there are only characters of
    printable ASCII and no quote that would end the literal, and what stands there is read as the
    text.  So different texts have different literals, whatever lists and maps begin with. -/
theorem literals_stand_for_texts :
    (∀ s : String, (escapeText s).toList.all isPrintableAscii ∧
      hasBareQuote (escapeText s).toList = false ∧ readLiteral (escapeText s) = some s) ∧
    Function.Injective escapeText ∧
    ∀ names : LiteralNames, Function.Injective fun s => literal names (.str s) := by
  have hinjective : Function.Injective escapeText := by
    intro s t hst
    have hread := readLiteral_escapeText s
    rw [hst, readLiteral_escapeText, Option.some.injEq] at hread
    exact hread.symm
  refine ⟨fun s => ⟨?_, ?_, readLiteral_escapeText s⟩, hinjective, fun names s t hst => ?_⟩
  · rw [escapeText, String.toList_ofList, literalChars, List.all_eq_true]
    intro c hc
    obtain ⟨d, -, hc⟩ := List.mem_flatMap.mp hc
    exact isPrintableAscii_literalChar d c hc
  · rw [escapeText, String.toList_ofList, hasBareQuote_literalChars]
  · simp only [literal, Except.ok.injEq, Json.str.injEq] at hst
    exact hinjective (escapeText_of_quoteText hst)

/-- A quote, a letter beyond ASCII and a character beyond the first plane. -/
example : escapeText "\"é😀" = "\\\"\\u00e9\\ud83d\\ude00" := by decide

end ThriftScala.Scala
