/-
  The expressions of a generated file are balanced.

  What a fragment is filled with comes from a document and from settings.  If the names in both are
  ASCII names, every such text is harmless where it is written:

  1. Names and numbers have no character that a scan stops at, so they are inert.
  2. Types and the expressions that read and write their values are put together from fixed texts
     and from smaller expressions, type by type (`typeText_balanced`, `readValue_balanced`,
     `writeValue_balanced`); only the fixed texts are scanned.
  3. Inside a literal every text is escaped, whatever it is (`escapeText_quotable`), so the literal
     of a constant is balanced with any texts in it (`literal_isCode`).
  4. Lists of parameters and arguments are names, types and literals with commas in between.
-/
import ThriftScala.Proofs.Json.Tokens
import ThriftScala.Proofs.Outcome
import ThriftScala.Proofs.Scala.Lexical
import ThriftScala.Proofs.Scala.TextLiterals
import ThriftScala.Proofs.Schema.AsciiNames
import ThriftScala.Scala.Codec
import ThriftScala.Scala.FieldDecl

namespace ThriftScala.Scala

open Outcome

/-! ## Names and numbers -/

/-- The characters of names neither open nor close anything. -/
theorem isInert_of_isNameChar {c : Char} (h : Text.isNameChar c = true) : isInert c = true :=
  Text.forall_nameChar (p := fun c => isInert c = true) (by decide) h

/-- A name leaves the reader where it is. -/
theorem inert_of_isAsciiName {s : String} (h : s.IsAsciiName) : Inert s :=
  fun c hc => isInert_of_isNameChar (h c hc)

/-- A setting or a name of a document is inert where it is shown. -/
theorem inert_display {v : Json} (h : v.IsAsciiName) : Inert v.display := by
  obtain ⟨s, rfl, hs⟩ := h
  exact inert_of_isAsciiName hs

/-- A name as the text that it must be. -/
theorem isAsciiName_of_textOr {v : Json} {misuse : Misuse} {s : String} (hv : v.IsAsciiName)
    (h : v.textOr misuse = .ok s) : s.IsAsciiName := by
  obtain ⟨name, rfl, hname⟩ := hv
  cases h
  exact hname

theorem isInert_of_isDigit {c : Char} (h : c.isDigit = true) : isInert c = true := by
  apply isInert_of_isNameChar
  simp [Text.isNameChar, Char.isAlphanum, h]

theorem inert_toDigits (n : Nat) : ∀ c ∈ Nat.toDigits 10 n, isInert c = true :=
  fun _ hc => isInert_of_isDigit (Json.isDigit_of_mem_toDigits hc)

theorem inert_ofList {cs : List Char} (h : ∀ c ∈ cs, isInert c = true) : Inert (.ofList cs) := by
  unfold Inert
  rwa [String.toList_ofList]

theorem inert_toString_nat (n : Nat) : Inert (toString n) := by
  have hrepr : toString n = n.repr := rfl
  rw [hrepr, Nat.repr_eq_ofList_toDigits]
  exact inert_ofList (inert_toDigits n)

/-- A whole number leaves the reader where it is, also with a minus in front. -/
theorem inert_toString_int (n : Int) : Inert (toString n) := by
  unfold Inert
  rw [Json.toList_toString_int]
  split
  · exact inert_toDigits _
  · exact List.forall_mem_cons.mpr ⟨rfl, inert_toDigits _⟩

/-- Digits are laid out with zeros, a point, an exponent and its sign. -/
theorem mem_write {layout : DecimalLayout} {d : Digits} {c : Char}
    (h : c ∈ Double.Digits.write layout d) :
    c ∈ d.digits ∨ c ∈ ['0', '.', 'e', '-', '+'] ∨ c.isDigit = true := by
  unfold Double.Digits.write at h
  split at h
  · split_ifs at h <;> grind [List.mem_of_mem_take, List.mem_of_mem_drop]
  · simp only [List.mem_append] at h
    rcases h with ((hmantissa | hsign) | hzeros) | hexponent
    · -- the digits, with a point behind the first
      split at hmantissa <;> grind
    · grind
    · grind
    · exact .inr (.inr (Json.isDigit_of_mem_toDigits hexponent))

/-- The digits of a double neither open nor close anything. -/
theorem isInert_of_mem_shortest {m : Nat} {e : Int} {c : Char}
    (h : c ∈ (Double.shortest m e).digits) : isInert c = true := by
  have h := (List.dropWhile_suffix _).subset (List.mem_reverse.mp h)
  exact inert_toDigits _ c (List.mem_reverse.mp h)

/-- A double has the characters of its digits and few others. -/
theorem inert_write (x : Double) : Inert (x.write plainLayout) := by
  cases x with
  | nan => decide
  | infinite negative => cases negative <;> decide
  | finite negative m e =>
    have hsign : Inert (if negative then "-" else "") := by cases negative <;> decide
    have hmarks : ['0', '.', 'e', '-', '+'].all isInert = true := by decide
    have hdigits : ∀ c ∈ Double.Digits.write plainLayout (Double.shortest m e),
        isInert c = true := by
      intro c hc
      rcases mem_write hc with hc | hc | hc
      · exact isInert_of_mem_shortest hc
      · exact List.all_eq_true.mp hmarks c hc
      · exact isInert_of_isDigit hc
    have hzero : Inert "0.0" := by decide
    rw [Double.write]
    by_cases hm : m = 0
    · rw [if_pos hm]
      exact hsign.append hzero
    · rw [if_neg hm]
      exact hsign.append (inert_ofList hdigits)

/-- A double leaves the reader where it is. -/
theorem inert_doubleText (x : Double) : Inert (doubleText x) := by
  unfold doubleText
  split
  · decide
  · decide
  · decide
  · exact inert_write x

/-! ## Types -/

/-- The names that are settings are ASCII names. -/
structure TypeNames.AreAscii (names : TypeNames) : Prop where
  list : names.list.IsAsciiName
  set : names.set.IsAsciiName
  map : names.map.IsAsciiName
  option : names.option.IsAsciiName
  binary : names.binary.IsAsciiName

/-- Is the value a balanced text? -/
def IsCode (v : Json) : Prop := ∃ s, v = .str s ∧ Balanced s

/-- A value that is code closes in its text what it opens. -/
theorem IsCode.balanced {v : Json} (h : IsCode v) : Balanced v.display := by
  obtain ⟨s, rfl, hs⟩ := h
  exact hs

/-- A name is code. -/
theorem isCode_of_isAsciiName {v : Json} (h : v.IsAsciiName) : IsCode v := by
  obtain ⟨s, rfl, hs⟩ := h
  exact ⟨s, rfl, (inert_of_isAsciiName hs).balanced⟩

section Types

variable {names : TypeNames} {t : FieldType}

/-- Types in brackets behind the name of a container. -/
theorem balanced_applied {name arguments : String} (hn : Balanced name)
    (ha : Balanced arguments) : Balanced (name ++ "[" ++ arguments ++ "]") := by
  have hparts := balanced_of_parts [.hole name, .fixed "[", .hole arguments, .fixed "]"] rfl
    ⟨hn, ha, trivial⟩
  simpa [String.append_assoc] using hparts

/-- **The text of a type closes what it opens**, by induction over the type. -/
theorem typeText_balanced (hn : names.AreAscii) (ht : t.HasAsciiNames) :
    Balanced (typeText names t) := by
  induction t with
  | base b =>
    cases b with
    | binary => exact (inert_display hn.binary).balanced
    | _ =>
      unfold typeText
      decide
  | list t ih => exact balanced_applied (inert_display hn.list).balanced (ih ht)
  | set t ih => exact balanced_applied (inert_display hn.set).balanced (ih ht)
  | map k v ihk ihv =>
    have hcomma : Balanced ", " := by decide
    have harguments := ((ihk ht.1).append hcomma).append (ihv ht.2)
    have happlied := balanced_applied (inert_display hn.map).balanced harguments
    simpa [typeText, String.append_assoc] using happlied
  | enum name => exact (inert_of_isAsciiName ht).balanced
  | struct name => exact (inert_of_isAsciiName ht).balanced
  | reference name => exact (inert_of_isAsciiName ht).balanced

/-- What stands for a type is code. -/
theorem scalaType_isCode (hn : names.AreAscii) (ht : t.HasAsciiNames) :
    IsCode (scalaType names t) := by
  unfold scalaType
  split
  · exact isCode_of_isAsciiName hn.binary
  · exact ⟨_, rfl, typeText_balanced hn ht⟩

end Types

/-! ## Reading and writing -/

theorem wireTag_balanced (tag : WireTag) : Balanced tag.name := by cases tag <;> decide

/-- The names of the methods of the protocol open nothing. -/
theorem methodSuffix_balanced {t : FieldType} {s : String} (h : methodSuffix? t = some s) :
    Balanced s := by
  unfold methodSuffix? at h
  split at h
  all_goals cases h
  all_goals decide

/-- What a method of the protocol is called, after `read` or `write`. -/
theorem method_balanced {lead : String} (hlead : Balanced lead) {mapping : Mapping}
    {t : FieldType} {s : String}
    (h : (match methodSuffix? t with
      | some suffix => Except.ok (lead ++ suffix)
      | none => mapping.refuse t) = .ok s) : Balanced s := by
  split at h
  · rename_i hsuffix
    cases h
    exact hlead.append (methodSuffix_balanced hsuffix)
  · cases h

/-- The call of a method that reads is balanced. -/
theorem readMethod_balanced {t : FieldType} {s : String} (h : readMethod t = .ok s) :
    Balanced s := by
  have hread : Balanced "read" := by decide
  exact method_balanced hread h

/-- The call of a method that writes is balanced. -/
theorem writeMethod_balanced {t : FieldType} {s : String} (h : writeMethod t = .ok s) :
    Balanced s := by
  have hwrite : Balanced "write" := by decide
  exact method_balanced hwrite h

section Codec

variable {protocol : String} {label : Nat → String}

/-- Reading a container is balanced if reading an element is. -/
theorem readContainer_balanced {kind header convert label element : String}
    (hp : Balanced protocol) (hk : Balanced kind) (hh : Balanced header) (hc : Balanced convert)
    (hl : Balanced label) (he : Balanced element) :
    Balanced (readContainer protocol kind header convert label element) := by
  have hparts := balanced_of_parts
    [.fixed "\x7b val ", .hole header, .hole label, .fixed " = ", .hole protocol, .fixed ".read",
     .hole kind, .fixed "Begin(); val _rv", .hole label, .fixed " = (0 until ",
     .hole header, .hole label, .fixed ".size).map \x7b _ => ", .hole element, .fixed " \x7d.",
     .hole convert, .fixed "; ", .hole protocol, .fixed ".read", .hole kind,
     .fixed "End(); _rv", .hole label, .fixed " \x7d"] rfl
    ⟨hh, hl, hp, hk, hl, hh, hl, he, hc, hp, hk, hl, trivial⟩
  unfold readContainer
  simpa [String.append_assoc] using hparts

/-- **What reads a value is balanced**, type by type. -/
theorem readValue_balanced (hp : Balanced protocol) (hl : ∀ n, Balanced (label n))
    {t : FieldType} (ht : t.HasAsciiNames) {level : Nat} {s : String}
    (h : readValue protocol label level t = .ok s) : Balanced s := by
  induction t generalizing level s with
  | base b =>
    obtain ⟨method, hmethod, h⟩ := bind_eq_ok.mp h
    obtain rfl := Except.ok.inj h
    have hparts := balanced_of_parts [.hole protocol, .fixed ".", .hole method, .fixed "()"] rfl
      ⟨hp, readMethod_balanced hmethod, trivial⟩
    simpa [String.append_assoc] using hparts
  | list t ih | set t ih =>
    obtain ⟨element, helement, h⟩ := bind_eq_ok.mp h
    obtain rfl := Except.ok.inj h
    exact readContainer_balanced hp (by decide) (by decide) (by decide) (hl level)
      (ih ht helement)
  | map k v ihk ihv =>
    obtain ⟨key, hkey, h⟩ := bind_eq_ok.mp h
    obtain ⟨value, hvalue, h⟩ := bind_eq_ok.mp h
    obtain rfl := Except.ok.inj h
    have hparts := balanced_of_parts
      [.fixed "(", .hole key, .fixed ", ", .hole value, .fixed ")"] rfl
      ⟨ihk ht.1 hkey, ihv ht.2 hvalue, trivial⟩
    have hpair : Balanced ("(" ++ key ++ ", " ++ value ++ ")") := by
      simpa [String.append_assoc] using hparts
    exact readContainer_balanced hp (by decide) (by decide) (by decide) (hl level) hpair
  | enum name =>
    obtain rfl := Except.ok.inj h
    have hparts := balanced_of_parts
      [.hole name, .fixed "(", .hole protocol, .fixed ".readI32())"] rfl
      ⟨(inert_of_isAsciiName ht).balanced, hp, trivial⟩
    simpa [String.append_assoc] using hparts
  | struct name =>
    obtain rfl := Except.ok.inj h
    have hparts := balanced_of_parts
      [.hole name, .fixed ".decode(", .hole protocol, .fixed ")"] rfl
      ⟨(inert_of_isAsciiName ht).balanced, hp, trivial⟩
    simpa [String.append_assoc] using hparts
  | reference name => cases h

/-- Writing a list or a set is balanced if writing an element is. -/
theorem writeSequence_balanced {kind name item element : String} (hp : Balanced protocol)
    (hk : Balanced kind) (hn : Balanced name) (hi : Balanced item) (tag : WireTag)
    (he : Balanced element) :
    Balanced (writeSequence protocol kind name item tag element) := by
  have hparts := balanced_of_parts
    [.hole protocol, .fixed ".write", .hole kind, .fixed "Begin(new T", .hole kind,
     .fixed "(TType.", .hole tag.name, .fixed ", ", .hole name, .fixed ".size)); ", .hole name,
     .fixed ".foreach \x7b ", .hole item, .fixed " => ", .hole element, .fixed " \x7d; ",
     .hole protocol, .fixed ".write", .hole kind, .fixed "End()"] rfl
    ⟨hp, hk, hk, wireTag_balanced tag, hn, hn, hi, he, hp, hk, trivial⟩
  unfold writeSequence
  simpa [String.append_assoc] using hparts

/-- **What writes a value is balanced**, type by type. -/
theorem writeValue_balanced (hp : Balanced protocol) (hl : ∀ n, Balanced (label n))
    {t : FieldType} {name : String} (hn : Balanced name) {level : Nat} {s : String}
    (h : writeValue protocol label level name t = .ok s) : Balanced s := by
  induction t generalizing level name s with
  | base b =>
    obtain ⟨method, hmethod, h⟩ := bind_eq_ok.mp h
    obtain rfl := Except.ok.inj h
    have hparts := balanced_of_parts
      [.hole protocol, .fixed ".", .hole method, .fixed "(", .hole name, .fixed ")"] rfl
      ⟨hp, writeMethod_balanced hmethod, hn, trivial⟩
    simpa [String.append_assoc] using hparts
  | list t ih | set t ih =>
    -- the tag is balanced, whichever it is
    obtain ⟨tag, -, h⟩ := bind_eq_ok.mp h
    obtain ⟨element, helement, h⟩ := bind_eq_ok.mp h
    obtain rfl := Except.ok.inj h
    have hitem : Balanced ("_e" ++ label level) := Balanced.append (by decide) (hl level)
    exact writeSequence_balanced hp (by decide) hn hitem tag (ih hitem helement)
  | map k v ihk ihv =>
    obtain ⟨keyTag, -, h⟩ := bind_eq_ok.mp h
    obtain ⟨valueTag, -, h⟩ := bind_eq_ok.mp h
    obtain ⟨keyWrite, hkeyWrite, h⟩ := bind_eq_ok.mp h
    obtain ⟨valueWrite, hvalueWrite, h⟩ := bind_eq_ok.mp h
    obtain rfl := Except.ok.inj h
    have hkey : Balanced ("_k" ++ label level) := Balanced.append (by decide) (hl level)
    have hvalue : Balanced ("_v" ++ label level) := Balanced.append (by decide) (hl level)
    have hparts := balanced_of_parts
      [.hole protocol, .fixed ".writeMapBegin(new TMap(TType.", .hole keyTag.name,
       .fixed ", TType.", .hole valueTag.name, .fixed ", ", .hole name, .fixed ".size)); ",
       .hole name, .fixed ".foreach \x7b case (", .hole ("_k" ++ label level), .fixed ", ",
       .hole ("_v" ++ label level), .fixed ") => ", .hole keyWrite, .fixed "; ",
       .hole valueWrite, .fixed " \x7d; ", .hole protocol, .fixed ".writeMapEnd()"] rfl
      ⟨hp, wireTag_balanced keyTag, wireTag_balanced valueTag, hn, hn, hkey, hvalue,
       ihk hkey hkeyWrite, ihv hvalue hvalueWrite, hp, trivial⟩
    simpa [String.append_assoc] using hparts
  | enum _ =>
    obtain rfl := Except.ok.inj h
    have hparts := balanced_of_parts
      [.hole protocol, .fixed ".writeI32(", .hole name, .fixed ".value)"] rfl ⟨hp, hn, trivial⟩
    simpa [String.append_assoc] using hparts
  | struct _ =>
    obtain rfl := Except.ok.inj h
    have hparts := balanced_of_parts
      [.hole name, .fixed ".write(", .hole protocol, .fixed ")"] rfl ⟨hn, hp, trivial⟩
    simpa [String.append_assoc] using hparts
  | reference name => cases h

end Codec

/-! ## Texts in literals -/

theorem isInert_hexDigit {n : Nat} (h : n < 16) : isInert (Text.hexDigit n) = true := by
  revert n
  decide

/-- The digits of an escape neither open nor close anything. -/
theorem inert_hexDigits (width n : Nat) : ∀ c ∈ Text.hexDigits width n, isInert c = true := by
  induction width generalizing n with
  | zero => simp [Text.hexDigits]
  | succ width ih =>
    have hlast : isInert (Text.hexDigit (n % 16)) = true :=
      isInert_hexDigit (Nat.mod_lt n (by decide))
    rw [Text.hexDigits, List.forall_mem_append, List.forall_mem_singleton]
    exact ⟨ih (n / 16), hlast⟩

/-- The escape of a unit stays in the literal. -/
theorem quotable_unitEscape (n : Nat) : Quotable (.ofList (unitEscape n)) := by
  have hlead : Quotable (.ofList ['\\', 'u']) := by decide
  have hdigits := (inert_ofList (inert_hexDigits 4 n)).quotable
  have hcons : unitEscape n = ['\\', 'u'] ++ Text.hexDigits 4 n := rfl
  rw [hcons, String.ofList_append]
  exact hlead.append hdigits

/-- Printable characters of ASCII do not end a line. -/
theorem not_isLineEnd_of_printable {c : Char} (hlow : 0x20 ≤ c.toNat) (hhigh : c.toNat < 0x7F) :
    Text.isLineEnd c = false := by
  rw [Bool.eq_false_iff]
  intro hline
  obtain ⟨r, hr, hfirst, hlast⟩ := Text.Ranges.holds_iff.mp hline
  have hapart : ∀ r ∈ Text.lineEndRanges, r.2 < 0x20 ∨ 0x7F ≤ r.1 := by decide
  have hr := hapart r hr
  omega

/-- A character stays in the literal unless it ends it, begins an escape or ends a line. -/
theorem quotable_plain {c : Char} (hquote : c ≠ '"') (hback : c ≠ '\\')
    (hline : Text.isLineEnd c = false) : Quotable (.ofList [c]) := by
  rw [Quotable, Takes, String.toList_ofList]
  simp [LexState.scan, LexState.step, hquote, hback, hline]

/-- Pieces that each stay in the literal stay in it together. -/
theorem quotable_flatMap {α : Type} {f : α → List Char} (h : ∀ a, Quotable (.ofList (f a)))
    (as : List α) : Quotable (.ofList (as.flatMap f)) := by
  induction as with
  | nil => exact .empty _
  | cons a as ih =>
    rw [List.flatMap_cons, String.ofList_append]
    exact (h a).append ih

/-- What is written for a character stays in the literal. -/
theorem quotable_literalChar (c : Char) : Quotable (.ofList (literalChar c)) := by
  rcases literalChar_cases c with ⟨e, hchar, hescape⟩ | ⟨hchar, hascii, hquote, hback⟩ | hchar
  · rw [hchar]
    unfold shortEscape? at hescape
    split at hescape <;> cases hescape <;> decide
  · simp only [isPrintableAscii, Bool.and_eq_true, decide_eq_true_eq] at hascii
    rw [hchar]
    exact quotable_plain hquote hback (not_isLineEnd_of_printable hascii.1 hascii.2)
  · rw [hchar]
    exact quotable_flatMap quotable_unitEscape (units c)

/-- **Any text stays in the literal that it is written in.** -/
theorem escapeText_quotable (s : String) : Quotable (escapeText s) :=
  quotable_flatMap quotable_literalChar s.toList

/-- **A text literal is balanced**, because its inside never leaves the literal. -/
theorem quoteText_balanced (s : String) : Balanced (quoteText s) := by
  have hopen : Takes .start "\"" ⟨.literal, []⟩ := rfl
  have hclose : Takes ⟨.literal, []⟩ "\"" .start := rfl
  exact (hopen.append (escapeText_quotable s)).append hclose

/-! ## Constants -/

/-- Balanced texts with commas in between are balanced. -/
theorem joinedBy_balanced {texts : List String} (h : ∀ t ∈ texts, Balanced t) :
    Balanced (String.joinedBy ", " texts) := by
  have hcomma : Balanced ", " := by decide
  induction texts with
  | nil => exact balanced_empty
  | cons t texts ih =>
    rw [List.forall_mem_cons] at h
    cases texts with
    | nil => exact h.1
    | cons u texts => exact (h.1.append hcomma).append (ih h.2)

/-- Values in parentheses behind a name. -/
theorem balanced_call {name arguments : String} (hn : Balanced name) (ha : Balanced arguments) :
    Balanced (name ++ "(" ++ arguments ++ ")") := by
  have hparts := balanced_of_parts [.hole name, .fixed "(", .hole arguments, .fixed ")"] rfl
    ⟨hn, ha, trivial⟩
  simpa [String.append_assoc] using hparts

section Constants

variable {names : LiteralNames}

mutual

/-- **The literal of a constant is balanced**, whatever texts the constant has. -/
theorem literal_isCode (hlist : Balanced names.list) (hmap : Balanced names.map) :
    ∀ {c : Constant} {v : Json}, c.HasAsciiNames → literal names c = .ok v → IsCode v
  | .null, _, _, h => by
    cases h
    exact ⟨_, rfl, by decide⟩
  | .bool b, _, _, h => by
    cases h
    cases b <;> exact ⟨_, rfl, by decide⟩
  | .int n, _, _, h => by
    cases h
    exact ⟨_, rfl, (inert_toString_int n).balanced⟩
  | .double x, _, _, h => by
    cases h
    exact ⟨_, rfl, (inert_doubleText x).balanced⟩
  | .str s, _, _, h => by
    cases h
    exact ⟨_, rfl, quoteText_balanced s⟩
  | .list elems, _, hc, h => by
    obtain ⟨texts, htexts, h⟩ := bind_eq_ok.mp h
    cases h
    have helems := joinedBy_balanced (literalTexts_balanced hlist hmap hc htexts)
    exact ⟨_, rfl, balanced_call hlist helems⟩
  | .map pairs, _, hc, h => by
    obtain ⟨texts, htexts, h⟩ := bind_eq_ok.mp h
    cases h
    have hpairs := joinedBy_balanced (pairTexts_balanced hlist hmap hc htexts)
    exact ⟨_, rfl, balanced_call hmap hpairs⟩
  | .enumValue enum value, _, hc, h => by
    cases h
    have hdot : Inert "." := by decide
    have hname := ((inert_display hc.1).append hdot).append (inert_display hc.2)
    exact ⟨_, rfl, hname.balanced⟩
  | .identifier name, _, hc, h => by
    cases h
    exact isCode_of_isAsciiName hc

/-- The elements of a list are balanced if their names are. -/
theorem literalTexts_balanced (hlist : Balanced names.list) (hmap : Balanced names.map) :
    ∀ {cs : List Constant} {texts : List String}, Constant.HaveAsciiNames cs →
      literalTexts names cs = .ok texts → ∀ t ∈ texts, Balanced t
  | [], _, _, h => by
    cases h
    simp
  | c :: cs, _, hc, h => by
    obtain ⟨v, hv, h⟩ := bind_eq_ok.mp h
    obtain ⟨text, htext, h⟩ := bind_eq_ok.mp h
    obtain ⟨texts, htexts, h⟩ := bind_eq_ok.mp h
    cases h
    obtain ⟨s, rfl, hs⟩ := literal_isCode hlist hmap hc.1 hv
    cases htext
    exact List.forall_mem_cons.mpr ⟨hs, literalTexts_balanced hlist hmap hc.2 htexts⟩

/-- The pairs of a map are balanced if their names are. -/
theorem pairTexts_balanced (hlist : Balanced names.list) (hmap : Balanced names.map) :
    ∀ {ps : List (Constant × Constant)} {texts : List String}, Constant.PairsHaveAsciiNames ps →
      pairTexts names ps = .ok texts → ∀ t ∈ texts, Balanced t
  | [], _, _, h => by
    cases h
    simp
  | (k, v) :: ps, _, hc, h => by
    obtain ⟨key, hkey, h⟩ := bind_eq_ok.mp h
    obtain ⟨value, hvalue, h⟩ := bind_eq_ok.mp h
    obtain ⟨texts, htexts, h⟩ := bind_eq_ok.mp h
    cases h
    have hk := (literal_isCode hlist hmap hc.1 hkey).balanced
    have hv := (literal_isCode hlist hmap hc.2.1 hvalue).balanced
    have harrow : Balanced " -> " := by decide
    have hpair := (hk.append harrow).append hv
    exact List.forall_mem_cons.mpr ⟨hpair, pairTexts_balanced hlist hmap hc.2.2 htexts⟩

end

end Constants

/-! ## Fields -/

/-- Backticks around a name do not matter. -/
theorem inert_escapeIdentifier {name : String} (h : Inert name) :
    Inert (escapeIdentifier name) := by
  have htick : Inert "`" := by decide
  exact (htick.append h).append htick

/-- A name in backticks leaves the reader where it is. -/
theorem inert_quoteKeyword {name : String} (h : Inert name) : Inert (quoteKeyword name) := by
  unfold quoteKeyword
  split
  · exact inert_escapeIdentifier h
  · exact h

/-- The constant of a field is named in capitals, which are letters of a name too. -/
theorem inert_fieldConstName {name : String} (h : name.IsAsciiName) :
    Inert (fieldConstName name) := by
  have hraised : Inert name.raised :=
    inert_ofList fun c hc => isInert_of_isNameChar (Text.keptByCase_isNameChar.upper h c hc)
  have hsuffix : Inert "_FIELD_DESC" := by decide
  exact hraised.append hsuffix

theorem inert_lowered {name : String} (h : name.IsAsciiName) : Inert name.lowered :=
  inert_ofList fun c hc =>
    isInert_of_isNameChar (Text.keptByCase_isNameChar.lowerFrom h false c hc)

section Fields

variable {names : TypeNames} {f : Field}

/-- What stands for the type of a field is code, also where it may be missing. -/
theorem fieldType_isCode (hn : names.AreAscii) (hf : f.HasAsciiNames) :
    IsCode (fieldType names f) := by
  unfold fieldType
  split
  · exact ⟨_, rfl, balanced_applied (inert_display hn.option).balanced
      (typeText_balanced hn hf.type)⟩
  · exact scalaType_isCode hn hf.type

/-- A value that may be absent, and is there. -/
theorem balanced_some {value : String} (h : Balanced value) :
    Balanced ("Some(" ++ value ++ ")") := by
  have hsome : Balanced "Some" := by decide
  simpa [String.append_assoc] using balanced_call hsome h

/-- The default of a field, if it has one, is balanced. -/
theorem defaultFieldValue_isCode (hf : f.HasAsciiNames) {v : Json}
    (h : defaultFieldValue f = .ok (some v)) : IsCode v := by
  unfold defaultFieldValue at h
  split at h
  · rename_i c hdefault
    obtain ⟨value, hvalue, h⟩ := bind_eq_ok.mp h
    have hcode : IsCode value :=
      literal_isCode (by decide) (by decide) (hf.default c hdefault) hvalue
    obtain ⟨s, rfl, hs⟩ := hcode
    cases h
    split
    · exact ⟨_, rfl, balanced_some hs⟩
    · exact ⟨s, rfl, hs⟩
  · split at h
    · cases h
      exact ⟨_, rfl, by decide⟩
    · cases h

/-- A parameter of the case class is balanced: its name, its type and its default. -/
theorem fieldParam_balanced (hn : names.AreAscii) (hf : f.HasAsciiNames) {s : String}
    (h : fieldParam names f = .ok s) : Balanced s := by
  obtain ⟨default?, hdefault, h⟩ := bind_eq_ok.mp h
  have hname := (inert_escapeIdentifier (inert_display hf.name)).balanced
  have hcolon : Balanced ": " := by decide
  have hparam := (hname.append hcolon).append (fieldType_isCode hn hf).balanced
  cases default? with
  | none =>
    cases h
    exact hparam
  | some v =>
    cases h
    have hequal : Balanced " = " := by decide
    exact (hparam.append hequal).append (defaultFieldValue_isCode hf hdefault).balanced

end Fields

section Lists

variable {names : TypeNames} {fields : List Field}

/-- The parameters of a case class are balanced. -/
theorem fieldArgs_balanced (hn : names.AreAscii) (hf : ∀ f ∈ fields, f.HasAsciiNames) {s : String}
    (h : fieldArgs names fields = .ok s) : Balanced s := by
  obtain ⟨params, hparams, h⟩ := bind_eq_ok.mp h
  cases h
  apply joinedBy_balanced
  exact forall_of_mapM_eq_ok hparams fun f hmem _ hmade => fieldParam_balanced hn (hf f hmem) hmade

/-- The names of arguments are balanced, each with the same lead. -/
theorem argumentNames_balanced {lead : String} (hl : Balanced lead)
    (hf : ∀ f ∈ fields, f.HasAsciiNames) : Balanced (argumentNames lead fields) := by
  apply joinedBy_balanced
  intro t ht
  obtain ⟨f, hmem, rfl⟩ := List.mem_map.mp ht
  exact hl.append (inert_escapeIdentifier (inert_display (hf f hmem).name)).balanced

/-- What is handed to the constructor is balanced. -/
theorem constructorArgs_balanced (hf : ∀ f ∈ fields, f.HasAsciiNames) {s : String}
    (h : constructorArgs fields = .ok s) : Balanced s := by
  obtain ⟨locals, hlocals, h⟩ := bind_eq_ok.mp h
  cases h
  apply joinedBy_balanced
  refine forall_of_mapM_eq_ok hlocals fun f hmem _ hmade => ?_
  obtain ⟨name, hname, hmade⟩ := bind_eq_ok.mp hmade
  cases hmade
  have hname : Inert name := inert_of_isAsciiName (isAsciiName_of_textOr (hf f hmem).name hname)
  have hscore : Inert "_" := by decide
  exact (hname.append hscore).balanced

end Lists

end ThriftScala.Scala
