/-
  Different constants have different literals.

  Commas, arrows and brackets that join the parts of a literal may stand in its parts as well, so no
  literal can be cut at them.  It is read from the front instead.

  1. **A literal is a word and a tail** (`literal_eq_ok`).  The word takes all letters, digits, low
     lines and minus signs in front (`word_isWordPart`); the tail is empty or begins with a quote, a
     bracket or a dot (`head?_tail`).  Behind a part of a literal stands a comma, a blank or a
     bracket that closes (`IsBehind`), so it shows where the word ends and whether there is a tail.

  2. **Where a text literal ends**: at the first bare quote (`quoted_append_inj`).

  3. **A literal with anything behind it shows where it ends** (`spelled_append_inj`), by induction
     on the constant together with the elements of lists and the pairs of maps: of two such texts
     that are equal the literals are of equal constants, and what is behind them is equal.  With
     nothing behind them this is what was to be shown.
-/
import ThriftScala.Proofs.Outcome
import ThriftScala.Proofs.Scala.TextLiterals
import ThriftScala.Text.Ident

namespace ThriftScala

open Outcome

/-! ## Constants without doubles -/

/-- An identifier of ASCII that is not the literal of null or of a boolean. -/
def Json.IsConstantName (v : Json) : Prop :=
  ∃ s : String, v = .str s ∧ Text.isWord s.toList ∧ s ≠ "null" ∧ s ≠ "true" ∧ s ≠ "false"

mutual

/-- No double is in the constant, and its names are those that a constant can have. -/
def Constant.IsPlain : Constant → Prop
  | .double _ => False
  | .list elems => Constant.ArePlain elems
  | .map pairs => Constant.PairsArePlain pairs
  | .enumValue enum value => enum.IsConstantName ∧ value.IsConstantName
  | .identifier name => name.IsConstantName
  | .null | .bool _ | .int _ | .str _ => True

/-- All constants of a list are plain. -/
def Constant.ArePlain : List Constant → Prop
  | [] => True
  | c :: cs => c.IsPlain ∧ Constant.ArePlain cs

/-- All constants in a list of pairs are plain. -/
def Constant.PairsArePlain : List (Constant × Constant) → Prop
  | [] => True
  | (k, v) :: ps => k.IsPlain ∧ v.IsPlain ∧ Constant.PairsArePlain ps

end

namespace Scala

/-! ## Words and tails -/

/-- A letter, digit or low line of ASCII, or a minus sign. -/
def isWordPart (c : Char) : Bool := Text.isWordChar c || c == '-'

/-- The word that the literal of a constant begins with. -/
def word : Constant → List Char
  | .null => "null".toList
  | .bool b => if b then "true".toList else "false".toList
  | .int n => (toString n).toList
  | .double _ | .str _ => []
  | .list _ => "List".toList
  | .map _ => "Map".toList
  | .enumValue enum _ => enum.display.toList
  | .identifier name => name.display.toList

mutual

/-- What stands behind the word. -/
def tail : Constant → List Char
  | .str s => '"' :: (literalChars s.toList ++ ['"'])
  | .list elems => '(' :: (Text.joinWith ", ".toList (spelledElements elems) ++ [')'])
  | .map pairs => '(' :: (Text.joinWith ", ".toList (spelledPairs pairs) ++ [')'])
  | .enumValue _ value => '.' :: value.display.toList
  | .null | .bool _ | .int _ | .double _ | .identifier _ => []

/-- The literals of the elements of a list. -/
def spelledElements : List Constant → List (List Char)
  | [] => []
  | c :: cs => (word c ++ tail c) :: spelledElements cs

/-- The literals of the pairs of a map. -/
def spelledPairs : List (Constant × Constant) → List (List Char)
  | [] => []
  | (k, v) :: ps =>
    (word k ++ tail k ++ (" -> ".toList ++ (word v ++ tail v))) :: spelledPairs ps

end

/-- The characters of the literal of a plain constant. -/
def spelled (c : Constant) : List Char := word c ++ tail c

theorem spelledElements_cons (c : Constant) (cs : List Constant) :
    spelledElements (c :: cs) = spelled c :: spelledElements cs := by
  rw [spelledElements, spelled]

theorem spelledPairs_cons (k v : Constant) (ps : List (Constant × Constant)) :
    spelledPairs ((k, v) :: ps) =
      (spelled k ++ (" -> ".toList ++ spelled v)) :: spelledPairs ps := by
  rw [spelledPairs, spelled, spelled]

mutual

/-- **A plain constant has a literal**, its word with its tail. -/
theorem literal_eq_ok : ∀ {c : Constant}, c.IsPlain →
    literal {} c = .ok (.str (.ofList (spelled c)))
  | .null, _ => rfl
  | .bool b, _ => by cases b <;> rfl
  | .int n, _ => by simp [literal, spelled, word, tail]
  | .str s, _ => by
    simp [literal, spelled, word, tail, quoteText, escapeText, ← String.toList_inj]
  | .list elems, hc => by
    rw [literal, literalTexts_eq_ok hc]
    simp [bind, pure, Except.bind, Except.pure, spelled, word, tail, ← String.toList_inj,
      String.toList_joinedBy]
  | .map pairs, hc => by
    rw [literal, pairTexts_eq_ok hc]
    simp [bind, pure, Except.bind, Except.pure, spelled, word, tail, ← String.toList_inj,
      String.toList_joinedBy]
  | .enumValue enum value, _ => by
    simp [literal, spelled, word, tail, ← String.toList_inj]
  | .identifier name, hc => by
    obtain ⟨s, rfl, -⟩ := hc
    simp [literal, spelled, word, tail, Json.display]

/-- The elements of a plain list are written as they are spelled. -/
theorem literalTexts_eq_ok : ∀ {cs : List Constant}, Constant.ArePlain cs →
    literalTexts {} cs = .ok ((spelledElements cs).map .ofList)
  | [], _ => rfl
  | c :: cs, hcs => by
    rw [literalTexts, literal_eq_ok hcs.1, literalTexts_eq_ok hcs.2]
    rfl

/-- The pairs of a plain map are written as they are spelled. -/
theorem pairTexts_eq_ok : ∀ {ps : List (Constant × Constant)}, Constant.PairsArePlain ps →
    pairTexts {} ps = .ok ((spelledPairs ps).map .ofList)
  | [], _ => rfl
  | (k, v) :: ps, hps => by
    obtain ⟨hk, hv, hps⟩ := hps
    rw [pairTexts, literal_eq_ok hk, literal_eq_ok hv, pairTexts_eq_ok hps]
    simp [bind, pure, Except.bind, Except.pure, spelledPairs, spelled, Json.display,
      ← String.toList_inj]

end

/-! ## What stands behind a part -/

/-- What stands behind a literal in another one: nothing, a comma, a blank or a closing bracket. -/
def IsBehind (cs : List Char) : Prop := ∀ c, cs.head? = some c → c = ',' ∨ c = ' ' ∨ c = ')'

/-- A word ends where something stands behind a constant. -/
theorem IsBehind.not_isWordPart {u : List Char} (h : IsBehind u) :
    ∀ c, u.head? = some c → isWordPart c = false := by
  intro c hc
  rcases h c hc with rfl | rfl | rfl <;> rfl

/-- The characters of a word are parts of words. -/
theorem isWordPart_of_isWord {cs : List Char} (h : Text.isWord cs = true) :
    ∀ c ∈ cs, isWordPart c := by
  intro c hc
  cases cs with
  | nil => cases hc
  | cons d cs =>
    rw [Text.isWord, Bool.and_eq_true] at h
    rcases List.mem_cons.mp hc with rfl | hc
    · have hd := h.1
      rw [Bool.or_eq_true] at hd
      rcases hd with hd | hd <;> simp [isWordPart, Text.isWordChar, Char.isAlphanum, hd]
    · simp [isWordPart, List.all_eq_true.mp h.2 c hc]

/-- The characters of a number are parts of words, also a minus in front. -/
theorem isWordPart_toString (n : Int) : ∀ c ∈ (toString n).toList, isWordPart c := by
  have hdigits (m : Nat) : ∀ c ∈ Nat.toDigits 10 m, isWordPart c := by
    intro c hc
    simp [isWordPart, Text.isWordChar, Char.isAlphanum, Json.isDigit_of_mem_toDigits hc]
  rw [Json.toList_toString_int]
  split
  · exact hdigits _
  · exact List.forall_mem_cons.mpr ⟨by decide, hdigits _⟩

/-- The word takes the letters, digits, low lines and minus signs in front. -/
theorem word_isWordPart {c : Constant} (hc : c.IsPlain) : ∀ x ∈ word c, isWordPart x := by
  cases c with
  | null => exact List.all_eq_true.mp (by decide)
  | bool b => cases b <;> exact List.all_eq_true.mp (by decide)
  | int n => exact isWordPart_toString n
  | double x => exact hc.elim
  | str s => simp [word]
  | list cs => simp [word]; decide
  | map ps => simp [word]; decide
  | enumValue enum value =>
    obtain ⟨⟨s, rfl, hs, -⟩, -⟩ := hc
    exact isWordPart_of_isWord hs
  | identifier name =>
    obtain ⟨s, rfl, hs, -⟩ := hc
    exact isWordPart_of_isWord hs

/-- The character that the tail begins with, if there is a tail. -/
def mark : Constant → Option Char
  | .str _ => some '"'
  | .list _ | .map _ => some '('
  | .enumValue _ _ => some '.'
  | .null | .bool _ | .int _ | .double _ | .identifier _ => none

/-- Behind its word a constant goes on with its mark. -/
theorem head?_tail (c : Constant) : (tail c).head? = mark c := by
  cases c <;> simp [tail, mark]

/-- The tail and what stands behind it begin with no part of a word. -/
theorem not_isWordPart_head? {c : Constant} {u : List Char} (hu : IsBehind u) :
    ∀ x, (tail c ++ u).head? = some x → isWordPart x = false := by
  intro x hx
  rw [List.head?_append, head?_tail] at hx
  cases c
  case str | list | map | enumValue =>
    cases hx
    rfl
  all_goals exact hu.not_isWordPart x hx

/-- The word ends where the tail begins. -/
theorem word_append_inj {c d : Constant} (hc : c.IsPlain) (hd : d.IsPlain) {u v : List Char}
    (hu : IsBehind u) (hv : IsBehind v) (h : spelled c ++ u = spelled d ++ v) :
    word c = word d ∧ tail c ++ u = tail d ++ v := by
  rw [spelled, spelled, List.append_assoc, List.append_assoc] at h
  exact Text.append_inj_of_kind (word_isWordPart hc) (word_isWordPart hd) (not_isWordPart_head? hu)
    (not_isWordPart_head? hv) h

/-- A mark is none of the characters that stand behind a constant. -/
theorem not_behind_of_mark {c : Constant} {x : Char} (h : mark c = some x) :
    ¬ (x = ',' ∨ x = ' ' ∨ x = ')') := by
  cases c <;> cases h <;> decide

/-- What stands behind a literal is not taken for a tail. -/
theorem mark_eq {c d : Constant} {u v : List Char} (hu : IsBehind u) (hv : IsBehind v)
    (h : tail c ++ u = tail d ++ v) : mark c = mark d := by
  have hhead := congrArg List.head? h
  rw [List.head?_append, List.head?_append, head?_tail, head?_tail] at hhead
  cases hc : mark c with
  | some x =>
    cases hd : mark d with
    | some y => rwa [hc, hd] at hhead
    | none =>
      rw [hc, hd] at hhead
      exact absurd (hv x hhead.symm) (not_behind_of_mark hc)
  | none =>
    cases hd : mark d with
    | some y =>
      rw [hc, hd] at hhead
      exact absurd (hu y hhead) (not_behind_of_mark hd)
    | none => rfl

/-! ## Words alone -/

/-- The constant whose literal is a word alone. -/
def ofWord (w : List Char) : Constant :=
  if Text.isWord w then
    if w = "null".toList then .null
    else if w = "true".toList then .bool true
    else if w = "false".toList then .bool false
    else .identifier (.str (.ofList w))
  else
    match Json.readNumber? w with
    | some (.int n, _) => .int n
    | _ => .null

/-- A number is no word. -/
theorem not_isWord_toString (n : Int) : Text.isWord (toString n).toList = false := by
  rw [Json.toList_toString_int]
  split
  · obtain ⟨d, ds, hcons, hdigit⟩ := Json.exists_toDigits_cons n.toNat
    have hall : ∀ m < 58, (Char.ofNat m).isDigit →
        (Char.ofNat m).isAlpha = false ∧ Char.ofNat m ≠ '_' := by decide
    have hd := hall d.toNat (Nat.lt_succ_of_le (Char.isDigit_iff_toNat.mp hdigit).2)
    rw [Char.ofNat_toNat] at hd
    simp [hcons, Text.isWord, hd hdigit]
  · simp [Text.isWord]

/-- **A constant that is a word alone is told by its word.** -/
theorem ofWord_word {c : Constant} (hc : c.IsPlain) (hmark : mark c = none) :
    ofWord (word c) = c := by
  cases c with
  | null => rfl
  | bool b => cases b <;> rfl
  | int n =>
    have hread := Json.readNumber_toString n (r := []) trivial
    rw [List.append_nil] at hread
    rw [word, ofWord, not_isWord_toString, hread]
    rfl
  | double x => exact hc.elim
  | identifier name =>
    obtain ⟨s, rfl, hword, hnull, htrue, hfalse⟩ := hc
    have hs : word (.identifier (.str s)) = s.toList := rfl
    rw [hs, ofWord, if_pos hword, if_neg, if_neg, if_neg, String.ofList_toList]
    all_goals rwa [String.toList_inj]
  | str s => cases hmark
  | list cs => cases hmark
  | map ps => cases hmark
  | enumValue enum value => cases hmark

/-- A word without a tail shows which constant it is the literal of. -/
theorem word_alone_append_inj {c d : Constant} (hmark : mark c = none) (hc : c.IsPlain)
    (hd : d.IsPlain) {u v : List Char} (hu : IsBehind u) (hv : IsBehind v)
    (h : spelled c ++ u = spelled d ++ v) : c = d ∧ u = v := by
  obtain ⟨hword, htail⟩ := word_append_inj hc hd hu hv h
  have hmark' : mark d = none := by rw [← mark_eq hu hv htail, hmark]
  have hnone {e : Constant} (he : mark e = none) : tail e = [] := by
    rwa [← List.head?_eq_none_iff, head?_tail]
  rw [hnone hmark, hnone hmark'] at htail
  have hcd : c = d := by
    rw [← ofWord_word hc hmark, hword, ofWord_word hd hmark']
  exact ⟨hcd, htail⟩

/-! ## Literals of texts -/

/-- What is written for a text leaves no quote open in front of the rest. -/
theorem hasBareQuote_literalChars_append (cs r : List Char) :
    hasBareQuote (literalChars cs ++ r) = hasBareQuote r := by
  induction cs with
  | nil => rfl
  | cons c cs ih =>
    rw [literalChars, List.flatMap_cons, List.append_assoc, hasBareQuote_literalChar,
      ← literalChars, ih]

/-- Different texts are written differently. -/
theorem literalChars_inj {cs ds : List Char} (h : literalChars cs = literalChars ds) :
    cs = ds := by
  have hunits := readUnits_literalChars cs
  rw [h, readUnits_literalChars, Option.some.injEq] at hunits
  have hchars := joinUnits_flatMap cs
  rw [← hunits, joinUnits_flatMap, Option.some.injEq] at hchars
  exact hchars.symm

/-- **A text literal ends at its first bare quote**: there is none in what is written for a text. -/
theorem quoted_append_inj {cs ds u v : List Char}
    (h : literalChars cs ++ '"' :: u = literalChars ds ++ '"' :: v) : cs = ds ∧ u = v := by
  have hclosed (es w r : List Char) : literalChars es ≠ literalChars w ++ '"' :: r := by
    intro heq
    have hquote := hasBareQuote_literalChars es
    rw [heq, hasBareQuote_literalChars_append] at hquote
    cases hquote
  -- the shorter literal would close inside the longer one, where every quote is escaped
  rcases List.append_eq_append_iff.mp h with ⟨w, hds, hu⟩ | ⟨w, hcs, hv⟩
  · cases w with
    | nil =>
      rw [List.append_nil] at hds
      exact ⟨(literalChars_inj hds).symm, (List.cons.inj hu).2⟩
    | cons c w =>
      obtain ⟨rfl, -⟩ := List.cons.inj hu
      exact absurd hds (hclosed ds cs w)
  · cases w with
    | nil =>
      rw [List.append_nil] at hcs
      exact ⟨literalChars_inj hcs, (List.cons.inj hv).2.symm⟩
    | cons c w =>
      obtain ⟨rfl, -⟩ := List.cons.inj hv
      exact absurd hcs (hclosed cs ds w)

/-! ## Joined parts -/

/-- What stands behind the first part, if these are the others and the bracket is closed at the
    end. -/
def behindFirst (others : List (List Char)) (u : List Char) : List Char :=
  match others with
  | [] => ')' :: u
  | t :: ts => ", ".toList ++ (Text.joinWith ", ".toList (t :: ts) ++ ')' :: u)

/-- The first of several texts is told from what stands behind it. -/
theorem joinWith_append (t : List Char) (ts : List (List Char)) (u : List Char) :
    Text.joinWith ", ".toList (t :: ts) ++ ')' :: u = t ++ behindFirst ts u := by
  cases ts <;> simp [Text.joinWith, behindFirst]

/-- Behind the first of several texts a comma or a bracket stands. -/
theorem isBehind_behindFirst (ts : List (List Char)) (u : List Char) :
    IsBehind (behindFirst ts u) := by
  cases ts <;> simp [IsBehind, behindFirst]

/-- The comma or the bracket behind a part says whether it is the last one. -/
theorem joinWith_of_behindFirst {ts rs : List (List Char)} {u v : List Char}
    (h : behindFirst ts u = behindFirst rs v) :
    Text.joinWith ", ".toList ts ++ ')' :: u = Text.joinWith ", ".toList rs ++ ')' :: v := by
  cases ts <;> cases rs
  case nil.nil => exact h
  case cons.cons => exact List.append_cancel_left h
  all_goals simp [behindFirst] at h

/-- No bracket is closed where a literal begins. -/
theorem spelled_append_ne {c : Constant} (hc : c.IsPlain) (u v : List Char) :
    spelled c ++ u ≠ ')' :: v := by
  intro h
  have hbehind : IsBehind (spelled c ++ u) := by simp [h, IsBehind]
  rw [spelled, List.append_assoc] at hbehind
  cases hword : word c with
  -- a word would begin with a bracket
  | cons x w =>
    rw [hword] at hbehind
    have hx := word_isWordPart hc x (by simp [hword])
    rw [hbehind.not_isWordPart x rfl] at hx
    cases hx
  | nil =>
    cases hmark : mark c with
    | some x =>
      refine not_behind_of_mark hmark (hbehind x ?_)
      rw [hword, List.nil_append, List.head?_append, head?_tail, hmark]
      rfl
    | none =>
      -- neither a word nor a mark: no constant is written so
      have hnull := ofWord_word hc hmark
      rw [hword] at hnull
      rw [← hnull] at hword
      cases hword

/-! ## Whole literals -/

mutual

/-- **A literal shows where it ends**, whatever stands behind it in another one. -/
theorem spelled_append_inj : ∀ {c d : Constant}, c.IsPlain → d.IsPlain → ∀ {u v : List Char},
    IsBehind u → IsBehind v → spelled c ++ u = spelled d ++ v → c = d ∧ u = v
  | .str s, d, hc, hd, u, v, hu, hv, h => by
    obtain ⟨-, htail⟩ := word_append_inj hc hd hu hv h
    have hmark := mark_eq hu hv htail
    cases d with
    | str t =>
      simp only [tail, List.cons_append, List.append_assoc, List.nil_append, List.cons.injEq,
        true_and] at htail
      obtain ⟨hst, huv⟩ := quoted_append_inj htail
      exact ⟨congrArg _ (String.toList_inj.mp hst), huv⟩
    | _ => cases hmark
  | .list cs, d, hc, hd, u, v, hu, hv, h => by
    obtain ⟨hword, htail⟩ := word_append_inj hc hd hu hv h
    have hmark := mark_eq hu hv htail
    cases d with
    | list ds =>
      simp only [tail, List.cons_append, List.append_assoc, List.nil_append, List.cons.injEq,
        true_and] at htail
      obtain ⟨hcs, huv⟩ := elements_append_inj hc hd htail
      exact ⟨congrArg _ hcs, huv⟩
    -- lists and maps go on with the same mark: only their words tell them apart
    | map qs => cases hword
    | _ => cases hmark
  | .map ps, d, hc, hd, u, v, hu, hv, h => by
    obtain ⟨hword, htail⟩ := word_append_inj hc hd hu hv h
    have hmark := mark_eq hu hv htail
    cases d with
    | map qs =>
      simp only [tail, List.cons_append, List.append_assoc, List.nil_append, List.cons.injEq,
        true_and] at htail
      obtain ⟨hps, huv⟩ := pairs_append_inj hc hd htail
      exact ⟨congrArg _ hps, huv⟩
    | list ds => cases hword
    | _ => cases hmark
  | .enumValue enum value, d, hc, hd, u, v, hu, hv, h => by
    obtain ⟨hword, htail⟩ := word_append_inj hc hd hu hv h
    have hmark := mark_eq hu hv htail
    cases d with
    | enumValue enum' value' =>
      obtain ⟨⟨e, rfl, -⟩, ⟨x, rfl, hx, -⟩⟩ := hc
      obtain ⟨⟨f, rfl, -⟩, ⟨y, rfl, hy, -⟩⟩ := hd
      -- in front of the point stands the enum, behind it a word that ends where the constant does
      have hef : e = f := String.toList_inj.mp hword
      obtain ⟨hxy, huv⟩ := Text.append_inj_of_kind (isWordPart_of_isWord hx) (isWordPart_of_isWord hy)
        hu.not_isWordPart hv.not_isWordPart (List.cons.inj htail).2
      rw [hef, String.toList_inj.mp hxy]
      exact ⟨rfl, huv⟩
    | _ => cases hmark
  | .null, _, hc, hd, _, _, hu, hv, h => word_alone_append_inj rfl hc hd hu hv h
  | .bool b, _, hc, hd, _, _, hu, hv, h => word_alone_append_inj rfl hc hd hu hv h
  | .int n, _, hc, hd, _, _, hu, hv, h => word_alone_append_inj rfl hc hd hu hv h
  | .identifier name, _, hc, hd, _, _, hu, hv, h => word_alone_append_inj rfl hc hd hu hv h

/-- The elements of a list, up to the closing bracket. -/
theorem elements_append_inj : ∀ {cs ds : List Constant}, Constant.ArePlain cs →
    Constant.ArePlain ds → ∀ {u v : List Char},
    Text.joinWith ", ".toList (spelledElements cs) ++ ')' :: u =
      Text.joinWith ", ".toList (spelledElements ds) ++ ')' :: v → cs = ds ∧ u = v
  | [], [], _, _, _, _, h => ⟨rfl, (List.cons.inj h).2⟩
  | [], d :: ds, _, hds, _, _, h => by
    rw [spelledElements_cons, joinWith_append] at h
    exact absurd h.symm (spelled_append_ne hds.1 _ _)
  | c :: cs, [], hcs, _, _, _, h => by
    rw [spelledElements_cons, joinWith_append] at h
    exact absurd h (spelled_append_ne hcs.1 _ _)
  | c :: cs, d :: ds, hcs, hds, u, v, h => by
    rw [spelledElements_cons, spelledElements_cons, joinWith_append, joinWith_append] at h
    obtain ⟨hcd, hrest⟩ := spelled_append_inj hcs.1 hds.1 (isBehind_behindFirst _ u)
      (isBehind_behindFirst _ v) h
    obtain ⟨hrest, huv⟩ := elements_append_inj hcs.2 hds.2 (joinWith_of_behindFirst hrest)
    rw [hcd, hrest]
    exact ⟨rfl, huv⟩

/-- The pairs of a map, up to the closing bracket. -/
theorem pairs_append_inj : ∀ {ps qs : List (Constant × Constant)}, Constant.PairsArePlain ps →
    Constant.PairsArePlain qs → ∀ {u v : List Char},
    Text.joinWith ", ".toList (spelledPairs ps) ++ ')' :: u =
      Text.joinWith ", ".toList (spelledPairs qs) ++ ')' :: v → ps = qs ∧ u = v
  | [], [], _, _, _, _, h => ⟨rfl, (List.cons.inj h).2⟩
  | [], (l, y) :: qs, _, hqs, _, _, h => by
    rw [spelledPairs_cons, joinWith_append, List.append_assoc] at h
    exact absurd h.symm (spelled_append_ne hqs.1 _ _)
  | (k, x) :: ps, [], hps, _, _, _, h => by
    rw [spelledPairs_cons, joinWith_append, List.append_assoc] at h
    exact absurd h (spelled_append_ne hps.1 _ _)
  | (k, x) :: ps, (l, y) :: qs, hps, hqs, u, v, h => by
    obtain ⟨hk, hx, hps⟩ := hps
    obtain ⟨hl, hy, hqs⟩ := hqs
    have harrow (w : List Char) : IsBehind (" -> ".toList ++ w) := by simp [IsBehind]
    rw [spelledPairs_cons, spelledPairs_cons, joinWith_append, joinWith_append, List.append_assoc,
      List.append_assoc, List.append_assoc, List.append_assoc] at h
    obtain ⟨hkl, hrest⟩ := spelled_append_inj hk hl (harrow _) (harrow _) h
    obtain ⟨hxy, hrest⟩ := spelled_append_inj hx hy (isBehind_behindFirst _ u)
      (isBehind_behindFirst _ v) (List.append_cancel_left hrest)
    obtain ⟨hrest, huv⟩ := pairs_append_inj hps hqs (joinWith_of_behindFirst hrest)
    rw [hkl, hxy, hrest]
    exact ⟨rfl, huv⟩

end

end Scala

end ThriftScala
