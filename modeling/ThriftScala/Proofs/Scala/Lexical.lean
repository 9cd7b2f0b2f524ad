/-
  The lexical form of Scala source.

  A scan reads a source character by character.  Its state says what it is in — code, a comment, a
  text literal — and which brackets are open.  It stops where a bracket closes what is not open
  innermost, and where a line ends inside a literal.  A source is well formed if a scan of it ends
  as it began: in code, with nothing open (`WellFormed`).

  What is open around a piece of source does not matter for the piece (`scan_inside`).  So a piece
  that is well formed alone can stand anywhere in code (`Balanced.takes`), and the inside of a
  literal in any literal (`Quotable.takes`).  Characters that mean nothing to a scan are inert, and
  a text of them can stand in both.

  `balanced_of_parts` is how expressions are shown to be balanced: of an expression that is put
  together from fixed texts and from balanced ones, only the fixed texts are scanned.
-/
import Mathlib.Tactic.SplitIfs
import ThriftScala.Text.Line

namespace ThriftScala.Scala

/-! ## The scan -/

/-- The three kinds of brackets. -/
inductive Bracket where
  | round
  | square
  | curly
  deriving DecidableEq, Repr

namespace Bracket

/-- The bracket that a character opens. -/
def opened? : Char → Option Bracket
  | '(' => some .round
  | '[' => some .square
  | '\x7b' => some .curly
  | _ => none

/-- The bracket that a character closes. -/
def closed? : Char → Option Bracket
  | ')' => some .round
  | ']' => some .square
  | '\x7d' => some .curly
  | _ => none

end Bracket

/-- What a scan is in. -/
inductive LexMode where
  | code
  /-- Behind a slash, which may begin a comment. -/
  | slash
  /-- In a comment up to the end of the line. -/
  | lineComment
  /-- In a comment that stands in so many others; the character before. -/
  | comment (depth : Nat) (last : Char)
  /-- In a text literal. -/
  | literal
  /-- Behind a backslash in a text literal. -/
  | escape
  deriving DecidableEq, Repr

/-- What a scan is in, and the brackets that are open, the innermost in front. -/
structure LexState where
  mode : LexMode
  opened : List Bracket
  deriving DecidableEq, Repr

namespace LexState

/-- In code, with nothing open. -/
def start : LexState := ⟨.code, []⟩

/-- A character of code. -/
def stepCode (opened : List Bracket) (c : Char) : Option LexState :=
  if c = '"' then some ⟨.literal, opened⟩
  else if c = '/' then some ⟨.slash, opened⟩
  else
    match Bracket.opened? c, Bracket.closed? c with
    | some b, _ => some ⟨.code, b :: opened⟩
    | none, some b => if opened.head? = some b then some ⟨.code, opened.tail⟩ else none
    | none, none => some ⟨.code, opened⟩

/-- One character; there is no state behind one that cannot stand there. -/
def step (st : LexState) (c : Char) : Option LexState :=
  match st.mode with
  | .code => stepCode st.opened c
  | .slash =>
    if c = '/' then some ⟨.lineComment, st.opened⟩
    else if c = '*' then some ⟨.comment 0 ' ', st.opened⟩
    else stepCode st.opened c
  | .lineComment => some ⟨if Text.isLineEnd c then .code else .lineComment, st.opened⟩
  | .comment depth last =>
    if last = '*' ∧ c = '/' then
      match depth with
      | 0 => some ⟨.code, st.opened⟩
      | depth + 1 => some ⟨.comment depth ' ', st.opened⟩
    else if last = '/' ∧ c = '*' then some ⟨.comment (depth + 1) ' ', st.opened⟩
    else some ⟨.comment depth c, st.opened⟩
  | .literal =>
    if Text.isLineEnd c then none
    else some ⟨if c = '"' then .code else if c = '\\' then .escape else .literal, st.opened⟩
  | .escape => if Text.isLineEnd c then none else some ⟨.literal, st.opened⟩

/-- The state behind all characters. -/
def scan (st : LexState) : List Char → Option LexState
  | [] => some st
  | c :: cs =>
    match st.step c with
    | some next => next.scan cs
    | none => none

end LexState

/-- A scan of the source ends as it began: outside of literals and comments, with nothing open. -/
def WellFormed (source : String) : Prop := LexState.start.scan source.toList = some .start

instance (source : String) : Decidable (WellFormed source) :=
  inferInstanceAs (Decidable (_ = _))

/-! ## Pieces of a source -/

/-- A scan gets over the piece from one state to the other. -/
def Takes (a : LexState) (piece : String) (b : LexState) : Prop := a.scan piece.toList = some b

namespace LexState

/-- A text is gone through part by part. -/
theorem scan_append (a : LexState) (cs ds : List Char) :
    a.scan (cs ++ ds) = (a.scan cs).bind (·.scan ds) := by
  induction cs generalizing a with
  | nil => rfl
  | cons c cs ih =>
    rw [List.cons_append, scan, scan]
    cases a.step c with
    | none => rfl
    | some b => exact ih b

/-- The state with more brackets open around it. -/
def inside (st : LexState) (outer : List Bracket) : LexState := ⟨st.mode, st.opened ++ outer⟩

/-- In code, a step that works alone works in the same way inside of open brackets. -/
theorem stepCode_inside {opened outer : List Bracket} {c : Char} {b : LexState}
    (h : stepCode opened c = some b) : stepCode (opened ++ outer) c = some (b.inside outer) := by
  unfold stepCode at h ⊢
  split_ifs at h ⊢ with hquote hslash
  · cases h
    rfl
  · cases h
    rfl
  · cases hopened : Bracket.opened? c with
    | some bracket =>
      simp only [hopened] at h ⊢
      cases h
      rfl
    | none =>
      cases hclosed : Bracket.closed? c with
      | none =>
        simp only [hopened, hclosed] at h ⊢
        cases h
        rfl
      | some bracket =>
        simp only [hopened, hclosed] at h ⊢
        -- what is closed was opened inside of the piece
        cases opened with
        | nil => cases h
        | cons innermost opened =>
          by_cases hsame : innermost = bracket
          · simp [hsame] at h ⊢
            rw [← h]
            rfl
          · simp [hsame] at h

/-- A step that works alone works in the same way inside of open brackets. -/
theorem step_inside {a b : LexState} {outer : List Bracket} {c : Char} (h : a.step c = some b) :
    (a.inside outer).step c = some (b.inside outer) := by
  obtain ⟨mode, opened⟩ := a
  cases mode with
  | code => exact stepCode_inside h
  -- a slash that begins no comment was code, and what comes then is code too
  | slash =>
    simp only [step, inside] at h ⊢
    split_ifs at h ⊢
    · cases h; rfl
    · cases h; rfl
    · exact stepCode_inside h
  | lineComment => cases h; rfl
  | comment depth last =>
    simp only [step, inside] at h ⊢
    split_ifs at h ⊢
    · cases depth <;> (cases h; rfl)
    · cases h; rfl
    · cases h; rfl
  | literal =>
    simp only [step, inside] at h ⊢
    split_ifs at h ⊢ <;> (cases h; rfl)
  | escape =>
    simp only [step, inside] at h ⊢
    split_ifs at h ⊢
    cases h
    rfl

/-- **What is open around a piece does not matter for it.** -/
theorem scan_inside {a b : LexState} {outer : List Bracket} {cs : List Char}
    (h : a.scan cs = some b) : (a.inside outer).scan cs = some (b.inside outer) := by
  induction cs generalizing a with
  | nil =>
    cases h
    rfl
  | cons c cs ih =>
    rw [scan] at h ⊢
    cases hstep : a.step c with
    | none =>
      rw [hstep] at h
      cases h
    | some next =>
      rw [hstep] at h
      rw [step_inside hstep]
      exact ih h

end LexState

namespace Takes

variable {a b c : LexState} {s t : String}

theorem empty (a : LexState) : Takes a "" a := rfl

/-- One piece after the other. -/
theorem append (hs : Takes a s b) (ht : Takes b t c) : Takes a (s ++ t) c := by
  unfold Takes at hs ht ⊢
  rw [String.toList_append, LexState.scan_append, hs]
  exact ht

/-- A text that is taken alone is taken in the same way inside of open brackets. -/
theorem inside (h : Takes a s b) (outer : List Bracket) :
    Takes (a.inside outer) s (b.inside outer) := LexState.scan_inside h

end Takes

/-! ## Code and the inside of literals -/

/-- The piece is well formed alone. -/
def Balanced (s : String) : Prop := Takes .start s .start

/-- The piece stays in a literal that it stands in. -/
def Quotable (s : String) : Prop := Takes ⟨.literal, []⟩ s ⟨.literal, []⟩

instance (s : String) : Decidable (Balanced s) := inferInstanceAs (Decidable (_ = _))

instance (s : String) : Decidable (Quotable s) := inferInstanceAs (Decidable (_ = _))

/-- A balanced text is taken inside of any brackets. -/
theorem Balanced.takes {s : String} (h : Balanced s) (opened : List Bracket) :
    Takes ⟨.code, opened⟩ s ⟨.code, opened⟩ := h.inside opened

/-- What stays in a literal stays in it inside of any brackets. -/
theorem Quotable.takes {s : String} (h : Quotable s) (opened : List Bracket) :
    Takes ⟨.literal, opened⟩ s ⟨.literal, opened⟩ := h.inside opened

theorem balanced_empty : Balanced "" := Takes.empty _

/-- Balanced texts in a row are balanced. -/
theorem Balanced.append {s t : String} (hs : Balanced s) (ht : Balanced t) : Balanced (s ++ t) :=
  Takes.append hs ht

/-- What stays in a literal stays in it in a row. -/
theorem Quotable.append {s t : String} (hs : Quotable s) (ht : Quotable t) : Quotable (s ++ t) :=
  Takes.append hs ht

/-- The character means nothing to a scan, in code and in a literal alike. -/
def isInert (c : Char) : Bool :=
  c ≠ '"' && c ≠ '\\' && c ≠ '/' && (Bracket.opened? c).isNone && (Bracket.closed? c).isNone
    && !Text.isLineEnd c

/-- All characters of the text are inert. -/
def Inert (s : String) : Prop := ∀ c ∈ s.toList, isInert c = true

instance (s : String) : Decidable (Inert s) := List.decidableBAll _ _

section Inert

variable {s t : String}

/-- An inert character changes nothing in code and in literals. -/
theorem step_inert {c : Char} (h : isInert c = true) {mode : LexMode}
    (hmode : mode = .code ∨ mode = .literal) (opened : List Bracket) :
    LexState.step ⟨mode, opened⟩ c = some ⟨mode, opened⟩ := by
  simp only [isInert, Bool.and_eq_true, decide_eq_true_eq, Option.isNone_iff_eq_none,
    Bool.not_eq_true'] at h
  obtain ⟨⟨⟨⟨⟨hquote, hback⟩, hslash⟩, hopened⟩, hclosed⟩, hline⟩ := h
  rcases hmode with rfl | rfl
  · simp [LexState.step, LexState.stepCode, hquote, hslash, hopened, hclosed]
  · simp [LexState.step, hquote, hback, hline]

/-- Inert characters leave code in code, and a literal in itself. -/
theorem Inert.takes (h : Inert s) {mode : LexMode} (hmode : mode = .code ∨ mode = .literal)
    (opened : List Bracket) : Takes ⟨mode, opened⟩ s ⟨mode, opened⟩ := by
  unfold Inert at h
  unfold Takes
  generalize s.toList = cs at h
  induction cs with
  | nil => rfl
  | cons c cs ih =>
    rw [List.forall_mem_cons] at h
    rw [LexState.scan, step_inert h.1 hmode]
    exact ih h.2

theorem Inert.balanced (h : Inert s) : Balanced s := h.takes (.inl rfl) []

theorem Inert.quotable (h : Inert s) : Quotable s := h.takes (.inr rfl) []

/-- Inert texts in a row are inert. -/
theorem Inert.append (hs : Inert s) (ht : Inert t) : Inert (s ++ t) := by
  unfold Inert
  rw [String.toList_append]
  exact List.forall_mem_append.mpr ⟨hs, ht⟩

end Inert

/-! ## Pieces that are put together from parts -/

/-- A part of a piece of code: a fixed text, or a text that is known to be balanced. -/
inductive Part where
  | fixed (s : String)
  | hole (s : String)

namespace Part

/-- The text of a part. -/
@[simp] def text : Part → String
  | .fixed s => s
  | .hole s => s

/-- The text of parts, one after the other. -/
@[simp] def texts : List Part → String
  | [] => ""
  | p :: ps => p.text ++ texts ps

/-- A scan of the fixed texts, which must be in code where a hole comes. -/
def scan (st : LexState) : List Part → Option LexState
  | [] => some st
  | .fixed s :: ps => (st.scan s.toList).bind (scan · ps)
  | .hole _ :: ps => if st.mode = .code then scan st ps else none

/-- Are the holes balanced? -/
def HolesBalanced : List Part → Prop
  | [] => True
  | .fixed _ :: ps => HolesBalanced ps
  | .hole s :: ps => Balanced s ∧ HolesBalanced ps

/-- The texts of parts are taken as their outline says if the holes are balanced. -/
theorem takes_texts {ps : List Part} {a b : LexState} (hholes : HolesBalanced ps)
    (h : scan a ps = some b) : Takes a (texts ps) b := by
  induction ps generalizing a with
  | nil =>
    cases h
    exact .empty _
  | cons p ps ih =>
    cases p with
    | fixed s =>
      obtain ⟨next, hs, hrest⟩ := Option.bind_eq_some_iff.mp h
      have hs : Takes a s next := hs
      exact hs.append (ih hholes hrest)
    | hole s =>
      obtain ⟨hs, hholes⟩ := hholes
      obtain ⟨mode, opened⟩ := a
      rw [scan] at h
      split_ifs at h with hmode
      obtain rfl : mode = .code := hmode
      exact (hs.takes opened).append (ih hholes h)

end Part

/-- **A piece is balanced if its fixed texts are and so are those in between.**  The texts of the
    parts are put together to the right, so `simp [String.append_assoc]` turns a text that is
    written from left to right into theirs. -/
theorem balanced_of_parts (ps : List Part) (hfixed : Part.scan .start ps = some .start)
    (hholes : Part.HolesBalanced ps) : Balanced (Part.texts ps) :=
  Part.takes_texts hholes hfixed

end ThriftScala.Scala
