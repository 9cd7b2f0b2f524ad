/-
  Sources that are laid out line by line.

  A `Line` is a line of a source as it was meant: a tag on its own, with blanks around it, or texts
  with tags between them.  `Line.Valid` says when it can be read back: what stands between the
  braces of a tag prints the tag (`Prints`), no text could be taken for the beginning of a tag, and
  a line of texts and tags is not by accident the own line of its only tag.

  A `Mark` is what a line is about, one character or one tag at a time.  The scanner finds the marks
  of a valid line again (`marks_lineTokens`): it leaves every text before it has seen an opening, it
  leaves a tag at the first closing braces, and the blanks inside a tag do not count.
-/
import Mathlib.Data.List.TakeDrop
import ThriftScala.Fragment.Source

namespace ThriftScala.Fragment

/-! ## Lines and their marks -/

/-- What a source is about: one character of a text, one tag, or a comment, whatever it says. -/
inductive Mark where
  | char (c : Char)
  | tag (sign : Sign) (key : List Char)
  | comment
  deriving DecidableEq

/-- Do these characters, between the braces of a tag, print the mark? -/
inductive Prints : Mark → List Char → Prop
  | scalar {before key after : List Char} :
      before.all isTagBlank = true → Text.isWord key = true → after.all isTagBlank = true →
      Prints (.tag .scalar key) (before ++ key ++ after)
  | sign {before between key after : List Char} {c : Char} {sign : Sign} :
      Sign.ofChar? c = some sign → sign ≠ .comment → before.all isTagBlank = true →
      between.all isTagBlank = true → Text.isWord key = true → after.all isTagBlank = true →
      Prints (.tag sign key) (before ++ c :: (between ++ key) ++ after)
  | comment {before words : List Char} :
      before.all isTagBlank = true → closes (words ++ ['\x7d']) = false →
      Prints .comment (before ++ '!' :: words)

/-- A tag as it stands in a source: what it is, and what stands between its braces. -/
structure PrintedTag where
  mark : Mark
  inside : List Char

/-- The characters of a tag. -/
def PrintedTag.chars (t : PrintedTag) : List Char :=
  '\x7b' :: '\x7b' :: (t.inside ++ ['\x7d', '\x7d'])

/-- A line of a source. -/
inductive Line where
  /-- A tag with a line of its own. -/
  | own (before : List Char) (tag : PrintedTag) (after : List Char)
  /-- A text, and then tags, each with the text behind it. -/
  | mixed (lead : List Char) (rest : List (PrintedTag × List Char))

namespace Line

/-- The characters of a line, its line end included. -/
def chars : Line → List Char
  | .own before tag after => before ++ tag.chars ++ after
  | .mixed lead rest => lead ++ rest.flatMap fun p => p.1.chars ++ p.2

/-- What a line is about.  On an own line nothing counts but the tag. -/
def marks : Line → List Mark
  | .own _ tag _ => [tag.mark]
  | .mixed lead rest => lead.map .char ++ rest.flatMap fun p => p.1.mark :: p.2.map .char

/-- No text of a line could be taken for the beginning of a tag, alone or together with the tag
    behind it. -/
def Clean : List Char → List (PrintedTag × List Char) → Prop
  | text, [] => hasOpening text = false
  | text, (_, next) :: rest => hasOpening (text ++ ['\x7b']) = false ∧ Clean next rest

/-- Can the line be read back? -/
def Valid : Line → Prop
  | .own before tag after =>
    Prints tag.mark tag.inside ∧ (∀ key, tag.mark ≠ .tag .scalar key) ∧
      Text.allBlank before = true ∧ Text.allBlank after = true
  | .mixed lead rest =>
    (∀ p ∈ rest, Prints p.1.mark p.1.inside) ∧ Clean lead rest ∧
      -- a tag that is alone with blanks would have the line for its own, unless it has no sign
      ∀ tag text, rest = [(tag, text)] →
        (∃ key, tag.mark = .tag .scalar key) ∨ Text.allBlank (lead ++ text) = false

end Line

/-- The marks of a token. -/
def Token.marks : Token → List Mark
  | .text cs => cs.map .char
  | .tag .comment _ => [.comment]
  | .tag sign key => [.tag sign key]
  | .malformed _ => []

/-! ## Where tags open and close -/

theorem closes_cons (c : Char) (r : List Char) :
    closes (c :: r) = (decide (c = '\x7d' ∧ r.head? = some '\x7d') || closes r) := by
  conv_lhs => unfold closes
  split
  · simp_all
  · rename_i hno heq
    cases heq
    have hfalse : ¬ (c = '\x7d' ∧ r.head? = some '\x7d') := by
      rintro ⟨rfl, hr⟩
      obtain ⟨r', rfl⟩ := List.head?_eq_some_iff.mp hr
      exact hno r' rfl rfl
    simp [hfalse]
  · simp_all

theorem hasOpening_cons (c : Char) (r : List Char) :
    hasOpening (c :: r) = (decide (c = '\x7b' ∧ r.head? = some '\x7b') || hasOpening r) := by
  conv_lhs => unfold hasOpening
  split
  · simp_all
  · rename_i hno heq
    cases heq
    have hfalse : ¬ (c = '\x7b' ∧ r.head? = some '\x7b') := by
      rintro ⟨rfl, hr⟩
      obtain ⟨r', rfl⟩ := List.head?_eq_some_iff.mp hr
      exact hno r' rfl rfl
    simp [hfalse]
  · simp_all

/-- Characters that are no closing braces do not close a tag. -/
theorem closes_append {before rest : List Char} (h : ∀ c ∈ before, c ≠ '\x7d') :
    closes (before ++ rest) = closes rest := by
  induction before with
  | nil => rfl
  | cons c before ih =>
    have hc : c ≠ '\x7d' := h c List.mem_cons_self
    have hrest := ih fun d hd => h d (List.mem_cons_of_mem c hd)
    rw [List.cons_append, closes_cons, hrest]
    simp [hc]

/-- Closing braces are found wherever they come. -/
theorem closes_of_braces (before rest : List Char) :
    closes (before ++ '\x7d' :: '\x7d' :: rest) = true := by
  induction before with
  | nil => rfl
  | cons c before ih => rw [List.cons_append, closes_cons, ih, Bool.or_true]

/-- Blanks open no tag. -/
theorem hasOpening_of_blank {cs : List Char} (h : Text.allBlank cs = true) (more : List Char)
    (hmore : hasOpening more = false) : hasOpening (cs ++ more) = false := by
  induction cs with
  | nil => exact hmore
  | cons c cs ih =>
    rw [Text.allBlank, List.all_cons, Bool.and_eq_true] at h
    have hc : c ≠ '\x7b' := by
      rintro rfl
      exact absurd h.1 (by decide)
    rw [List.cons_append, hasOpening_cons, ih h.2]
    simp [hc]

/-! ## Scanning -/

/-- A text in which no tag can open is seen up to its end. -/
theorem scan_text {tail : List Char} : ∀ {text : List Char} (seen : List Char),
    hasOpening (text ++ tail.take 1) = false →
    scan (.text seen) (text ++ tail) = scan (.text (text.reverse ++ seen)) tail
  | [], seen, _ => rfl
  | c :: text, seen, h => by
    rw [List.cons_append, hasOpening_cons, Bool.or_eq_false_iff] at h
    -- two characters decide whether a tag opens here, so one of the tail is enough to know
    have hhead : (text ++ tail).head? = (text ++ tail.take 1).head? := by
      cases text <;> cases tail <;> rfl
    have hopens : opens (c :: (text ++ tail)) = false := by
      unfold opens
      split
      · rename_i r heq
        rw [List.cons.injEq] at heq
        have hsecond : (text ++ tail).head? = some '\x7b' := by rw [heq.2]; rfl
        have hno := h.1
        simp [heq.1, ← hhead, hsecond] at hno
      · rfl
    rw [List.cons_append, scan]
    simp only [hopens, Bool.false_eq_true, if_false]
    rw [scan_text (c :: seen) h.2, List.reverse_cons, List.append_assoc]
    rfl

/-- A tag is seen up to the first closing braces. -/
theorem scan_inside {tail : List Char} : ∀ {inside : List Char} (seen : List Char),
    closes (inside ++ ['\x7d']) = false →
    scan (.tag seen) (inside ++ '\x7d' :: '\x7d' :: tail) =
      Piece.ofInside (seen.reverse ++ inside) :: scan (.text []) tail
  | [], seen, _ => by simp [scan]
  | c :: inside, seen, h => by
    rw [List.cons_append, closes_cons, Bool.or_eq_false_iff] at h
    have hhead : (inside ++ '\x7d' :: '\x7d' :: tail).head? = (inside ++ ['\x7d']).head? := by
      cases inside <;> rfl
    have hno : ¬ (c = '\x7d' ∧ (inside ++ '\x7d' :: '\x7d' :: tail).head? = some '\x7d') := by
      rw [hhead]
      simpa using h.1
    rw [List.cons_append, scan, if_neg hno, scan_inside (c :: seen) h.2, List.reverse_cons,
      List.append_assoc]
    rfl

/-- A whole tag behind a text ends the text. -/
theorem scan_tag {inside tail : List Char} (seen : List Char)
    (h : closes (inside ++ ['\x7d']) = false) :
    scan (.text seen) ('\x7b' :: '\x7b' :: (inside ++ ['\x7d', '\x7d']) ++ tail) =
      .text seen.reverse :: Piece.ofInside inside :: scan (.text []) tail := by
  have hopens : opens ('\x7b' :: '\x7b' :: (inside ++ '\x7d' :: '\x7d' :: tail)) = true := by
    rw [opens]
    exact closes_of_braces inside tail
  have hline : '\x7b' :: '\x7b' :: (inside ++ ['\x7d', '\x7d']) ++ tail =
      '\x7b' :: '\x7b' :: (inside ++ '\x7d' :: '\x7d' :: tail) := by simp
  rw [hline, scan, if_pos hopens, scan, scan_inside [] h]
  rfl

/-! ## What stands between the braces -/

/-- The characters of a key are neither braces nor blanks nor signs. -/
theorem wordChar_plain {c : Char} (h : Text.isWordChar c = true) :
    c ≠ '\x7d' ∧ isTagBlank c = false ∧ Sign.ofChar? c = none := by
  refine ⟨?_, ?_, ?_⟩
  · rintro rfl
    exact absurd h (by decide)
  · by_contra hblank
    rw [Bool.not_eq_false, isTagBlank, Bool.or_eq_true, beq_iff_eq, beq_iff_eq] at hblank
    rcases hblank with rfl | rfl <;> exact absurd h (by decide)
  · unfold Sign.ofChar?
    split
    all_goals first | rfl | exact absurd h (by decide)

theorem blank_ne_brace {cs : List Char} (h : cs.all isTagBlank = true) : ∀ c ∈ cs, c ≠ '\x7d' := by
  rintro c hc rfl
  exact absurd (List.all_eq_true.mp h _ hc) (by decide)

/-- A sign is neither a brace nor a blank. -/
theorem sign_plain {c : Char} {sign : Sign} (h : Sign.ofChar? c = some sign) :
    c ≠ '\x7d' ∧ isTagBlank c = false ∧ sign ≠ .scalar := by
  unfold Sign.ofChar? at h
  split at h <;> cases h <;> decide

/-- What is printed between the braces does not close the tag before its end. -/
theorem Prints.closes {mark : Mark} {inside : List Char} (h : Prints mark inside) :
    Fragment.closes (inside ++ ['\x7d']) = false := by
  cases h with
  | scalar hbefore hkey hafter =>
    refine closes_append fun c hc => ?_
    simp only [List.mem_append] at hc
    rcases hc with (hc | hc) | hc
    · exact blank_ne_brace hbefore c hc
    · exact (wordChar_plain (Text.isWordChar_of_isWord hkey c hc)).1
    · exact blank_ne_brace hafter c hc
  | sign hsign _ hbefore hbetween hkey hafter =>
    refine closes_append fun c hc => ?_
    simp only [List.mem_append, List.mem_cons] at hc
    rcases hc with (hc | rfl | hc | hc) | hc
    · exact blank_ne_brace hbefore c hc
    · exact (sign_plain hsign).1
    · exact blank_ne_brace hbetween c hc
    · exact (wordChar_plain (Text.isWordChar_of_isWord hkey c hc)).1
    · exact blank_ne_brace hafter c hc
  | comment hbefore hwords =>
    rw [List.append_assoc, closes_append (blank_ne_brace hbefore), List.cons_append, closes_cons,
      hwords]
    rfl

/-- Blanks at both ends are cut off, up to characters that are none. -/
theorem trimWhile_pad {p : Char → Bool} {before core after : List Char} (hbefore : before.all p = true)
    (hafter : after.all p = true) (hfirst : ∀ c, core.head? = some c → p c = false)
    (hlast : ∀ c, core.getLast? = some c → p c = false) (hcore : core ≠ []) :
    Text.trimWhile p (before ++ core ++ after) = core := by
  have hdrop : (before ++ core ++ after).dropWhile p = core ++ after := by
    rw [List.append_assoc, List.dropWhile_append_of_pos (List.all_eq_true.mp hbefore)]
    obtain ⟨c, r, rfl⟩ := List.exists_cons_of_ne_nil hcore
    rw [List.cons_append, List.dropWhile_cons_of_neg (by simp [hfirst c rfl])]
  have hback : (core ++ after).reverse.dropWhile p = core.reverse := by
    have hafter' : ∀ c ∈ after.reverse, p c = true := by
      simpa using List.all_eq_true.mp hafter
    rw [List.reverse_append, List.dropWhile_append_of_pos hafter']
    have hne : core.reverse ≠ [] := by simpa using hcore
    obtain ⟨c, r, hr⟩ := List.exists_cons_of_ne_nil hne
    have hc : core.getLast? = some c := by rw [← List.head?_reverse, hr]; rfl
    rw [hr, List.dropWhile_cons_of_neg (by simp [hlast c hc])]
  rw [Text.trimWhile, hdrop, hback, List.reverse_reverse]

theorem isTagBlank_last {key : List Char} (h : Text.isWord key = true) (before : List Char) :
    ∀ c, (before ++ key).getLast? = some c → isTagBlank c = false := by
  intro c hc
  have hlast : key.getLast? = some c := by
    cases hkey : key.getLast? with
    | none => exact absurd (List.getLast?_eq_none_iff.mp hkey) (Text.ne_nil_of_isWord h)
    | some d => simpa [List.getLast?_append, hkey] using hc
  exact (wordChar_plain (Text.isWordChar_of_isWord h c (List.mem_of_getLast? hlast))).2.1

/-- A tag that is read from what prints a mark has this mark. -/
theorem Prints.ofInside {mark : Mark} {inside : List Char} (h : Prints mark inside) :
    ∃ sign key, Piece.ofInside inside = .tag sign key ∧ (Token.tag sign key).marks = [mark] ∧
      (sign = .scalar ↔ ∃ key, mark = .tag .scalar key) := by
  cases h with
  | @scalar before key after hbefore hkey hafter =>
    obtain ⟨c, r, rfl⟩ := List.exists_cons_of_ne_nil (Text.ne_nil_of_isWord hkey)
    have hc := wordChar_plain (Text.isWordChar_of_isWord hkey c List.mem_cons_self)
    have htrim : Text.trimWhile isTagBlank (before ++ c :: r ++ after) = c :: r :=
      trimWhile_pad hbefore hafter (fun d hd => by cases hd; exact hc.2.1)
        (isTagBlank_last hkey []) (by simp)
    refine ⟨.scalar, c :: r, ?_, rfl, by simp⟩
    simp only [Piece.ofInside, htrim, hc.2.2]
  | @sign before between key after c sign hsign hcomment hbefore hbetween hkey hafter =>
    have hc := sign_plain hsign
    have htrim : Text.trimWhile isTagBlank (before ++ c :: (between ++ key) ++ after) =
        c :: (between ++ key) :=
      trimWhile_pad hbefore hafter (fun d hd => by cases hd; exact hc.2.1)
        (isTagBlank_last hkey (c :: between)) (by simp)
    obtain ⟨d, r, hkeyeq⟩ := List.exists_cons_of_ne_nil (Text.ne_nil_of_isWord hkey)
    have hd := wordChar_plain (Text.isWordChar_of_isWord hkey d (by simp [hkeyeq]))
    have hdrop : (between ++ key).dropWhile isTagBlank = key := by
      rw [List.dropWhile_append_of_pos (List.all_eq_true.mp hbetween), hkeyeq,
        List.dropWhile_cons_of_neg (by simp [hd.2.1])]
    refine ⟨sign, key, ?_, ?_, ?_⟩
    · simp only [Piece.ofInside, htrim, hsign, hdrop]
    · cases sign <;> first | rfl | exact absurd rfl hcomment
    · simp [hc.2.2]
  | @comment before words hbefore hwords =>
    have hdrop : (before ++ '!' :: words).dropWhile isTagBlank = '!' :: words := by
      rw [List.dropWhile_append_of_pos (List.all_eq_true.mp hbefore),
        List.dropWhile_cons_of_neg (by decide)]
    -- the words of a comment may end with blanks, which are trimmed away with the others
    have htrim : ∃ r, Text.trimWhile isTagBlank (before ++ '!' :: words) = '!' :: r := by
      rw [Text.trimWhile, hdrop, List.reverse_cons, List.dropWhile_append]
      split
      · exact ⟨[], by decide⟩
      · exact ⟨_, by rw [List.reverse_append]; rfl⟩
    obtain ⟨r, htrim⟩ := htrim
    refine ⟨.comment, r.dropWhile isTagBlank, ?_, rfl, by simp⟩
    simp only [Piece.ofInside, htrim]
    rfl

/-! ## Lines -/

/-- The pieces of tags, each with the text behind it. -/
def piecesOf (rest : List (PrintedTag × List Char)) : List Piece :=
  rest.flatMap fun p => [Piece.ofInside p.1.inside, .text p.2]

/-- The characters of tags, each with the text behind it. -/
def charsOf (rest : List (PrintedTag × List Char)) : List Char :=
  rest.flatMap fun p => p.1.chars ++ p.2

/-- The scanner cuts a line where it was put together. -/
theorem scan_mixed : ∀ {rest : List (PrintedTag × List Char)} {text : List Char} (seen : List Char),
    Line.Clean text rest → (∀ p ∈ rest, Prints p.1.mark p.1.inside) →
    scan (.text seen) (text ++ charsOf rest) = .text (seen.reverse ++ text) :: piecesOf rest
  | [], text, seen, hclean, _ => by
    have hscan : scan (.text seen) (text ++ []) = scan (.text (text.reverse ++ seen)) [] :=
      scan_text seen (by simpa [Line.Clean] using hclean)
    rw [charsOf, List.flatMap_nil, hscan, scan]
    simp [piecesOf]
  | (tag, next) :: rest, text, seen, hclean, hprints => by
    have hinside := (hprints (tag, next) List.mem_cons_self).closes
    have hrest := scan_mixed [] hclean.2
      fun p hp => hprints p (List.mem_cons_of_mem _ hp)
    have hchars : charsOf ((tag, next) :: rest) =
        '\x7b' :: '\x7b' :: (tag.inside ++ ['\x7d', '\x7d']) ++ (next ++ charsOf rest) := by
      simp [charsOf, PrintedTag.chars]
    rw [hchars, scan_text seen (by simpa using hclean.1), scan_tag _ hinside, hrest]
    simp [piecesOf]

theorem pieces_mixed {lead : List Char} {rest : List (PrintedTag × List Char)}
    (hclean : Line.Clean lead rest) (hprints : ∀ p ∈ rest, Prints p.1.mark p.1.inside) :
    pieces (lead ++ charsOf rest) = .text lead :: piecesOf rest := by
  rw [pieces, scan_mixed [] hclean hprints]
  rfl

theorem hasOpening_of_append {text : List Char} : ∀ {more : List Char},
    hasOpening (text ++ more) = false → hasOpening text = false := by
  induction text with
  | nil => exact fun _ => rfl
  | cons c text ih =>
    intro more h
    rw [List.cons_append, hasOpening_cons, Bool.or_eq_false_iff] at h
    rw [hasOpening_cons, ih h.2, Bool.or_false]
    by_contra hopen
    rw [Bool.not_eq_false, decide_eq_true_iff] at hopen
    have hno := h.1
    rw [decide_eq_false_iff_not] at hno
    obtain ⟨r, rfl⟩ := List.head?_eq_some_iff.mp hopen.2
    exact hno ⟨hopen.1, rfl⟩

/-- The first text of a line holds no opening braces. -/
theorem Line.Clean.lead {text : List Char} {rest : List (PrintedTag × List Char)}
    (h : Line.Clean text rest) : hasOpening text = false := by
  cases rest with
  | nil => exact h
  | cons p rest => exact hasOpening_of_append h.1

/-- The tokens of pieces that come from a valid line show its marks, and none is malformed. -/
theorem tokens_piecesOf (line : List Char) : ∀ {rest : List (PrintedTag × List Char)}
    {text : List Char}, Line.Clean text rest → (∀ p ∈ rest, Prints p.1.mark p.1.inside) →
    ((Piece.text text :: piecesOf rest).map (·.token line)).flatMap Token.marks =
        text.map .char ++ (rest.flatMap fun p => p.1.mark :: p.2.map .char) ∧
      ∀ l, .malformed l ∉ (Piece.text text :: piecesOf rest).map (·.token line)
  | [], text, hclean, _ => by
    have htext : hasOpening text = false := hclean
    simp [piecesOf, Piece.token, htext, Token.marks]
  | (tag, next) :: rest, text, hclean, hprints => by
    obtain ⟨sign, key, hinside, hmark, -⟩ := (hprints (tag, next) List.mem_cons_self).ofInside
    obtain ⟨hmarks, hmalformed⟩ := tokens_piecesOf line hclean.2
      fun p hp => hprints p (List.mem_cons_of_mem _ hp)
    have htext := hclean.lead
    have hpieces : Piece.text text :: piecesOf ((tag, next) :: rest) =
        .text text :: .tag sign key :: .text next :: piecesOf rest := by
      simp [piecesOf, hinside]
    rw [hpieces]
    constructor
    · rw [List.map_cons, List.map_cons, List.flatMap_cons, List.flatMap_cons, hmarks]
      simp only [Piece.token, htext, Bool.false_eq_true, if_false, hmark]
      simp [Token.marks]
    · intro l hl
      simp only [List.map_cons, List.mem_cons, Piece.token, htext, Bool.false_eq_true, if_false,
        reduceCtorEq, false_or] at hl
      exact hmalformed l (by simpa [Piece.token] using hl)

theorem length_tagsOf {rest : List (PrintedTag × List Char)}
    (hprints : ∀ p ∈ rest, Prints p.1.mark p.1.inside) :
    (tagsOf (piecesOf rest)).length = rest.length := by
  induction rest with
  | nil => rfl
  | cons p rest ih =>
    obtain ⟨sign, key, hinside, -, -⟩ := (hprints p List.mem_cons_self).ofInside
    have hrest := ih fun q hq => hprints q (List.mem_cons_of_mem p hq)
    simpa [piecesOf, hinside, tagsOf] using hrest

/-- **A valid line is read as it was meant.** -/
theorem marks_lineTokens {l : Line} (h : l.Valid) :
    (lineTokens l.chars).flatMap Token.marks = l.marks ∧
      ∀ line, .malformed line ∉ lineTokens l.chars := by
  cases l with
  | own before tag after =>
    obtain ⟨hprints, hsigned, hbefore, hafter⟩ := h
    obtain ⟨sign, key, hinside, hmark, hscalar⟩ := hprints.ofInside
    have hclean : Line.Clean before [(tag, after)] :=
      ⟨hasOpening_of_blank hbefore _ rfl, by simpa [Line.Clean] using hasOpening_of_blank hafter [] rfl⟩
    have hpieces : pieces (Line.own before tag after).chars =
        [.text before, .tag sign key, .text after] := by
      have hcut := pieces_mixed hclean (by simpa using hprints)
      simpa [charsOf, piecesOf, hinside, Line.chars] using hcut
    -- the tag has a sign and the two texts around it are blank: that makes the line its own
    have hsign : sign ≠ .scalar := by
      intro heq
      obtain ⟨key, hkey⟩ := hscalar.mp heq
      exact hsigned key hkey
    have hblank : Text.allBlank (before ++ after) = true := by
      rw [Text.allBlank, List.all_append, Bool.and_eq_true]
      exact ⟨hbefore, hafter⟩
    have htokens : lineTokens (Line.own before tag after).chars = [.tag sign key] := by
      simp [lineTokens, hpieces, ownLine?, tagsOf, textsOf, hsign, hblank]
    rw [htokens]
    simp [hmark, Line.marks]
  | mixed lead rest =>
    obtain ⟨hprints, hclean, hlone⟩ := h
    have hpieces : pieces (Line.mixed lead rest).chars = .text lead :: piecesOf rest :=
      pieces_mixed hclean hprints
    have hown : ownLine? (.text lead :: piecesOf rest) = none := by
      have hlength := length_tagsOf hprints
      rcases rest with _ | ⟨⟨tag, text⟩, _ | ⟨q, rest⟩⟩
      · rfl
      · obtain ⟨sign, key, hinside, -, hscalar⟩ := (hprints _ List.mem_cons_self).ofInside
        simp only [ownLine?, piecesOf, List.flatMap_cons, List.flatMap_nil, hinside, tagsOf, textsOf,
          List.append_nil]
        rw [if_neg]
        rintro ⟨hsign, hblank⟩
        rcases hlone tag text rfl with hkey | hnone
        · exact hsign (hscalar.mpr hkey)
        · rw [hblank] at hnone
          cases hnone
      · -- with two tags or more the line belongs to none of them
        rw [ownLine?, tagsOf]
        split
        · rename_i hone
          rw [hone] at hlength
          simp at hlength
        · rfl
    have htokens : lineTokens (Line.mixed lead rest).chars =
        (Piece.text lead :: piecesOf rest).map (·.token (Line.mixed lead rest).chars) := by
      rw [lineTokens, hpieces, hown]
    rw [htokens]
    exact tokens_piecesOf _ hclean hprints

end ThriftScala.Fragment
