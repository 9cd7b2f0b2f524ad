/-
  Which sources are fragments.

  A source is well formed if no text of a line holds two opening braces side by side, every tag but
  a comment has a key, and the blocks are properly nested: over the whole source, whatever lines its
  tags stand on, each closing tag closes the block that was opened last and has its key
  (`WellFormed`).  Exactly the well-formed sources are compiled.

  1. **Nesting** — `Nested` is the grammar of properly nested brackets, and says nothing of a stack.
     `Finishes` is the same behind brackets that are open already: for each of them, the innermost
     first, something nested and then what closes it.  One bracket more or less keeps it
     (`finishes_opening`, `finishes_closing`); that is all a stack ever does.

  2. **Building** — the builder succeeds exactly if its tokens have no fault of their own and finish
     the blocks that are open (`exists_build_iff`).  The induction is on the tokens, for all stacks.

  3. **Tokens** — settling changes texts and comments only (`filterMap_settle`, `sound_settle`), and
     the tokens of a line are faulty exactly if its pieces are, with the same brackets, also where a
     line belongs to its only tag (`brackets_lineTokens`, `sound_lineTokens`).
-/
import ThriftScala.Fragment.Library
import ThriftScala.Proofs.Fragment.Nesting

namespace ThriftScala.Fragment

/-! ## Well-formed sources -/

/-- A letter or a low line, and then letters, digits and low lines, all of ASCII. -/
def IsKey (key : List Char) : Prop :=
  ∃ c r, key = c :: r ∧ (c.isAlpha = true ∨ c = '_') ∧ ∀ d ∈ r, d.isAlphanum = true ∨ d = '_'

/-- What a tag does to the blocks that are open. -/
inductive Bracket where
  | opening (key : String)
  | closing (key : String)
  deriving DecidableEq, Repr

/-- The bracket that a tag is.  Both kinds of blocks are opened alike. -/
def bracket? : Sign × List Char → Option Bracket
  | (.block, key) => some (.opening (.ofList key))
  | (.inverse, key) => some (.opening (.ofList key))
  | (.close, key) => some (.closing (.ofList key))
  | _ => none

/-- Properly nested brackets, each closed by its own key. -/
inductive Nested : List Bracket → Prop
  | nil : Nested []
  | pair {key : String} {inside after : List Bracket} :
      Nested inside → Nested after → Nested (.opening key :: (inside ++ .closing key :: after))

/-- The tags of a source in order, comments included, whatever lines they stand on. -/
def sourceTags (source : List Char) : List (Sign × List Char) :=
  (Text.lines source).flatMap fun line => tagsOf (pieces line)

/-- The brackets of a source in order. -/
def brackets (source : List Char) : List Bracket := (sourceTags source).filterMap bracket?

/-- Is the source a fragment? -/
structure WellFormed (source : List Char) : Prop where
  /-- No text between the tags of a line looks like the beginning of a tag. -/
  clean : ∀ line ∈ Text.lines source, ∀ text, .text text ∈ pieces line →
    ¬ ['\x7b', '\x7b'] <:+: text
  keys : ∀ tag ∈ sourceTags source, tag.1 ≠ .comment → IsKey tag.2
  nested : Nested (brackets source)

theorem isWord_iff {key : List Char} : Text.isWord key = true ↔ IsKey key := by
  cases key with
  | nil => simp [Text.isWord, IsKey]
  | cons c r => simp [Text.isWord, IsKey, Text.isWordChar]

theorem hasOpening_iff {cs : List Char} : hasOpening cs = true ↔ ['\x7b', '\x7b'] <:+: cs := by
  induction cs with
  | nil => simp [hasOpening]
  | cons c cs ih =>
    rw [hasOpening_cons, Bool.or_eq_true, ih, List.infix_cons_iff, decide_eq_true_iff]
    -- two braces begin here if one stands here and one in front of the rest
    have hhere : ['\x7b', '\x7b'] <+: c :: cs ↔ c = '\x7b' ∧ cs.head? = some '\x7b' := by
      rw [List.cons_prefix_cons, List.singleton_prefix_iff_head?_eq_some]
      exact and_congr_left' eq_comm
    rw [hhere]

/-! ## Nesting -/

/-- What can follow when the blocks of these keys are open, the innermost in front: for each of
    them something nested and the bracket that closes it, and in the end something nested. -/
def Finishes : List String → List Bracket → Prop
  | [], bs => Nested bs
  | key :: opened, bs =>
    ∃ inside rest, bs = inside ++ .closing key :: rest ∧ Nested inside ∧ Finishes opened rest

/-- Nested brackets are none, or they begin by opening a block. -/
theorem Nested.cases_cons {b : Bracket} {bs : List Bracket} (h : Nested (b :: bs)) :
    ∃ key inside after, b = .opening key ∧ bs = inside ++ .closing key :: after ∧
      Nested inside ∧ Nested after := by
  cases h with
  | @pair key inside after hinside hafter => exact ⟨key, inside, after, rfl, rfl, hinside, hafter⟩

theorem finishes_nil {opened : List String} : Finishes opened [] ↔ opened = [] := by
  cases opened with
  | nil => exact iff_of_true Nested.nil rfl
  | cons key opened => simp [Finishes]

/-- An opening bracket opens one block more. -/
theorem finishes_opening {opened : List String} {key : String} {bs : List Bracket} :
    Finishes opened (.opening key :: bs) ↔ Finishes (key :: opened) bs := by
  cases opened with
  | nil =>
    constructor
    · intro h
      obtain ⟨key', inside, after, heq, rfl, hinside, hafter⟩ := Nested.cases_cons h
      cases heq
      exact ⟨inside, after, rfl, hinside, hafter⟩
    · rintro ⟨inside, after, rfl, hinside, hafter⟩
      exact Nested.pair hinside hafter
  | cons outer opened =>
    constructor
    · rintro ⟨before, rest, heq, hbefore, hrest⟩
      -- what closes the outer block stands behind what closes the new one
      cases before with
      | nil => cases heq
      | cons b before =>
        rw [List.cons_append, List.cons.injEq] at heq
        obtain ⟨rfl, rfl⟩ := heq
        obtain ⟨key', inside, after, hkey, rfl, hinside, hafter⟩ := hbefore.cases_cons
        cases hkey
        refine ⟨inside, after ++ .closing outer :: rest, by simp, hinside, ?_⟩
        exact ⟨after, rest, rfl, hafter, hrest⟩
    · rintro ⟨inside, _, rfl, hinside, after, rest, rfl, hafter, hrest⟩
      have hpair : Nested (.opening key :: (inside ++ .closing key :: after)) :=
        .pair hinside hafter
      exact ⟨_, rest, by simp, hpair, hrest⟩

/-- A closing bracket closes the innermost block, which must have its key. -/
theorem finishes_closing {opened : List String} {key : String} {bs : List Bracket} :
    Finishes opened (.closing key :: bs) ↔
      ∃ outer, opened = key :: outer ∧ Finishes outer bs := by
  cases opened with
  | nil =>
    constructor
    · intro h
      obtain ⟨key', inside, after, heq, -⟩ := Nested.cases_cons h
      cases heq
    · rintro ⟨outer, heq, -⟩
      cases heq
  | cons innermost opened =>
    constructor
    · rintro ⟨inside, rest, heq, hinside, hrest⟩
      -- nothing can stand in front of it, for what is nested does not begin by closing
      cases inside with
      | nil =>
        cases heq
        exact ⟨opened, rfl, hrest⟩
      | cons b inside =>
        obtain ⟨key', _, _, rfl, -⟩ := hinside.cases_cons
        cases heq
    · rintro ⟨outer, heq, hrest⟩
      cases heq
      exact ⟨[], bs, rfl, Nested.nil, hrest⟩

/-! ## Building -/

/-- The bracket that a token is, if it is one. -/
def Token.bracket? : Token → Option Bracket
  | .tag sign key => Fragment.bracket? (sign, key)
  | _ => none

/-- A token without a fault of its own: a tag needs a key, unless it is a comment. -/
def Token.IsSound : Token → Prop
  | .text _ => True
  | .tag sign key => sign = .comment ∨ Text.isWord key = true
  | .malformed _ => False

instance (t : Token) : Decidable t.IsSound :=
  match t with
  | .text _ => inferInstanceAs (Decidable True)
  | .tag _ _ => inferInstanceAs (Decidable (_ ∨ _))
  | .malformed _ => inferInstanceAs (Decidable False)

/-- The tokens can be nested where the blocks of these keys are open. -/
structure Builds (opened : List String) (ts : List Token) : Prop where
  sound : ∀ t ∈ ts, t.IsSound
  finishes : Finishes opened (ts.filterMap Token.bracket?)

section Builds

variable {opened : List String} {ts : List Token}

theorem builds_nil : Builds opened [] ↔ opened = [] := by
  constructor
  · rintro ⟨-, h⟩
    exact finishes_nil.mp h
  · intro h
    exact ⟨by simp, finishes_nil.mpr h⟩

theorem builds_iff :
    Builds opened ts ↔ (∀ t ∈ ts, t.IsSound) ∧ Finishes opened (ts.filterMap Token.bracket?) :=
  ⟨fun h => ⟨h.sound, h.finishes⟩, fun h => ⟨h.1, h.2⟩⟩

theorem builds_cons {t : Token} :
    Builds opened (t :: ts) ↔ t.IsSound ∧ (∀ u ∈ ts, u.IsSound) ∧
      Finishes opened ((t :: ts).filterMap Token.bracket?) := by
  rw [builds_iff, List.forall_mem_cons, and_assoc]

/-- A token that is no bracket must be sound, and does not matter otherwise. -/
theorem builds_cons_of_none {t : Token} (h : t.bracket? = none) :
    Builds opened (t :: ts) ↔ t.IsSound ∧ Builds opened ts := by
  rw [builds_cons, List.filterMap_cons_none h, ← builds_iff]

/-- Behind a tag that opens a block there is one block more to finish. -/
theorem builds_cons_of_opening {t : Token} {key : String} (h : t.bracket? = some (.opening key)) :
    Builds opened (t :: ts) ↔ t.IsSound ∧ Builds (key :: opened) ts := by
  rw [builds_cons, List.filterMap_cons_some h, finishes_opening, ← builds_iff]

/-- A tag that closes a block needs the key of the innermost one, and there is one less to
    finish. -/
theorem builds_cons_of_closing {t : Token} {key : String} (h : t.bracket? = some (.closing key)) :
    Builds opened (t :: ts) ↔ t.IsSound ∧ ∃ outer, opened = key :: outer ∧ Builds outer ts := by
  rw [builds_cons, List.filterMap_cons_some h, finishes_closing]
  refine and_congr_right' ?_
  constructor
  · rintro ⟨hsound, outer, heq, hfinishes⟩
    exact ⟨outer, heq, hsound, hfinishes⟩
  · rintro ⟨outer, heq, hsound, hfinishes⟩
    exact ⟨hsound, outer, heq, hfinishes⟩

end Builds

/-- **Tokens are nested exactly if they are sound and finish the open blocks.** -/
theorem exists_build_iff : ∀ (ts : List Token) (opened : List OpenBlock) (done : List Node),
    (∃ nodes, build opened done ts = .ok nodes) ↔ Builds (opened.map (·.key)) ts
  | [], opened, done => by
    rw [builds_nil, List.map_eq_nil_iff]
    cases opened with
    | nil => exact iff_of_true ⟨_, rfl⟩ rfl
    | cons b opened =>
      refine iff_of_false ?_ (List.cons_ne_nil b opened)
      rintro ⟨nodes, h⟩
      cases h
  | .malformed line :: ts, opened, done => by
    refine iff_of_false ?_ fun h => h.sound _ List.mem_cons_self
    rintro ⟨nodes, h⟩
    cases h
  | .text cs :: ts, opened, done => by
    rw [build_text, exists_build_iff ts, builds_cons_of_none rfl]
    exact (and_iff_right trivial).symm
  | .tag sign key :: ts, opened, done => by
    by_cases hcomment : sign = .comment
    · subst hcomment
      have hskip : build opened done (.tag .comment key :: ts) = build opened done ts := rfl
      rw [hskip, exists_build_iff ts, builds_cons_of_none rfl]
      exact (and_iff_right (.inl rfl)).symm
    rw [build_tag hcomment]
    by_cases hword : Text.isWord key = true
    · have hsound : (Token.tag sign key).IsSound := .inr hword
      rw [hword, Bool.not_true, if_neg Bool.false_ne_true]
      -- each tag does to the stack of the builder what its bracket does to the open keys
      cases sign with
      | comment => exact absurd rfl hcomment
      | scalar | splice =>
        rw [builds_cons_of_none rfl]
        exact (exists_build_iff ts _ _).trans (and_iff_right hsound).symm
      | block | inverse =>
        rw [builds_cons_of_opening rfl]
        exact (exists_build_iff ts _ _).trans (and_iff_right hsound).symm
      | close =>
        rw [builds_cons_of_closing rfl, and_iff_right hsound]
        cases opened with
        | nil => simp
        | cons b opened =>
          by_cases hkey : b.key = .ofList key
          · simp [hkey, exists_build_iff ts]
          · simp [hkey]
    · rw [Bool.not_eq_true] at hword
      rw [hword, Bool.not_false, if_pos rfl]
      -- without a key neither side holds, whatever the tag does
      have hfault : ¬ (Token.tag sign key).IsSound := by
        rintro (h | h)
        · exact hcomment h
        · rw [hword] at h
          cases h
      refine iff_of_false ?_ fun h => hfault (h.sound _ List.mem_cons_self)
      rintro ⟨nodes, h⟩
      cases h

/-! ## Tokens -/

/-- Settling keeps what is no text and no comment. -/
theorem filterMap_settle {β : Type} {f : Token → Option β} (htext : ∀ cs, f (.text cs) = none)
    (hcomment : ∀ key, f (.tag .comment key) = none) (ts : List Token) :
    (settle ts).filterMap f = ts.filterMap f := by
  induction ts with
  | nil => rfl
  | cons t ts ih =>
    cases t with
    | text cs =>
      rw [List.filterMap_cons_none (htext cs), ← ih]
      rcases settle_text cs ts with ⟨ds, us, hsettled, hall⟩ | ⟨-, hall⟩
      · rw [hall, hsettled, List.filterMap_cons_none (htext _), List.filterMap_cons_none (htext _)]
      · rw [hall, List.filterMap_cons_none (htext cs)]
    | malformed line =>
      rw [settle, List.filterMap_cons, List.filterMap_cons, ih]
      all_goals simp
    | tag sign key =>
      by_cases h : sign = .comment
      · subst h
        rw [settle, ih, List.filterMap_cons_none (hcomment key)]
      · rw [settle, List.filterMap_cons, List.filterMap_cons, ih]
        all_goals simp [h]

/-- So settled tokens are sound exactly if the tokens are. -/
theorem sound_settle {ts : List Token} :
    (∀ t ∈ settle ts, t.IsSound) ↔ ∀ t ∈ ts, t.IsSound := by
  -- the faults of a source are what is neither a text nor a comment and has no key
  let fault? (t : Token) : Option Token := if t.IsSound then none else some t
  have hfaults (us : List Token) : (∀ t ∈ us, t.IsSound) ↔ us.filterMap fault? = [] := by
    simp [fault?, List.filterMap_eq_nil_iff]
  have htext (cs : List Char) : fault? (.text cs) = none := if_pos trivial
  have hcomment (key : List Char) : fault? (.tag .comment key) = none := if_pos (.inl rfl)
  rw [hfaults, hfaults, filterMap_settle htext hcomment]

theorem mem_tagsOf {tag : Sign × List Char} {ps : List Piece} :
    tag ∈ tagsOf ps ↔ .tag tag.1 tag.2 ∈ ps := by
  induction ps with
  | nil => simp [tagsOf]
  | cons p ps ih =>
    cases p with
    | text cs => simp [tagsOf, ih]
    | tag sign key =>
      have heq : tag = (sign, key) ↔ tag.1 = sign ∧ tag.2 = key := Prod.ext_iff
      simp [tagsOf, ih, heq]

/-- A line that belongs to its only tag holds nothing but blanks beside it. -/
theorem ownLine?_eq_some {ps : List Piece} {sign : Sign} {key : List Char}
    (h : ownLine? ps = some (sign, key)) :
    tagsOf ps = [(sign, key)] ∧ Text.allBlank (textsOf ps) = true := by
  unfold ownLine? at h
  split at h
  · rename_i sign' key' htags
    split at h
    · rename_i hown
      cases h
      exact ⟨htags, hown.2⟩
    · cases h
  · cases h

/-- The texts of blank lines are blank, so no tag could begin in them. -/
theorem hasOpening_of_blank_texts {ps : List Piece} (h : Text.allBlank (textsOf ps) = true)
    {text : List Char} (htext : .text text ∈ ps) : hasOpening text = false := by
  -- a stretch of text is part of all the text there is
  have hsubset : ∀ c ∈ text, c ∈ textsOf ps := by
    intro c hc
    induction ps with
    | nil => cases htext
    | cons p ps ih =>
      cases p with
      | text cs =>
        rw [textsOf, List.mem_append]
        rw [textsOf, Text.allBlank, List.all_append, Bool.and_eq_true] at h
        rcases List.mem_cons.mp htext with heq | htext
        · cases heq
          exact .inl hc
        · exact .inr (ih h.2 htext)
      | tag sign key =>
        rcases List.mem_cons.mp htext with heq | htext
        · cases heq
        · exact ih h htext
  have hblank : Text.allBlank text = true :=
    List.all_eq_true.mpr fun c hc => List.all_eq_true.mp h c (hsubset c hc)
  simpa using hasOpening_of_blank hblank [] rfl

/-- The brackets of a line are those of its tags. -/
theorem brackets_lineTokens (line : List Char) :
    (lineTokens line).filterMap Token.bracket? = (tagsOf (pieces line)).filterMap bracket? := by
  unfold lineTokens
  split
  · rename_i sign key hown
    rw [(ownLine?_eq_some hown).1]
    rfl
  · induction pieces line with
    | nil => rfl
    | cons p ps ih =>
      cases p with
      | text cs =>
        have hnone : ((Piece.text cs).token line).bracket? = none := by
          rw [Piece.token]
          split <;> rfl
        rw [List.map_cons, List.filterMap_cons_none hnone, ih, tagsOf]
      | tag sign key =>
        rw [List.map_cons, List.filterMap_cons, ih, tagsOf, List.filterMap_cons]
        rfl

/-- The tokens of a line are sound if its texts are clean and its tags have keys. -/
theorem sound_lineTokens (line : List Char) :
    (∀ t ∈ lineTokens line, t.IsSound) ↔
      (∀ text, .text text ∈ pieces line → hasOpening text = false) ∧
      ∀ tag ∈ tagsOf (pieces line), tag.1 = .comment ∨ Text.isWord tag.2 = true := by
  unfold lineTokens
  split
  · rename_i sign key hown
    -- a tag on a line of its own has blanks around it only, and these open no other tag
    obtain ⟨htags, hblank⟩ := ownLine?_eq_some hown
    have hclean : ∀ text, .text text ∈ pieces line → hasOpening text = false :=
      fun text => hasOpening_of_blank_texts hblank
    rw [htags, List.forall_mem_singleton, List.forall_mem_singleton, and_iff_right hclean]
    rfl
  · rw [List.forall_mem_map]
    constructor
    · intro h
      constructor
      · intro text htext
        have hsound := h _ htext
        by_contra hopening
        rw [Bool.not_eq_false] at hopening
        rw [Piece.token, if_pos hopening] at hsound
        exact hsound
      · intro tag htag
        exact h _ (mem_tagsOf.mp htag)
    · rintro ⟨hclean, hkeys⟩ p hp
      cases p with
      | text cs =>
        rw [Piece.token, if_neg (by simp [hclean cs hp])]
        trivial
      | tag sign key => exact hkeys (sign, key) (mem_tagsOf.mpr hp)

/-! ## Sources -/

/-- Nothing is open in front of a source, so its tokens build exactly if it is well formed. -/
theorem builds_settle_iff (source : List Char) :
    Builds [] (settle (tokens source)) ↔ WellFormed source := by
  -- settling moves blanks only: the brackets and what makes tags sound are those of the lines
  have hbrackets : (settle (tokens source)).filterMap Token.bracket? = brackets source := by
    rw [filterMap_settle (fun _ => rfl) (fun _ => rfl), tokens, brackets, sourceTags,
      List.filterMap_flatMap, List.filterMap_flatMap]
    simp only [brackets_lineTokens]
  have hsound : (∀ t ∈ settle (tokens source), t.IsSound) ↔
      ∀ line ∈ Text.lines source, ∀ t ∈ lineTokens line, t.IsSound := by
    rw [sound_settle, tokens, List.forall_mem_flatMap]
  constructor
  · rintro ⟨h, hfinishes⟩
    rw [hsound] at h
    rw [hbrackets] at hfinishes
    refine ⟨fun line hline text htext => ?_, fun tag htag hcomment => ?_, hfinishes⟩
    · have hclean := ((sound_lineTokens line).mp (h line hline)).1 text htext
      rw [← hasOpening_iff, hclean]
      exact Bool.false_ne_true
    · obtain ⟨line, hline, htag⟩ := List.mem_flatMap.mp htag
      have hkey := ((sound_lineTokens line).mp (h line hline)).2 tag htag
      exact isWord_iff.mp (hkey.resolve_left hcomment)
  · rintro ⟨hclean, hkeys, hnested⟩
    refine ⟨hsound.mpr fun line hline => (sound_lineTokens line).mpr ⟨?_, ?_⟩, ?_⟩
    · intro text htext
      have h := hclean line hline text htext
      rwa [← hasOpening_iff, Bool.not_eq_true] at h
    · intro tag htag
      rw [or_iff_not_imp_left, isWord_iff]
      exact hkeys tag (List.mem_flatMap.mpr ⟨line, hline, htag⟩)
    · rwa [hbrackets]

/-- **Exactly the well-formed sources are compiled**, and every other source is refused with a fault
    of the source. -/
theorem compiles_iff_wellFormed (name source : String) :
    ((∃ f, compile name source = .ok f) ↔ WellFormed source.toList) ∧
    (¬ WellFormed source.toList → ∃ e, compile name source = .error (.source name e)) := by
  have hparse : (∃ nodes, parse source.toList = .ok nodes) ↔ WellFormed source.toList :=
    (exists_build_iff (settle (tokens source.toList)) [] []).trans (builds_settle_iff source.toList)
  have hcompile : compile name source =
      ((parse source.toList).map (Fragment.mk name)).mapError (.source name) := rfl
  rcases Outcome.ok_or_error (parse source.toList) with ⟨nodes, hok⟩ | ⟨e, herror⟩
  · have hwell : WellFormed source.toList := hparse.mp ⟨nodes, hok⟩
    rw [hcompile, hok]
    exact ⟨iff_of_true ⟨_, rfl⟩ hwell, fun h => absurd hwell h⟩
  · have hill : ¬ WellFormed source.toList := by
      intro h
      obtain ⟨nodes, hok⟩ := hparse.mpr h
      rw [herror] at hok
      cases hok
    rw [hcompile, herror]
    refine ⟨iff_of_false ?_ hill, fun _ => ⟨e, rfl⟩⟩
    rintro ⟨f, h⟩
    cases h

/-- A block around another, on lines of its own. -/
example : (compile "page"
    "\x7b\x7b#user\x7d\x7d\n\x7b\x7bname\x7d\x7d\x7b\x7b^name\x7d\x7dyou\x7b\x7b/name\x7d\x7d\n\x7b\x7b/user\x7d\x7d\n").isOk =
      true := by
  decide

/-- Blocks that cross. -/
example : (compile "page" "\x7b\x7b#a\x7d\x7d\x7b\x7b^b\x7d\x7d\x7b\x7b/a\x7d\x7d\x7b\x7b/b\x7d\x7d").isOk = false := by
  decide

end ThriftScala.Fragment
