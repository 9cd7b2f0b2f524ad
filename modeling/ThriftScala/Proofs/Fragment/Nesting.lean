/-
  Fragments that are read back from the sources they were laid out as.

  A `Tree` is a part of a fragment as an author means it, comments included.  A list of lines lays
  trees out if both show the same marks; so a text may be cut at the ends of lines, and a tag may
  stand on its own line or not.

  1. Settling leaves comments out and puts texts together, so what it gives is a function of the
     marks alone, but for empty texts (`settle_runs`).
  2. The runs of the marks of trees are the tokens of their nodes (`runs_marks`), and nesting
     builds these nodes from their tokens, with line ends made line feeds (`build_tokens`).
  3. Empty texts write nothing, and texts that were put together write what they write apart
     (`build_counts`, `alike_joined`).

  `render_layout` puts this together: the fragment that is read from a source is rendered to what
  the trees write directly, with line ends unified in their texts.
-/
import ThriftScala.Proofs.Fragment.Layout
import ThriftScala.Proofs.Fragment.Meaning

namespace ThriftScala.Fragment

open Outcome

/-! ## Trees -/

/-- A part of a fragment as it is meant. -/
inductive Tree where
  | text (s : String)
  | scalar (key : String)
  | block (key : String) (body : List Tree)
  | inverse (key : String) (body : List Tree)
  | splice (key : String)
  | comment

mutual

/-- What a tree is about, from its first character or tag to its last. -/
def Tree.mark : Tree → List Mark
  | .text s => s.toList.map .char
  | .scalar key => [.tag .scalar key.toList]
  | .block key body => .tag .block key.toList :: (Tree.marks body ++ [.tag .close key.toList])
  | .inverse key body => .tag .inverse key.toList :: (Tree.marks body ++ [.tag .close key.toList])
  | .splice key => [.tag .splice key.toList]
  | .comment => [.comment]

/-- What trees are about, one after the other. -/
def Tree.marks : List Tree → List Mark
  | [] => []
  | t :: ts => t.mark ++ Tree.marks ts

end

mutual

/-- The node that a tree stands for; a comment stands for none. -/
def Tree.node : Tree → List Node
  | .text s => [.text s]
  | .scalar key => [.scalar key]
  | .block key body => [.block key (Tree.nodes body)]
  | .inverse key body => [.inverse key (Tree.nodes body)]
  | .splice key => [.splice key]
  | .comment => []

/-- The nodes that trees stand for, one by one. -/
def Tree.nodes : List Tree → List Node
  | [] => []
  | t :: ts => t.node ++ Tree.nodes ts

end

/-- Puts a text in front of nodes, together with the text that they may begin with. -/
def joinText (s : String) : List Node → List Node
  | .text t :: ns => .text (s ++ t) :: ns
  | ns => if s = "" then ns else .text s :: ns

mutual

/-- The node with its body joined. -/
def Node.joined : Node → Node
  | .text s => .text s
  | .scalar key => .scalar key
  | .block key body => .block key (joined body)
  | .inverse key body => .inverse key (joined body)
  | .splice key => .splice key

/-- The nodes with texts that stand side by side put together, and no empty text. -/
def joined : List Node → List Node
  | [] => []
  | .text s :: ns => joinText s (joined ns)
  | n :: ns => n.joined :: joined ns

end

mutual

/-- The node with the line ends in its texts made line feeds. -/
def Node.unified : Node → Node
  | .text s => .text (.ofList (Text.unifyLineEnds s.toList))
  | .scalar key => .scalar key
  | .block key body => .block key (unified body)
  | .inverse key body => .inverse key (unified body)
  | .splice key => .splice key

/-- The nodes with the line ends in their texts made line feeds. -/
def unified : List Node → List Node
  | [] => []
  | n :: ns => n.unified :: unified ns

end

/-! ## Settled tokens -/

/-- Puts a text in front of tokens, together with the text that they may begin with. -/
def pushText (cs : List Char) : List Token → List Token
  | .text ds :: ts => .text (cs ++ ds) :: ts
  | ts => if cs = [] then ts else .text cs :: ts

/-- The tokens of marks: the tags, and between them the longest runs of characters. -/
def runs : List Mark → List Token
  | [] => []
  | .char c :: ms => pushText [c] (runs ms)
  | .tag sign key :: ms => .tag sign key :: runs ms
  | .comment :: ms => runs ms

/-- The tokens do not begin with a text. -/
def NoLead (ts : List Token) : Prop := ∀ cs us, ts ≠ .text cs :: us

theorem NoLead.tag {sign : Sign} {key : List Char} {ts : List Token} : NoLead (.tag sign key :: ts) :=
  fun _ _ h => by cases h

theorem NoLead.nil : NoLead [] := fun _ _ h => by cases h

/-- In front of tokens that begin with no text, a text is a token of its own unless it is empty. -/
theorem NoLead.pushText {cs : List Char} {ts : List Token} (h : NoLead ts) :
    pushText cs ts = if cs = [] then ts else .text cs :: ts := by
  match ts, h with
  | [], _ => rfl
  | .text ds :: us, h => exact absurd rfl (h ds us)
  | .tag _ _ :: _, _ => rfl
  | .malformed _ :: _, _ => rfl

/-- Texts in a row are one text. -/
theorem pushText_pushText (cs ds : List Char) (ts : List Token) :
    pushText cs (pushText ds ts) = pushText (cs ++ ds) ts := by
  by_cases hlead : ∃ es us, ts = .text es :: us
  · obtain ⟨es, us, rfl⟩ := hlead
    simp [pushText]
  · have hno : NoLead ts := fun es us h => hlead ⟨es, us, h⟩
    rw [hno.pushText, hno.pushText]
    by_cases hds : ds = []
    · subst hds
      simp [hno.pushText]
    · simp [hds, pushText]

theorem pushText_nil (ts : List Token) : pushText [] ts = ts := by
  unfold pushText
  split <;> rfl

/-- A whole text in front of marks. -/
theorem runs_text (cs : List Char) (ms : List Mark) :
    runs (cs.map .char ++ ms) = pushText cs (runs ms) := by
  induction cs with
  | nil => rw [pushText_nil, List.map_nil, List.nil_append]
  | cons c cs ih =>
    rw [List.map_cons, List.cons_append, runs, ih, pushText_pushText]
    rfl

/-- Is a token more than an empty text? -/
def Token.counts (t : Token) : Bool := t ≠ .text []

/-- Leaving comments out puts no text in front. -/
theorem NoLead.filter {ts : List Token} (h : NoLead ts) : NoLead (ts.filter Token.counts) := by
  match ts, h with
  | [], _ => exact NoLead.nil
  | .text ds :: us, h => exact absurd rfl (h ds us)
  | .tag sign key :: us, _ =>
    rw [List.filter_cons_of_pos (by rfl)]
    exact NoLead.tag
  | .malformed line :: us, _ =>
    rw [List.filter_cons_of_pos (by rfl)]
    exact fun cs us h => by cases h

/-- Settling puts a text together with the one behind it. -/
theorem settle_text (cs : List Char) (ts : List Token) :
    (∃ ds us, settle ts = .text ds :: us ∧ settle (.text cs :: ts) = .text (cs ++ ds) :: us) ∨
      (NoLead (settle ts) ∧ settle (.text cs :: ts) = .text cs :: settle ts) := by
  rw [settle]
  split
  · rename_i ds us heq
    exact .inl ⟨ds, us, heq, rfl⟩
  · rename_i hno
    exact .inr ⟨fun ds us h => hno ds us h, rfl⟩

/-- After settling no two texts stand side by side. -/
theorem noLead_of_settle : ∀ (ts : List Token) {cs : List Char} {us : List Token},
    settle ts = .text cs :: us → NoLead us
  | [], _, _, h => by cases h
  | .text ds :: ts, cs, us, h => by
    rcases settle_text ds ts with ⟨es, vs, hts, hall⟩ | ⟨hno, hall⟩
    · rw [hall] at h
      cases h
      exact noLead_of_settle ts hts
    · rw [hall] at h
      cases h
      exact hno
  | .tag sign key :: ts, cs, us, h => by
    cases sign
    case comment => exact noLead_of_settle ts h
    all_goals cases h
  | .malformed line :: ts, cs, us, h => by cases h

/-- **What settling gives is a function of the marks**, but for empty texts. -/
theorem settle_runs : ∀ ts : List Token, (∀ line, .malformed line ∉ ts) →
    (settle ts).filter Token.counts = runs (ts.flatMap Token.marks)
  | [], _ => rfl
  | .malformed line :: ts, h => absurd List.mem_cons_self (h line)
  | .tag sign key :: ts, h => by
    have hrest := settle_runs ts fun line hl => h line (List.mem_cons_of_mem _ hl)
    cases sign
    case comment => exact hrest
    all_goals
      rw [settle, List.filter_cons_of_pos (by rfl), hrest]
      · rfl
      all_goals simp
  | .text cs :: ts, h => by
    have hrest := settle_runs ts fun line hl => h line (List.mem_cons_of_mem _ hl)
    have hmarks : (Token.text cs :: ts).flatMap Token.marks =
        cs.map .char ++ ts.flatMap Token.marks := rfl
    rw [hmarks, runs_text, ← hrest]
    have hfilter : ∀ us, (Token.text cs :: us).filter Token.counts =
        if cs = [] then us.filter Token.counts else .text cs :: us.filter Token.counts := by
      intro us
      by_cases hcs : cs = [] <;> simp [hcs, Token.counts]
    rcases settle_text cs ts with ⟨ds, us, hts, hall⟩ | ⟨hno, hall⟩
    · -- behind the text that was put in front no other one stands, so no third text joins the two
      have hno := (noLead_of_settle ts hts).filter
      rw [hall, hts]
      by_cases hds : ds = []
      · subst hds
        rw [List.append_nil, hfilter, List.filter_cons_of_neg (by simp [Token.counts]), hno.pushText]
      · rw [List.filter_cons_of_pos (by simp [Token.counts, hds]),
          List.filter_cons_of_pos (by simp [Token.counts, hds]), pushText]
    · rw [hall, hfilter, hno.filter.pushText]

/-! ## The tokens of nodes -/

mutual

/-- The tokens that a node is built from. -/
def Node.tokens : Node → List Token
  | .text s => [.text s.toList]
  | .scalar key => [.tag .scalar key.toList]
  | .block key body => .tag .block key.toList :: (tokensOf body ++ [.tag .close key.toList])
  | .inverse key body => .tag .inverse key.toList :: (tokensOf body ++ [.tag .close key.toList])
  | .splice key => [.tag .splice key.toList]

/-- The tokens that nodes are built from. -/
def tokensOf : List Node → List Token
  | [] => []
  | n :: ns => n.tokens ++ tokensOf ns

end

/-- The tokens of joined nodes are those of the nodes, with texts in a row taken together. -/
theorem tokensOf_joinText (s : String) (ns : List Node) {us : List Token} (h : NoLead us) :
    tokensOf (joinText s ns) ++ us = pushText s.toList (tokensOf ns ++ us) := by
  match ns with
  | [] =>
    rw [tokensOf, List.nil_append, h.pushText]
    by_cases hs : s = "" <;> simp [hs, joinText, tokensOf, Node.tokens]
  | .text t :: ns => simp [joinText, tokensOf, Node.tokens, pushText]
  | .scalar key :: ns | .block key body :: ns | .inverse key body :: ns | .splice key :: ns =>
    by_cases hs : s = "" <;> simp [joinText, tokensOf, Node.tokens, pushText, hs]

/-- The runs of a block are the runs of its body between the two tags. -/
theorem runs_enclosed (sign : Sign) (key : List Char) {ms rest : List Mark} {ts : List Token}
    (hbody : ∀ rest us, NoLead us → runs rest = us → runs (ms ++ rest) = ts ++ us) :
    runs (.tag sign key :: (ms ++ [.tag .close key]) ++ rest) =
      .tag sign key :: (ts ++ .tag .close key :: runs rest) := by
  rw [List.cons_append, List.append_assoc, List.singleton_append, runs, hbody _ _ NoLead.tag rfl]

mutual

/-- The marks of one tree are read as its joined node, whatever comes behind. -/
theorem runs_mark : ∀ (t : Tree) {ns : List Node} {rest : List Mark} {us : List Token},
    NoLead us → runs rest = tokensOf (joined ns) ++ us →
    runs (t.mark ++ rest) = tokensOf (joined (t.node ++ ns)) ++ us
  | .text s, ns, rest, us, hus, h => by
    rw [Tree.mark, runs_text, h, ← tokensOf_joinText s _ hus]
    rfl
  | .scalar _, ns, rest, us, _, h | .splice _, ns, rest, us, _, h | .comment, ns, rest, us, _, h => by
    rw [Tree.mark, List.singleton_append, runs, h]
    rfl
  | .block key body, ns, rest, us, _, h | .inverse key body, ns, rest, us, _, h => by
    rw [Tree.mark, runs_enclosed _ _ (runs_body body), h]
    simp [Tree.node, joined, Node.joined, tokensOf, Node.tokens]

/-- Behind a body nothing is put together with it. -/
theorem runs_body (body : List Tree) (rest : List Mark) (us : List Token) (hus : NoLead us)
    (h : runs rest = us) :
    runs (Tree.marks body ++ rest) = tokensOf (joined (Tree.nodes body)) ++ us := by
  have hmarks : runs (Tree.marks body ++ rest) = tokensOf (joined (Tree.nodes body ++ [])) ++ us :=
    runs_marks body hus h
  rwa [List.append_nil] at hmarks

/-- **The runs of the marks of trees are the tokens of their nodes.** -/
theorem runs_marks : ∀ (ts : List Tree) {ns : List Node} {rest : List Mark} {us : List Token},
    NoLead us → runs rest = tokensOf (joined ns) ++ us →
    runs (Tree.marks ts ++ rest) = tokensOf (joined (Tree.nodes ts ++ ns)) ++ us
  | [], _, _, _, _, h => h
  | t :: ts, ns, rest, us, hus, h => by
    rw [Tree.marks, Tree.nodes, List.append_assoc, List.append_assoc]
    exact runs_mark t hus (runs_marks ts hus h)

end

/-! ## Nesting -/

section Nesting

variable {opened : List OpenBlock} {done : List Node} {ts : List Token} {key : List Char}

/-- What nesting does at a tag that is no comment. -/
theorem build_tag {sign : Sign} (hsign : sign ≠ .comment) :
    build opened done (.tag sign key :: ts) =
      if !Text.isWord key then .error (.malformedName (.ofList key))
      else
        match sign with
        | .scalar => build opened (.scalar (.ofList key) :: done) ts
        | .splice => build opened (.splice (.ofList key) :: done) ts
        | .block => build (⟨.ofList key, false, done⟩ :: opened) [] ts
        | .inverse => build (⟨.ofList key, true, done⟩ :: opened) [] ts
        | .comment => build opened done ts
        | .close =>
          match opened with
          | [] => .error (.strayClose (.ofList key))
          | b :: bs =>
            if b.key = .ofList key then build bs (b.node done.reverse :: b.before) ts
            else .error (.crossedClose b.key (.ofList key)) := by
  cases sign
  case comment => exact absurd rfl hsign
  all_goals rfl

/-- A text becomes a node, with line feeds for its line ends. -/
theorem build_text (cs : List Char) :
    build opened done (.text cs :: ts) =
      build opened (.text (.ofList (Text.unifyLineEnds cs)) :: done) ts := rfl

end Nesting

/-- The keys of all tags among tokens are words, but for comments. -/
def Worded (ts : List Token) : Prop :=
  ∀ sign key, sign ≠ .comment → .tag sign key ∈ ts → Text.isWord key = true

theorem Worded.left {ts us : List Token} (h : Worded (ts ++ us)) : Worded ts :=
  fun sign key hsign hk => h sign key hsign (List.mem_append_left us hk)

theorem Worded.right {ts us : List Token} (h : Worded (ts ++ us)) : Worded us :=
  fun sign key hsign hk => h sign key hsign (List.mem_append_right ts hk)

/-- The tag in front holds a word. -/
theorem Worded.head {sign : Sign} {key : List Char} {ts : List Token}
    (h : Worded (.tag sign key :: ts)) (hsign : sign ≠ .comment) : Text.isWord key = true :=
  h sign key hsign List.mem_cons_self

theorem Worded.tail {t : Token} {ts : List Token} (h : Worded (t :: ts)) : Worded ts :=
  fun sign key hsign hk => h sign key hsign (List.mem_cons_of_mem t hk)

/-- Nesting closes a block with what was built behind its opening. -/
theorem build_enclosed {sign : Sign} (hsign : sign = .block ∨ sign = .inverse) {key : String}
    {ts : List Token} {ns : List Node} (hword : Text.isWord key.toList = true)
    (hbody : ∀ opened done us, build opened done (ts ++ us) = build opened (ns.reverse ++ done) us)
    (opened : List OpenBlock) (done : List Node) (us : List Token) :
    build opened done (.tag sign key.toList :: (ts ++ [.tag .close key.toList]) ++ us) =
      build opened ((OpenBlock.mk key (sign = .inverse) done).node ns :: done) us := by
  rw [List.cons_append, List.append_assoc, List.singleton_append,
    build_tag (by rcases hsign with rfl | rfl <;> decide), hword]
  simp only [Bool.not_true, Bool.false_eq_true, if_false]
  rcases hsign with rfl | rfl
  all_goals
    dsimp only
    rw [hbody, build_tag (by decide), hword]
    simp

mutual

/-- **The tokens of a node are built back into the node**, and the rest is built behind it. -/
theorem build_node : ∀ (n : Node) (opened : List OpenBlock) (done : List Node) (ts : List Token),
    Worded n.tokens → build opened done (n.tokens ++ ts) = build opened (n.unified :: done) ts
  | .text s, _, _, _, _ => rfl
  | .scalar key, opened, done, ts, h | .splice key, opened, done, ts, h => by
    rw [Node.tokens, List.singleton_append, build_tag (by decide), h.head (by decide)]
    simp [Node.unified]
  | .block key body, opened, done, ts, h =>
    build_enclosed (.inl rfl) (h.head (by decide))
      (fun opened done us => build_tokens body opened done us h.tail.left) opened done ts
  | .inverse key body, opened, done, ts, h =>
    build_enclosed (.inr rfl) (h.head (by decide))
      (fun opened done us => build_tokens body opened done us h.tail.left) opened done ts

/-- Nesting builds nodes from their tokens. -/
theorem build_tokens : ∀ (ns : List Node) (opened : List OpenBlock) (done : List Node)
    (ts : List Token), Worded (tokensOf ns) →
    build opened done (tokensOf ns ++ ts) = build opened ((unified ns).reverse ++ done) ts
  | [], _, _, _, _ => rfl
  | n :: ns, opened, done, ts, h => by
    rw [tokensOf, List.append_assoc, build_node n _ _ _ h.left, build_tokens ns _ _ _ h.right]
    simp [unified]

end

/-! ## Empty texts and texts that were put together -/

/-- Joining texts in a row changes nothing about what is written. -/
theorem alike_joinText (s : String) (ns : List Node) : Alike (joinText s ns) (.text s :: ns) := by
  match ns with
  | .text t :: ns => exact ((Alike.texts s t).append (Alike.refl ns)).symm
  | [] | .scalar key :: ns | .block key body :: ns | .inverse key body :: ns | .splice key :: ns =>
    rw [joinText]
    · split
      · rename_i hs
        subst hs
        exact (Alike.emptyText.append (Alike.refl _)).symm
      · exact Alike.refl _
    all_goals simp

mutual

/-- A node with its texts joined writes what the node writes. -/
theorem alike_joined_node : ∀ n : Node, Alike [n.joined] [n]
  | .text _ | .scalar _ | .splice _ => Alike.refl _
  | .block _ body => (alike_joined body).block
  | .inverse _ body => (alike_joined body).inverse

/-- Joining texts does not change what nodes write. -/
theorem alike_joined : ∀ ns : List Node, Alike (joined ns) ns
  | [] => Alike.refl _
  | .text s :: ns =>
    (alike_joinText s (joined ns)).trans ((Alike.refl [.text s]).append (alike_joined ns))
  | .scalar key :: ns => (alike_joined_node (.scalar key)).append (alike_joined ns)
  | .block key body :: ns => (alike_joined_node (.block key body)).append (alike_joined ns)
  | .inverse key body :: ns => (alike_joined_node (.inverse key body)).append (alike_joined ns)
  | .splice key :: ns => (alike_joined_node (.splice key)).append (alike_joined ns)

end

/-- Two blocks are open that differ at most in empty texts before them. -/
structure OpenBlock.Alike (b b' : OpenBlock) : Prop where
  key : b.key = b'.key
  isInverse : b.isInverse = b'.isInverse
  before : Fragment.Alike b.before.reverse b'.before.reverse

/-- Alike bodies make alike blocks. -/
theorem OpenBlock.Alike.node {b b' : OpenBlock} (hb : b.Alike b') {xs ys : List Node}
    (h : Fragment.Alike xs ys) : Fragment.Alike [b.node xs] [b'.node ys] := by
  rw [OpenBlock.node, OpenBlock.node, hb.key, hb.isInverse]
  split
  · exact h.inverse
  · exact h.block

/-- What is put behind nodes that evaluate alike. -/
theorem alike_reverse_cons {done done' : List Node} (h : Alike done.reverse done'.reverse)
    {n n' : Node} (hn : Alike [n] [n']) : Alike (n :: done).reverse (n' :: done').reverse := by
  rw [List.reverse_cons, List.reverse_cons]
  exact h.append hn

/-- Empty texts among the tokens do not change what the nodes write. -/
theorem build_counts : ∀ {ts : List Token} {opened opened' : List OpenBlock}
    {done done' ns' : List Node}, List.Forall₂ OpenBlock.Alike opened opened' →
    Alike done.reverse done'.reverse → build opened' done' (ts.filter Token.counts) = .ok ns' →
    ∃ ns, build opened done ts = .ok ns ∧ Alike ns ns'
  | [], _, _, done, _, _, hopened, hdone, h => by
    cases hopened with
    | nil =>
      cases h
      exact ⟨done.reverse, rfl, hdone⟩
    | cons _ _ => cases h
  | .malformed line :: ts, _, _, _, _, _, _, _, h => by cases h
  | .text cs :: ts, _, _, done, done', _, hopened, hdone, h => by
    rw [build_text]
    by_cases hcs : cs = []
    · -- only the run on all tokens sees the empty text
      subst hcs
      rw [List.filter_cons_of_neg (by simp [Token.counts])] at h
      refine build_counts hopened ?_ h
      have hempty : Alike (done.reverse ++ [.text ""]) (done'.reverse ++ []) :=
        hdone.append Alike.emptyText
      rwa [List.append_nil, ← List.reverse_cons] at hempty
    · rw [List.filter_cons_of_pos (by simp [Token.counts, hcs]), build_text] at h
      exact build_counts hopened (alike_reverse_cons hdone (Alike.refl _)) h
  | .tag sign key :: ts, opened, opened', done, done', _, hopened, hdone, h => by
    rw [List.filter_cons_of_pos (by rfl)] at h
    by_cases hcomment : sign = .comment
    · subst hcomment
      have hrest : build opened' done' (ts.filter Token.counts) = .ok _ := h
      obtain ⟨ns, hns, halike⟩ := build_counts hopened hdone hrest
      exact ⟨ns, hns, halike⟩
    rw [build_tag hcomment] at h ⊢
    split at h
    · cases h
    rename_i hword
    rw [if_neg hword]
    cases sign with
    | scalar | splice => exact build_counts hopened (alike_reverse_cons hdone (Alike.refl _)) h
    | block | inverse =>
      -- what was done so far goes on the stack, and the body begins with nothing
      refine build_counts (.cons ?_ hopened) ?_ h
      · exact ⟨rfl, rfl, hdone⟩
      · exact Alike.refl []
    | comment => exact absurd rfl hcomment
    | close =>
      cases hopened with
      | nil => cases h
      | @cons b b' bs bs' hb hbs =>
        simp only [hb.key] at h ⊢
        split at h
        · rename_i hkey
          rw [if_pos hkey]
          exact build_counts hbs (alike_reverse_cons hb.before (hb.node hdone)) h
        · cases h

/-! ## What is found among the tokens of marks -/

/-- Marks do not show where one text ends and the next begins. -/
theorem marks_pushText (cs : List Char) (ts : List Token) :
    (pushText cs ts).flatMap Token.marks = cs.map .char ++ ts.flatMap Token.marks := by
  unfold pushText
  split
  · simp [Token.marks]
  · split <;> simp_all [Token.marks]

/-- A tag that is no comment is a mark. -/
theorem Token.marks_tag {sign : Sign} (key : List Char) (h : sign ≠ .comment) :
    (Token.tag sign key).marks = [.tag sign key] := by
  cases sign with
  | comment => exact absurd rfl h
  | _ => rfl

/-- Runs show nothing but marks and comments. -/
theorem mem_of_mem_marks_runs {mark : Mark} : ∀ {ms : List Mark},
    mark ∈ (runs ms).flatMap Token.marks → mark ∈ ms ∨ mark = .comment
  | .char c :: ms, h => by
    rw [runs, marks_pushText, List.mem_append] at h
    rcases h with h | h
    · exact .inl (List.mem_cons.mpr (.inl (by simpa using h)))
    · exact (mem_of_mem_marks_runs h).imp_left (List.mem_cons_of_mem _)
  | .comment :: ms, h => by
    have hrest : mark ∈ (runs ms).flatMap Token.marks := h
    exact (mem_of_mem_marks_runs hrest).imp_left (List.mem_cons_of_mem _)
  | .tag sign key :: ms, h => by
    rw [runs, List.flatMap_cons, List.mem_append] at h
    rcases h with h | h
    · by_cases hsign : sign = .comment
      · subst hsign
        exact .inr (List.mem_singleton.mp h)
      · rw [Token.marks_tag key hsign] at h
        exact .inl (List.mem_cons.mpr (.inl (List.mem_singleton.mp h)))
    · exact (mem_of_mem_marks_runs h).imp_left (List.mem_cons_of_mem _)

/-- Every tag of the runs is one of the marks. -/
theorem tag_of_mem_runs {ms : List Mark} {sign : Sign} {key : List Char} (hsign : sign ≠ .comment)
    (h : .tag sign key ∈ runs ms) : .tag sign key ∈ ms := by
  have hmark : Mark.tag sign key ∈ (runs ms).flatMap Token.marks :=
    List.mem_flatMap.mpr ⟨_, h, by simp [Token.marks_tag key hsign]⟩
  simpa using mem_of_mem_marks_runs hmark

/-- Every character of the runs is one of the marks. -/
theorem char_of_mem_runs {ms : List Mark} {c : Char} {cs : List Char} (h : .text cs ∈ runs ms)
    (hc : c ∈ cs) : .char c ∈ ms := by
  have hmark : Mark.char c ∈ (runs ms).flatMap Token.marks :=
    List.mem_flatMap.mpr ⟨_, h, by simpa [Token.marks] using hc⟩
  simpa using mem_of_mem_marks_runs hmark

/-- The keys on a valid line are words. -/
theorem Line.Valid.isWord {l : Line} (h : l.Valid) {sign : Sign} {key : List Char}
    (hkey : .tag sign key ∈ l.marks) : Text.isWord key = true := by
  have hprints : ∃ inside, Prints (.tag sign key) inside := by
    cases l with
    | own before tag after =>
      have heq : Mark.tag sign key = tag.mark := by simpa [Line.marks] using hkey
      rw [heq]
      exact ⟨_, h.1⟩
    | mixed lead rest =>
      have hmem : ∃ p ∈ rest, Mark.tag sign key = p.1.mark := by
        simpa [Line.marks] using hkey
      obtain ⟨p, hp, heq⟩ := hmem
      rw [heq]
      exact ⟨_, h.1 p hp⟩
  obtain ⟨inside, hprints⟩ := hprints
  cases hprints with
  | scalar _ hword _ => exact hword
  | sign _ _ _ _ hword _ => exact hword

mutual

/-- Nodes without carriage returns keep their line ends. -/
theorem Node.unified_eq : ∀ n : Node, (∀ cs, .text cs ∈ n.tokens → '\r' ∉ cs) → n.unified = n
  | .text s, h => by
    have hs := h s.toList (by simp [Node.tokens])
    rw [Node.unified, Text.unifyLineEnds_of_not_mem hs, String.ofList_toList]
  | .scalar _, _ => rfl
  | .splice _, _ => rfl
  | .block key body, h => by
    rw [Node.unified, unified_eq body fun cs hcs => h cs (by simp [Node.tokens, hcs])]
  | .inverse key body, h => by
    rw [Node.unified, unified_eq body fun cs hcs => h cs (by simp [Node.tokens, hcs])]

/-- Nodes in a row without carriage returns keep their line ends. -/
theorem unified_eq : ∀ ns : List Node, (∀ cs, .text cs ∈ tokensOf ns → '\r' ∉ cs) → unified ns = ns
  | [], _ => rfl
  | n :: ns, h => by
    rw [unified, n.unified_eq fun cs hcs => h cs (List.mem_append_left _ hcs),
      unified_eq ns fun cs hcs => h cs (List.mem_append_right _ hcs)]

end

/-! ## Layouts -/

/-- Valid lines that show the marks of the trees, one after the other. -/
structure Layout (source : String) (trees : List Tree) where
  lines : List Line
  valid : ∀ l ∈ lines, l.Valid
  chars : Text.lines source.toList = lines.map Line.chars
  marks : lines.flatMap Line.marks = Tree.marks trees

namespace Layout

variable {source : String} {trees : List Tree}

/-- The scanner finds the marks of the trees, and no malformed line. -/
theorem marks_tokens (h : Layout source trees) :
    (tokens source.toList).flatMap Token.marks = Tree.marks trees ∧
      ∀ line, .malformed line ∉ tokens source.toList := by
  rw [tokens, h.chars, ← h.marks, List.flatMap_map, List.flatMap_assoc]
  constructor
  · exact List.flatMap_congr fun l hl => (marks_lineTokens (h.valid l hl)).1
  · intro line hline
    obtain ⟨l, hl, hmem⟩ := List.mem_flatMap.mp hline
    exact (marks_lineTokens (h.valid l hl)).2 line hmem

/-- The marks of a laid out source are read as the tokens of its trees. -/
theorem runs_eq (h : Layout source trees) :
    runs ((tokens source.toList).flatMap Token.marks) = tokensOf (joined (Tree.nodes trees)) := by
  have hruns := runs_body trees [] [] NoLead.nil rfl
  rw [h.marks_tokens.1]
  rwa [List.append_nil, List.append_nil] at hruns

/-- The settled tokens are those of the nodes, but for empty texts. -/
theorem settle_tokens (h : Layout source trees) :
    (settle (tokens source.toList)).filter Token.counts = tokensOf (joined (Tree.nodes trees)) := by
  rw [settle_runs _ h.marks_tokens.2, h.runs_eq]

/-- The keys in a laid out source are words. -/
theorem worded (h : Layout source trees) : Worded (tokensOf (joined (Tree.nodes trees))) := by
  intro sign key hsign hkey
  rw [← h.runs_eq] at hkey
  have hmark := tag_of_mem_runs hsign hkey
  rw [h.marks_tokens.1, ← h.marks] at hmark
  obtain ⟨l, hl, hmem⟩ := List.mem_flatMap.mp hmark
  exact (h.valid l hl).isWord hmem

/-- A laid out source is read, as nodes that write what the trees do. -/
theorem exists_parse (h : Layout source trees) :
    ∃ ns, parse source.toList = .ok ns ∧ Alike ns (unified (joined (Tree.nodes trees))) := by
  have hbuilt : build [] [] (tokensOf (joined (Tree.nodes trees)) ++ []) =
      .ok (unified (joined (Tree.nodes trees))) := by
    rw [build_tokens _ _ _ _ h.worded, List.append_nil]
    exact congrArg Except.ok (List.reverse_reverse _)
  rw [List.append_nil, ← h.settle_tokens] at hbuilt
  have hnone : Alike ([] : List Node).reverse ([] : List Node).reverse := Alike.refl []
  exact build_counts .nil hnone hbuilt

/-- Without carriage returns the texts of the trees are written as they are. -/
theorem alike_nodes (h : Layout source trees) (hreturn : .char '\r' ∉ Tree.marks trees) :
    Alike (unified (joined (Tree.nodes trees))) (Tree.nodes trees) := by
  have hunified : unified (joined (Tree.nodes trees)) = joined (Tree.nodes trees) := by
    refine unified_eq _ fun cs hcs hmem => hreturn ?_
    rw [← h.runs_eq, h.marks_tokens.1] at hcs
    exact char_of_mem_runs hcs hmem
  rw [hunified]
  exact alike_joined _

end Layout

/-- **A source that lays trees out is rendered to what the trees write directly.**  Line ends in
    texts are made line feeds, after comments and own lines were left out; where there is no
    carriage return, texts are written as they are.  Rendering gives this text wherever splices end,
    and `render` does so where they stay within its bound. -/
theorem render_layout (name : String) {source : String} {trees : List Tree}
    (h : Layout source trees) :
    ∃ f, Fragment.ofSource name source = .ok f ∧ f.name = name ∧
      (∀ ms out, Writes ms f.body out ↔ Writes ms (unified (joined (Tree.nodes trees))) out) ∧
      (.char '\r' ∉ Tree.marks trees →
        ∀ ms out, Writes ms f.body out ↔ Writes ms (Tree.nodes trees) out) ∧
      (∀ m out, Renders f m (.ok out) ↔ Writes [m] (unified (joined (Tree.nodes trees))) out) ∧
      ∀ m, f.render m ≠ .error .tooDeep →
        ∀ out, f.render m = .ok out ↔ Writes [m] (unified (joined (Tree.nodes trees))) out := by
  obtain ⟨ns, hns, halike⟩ := h.exists_parse
  have hrenders : ∀ m out, Renders ⟨name, ns⟩ m (.ok out) ↔
      Writes [m] (unified (joined (Tree.nodes trees))) out :=
    fun m out => renders_ok_iff.trans (halike.writes_iff [m] out)
  refine ⟨⟨name, ns⟩, by rw [Fragment.ofSource, hns, map_ok], rfl, halike.writes_iff, ?_, hrenders,
    ?_⟩
  · intro hreturn
    exact (halike.trans (h.alike_nodes hreturn)).writes_iff
  · intro m hroom out
    rw [render_eq_iff hroom]
    exact hrenders m out

/-- A block whose tags have their own lines, with an inline scalar in its body. -/
def greetingTrees : List Tree := [.block "on" [.text "Hello ", .scalar "name", .text "!\n"]]

/-- A source for it. -/
def greetingSource : String :=
  "\x7b\x7b#on\x7d\x7d \nHello \x7b\x7b name \x7d\x7d!\n\t\x7b\x7b/ on\x7d\x7d\n"

/-- The layout of the greeting, line by line. -/
def greetingLayout : Layout greetingSource greetingTrees where
  lines := [.own [] ⟨.tag .block ['o', 'n'], ['#', 'o', 'n']⟩ [' ', '\n'],
    .mixed "Hello ".toList
      [(⟨.tag .scalar "name".toList, " name ".toList⟩, ['!', '\n'])],
    .own ['\t'] ⟨.tag .close ['o', 'n'], ['/', ' ', 'o', 'n']⟩ ['\n']]
  valid := by
    have hopen : Prints (.tag .block ['o', 'n']) ([] ++ '#' :: ([] ++ ['o', 'n']) ++ []) :=
      .sign rfl (by decide) rfl rfl rfl rfl
    have hname : Prints (.tag .scalar "name".toList) ([' '] ++ "name".toList ++ [' ']) :=
      .scalar rfl rfl rfl
    have hclose : Prints (.tag .close ['o', 'n']) ([] ++ '/' :: ([' '] ++ ['o', 'n']) ++ []) :=
      .sign rfl (by decide) rfl rfl rfl rfl
    simp only [List.forall_mem_cons, List.not_mem_nil, false_implies, implies_true, and_true]
    refine ⟨⟨hopen, by simp, rfl, rfl⟩, ⟨?_, ⟨rfl, rfl⟩, ?_⟩, ⟨hclose, by simp, rfl, rfl⟩⟩
    · simpa using hname
    · rintro tag text heq
      cases heq
      exact .inl ⟨_, rfl⟩
  chars := rfl
  marks := rfl

theorem greeting_is_rendered :
    ∃ f, Fragment.ofSource "greeting" greetingSource = .ok f ∧
      f.render [("on", .flag true), ("name", .text "World")] = .ok "Hello World!\n" ∧
      Writes [[("on", .flag true), ("name", .text "World")]] (Tree.nodes greetingTrees)
        "Hello World!\n" := by
  obtain ⟨f, hf, -, -, hverbatim, -, hrender⟩ := render_layout "greeting" greetingLayout
  have hread : Fragment.ofSource "greeting" greetingSource =
      .ok ⟨"greeting", Tree.nodes greetingTrees⟩ := rfl
  obtain rfl : f = ⟨"greeting", Tree.nodes greetingTrees⟩ := by
    rw [hread] at hf
    cases hf
    rfl
  have hout : Fragment.render ⟨"greeting", Tree.nodes greetingTrees⟩
      [("on", .flag true), ("name", .text "World")] = .ok "Hello World!\n" := rfl
  have hroom : Fragment.render ⟨"greeting", Tree.nodes greetingTrees⟩
      [("on", .flag true), ("name", .text "World")] ≠ .error .tooDeep := by
    rw [hout]
    simp
  have hwrites := (hrender _ hroom _).mp hout
  have hreturn : .char '\r' ∉ Tree.marks greetingTrees := by decide
  exact ⟨_, hf, hout, (hverbatim hreturn _ _).mp hwrites⟩

/-- A carriage return in a text is not written as it is, and a text with two opening braces, or
    with one before a tag, makes the source no fragment at all. -/
theorem text_is_not_verbatim :
    (Nonempty (Layout "a\rb" [.text "a\rb"]) ∧ Writes [[]] (Tree.nodes [.text "a\rb"]) "a\rb" ∧
      ∃ f, Fragment.ofSource "text" "a\rb" = .ok f ∧ f.render [] = .ok "a\nb") ∧
    (∃ e, Fragment.ofSource "text" "a\x7b\x7bb" = .error e) ∧
    ∃ e, Fragment.ofSource "text" "\x7b\x7b\x7bkey\x7d\x7d" = .error e := by
  refine ⟨⟨⟨?_⟩, ?_, ⟨⟨"text", [.text "a\nb"]⟩, rfl, rfl⟩⟩, ⟨_, rfl⟩, ⟨_, rfl⟩⟩
  · exact {
      lines := [.mixed ['a', '\r'] [], .mixed ['b'] []]
      valid := by
        simp only [List.forall_mem_cons, List.not_mem_nil, false_implies, implies_true, and_true]
        exact ⟨⟨by simp, rfl, by simp⟩, ⟨by simp, rfl, by simp⟩⟩
      chars := rfl
      marks := rfl }
  · exact .text .nil

end ThriftScala.Fragment
