/-
  What a fragment means, without a bound on splices.

  The first section takes an evaluation that gives a text apart, one lemma for each kind of node.
  The second says what becomes of nodes whose first is known to give a text.

  `Writes models nodes out` then says by rules what nodes write in a chain of models, the innermost
  in front: a text itself; a scalar the text that its key is bound to in the innermost model that
  has the key; a block its body once for each item; an inverse block its body if there is no item;
  a splice what the fragment under its key writes in the same models.  A derivation is finite, so a
  fragment that splices itself for ever writes nothing.

  `evalWithin` and the rules agree (`writes_iff_evalWithin`).  The bound on splices only stops an
  evaluation; it never changes what one gives (`evalWithin_add`).  So every fragment and model have
  one outcome from some bound on (`Renders`), and `render` gives it where its own bound is not too
  small (`renders_render`).
-/
import ThriftScala.Fragment.Render
import ThriftScala.Proofs.Outcome

namespace ThriftScala.Fragment

open Outcome

/-! ## One step of an evaluation -/

section Equations

variable (splice : List Node → Scope → Except RenderError String) (scope : Scope) (key : String)
  (body : List Node)

theorem evalNodes_nil : evalNodes splice [] scope = .ok "" := rfl

/-- Nodes are evaluated from the first one on, and their texts are put together. -/
theorem evalNodes_cons (node : Node) (nodes : List Node) :
    evalNodes splice (node :: nodes) scope = (do
      let first ← evalNode splice node scope
      let rest ← evalNodes splice nodes scope
      pure (first ++ rest)) := rfl

theorem evalNode_text (s : String) : evalNode splice (.text s) scope = .ok s := rfl

theorem evalNode_scalar : evalNode splice (.scalar key) scope = scope.text key := rfl

/-- A block gives its body once for each item that stands under its key. -/
theorem evalNode_block :
    evalNode splice (.block key body) scope = (do
      let scopes ← scope.items key
      let texts ← scopes.mapM (evalNodes splice body)
      pure (String.join texts)) := rfl

/-- An inverse block gives its body if nothing stands under its key. -/
theorem evalNode_inverse :
    evalNode splice (.inverse key body) scope = (do
      if ← scope.isEmpty key then evalNodes splice body scope else pure "") := rfl

/-- A splice gives the fragment under its key, in the scope as it stands. -/
theorem evalNode_splice :
    evalNode splice (.splice key) scope = (do
      let f ← scope.fragmentAt key
      splice f.body { scope with fragment := f.name }) := rfl

end Equations

/-! ## Evaluations that give a text -/

section Taken

variable {splice : List Node → Scope → Except RenderError String} {scope : Scope} {key out : String}
  {body : List Node}

/-- Nodes give a text exactly if the first and the rest do. -/
theorem evalNodes_cons_eq_ok {node : Node} {nodes : List Node} :
    evalNodes splice (node :: nodes) scope = .ok out ↔
      ∃ first rest, evalNode splice node scope = .ok first ∧
        evalNodes splice nodes scope = .ok rest ∧ out = first ++ rest := by
  rw [evalNodes_cons]
  simp only [bind_eq_ok, pure_eq_ok, Except.ok.injEq]
  constructor
  · rintro ⟨first, hfirst, rest, hrest, rfl⟩
    exact ⟨first, rest, hfirst, hrest, rfl⟩
  · rintro ⟨first, rest, hfirst, hrest, rfl⟩
    exact ⟨first, hfirst, rest, hrest, rfl⟩

/-- Where nodes give a text, each of them gives one. -/
theorem exists_of_mem_nodes {nodes : List Node} (h : evalNodes splice nodes scope = .ok out) :
    ∀ node ∈ nodes, ∃ text, evalNode splice node scope = .ok text := by
  induction nodes generalizing out with
  | nil => simp
  | cons node nodes ih =>
    obtain ⟨first, rest, hfirst, hrest, -⟩ := evalNodes_cons_eq_ok.mp h
    exact List.forall_mem_cons.mpr ⟨⟨first, hfirst⟩, ih hrest⟩

/-- What stands first is written first. -/
theorem evalNodes_append (xs ys : List Node) :
    evalNodes splice (xs ++ ys) scope = (do
      let first ← evalNodes splice xs scope
      let rest ← evalNodes splice ys scope
      pure (first ++ rest)) := by
  induction xs with
  | nil =>
    rw [List.nil_append, evalNodes_nil, ok_bind]
    simp only [String.empty_append]
    exact (bind_pure _).symm
  | cons node xs ih =>
    rw [List.cons_append, evalNodes_cons, evalNodes_cons, ih]
    simp [String.append_assoc]

/-- Nodes in a row give a text exactly if both parts do. -/
theorem evalNodes_append_eq_ok {xs ys : List Node} :
    evalNodes splice (xs ++ ys) scope = .ok out ↔
      ∃ first rest, evalNodes splice xs scope = .ok first ∧
        evalNodes splice ys scope = .ok rest ∧ out = first ++ rest := by
  rw [evalNodes_append]
  simp only [bind_eq_ok, pure_eq_ok, Except.ok.injEq]
  constructor
  · rintro ⟨first, hfirst, rest, hrest, rfl⟩
    exact ⟨first, rest, hfirst, hrest, rfl⟩
  · rintro ⟨first, rest, hfirst, hrest, rfl⟩
    exact ⟨first, hfirst, rest, hrest, rfl⟩

/-- A block gives a text exactly if its body does for every item. -/
theorem evalNode_block_eq_ok :
    evalNode splice (.block key body) scope = .ok out ↔
      ∃ scopes texts, scope.items key = .ok scopes ∧
        scopes.mapM (evalNodes splice body) = .ok texts ∧ out = String.join texts := by
  rw [evalNode_block]
  simp only [bind_eq_ok, pure_eq_ok, Except.ok.injEq]
  constructor
  · rintro ⟨scopes, hscopes, texts, htexts, rfl⟩
    exact ⟨scopes, texts, hscopes, htexts, rfl⟩
  · rintro ⟨scopes, texts, hscopes, htexts, rfl⟩
    exact ⟨scopes, hscopes, texts, htexts, rfl⟩

/-- An inverse block gives the text of its body or, where there are items, nothing. -/
theorem evalNode_inverse_eq_ok :
    evalNode splice (.inverse key body) scope = .ok out ↔
      (scope.isEmpty key = .ok true ∧ evalNodes splice body scope = .ok out) ∨
        (scope.isEmpty key = .ok false ∧ out = "") := by
  rw [evalNode_inverse, bind_eq_ok]
  constructor
  · rintro ⟨b, hb, h⟩
    cases b with
    | true => exact .inl ⟨hb, h⟩
    | false =>
      cases h
      exact .inr ⟨hb, rfl⟩
  · rintro (⟨hb, h⟩ | ⟨hb, rfl⟩)
    · exact ⟨true, hb, h⟩
    · exact ⟨false, hb, rfl⟩

/-- A splice gives a text exactly if a fragment stands under its key and gives that text. -/
theorem evalNode_splice_eq_ok :
    evalNode splice (.splice key) scope = .ok out ↔
      ∃ f, scope.fragmentAt key = .ok f ∧ splice f.body { scope with fragment := f.name } = .ok out :=
  bind_eq_ok

end Taken

/-! ## What stands in front -/

section Front

variable {splice : List Node → Scope → Except RenderError String} {key : String} {scope : Scope}

/-- A text in front is written as it is. -/
theorem evalNodes_text (s : String) (ns : List Node) (scope : Scope) :
    evalNodes splice (.text s :: ns) scope = (evalNodes splice ns scope).map (s ++ ·) := by
  cases h : evalNodes splice ns scope <;> simp [evalNodes_cons, evalNode_text, h]

/-- A tag in front is written as the text under its key. -/
theorem evalNodes_scalar {s : String} (h : scope.text key = .ok s) (ns : List Node) :
    evalNodes splice (.scalar key :: ns) scope = (evalNodes splice ns scope).map (s ++ ·) := by
  cases hns : evalNodes splice ns scope <;>
    simp [evalNodes_cons, evalNode_scalar, h, hns]

/-- A block under a flag. -/
theorem evalNodes_flag {b : Bool} (h : scope.resolve key = .ok (.flag b)) (body : List Node) :
    evalNodes splice [.block key body] scope =
      if b = true then evalNodes splice body scope else .ok "" := by
  cases b <;> cases hbody : evalNodes splice body scope <;>
    simp [evalNodes_cons, evalNodes_nil, evalNode_block, Scope.items, h, hbody]

/-- An inverse block under a flag. -/
theorem evalNodes_inverse_flag {b : Bool} {s : String} (h : scope.resolve key = .ok (.flag b))
    {body : List Node} (hbody : evalNodes splice body scope = .ok s) (ns : List Node) :
    evalNodes splice (.inverse key body :: ns) scope =
      (evalNodes splice ns scope).map ((if b = true then "" else s) ++ ·) := by
  cases b <;> cases hns : evalNodes splice ns scope <;>
    simp [evalNodes_cons, evalNode_inverse, Scope.isEmpty, h, hbody, hns]

/-- A block whose items are known. -/
theorem evalNodes_block {α : Type} {items : List α} {inner : α → Scope}
    (h : scope.items key = .ok (items.map inner)) (body ns : List Node) :
    evalNodes splice (.block key body :: ns) scope =
      (items.mapM fun a => evalNodes splice body (inner a)).bind fun texts =>
        (evalNodes splice ns scope).map (String.join texts ++ ·) := by
  rw [evalNodes_cons, evalNode_block, h, ok_bind, List.mapM_map]
  simp only [Function.comp_def]
  cases items.mapM fun a => evalNodes splice body (inner a) with
  | error e => rfl
  | ok texts => cases evalNodes splice ns scope <;> rfl

end Front

/-! ## Nodes that evaluate alike -/

/-- The nodes give the same in every scope, whatever splices give. -/
def Alike (xs ys : List Node) : Prop :=
  ∀ splice scope, evalNodes splice xs scope = evalNodes splice ys scope

namespace Alike

variable {xs xs' ys ys' zs : List Node} {key : String}

theorem refl (xs : List Node) : Alike xs xs := fun _ _ => rfl

theorem symm (h : Alike xs ys) : Alike ys xs := fun splice scope => (h splice scope).symm

theorem trans (h : Alike xs ys) (h' : Alike ys zs) : Alike xs zs :=
  fun splice scope => (h splice scope).trans (h' splice scope)

/-- Parts that give the same can be exchanged side by side. -/
theorem append (hx : Alike xs xs') (hy : Alike ys ys') : Alike (xs ++ ys) (xs' ++ ys') := by
  intro splice scope
  rw [evalNodes_append, evalNodes_append, hx splice scope, hy splice scope]

/-- Only the body of a block counts. -/
theorem block (h : Alike xs ys) : Alike [.block key xs] [.block key ys] := by
  intro splice scope
  have hbodies : evalNodes splice xs = evalNodes splice ys := funext (h splice)
  simp only [evalNodes_cons, evalNodes_nil, evalNode_block, hbodies]

/-- Bodies that give the same can be exchanged in an inverse block. -/
theorem inverse (h : Alike xs ys) : Alike [.inverse key xs] [.inverse key ys] := by
  intro splice scope
  simp only [evalNodes_cons, evalNodes_nil, evalNode_inverse, h splice]

/-- An empty text writes nothing. -/
theorem emptyText : Alike [.text ""] [] := by
  intro splice scope
  simp [evalNodes_cons, evalNodes_nil, evalNode_text]

/-- Two texts write what they write together. -/
theorem texts (s t : String) : Alike [.text s, .text t] [.text (s ++ t)] := by
  intro splice scope
  simp [evalNodes_cons, evalNodes_nil, evalNode_text]

/-- Room for splices makes no difference between the two. -/
theorem evalWithin (h : Alike xs ys) (depth : Nat) (scope : Scope) :
    Fragment.evalWithin depth xs scope = Fragment.evalWithin depth ys scope := by
  cases depth with
  | zero => exact h _ scope
  | succ depth => exact h _ scope

end Alike

/-! ## What keys stand for -/

/-- The value that a key has in the innermost model that has the key. -/
inductive Bound : List Model → String → Value → Prop
  | here {m : Model} {ms : List Model} {key : String} {v : Value} :
      m.lookup key = some v → Bound (m :: ms) key v
  | outer {m : Model} {ms : List Model} {key : String} {v : Value} :
      m.lookup key = none → Bound ms key v → Bound (m :: ms) key v

/-- The chains of models in which a block under a key is written, one after the other. -/
inductive Items (ms : List Model) (key : String) : List (List Model) → Prop
  | yes : Bound ms key (.flag true) → Items ms key [ms]
  | no : Bound ms key (.flag false) → Items ms key []
  | model {m : Model} : Bound ms key (.model m) → Items ms key [m :: ms]
  | sequence {items : List Model} :
      Bound ms key (.sequence items) → Items ms key (items.map (· :: ms))

/-- Looking a key up finds the value that is bound to it, which is the innermost one. -/
theorem lookup?_eq_some (name : String) {key : String} {v : Value} : ∀ {ms : List Model},
    Scope.lookup? ⟨name, ms⟩ key = some v ↔ Bound ms key v
  | [] => by
    constructor
    · intro h
      cases h
    · intro h
      cases h
  | m :: ms => by
    cases hm : m.lookup key with
    | some w =>
      have hlook : Scope.lookup? ⟨name, m :: ms⟩ key = some w := by simp [Scope.lookup?, hm]
      rw [hlook]
      constructor
      · intro h
        cases h
        exact .here hm
      · rintro (hv | ⟨hv, -⟩)
        · rw [← hv, hm]
        · rw [hm] at hv
          cases hv
    | none =>
      have hlook : Scope.lookup? ⟨name, m :: ms⟩ key = Scope.lookup? ⟨name, ms⟩ key := by
        simp [Scope.lookup?, hm]
      rw [hlook, lookup?_eq_some name]
      constructor
      · exact .outer hm
      · rintro (hv | ⟨-, h⟩)
        · rw [hm] at hv
          cases hv
        · exact h

section Keys

variable {name key : String} {ms : List Model}

/-- A key is resolved to the value that is bound to it. -/
theorem resolve_eq_ok {v : Value} : Scope.resolve ⟨name, ms⟩ key = .ok v ↔ Bound ms key v := by
  rw [← lookup?_eq_some name, Scope.resolve]
  cases Scope.lookup? ⟨name, ms⟩ key <;> simp [Scope.fail]

/-- A tag writes a text exactly if the innermost value under its key is this text. -/
theorem text_eq_ok {s : String} :
    Scope.text ⟨name, ms⟩ key = .ok s ↔ Bound ms key (.text s) := by
  rw [Scope.text, bind_eq_ok]
  constructor
  · rintro ⟨v, hv, h⟩
    cases v <;> cases h
    exact resolve_eq_ok.mp hv
  · exact fun h => ⟨.text s, resolve_eq_ok.mpr h, rfl⟩

/-- A splice finds a fragment exactly if the innermost value under its key is this fragment. -/
theorem fragmentAt_eq_ok {f : Fragment} :
    Scope.fragmentAt ⟨name, ms⟩ key = .ok f ↔ Bound ms key (.fragment f) := by
  rw [Scope.fragmentAt, bind_eq_ok]
  constructor
  · rintro ⟨v, hv, h⟩
    cases v <;> cases h
    exact resolve_eq_ok.mp hv
  · exact fun h => ⟨.fragment f, resolve_eq_ok.mpr h, rfl⟩

/-- A block is written for the items under its key, each in front of the models around it. -/
theorem items_eq_ok {scopes : List Scope} :
    Scope.items ⟨name, ms⟩ key = .ok scopes ↔
      ∃ items, Items ms key items ∧ scopes = items.map (⟨name, ·⟩) := by
  rw [Scope.items, bind_eq_ok]
  constructor
  · rintro ⟨v, hv, h⟩
    have hbound := resolve_eq_ok.mp hv
    cases v with
    | flag b =>
      cases h
      cases b with
      | true => exact ⟨_, .yes hbound, rfl⟩
      | false => exact ⟨_, .no hbound, rfl⟩
    | model m =>
      cases h
      exact ⟨_, .model hbound, rfl⟩
    | sequence items =>
      cases h
      exact ⟨_, .sequence hbound, by simp [Scope.push, Function.comp_def]⟩
    | _ => cases h
  · rintro ⟨items, hitems, rfl⟩
    cases hitems with
    | yes h => exact ⟨_, resolve_eq_ok.mpr h, rfl⟩
    | no h => exact ⟨_, resolve_eq_ok.mpr h, rfl⟩
    | model h => exact ⟨_, resolve_eq_ok.mpr h, rfl⟩
    | sequence h =>
      exact ⟨_, resolve_eq_ok.mpr h, by simp [Scope.push, Function.comp_def]⟩

/-- An inverse block asks whether a block would have no item. -/
theorem isEmpty_eq_items (scope : Scope) (key : String) :
    scope.isEmpty key = (scope.items key).map List.isEmpty := by
  rw [Scope.isEmpty, Scope.items]
  cases scope.resolve key with
  | error e => rfl
  | ok v =>
    cases v with
    | flag b => cases b <;> rfl
    | sequence items => cases items <;> rfl
    | _ => rfl

/-- An inverse block asks whether there are items under its key. -/
theorem isEmpty_eq_ok {b : Bool} :
    Scope.isEmpty ⟨name, ms⟩ key = .ok b ↔ ∃ items, Items ms key items ∧ b = items.isEmpty := by
  rw [isEmpty_eq_items, map_eq_ok]
  constructor
  · rintro ⟨scopes, hscopes, rfl⟩
    obtain ⟨items, hitems, rfl⟩ := items_eq_ok.mp hscopes
    exact ⟨items, hitems, by rw [List.isEmpty_map]⟩
  · rintro ⟨items, hitems, rfl⟩
    exact ⟨_, items_eq_ok.mpr ⟨items, hitems, rfl⟩, by rw [List.isEmpty_map]⟩

end Keys

/-! ## The rules -/

mutual

/-- What nodes write in a chain of models. -/
inductive Writes : List Model → List Node → String → Prop
  | nil {ms : List Model} : Writes ms [] ""
  | text {ms : List Model} {s out : String} {ns : List Node} :
      Writes ms ns out → Writes ms (.text s :: ns) (s ++ out)
  | scalar {ms : List Model} {key s out : String} {ns : List Node} :
      Bound ms key (.text s) → Writes ms ns out → Writes ms (.scalar key :: ns) (s ++ out)
  | block {ms : List Model} {key inner out : String} {body ns : List Node}
      {items : List (List Model)} :
      Items ms key items → WritesEach items body inner → Writes ms ns out →
      Writes ms (.block key body :: ns) (inner ++ out)
  | absent {ms : List Model} {key inner out : String} {body ns : List Node} :
      Items ms key [] → Writes ms body inner → Writes ms ns out →
      Writes ms (.inverse key body :: ns) (inner ++ out)
  | present {ms : List Model} {key out : String} {body ns : List Node} {item : List Model}
      {items : List (List Model)} :
      Items ms key (item :: items) → Writes ms ns out → Writes ms (.inverse key body :: ns) out
  | splice {ms : List Model} {key inner out : String} {f : Fragment} {ns : List Node} :
      Bound ms key (.fragment f) → Writes ms f.body inner → Writes ms ns out →
      Writes ms (.splice key :: ns) (inner ++ out)

/-- What nodes write in several chains of models, one after the other. -/
inductive WritesEach : List (List Model) → List Node → String → Prop
  | nil {body : List Node} : WritesEach [] body ""
  | cons {ms : List Model} {items : List (List Model)} {body : List Node} {first rest : String} :
      Writes ms body first → WritesEach items body rest →
      WritesEach (ms :: items) body (first ++ rest)

end

/-! ## More room for splices -/

section Room

variable {narrow wide : List Node → Scope → Except RenderError String}

/-- `wide` gives what `narrow` gives, unless `narrow` stops for want of room. -/
def GoesFurther (narrow wide : List Node → Scope → Except RenderError String) : Prop :=
  ∀ ns scope, narrow ns scope ≠ .error .tooDeep → wide ns scope = narrow ns scope

mutual

/-- More room for splices changes nothing about a node that did not run out of room. -/
theorem evalNode_further (hs : GoesFurther narrow wide) : ∀ (node : Node) (scope : Scope),
    evalNode narrow node scope ≠ .error .tooDeep → evalNode wide node scope = evalNode narrow node scope
  | .text _, _, _ => rfl
  | .scalar _, _, _ => rfl
  | .block key body, scope, h => by
    refine bind_eq_of_ne (fun _ => rfl) (fun scopes hscopes => ?_) h
    refine bind_eq_of_ne ?_ (fun _ _ => rfl) hscopes
    exact mapM_eq_of_ne fun inner _ => evalNodes_further hs body inner
  | .inverse key body, scope, h => by
    refine bind_eq_of_ne (fun _ => rfl) (fun b hb => ?_) h
    cases b with
    | true => exact evalNodes_further hs body scope hb
    | false => rfl
  | .splice key, scope, h =>
    bind_eq_of_ne (fun _ => rfl) (fun f hf => hs f.body { scope with fragment := f.name } hf) h

/-- More room for splices changes nothing about nodes that did not run out of room. -/
theorem evalNodes_further (hs : GoesFurther narrow wide) : ∀ (nodes : List Node) (scope : Scope),
    evalNodes narrow nodes scope ≠ .error .tooDeep →
      evalNodes wide nodes scope = evalNodes narrow nodes scope
  | [], _, _ => rfl
  | node :: nodes, scope, h => by
    refine bind_eq_of_ne (evalNode_further hs node scope) (fun first hfirst => ?_) h
    exact bind_eq_of_ne (evalNodes_further hs nodes scope) (fun _ _ => rfl) hfirst

end

/-- More room for splices changes nothing, unless there was too little. -/
theorem evalWithin_add : ∀ (depth more : Nat), GoesFurther (evalWithin depth) (evalWithin (depth + more))
  | 0, 0 => fun _ _ _ => rfl
  | 0, more + 1 => evalNodes_further fun _ _ h => absurd rfl h
  | depth + 1, more => by
    rw [Nat.add_right_comm]
    exact evalNodes_further (evalWithin_add depth more)

/-- An outcome that is not for want of room stays when there is more room. -/
theorem evalWithin_settled {depth depth' : Nat} (h : depth ≤ depth') {nodes : List Node}
    {scope : Scope} {r : Except RenderError String} (hr : r ≠ .error .tooDeep)
    (heval : evalWithin depth nodes scope = r) : evalWithin depth' nodes scope = r := by
  have hfurther := evalWithin_add depth (depth' - depth) nodes scope (by rwa [heval])
  rwa [Nat.add_sub_cancel' h, heval] at hfurther

/-- A text stays when there is more room. -/
theorem evalWithin_le {depth depth' : Nat} (h : depth ≤ depth') {nodes : List Node} {scope : Scope}
    {out : String} (hout : evalWithin depth nodes scope = .ok out) :
    evalWithin depth' nodes scope = .ok out :=
  evalWithin_settled h (by simp) hout

end Room

/-- How splices are evaluated where at most the given number may stand inside one another. -/
def splicer : Nat → List Node → Scope → Except RenderError String
  | 0 => fun _ _ => .error .tooDeep
  | depth + 1 => evalWithin depth

/-- With any room nodes are evaluated by one function of what splices give. -/
theorem evalWithin_eq (depth : Nat) : evalWithin depth = evalNodes (splicer depth) := by
  cases depth <;> rfl

/-! ## Evaluation follows the rules -/

section Sound

variable {splice : List Node → Scope → Except RenderError String}

/-- What `splice` gives, the rules give too. -/
def Follows (splice : List Node → Scope → Except RenderError String) : Prop :=
  ∀ ⦃ns name ms out⦄, splice ns ⟨name, ms⟩ = .ok out → Writes ms ns out

mutual

/-- A node that gives a text writes it, if what splices give is what fragments write. -/
theorem writes_of_evalNode (hs : Follows splice) {name : String} {ns : List Node} {rest : String} :
    ∀ (node : Node) {ms : List Model} {first : String},
      evalNode splice node ⟨name, ms⟩ = .ok first → Writes ms ns rest →
      Writes ms (node :: ns) (first ++ rest)
  | .text s, _, _, h, hns => by
    cases h
    exact .text hns
  | .scalar key, _, _, h, hns => .scalar (text_eq_ok.mp h) hns
  | .block key body, ms, first, h, hns => by
    obtain ⟨scopes, texts, hscopes, htexts, rfl⟩ := evalNode_block_eq_ok.mp h
    obtain ⟨items, hitems, rfl⟩ := items_eq_ok.mp hscopes
    refine .block hitems ?_ hns
    rw [mapM_eq_ok, List.forall₂_map_left_iff] at htexts
    -- item by item; what is known of the list as a whole would stand in the way
    clear hitems hscopes h
    induction htexts with
    | nil => exact .nil
    | cons hitem _ ih =>
      rw [String.join_cons]
      exact .cons (writes_of_evalNodes hs body hitem) ih
  | .inverse key body, ms, first, h, hns => by
    rcases evalNode_inverse_eq_ok.mp h with ⟨hb, hbody⟩ | ⟨hb, rfl⟩
    · obtain ⟨items, hitems, hempty⟩ := isEmpty_eq_ok.mp hb
      cases items with
      | nil => exact .absent hitems (writes_of_evalNodes hs body hbody) hns
      | cons _ _ => cases hempty
    · obtain ⟨items, hitems, hempty⟩ := isEmpty_eq_ok.mp hb
      cases items with
      | nil => cases hempty
      | cons _ _ =>
        rw [String.empty_append]
        exact .present hitems hns
  | .splice key, ms, first, h, hns => by
    obtain ⟨f, hf, hbody⟩ := evalNode_splice_eq_ok.mp h
    exact .splice (fragmentAt_eq_ok.mp hf) (hs hbody) hns

/-- Nodes that give a text write it, if what splices give is what fragments write. -/
theorem writes_of_evalNodes (hs : Follows splice) {name : String} :
    ∀ (nodes : List Node) {ms : List Model} {out : String},
      evalNodes splice nodes ⟨name, ms⟩ = .ok out → Writes ms nodes out
  | [], _, _, h => by
    cases h
    exact .nil
  | node :: nodes, _, _, h => by
    obtain ⟨first, rest, hfirst, hrest, rfl⟩ := evalNodes_cons_eq_ok.mp h
    exact writes_of_evalNode hs node hfirst (writes_of_evalNodes hs nodes hrest)

end

/-- With any room splices give what fragments write. -/
theorem follows_splicer : ∀ depth, Follows (splicer depth)
  | 0 => fun _ _ _ _ h => by cases h
  | depth + 1 => fun nodes name ms out h => by
    rw [splicer, evalWithin_eq] at h
    exact writes_of_evalNodes (follows_splicer depth) nodes h

end Sound

/-! ## The rules are followed -/

/-- One node after the other. -/
theorem evalWithin_cons {depth : Nat} {node : Node} {ns : List Node} {scope : Scope}
    {first rest : String} (hfirst : evalNode (splicer depth) node scope = .ok first)
    (hrest : evalWithin depth ns scope = .ok rest) :
    evalWithin depth (node :: ns) scope = .ok (first ++ rest) := by
  rw [evalWithin_eq] at hrest ⊢
  exact evalNodes_cons_eq_ok.mpr ⟨first, rest, hfirst, hrest, rfl⟩

mutual

/-- What nodes write they give with enough room, whatever the fragment is called. -/
theorem Writes.exists_evalWithin : ∀ {ms : List Model} {ns : List Node} {out : String},
    Writes ms ns out → ∃ depth, ∀ name, evalWithin depth ns ⟨name, ms⟩ = .ok out
  | _, _, _, .nil => ⟨0, fun _ => rfl⟩
  | _, _, _, .text hns => by
    obtain ⟨depth, h⟩ := hns.exists_evalWithin
    exact ⟨depth, fun name => evalWithin_cons rfl (h name)⟩
  | _, _, _, .scalar hkey hns => by
    obtain ⟨depth, h⟩ := hns.exists_evalWithin
    exact ⟨depth, fun name => evalWithin_cons (text_eq_ok.mpr hkey) (h name)⟩
  | _, _, _, .block hitems hbody hns => by
    obtain ⟨inner, hinner⟩ := hbody.exists_evalWithin
    obtain ⟨depth, h⟩ := hns.exists_evalWithin
    refine ⟨max inner depth, fun name => ?_⟩
    obtain ⟨texts, htexts, hjoin⟩ := hinner name
    have htexts := mapM_ok_mono
      (fun _ _ ht => evalWithin_le (Nat.le_max_left inner depth) ht) htexts
    rw [evalWithin_eq] at htexts
    refine evalWithin_cons ?_ (evalWithin_le (Nat.le_max_right inner depth) (h name))
    exact evalNode_block_eq_ok.mpr ⟨_, texts, items_eq_ok.mpr ⟨_, hitems, rfl⟩, htexts, hjoin⟩
  | _, _, _, .absent hitems hbody hns => by
    obtain ⟨inner, hinner⟩ := hbody.exists_evalWithin
    obtain ⟨depth, h⟩ := hns.exists_evalWithin
    refine ⟨max inner depth, fun name => ?_⟩
    have hinner := evalWithin_le (Nat.le_max_left inner depth) (hinner name)
    rw [evalWithin_eq] at hinner
    refine evalWithin_cons ?_ (evalWithin_le (Nat.le_max_right inner depth) (h name))
    exact evalNode_inverse_eq_ok.mpr (.inl ⟨isEmpty_eq_ok.mpr ⟨_, hitems, rfl⟩, hinner⟩)
  | _, _, out, .present hitems hns => by
    obtain ⟨depth, h⟩ := hns.exists_evalWithin
    refine ⟨depth, fun name => ?_⟩
    rw [← String.empty_append (s := out)]
    refine evalWithin_cons ?_ (h name)
    exact evalNode_inverse_eq_ok.mpr (.inr ⟨isEmpty_eq_ok.mpr ⟨_, hitems, rfl⟩, rfl⟩)
  | _, _, _, .splice (f := f) hkey hbody hns => by
    obtain ⟨inner, hinner⟩ := hbody.exists_evalWithin
    obtain ⟨depth, h⟩ := hns.exists_evalWithin
    -- the spliced fragment needs one level more than its own splices
    refine ⟨max inner depth + 1, fun name => ?_⟩
    have hinner := evalWithin_le (Nat.le_max_left inner depth) (hinner f.name)
    have hrest := evalWithin_le (Nat.le_succ_of_le (Nat.le_max_right inner depth)) (h name)
    exact evalWithin_cons (evalNode_splice_eq_ok.mpr ⟨f, fragmentAt_eq_ok.mpr hkey, hinner⟩) hrest

/-- What a body writes for items it gives with enough room for all of them. -/
theorem WritesEach.exists_evalWithin : ∀ {items : List (List Model)} {body : List Node}
    {out : String}, WritesEach items body out → ∃ depth, ∀ name, ∃ texts,
      (items.map (⟨name, ·⟩)).mapM (evalWithin depth body) = .ok texts ∧ out = String.join texts
  | _, _, _, .nil => ⟨0, fun _ => ⟨[], rfl, rfl⟩⟩
  | _, _, _, @WritesEach.cons _ _ _ first _ hfirst hrest => by
    obtain ⟨inner, hinner⟩ := hfirst.exists_evalWithin
    obtain ⟨depth, h⟩ := hrest.exists_evalWithin
    refine ⟨max inner depth, fun name => ?_⟩
    obtain ⟨texts, htexts, rfl⟩ := h name
    have hinner := evalWithin_le (Nat.le_max_left inner depth) (hinner name)
    have htexts := mapM_ok_mono
      (fun _ _ ht => evalWithin_le (Nat.le_max_right inner depth) ht) htexts
    exact ⟨first :: texts, by simp [hinner, htexts], by rw [String.join_cons]⟩

end

/-- **Evaluation and the rules agree.**  Nodes write a text exactly if their evaluation gives it
    with enough room for splices. -/
theorem writes_iff_evalWithin {ms : List Model} {ns : List Node} {out : String} (name : String) :
    Writes ms ns out ↔ ∃ depth, evalWithin depth ns ⟨name, ms⟩ = .ok out := by
  constructor
  · intro h
    obtain ⟨depth, hdepth⟩ := h.exists_evalWithin
    exact ⟨depth, hdepth name⟩
  · rintro ⟨depth, h⟩
    exact follows_splicer (depth + 1) h

/-- The rules do not tell nodes apart that evaluate alike. -/
theorem Alike.writes_iff {xs ys : List Node} (h : Alike xs ys) (ms : List Model) (out : String) :
    Writes ms xs out ↔ Writes ms ys out := by
  rw [writes_iff_evalWithin "", writes_iff_evalWithin ""]
  simp only [h.evalWithin]

/-! ## Whole fragments -/

/-- What rendering comes to where splices may stand inside one another as deeply as they do: from
    some bound on, every bound gives it.  Splices that go on for ever come to `tooDeep`. -/
def Renders (f : Fragment) (m : Model) (r : Except RenderError String) : Prop :=
  ∃ enough, ∀ depth, enough ≤ depth → evalWithin depth f.body ⟨f.name, [m]⟩ = r

section Renders

variable {f : Fragment} {m : Model} {r r' : Except RenderError String} {out : String}

/-- Rendering comes to one thing only: two bounds that are both large enough agree. -/
theorem Renders.unique (h : Renders f m r) (h' : Renders f m r') : r = r' := by
  obtain ⟨enough, heval⟩ := h
  obtain ⟨enough', heval'⟩ := h'
  rw [← heval (max enough enough') (Nat.le_max_left ..),
    heval' (max enough enough') (Nat.le_max_right ..)]

/-- A bound that is not too small shows what rendering comes to. -/
theorem renders_of_evalWithin {depth : Nat} (hr : r ≠ .error .tooDeep)
    (heval : evalWithin depth f.body ⟨f.name, [m]⟩ = r) : Renders f m r :=
  ⟨depth, fun _ hdepth => evalWithin_settled hdepth hr heval⟩

/-- If it is not for want of room, what rendering comes to is what some bound gives. -/
theorem renders_iff_evalWithin (hr : r ≠ .error .tooDeep) :
    Renders f m r ↔ ∃ depth, evalWithin depth f.body ⟨f.name, [m]⟩ = r := by
  constructor
  · rintro ⟨enough, heval⟩
    exact ⟨enough, heval enough (Nat.le_refl enough)⟩
  · rintro ⟨depth, heval⟩
    exact renders_of_evalWithin hr heval

/-- Rendering comes to a text exactly if the rules write it. -/
theorem renders_ok_iff : Renders f m (.ok out) ↔ Writes [m] f.body out := by
  rw [renders_iff_evalWithin (by simp), writes_iff_evalWithin f.name]

/-- `render` gives what rendering comes to, unless its bound is too small. -/
theorem renders_render (hroom : f.render m ≠ .error .tooDeep) : Renders f m (f.render m) :=
  renders_of_evalWithin hroom rfl

/-- Within the bound of `render`, the two agree on every outcome. -/
theorem render_eq_iff (hroom : f.render m ≠ .error .tooDeep) :
    f.render m = r ↔ Renders f m r := by
  constructor
  · rintro rfl
    exact renders_render hroom
  · exact (renders_render hroom).unique

end Renders

end ThriftScala.Fragment
