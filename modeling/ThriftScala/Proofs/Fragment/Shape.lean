/-
  Shapes of models, and fragments that agree with them.

  A shape says which keys a model has, in which order, and what stands under each: a text, a truth
  value, a model, a sequence of models, or one particular fragment.  `checkWithin` goes through the
  nodes of a fragment with the shapes of the models in scope, the innermost in front, and asks of
  every tag that its key is found there with a value that the tag can use; a splice is checked with
  the fragment it stands for, in the scope where it stands.

  Two facts follow for a fragment that passes, in a scope of models of these shapes:

  1. `evalWithin_outer` — it never looks at what lies outside the checked scope, so more models
     behind the scope, and more room for splices, change neither text nor error;
  2. `exists_evalWithin` — if every scalar holds a text, it gives a text.

  The first asks nothing of the values under scalars: they may be anything, as names of a schema
  may, and then it is the same tag that fails in the same way.
-/
import ThriftScala.Proofs.Fragment.Meaning

namespace ThriftScala

/-- What stands under a key of a model. -/
inductive Shape where
  /-- A value that is written as it is. -/
  | scalar
  | flag
  | model (entries : List (String × Shape))
  | sequence (entries : List (String × Shape))
  /-- This very fragment. -/
  | fragment (f : Fragment)

/-- The shapes under the keys of a model, in order. -/
abbrev ModelShape := List (String × Shape)

/-- Is a value a text? -/
def Value.IsText (v : Value) : Prop := ∃ s, v = .text s

/-! ## Models of a shape

  `leaf` is what is asked of the values under scalars. -/

mutual

/-- Has a value a shape? -/
def Shape.Holds (leaf : Value → Prop) : Shape → Value → Prop
  | .scalar, v => leaf v
  | .flag, .flag _ => True
  | .model entries, .model m => ModelShape.Holds leaf entries m
  | .sequence entries, .sequence ms => ∀ m ∈ ms, ModelShape.Holds leaf entries m
  | .fragment f, .fragment g => g = f
  | _, _ => False

/-- Has a model the keys of a shape in their order, with values of the shapes under them? -/
def ModelShape.Holds (leaf : Value → Prop) : List (String × Shape) → Model → Prop
  | [], [] => True
  | (k, shape) :: entries, (j, v) :: m =>
    j = k ∧ Shape.Holds leaf shape v ∧ ModelShape.Holds leaf entries m
  | _, _ => False

end

namespace ModelShape

variable {leaf : Value → Prop}

/-- What a key stands for in a model of a shape: a value of the shape under the key, or nothing
    where the shape has nothing. -/
theorem lookup_cases : ∀ {entries : ModelShape} {m : Model}, Holds leaf entries m → ∀ key,
    (entries.lookup key = none ∧ m.lookup key = none) ∨
      ∃ shape v, entries.lookup key = some shape ∧ m.lookup key = some v ∧ shape.Holds leaf v
  | [], [], _, _ => .inl ⟨rfl, rfl⟩
  | (k, shape) :: entries, (j, v) :: m, h, key => by
    obtain ⟨rfl, hv, hm⟩ := h
    cases hk : key == j with
    | true => exact .inr ⟨shape, v, by simp [List.lookup_cons, hk], by simp [List.lookup_cons, hk], hv⟩
    | false => simpa [List.lookup_cons, hk] using lookup_cases hm key

end ModelShape

/-- Have the models of a scope these shapes, one by one? -/
abbrev Scope.Shaped (leaf : Value → Prop) (shapes : List ModelShape) (models : List Model) : Prop :=
  List.Forall₂ (ModelShape.Holds leaf) shapes models

/-- The shape under a key in the innermost shape that has it. -/
def ModelShape.find? (shapes : List ModelShape) (key : String) : Option Shape :=
  shapes.findSome? (·.lookup key)

/-- A key that the shapes of a scope know is looked up in the models of the scope, whatever lies
    behind them. -/
theorem Scope.lookup?_outer {leaf : Value → Prop} {shapes : List ModelShape} {models : List Model}
    (h : Scope.Shaped leaf shapes models) {key : String} {shape : Shape}
    (hk : ModelShape.find? shapes key = some shape) :
    ∃ v, shape.Holds leaf v ∧ ∀ name outer, Scope.lookup? ⟨name, models ++ outer⟩ key = some v := by
  induction h with
  | nil => simp [ModelShape.find?] at hk
  | @cons entries m shapes models hm _ ih =>
    rcases ModelShape.lookup_cases hm key with ⟨he, hl⟩ | ⟨shape', v, he, hl, hv⟩
    · rw [ModelShape.find?, List.findSome?_cons, he] at hk
      obtain ⟨v, hv, hlook⟩ := ih hk
      refine ⟨v, hv, fun name outer => ?_⟩
      have := hlook name outer
      simpa [Scope.lookup?, hl] using this
    · rw [ModelShape.find?, List.findSome?_cons, he] at hk
      obtain rfl : shape' = shape := by simpa using hk
      exact ⟨v, hv, fun name outer => by simp [Scope.lookup?, hl]⟩

namespace Fragment

/-! ## The check -/

mutual

/-- Does a node find what it asks for?  `splice` checks the nodes of another fragment. -/
def checkNode (splice : List ModelShape → List Node → Bool) (shapes : List ModelShape) :
    Node → Bool
  | .text _ => true
  | .scalar key =>
    match ModelShape.find? shapes key with
    | some .scalar => true
    | _ => false
  | .block key body =>
    match ModelShape.find? shapes key with
    | some .flag => checkNodes splice shapes body
    | some (.model entries) => checkNodes splice (entries :: shapes) body
    | some (.sequence entries) => checkNodes splice (entries :: shapes) body
    | _ => false
  | .inverse key body =>
    match ModelShape.find? shapes key with
    | some .flag => checkNodes splice shapes body
    | some (.model _) => true
    | some (.sequence _) => checkNodes splice shapes body
    | _ => false
  | .splice key =>
    match ModelShape.find? shapes key with
    | some (.fragment f) => splice shapes f.body
    | _ => false

/-- Do all nodes find what they ask for? -/
def checkNodes (splice : List ModelShape → List Node → Bool) (shapes : List ModelShape) :
    List Node → Bool
  | [] => true
  | node :: nodes => checkNode splice shapes node && checkNodes splice shapes nodes

end

/-- The check of nodes with at most the given number of splices inside one another. -/
def checkWithin : Nat → List ModelShape → List Node → Bool
  | 0 => checkNodes fun _ _ => false
  | depth + 1 => checkNodes (checkWithin depth)

/-! ## What a checked tag finds -/

section Tags

variable {leaf : Value → Prop} {check : List ModelShape → List Node → Bool}
  {shapes : List ModelShape} {models : List Model} {key : String}

/-- A key that is found in the checked scope is resolved alike in every larger one. -/
theorem resolve_checked (h : Scope.Shaped leaf shapes models) {shape : Shape}
    (hk : ModelShape.find? shapes key = some shape) :
    ∃ v, shape.Holds leaf v ∧ ∀ name outer, Scope.resolve ⟨name, models ++ outer⟩ key = .ok v := by
  obtain ⟨v, hv, hlook⟩ := Scope.lookup?_outer h hk
  exact ⟨v, hv, fun name outer => by rw [Scope.resolve, hlook name outer]⟩

/-- A checked scalar finds a value, and the value alone decides what it writes. -/
theorem scalar_checked (h : Scope.Shaped leaf shapes models)
    (hc : checkNode check shapes (.scalar key) = true) :
    ∃ v, leaf v ∧ ∀ name outer, Scope.resolve ⟨name, models ++ outer⟩ key = .ok v := by
  rw [checkNode] at hc
  split at hc
  · rename_i hk
    exact resolve_checked h hk
  · cases hc

/-- A checked block finds its items, each of which is a scope in which the body is checked. -/
theorem items_checked (h : Scope.Shaped leaf shapes models) {body : List Node}
    (hc : checkNode check shapes (.block key body) = true) :
    ∃ items : List (List Model),
      (∀ name outer, Scope.items ⟨name, models ++ outer⟩ key =
        .ok (items.map fun inner => ⟨name, inner ++ outer⟩)) ∧
      ∀ inner ∈ items, ∃ shapes',
        Scope.Shaped leaf shapes' inner ∧ checkNodes check shapes' body = true := by
  rw [checkNode] at hc
  split at hc
  · rename_i hk
    obtain ⟨v, hv, hres⟩ := resolve_checked h hk
    cases v with
    -- a flag gives no model of its own: the body is checked in the scope as it stands
    | flag b =>
      refine ⟨if b then [models] else [], fun name outer => ?_, fun inner hi => ?_⟩
      · cases b <;> simp [Scope.items, hres]
      · obtain rfl : inner = models := by
          cases b
          · cases hi
          · exact List.mem_singleton.mp hi
        exact ⟨shapes, h, hc⟩
    | _ => exact hv.elim
  · rename_i entries hk
    obtain ⟨v, hv, hres⟩ := resolve_checked h hk
    cases v with
    | model m =>
      refine ⟨[m :: models], fun name outer => ?_, fun inner hi => ?_⟩
      · simp [Scope.items, Scope.push, hres]
      · obtain rfl := List.mem_singleton.mp hi
        exact ⟨entries :: shapes, .cons hv h, hc⟩
    | _ => exact hv.elim
  · rename_i entries hk
    obtain ⟨v, hv, hres⟩ := resolve_checked h hk
    cases v with
    | sequence ms =>
      refine ⟨ms.map (· :: models), fun name outer => ?_, fun inner hi => ?_⟩
      · simp [Scope.items, Scope.push, hres, Function.comp_def]
      · obtain ⟨m, hm, rfl⟩ := List.mem_map.mp hi
        exact ⟨entries :: shapes, .cons (hv m hm) h, hc⟩
    | _ => exact hv.elim
  · cases hc

/-- A checked inverse block knows whether there is an item, and its body is checked if there may
    be none. -/
theorem isEmpty_checked (h : Scope.Shaped leaf shapes models) {body : List Node}
    (hc : checkNode check shapes (.inverse key body) = true) :
    ∃ b, (∀ name outer, Scope.isEmpty ⟨name, models ++ outer⟩ key = .ok b) ∧
      (b = true → checkNodes check shapes body = true) := by
  rw [checkNode] at hc
  split at hc
  · rename_i hk
    obtain ⟨v, hv, hres⟩ := resolve_checked h hk
    cases v with
    | flag b => exact ⟨!b, fun name outer => by simp [Scope.isEmpty, hres], fun _ => hc⟩
    | _ => exact hv.elim
  · rename_i hk
    obtain ⟨v, hv, hres⟩ := resolve_checked h hk
    cases v with
    | model m =>
      exact ⟨false, fun name outer => by simp [Scope.isEmpty, hres], fun hb => by cases hb⟩
    | _ => exact hv.elim
  · rename_i hk
    obtain ⟨v, hv, hres⟩ := resolve_checked h hk
    cases v with
    | sequence ms =>
      exact ⟨ms.isEmpty, fun name outer => by simp [Scope.isEmpty, hres], fun _ => hc⟩
    | _ => exact hv.elim
  · cases hc

/-- A checked splice finds a fragment that is checked in the scope of the splice. -/
theorem fragmentAt_checked (h : Scope.Shaped leaf shapes models)
    (hc : checkNode check shapes (.splice key) = true) :
    ∃ f, (∀ name outer, Scope.fragmentAt ⟨name, models ++ outer⟩ key = .ok f) ∧
      check shapes f.body = true := by
  rw [checkNode] at hc
  split at hc
  · rename_i f hk
    obtain ⟨v, hv, hres⟩ := resolve_checked h hk
    cases v with
    | fragment g =>
      obtain rfl : g = f := hv
      exact ⟨g, fun name outer => by simp [Scope.fragmentAt, hres], hc⟩
    | _ => exact hv.elim
  · cases hc

end Tags

/-! ## What lies outside the checked scope does not matter -/

section Outer

variable {leaf : Value → Prop} {check : List ModelShape → List Node → Bool}
  {wide narrow : List Node → Scope → Except RenderError String}

/-- `wide` gives for a checked fragment in a larger scope what `narrow` gives in the checked one. -/
def AgreesOuter (leaf : Value → Prop) (check : List ModelShape → List Node → Bool)
    (wide narrow : List Node → Scope → Except RenderError String) : Prop :=
  ∀ ⦃shapes models nodes⦄, Scope.Shaped leaf shapes models → check shapes nodes = true →
    ∀ name outer, wide nodes ⟨name, models ++ outer⟩ = narrow nodes ⟨name, models⟩

mutual

theorem evalNode_outer (hs : AgreesOuter leaf check wide narrow) :
    ∀ (node : Node) {shapes : List ModelShape} {models : List Model},
      Scope.Shaped leaf shapes models → checkNode check shapes node = true →
      ∀ name outer,
        evalNode wide node ⟨name, models ++ outer⟩ = evalNode narrow node ⟨name, models⟩
  | .text s, _, _, _, _, _, _ => rfl
  | .scalar key, shapes, models, h, hc, name, outer => by
    obtain ⟨v, -, hres⟩ := scalar_checked h hc
    have hnarrow : Scope.resolve ⟨name, models⟩ key = .ok v := by simpa using hres name []
    simp only [evalNode_scalar, Scope.text, hres, hnarrow, Outcome.ok_bind]
    cases v <;> rfl
  | .block key body, shapes, models, h, hc, name, outer => by
    obtain ⟨items, hitems, hin⟩ := items_checked h hc
    -- the narrow scope is the wide one with nothing outside
    have hnarrow := hitems name []
    have ih : ∀ inner ∈ items, evalNodes wide body ⟨name, inner ++ outer⟩ =
        evalNodes narrow body ⟨name, inner ++ []⟩ := by
      intro inner hi
      obtain ⟨shapes', h', hc'⟩ := hin inner hi
      rw [List.append_nil]
      exact evalNodes_outer hs body h' hc' name outer
    rw [List.append_nil] at hnarrow
    rw [evalNode_block, evalNode_block, hitems name outer, hnarrow, Outcome.ok_bind,
      Outcome.ok_bind, List.mapM_map, List.mapM_map]
    exact congrArg (· >>= _) (Outcome.mapM_congr ih)
  | .inverse key body, shapes, models, h, hc, name, outer => by
    obtain ⟨b, hb, hbody⟩ := isEmpty_checked h hc
    have hnarrow : Scope.isEmpty ⟨name, models⟩ key = .ok b := by simpa using hb name []
    rw [evalNode_inverse, evalNode_inverse, hb name outer, hnarrow, Outcome.ok_bind,
      Outcome.ok_bind]
    cases b with
    | false => rfl
    | true => exact evalNodes_outer hs body h (hbody rfl) name outer
  | .splice key, shapes, models, h, hc, name, outer => by
    obtain ⟨f, hf, hbody⟩ := fragmentAt_checked h hc
    have hnarrow : Scope.fragmentAt ⟨name, models⟩ key = .ok f := by simpa using hf name []
    rw [evalNode_splice, evalNode_splice, hf name outer, hnarrow]
    exact hs h hbody f.name outer

theorem evalNodes_outer (hs : AgreesOuter leaf check wide narrow) :
    ∀ (nodes : List Node) {shapes : List ModelShape} {models : List Model},
      Scope.Shaped leaf shapes models → checkNodes check shapes nodes = true →
      ∀ name outer,
        evalNodes wide nodes ⟨name, models ++ outer⟩ = evalNodes narrow nodes ⟨name, models⟩
  | [], _, _, _, _, _, _ => rfl
  | node :: nodes, shapes, models, h, hc, name, outer => by
    rw [checkNodes, Bool.and_eq_true] at hc
    rw [evalNodes_cons, evalNodes_cons, evalNode_outer hs node h hc.1 name outer,
      evalNodes_outer hs nodes h hc.2 name outer]

end

/-- **Nothing outside matters.**  A fragment that passes the check gives in every scope that begins
    with models of the checked shapes what it gives in these models alone, and more room for
    splices than the check allows changes nothing either. -/
theorem evalWithin_outer : ∀ (depth : Nat) {shapes : List ModelShape} {models : List Model}
    {nodes : List Node}, Scope.Shaped leaf shapes models → checkWithin depth shapes nodes = true →
    ∀ (more : Nat) (name : String) (outer : List Model),
      evalWithin (depth + more) nodes ⟨name, models ++ outer⟩ =
        evalWithin depth nodes ⟨name, models⟩
  | 0, _, _, nodes, h, hc, more, name, outer => by
    -- with no room for splices none passes the check, so there is nothing to agree on
    have hs : ∀ wide, AgreesOuter leaf (fun _ _ => false) wide fun _ _ => .error .tooDeep := by
      intro wide shapes models nodes _ hf
      cases hf
    cases more <;> exact evalNodes_outer (hs _) nodes h hc name outer
  | depth + 1, _, _, nodes, h, hc, more, name, outer => by
    rw [Nat.add_right_comm]
    refine evalNodes_outer ?_ nodes h hc name outer
    intro shapes models nodes h hc name outer
    exact evalWithin_outer depth h hc more name outer

end Outer

/-! ## A checked fragment gives a text -/

section Text

variable {check : List ModelShape → List Node → Bool}
  {splice : List Node → Scope → Except RenderError String}

/-- `splice` gives a text for every checked fragment. -/
def GivesText (check : List ModelShape → List Node → Bool)
    (splice : List Node → Scope → Except RenderError String) : Prop :=
  ∀ ⦃shapes models nodes⦄, Scope.Shaped Value.IsText shapes models → check shapes nodes = true →
    ∀ name, ∃ s, splice nodes ⟨name, models⟩ = .ok s

mutual

theorem exists_evalNode (hs : GivesText check splice) :
    ∀ (node : Node) {shapes : List ModelShape} {models : List Model},
      Scope.Shaped Value.IsText shapes models → checkNode check shapes node = true →
      ∀ name, ∃ s, evalNode splice node ⟨name, models⟩ = .ok s
  | .text s, _, _, _, _, _ => ⟨s, rfl⟩
  | .scalar key, shapes, models, h, hc, name => by
    obtain ⟨v, ⟨s, hv⟩, hres⟩ := scalar_checked h hc
    have hres : Scope.resolve ⟨name, models⟩ key = .ok v := by simpa using hres name []
    exact ⟨s, by simp [evalNode_scalar, Scope.text, hres, hv]⟩
  | .block key body, shapes, models, h, hc, name => by
    obtain ⟨items, hitems, hin⟩ := items_checked h hc
    have hitems := hitems name []
    have ih : ∀ inner ∈ items, ∃ s, evalNodes splice body ⟨name, inner ++ []⟩ = .ok s := by
      intro inner hi
      obtain ⟨shapes', h', hc'⟩ := hin inner hi
      rw [List.append_nil]
      exact exists_evalNodes hs body h' hc' name
    obtain ⟨texts, htexts⟩ := Outcome.exists_mapM_eq_ok ih
    rw [List.append_nil] at hitems
    refine ⟨String.join texts, ?_⟩
    rw [evalNode_block, hitems, Outcome.ok_bind, List.mapM_map]
    exact congrArg (· >>= _) htexts
  | .inverse key body, shapes, models, h, hc, name => by
    obtain ⟨b, hb, hbody⟩ := isEmpty_checked h hc
    have hb : Scope.isEmpty ⟨name, models⟩ key = .ok b := by simpa using hb name []
    rw [evalNode_inverse, hb, Outcome.ok_bind]
    cases b with
    | false => exact ⟨"", rfl⟩
    | true => exact exists_evalNodes hs body h (hbody rfl) name
  | .splice key, shapes, models, h, hc, name => by
    obtain ⟨f, hf, hbody⟩ := fragmentAt_checked h hc
    have hf : Scope.fragmentAt ⟨name, models⟩ key = .ok f := by simpa using hf name []
    rw [evalNode_splice, hf]
    exact hs h hbody f.name

theorem exists_evalNodes (hs : GivesText check splice) :
    ∀ (nodes : List Node) {shapes : List ModelShape} {models : List Model},
      Scope.Shaped Value.IsText shapes models → checkNodes check shapes nodes = true →
      ∀ name, ∃ s, evalNodes splice nodes ⟨name, models⟩ = .ok s
  | [], _, _, _, _, _ => ⟨"", rfl⟩
  | node :: nodes, shapes, models, h, hc, name => by
    rw [checkNodes, Bool.and_eq_true] at hc
    obtain ⟨s, hs'⟩ := exists_evalNode hs node h hc.1 name
    obtain ⟨t, ht⟩ := exists_evalNodes hs nodes h hc.2 name
    exact ⟨s ++ t, by simp [evalNodes_cons, hs', ht]⟩

end

/-- **A checked fragment gives a text** in models of the checked shapes whose scalars are texts. -/
theorem exists_evalWithin : ∀ (depth : Nat) {shapes : List ModelShape} {models : List Model}
    {nodes : List Node}, Scope.Shaped Value.IsText shapes models →
    checkWithin depth shapes nodes = true →
    ∀ name, ∃ s, evalWithin depth nodes ⟨name, models⟩ = .ok s
  | 0, _, _, nodes, h, hc, name => by
    refine exists_evalNodes ?_ nodes h hc name
    intro shapes models nodes _ hf
    cases hf
  | depth + 1, _, _, nodes, h, hc, name => by
    refine exists_evalNodes ?_ nodes h hc name
    intro shapes models nodes h hc name
    exact exists_evalWithin depth h hc name

end Text

/-! ## Whole fragments -/

section Render

variable {leaf : Value → Prop} {shape : ModelShape} {depth : Nat} {f : Fragment} {m : Model}

/-- A fragment that passes the check is rendered with no more splices inside one another than the
    check allows. -/
theorem render_checked (hm : ModelShape.Holds leaf shape m)
    (hc : checkWithin depth [shape] f.body = true) (hd : depth ≤ spliceLimit) :
    f.render m = evalWithin depth f.body ⟨f.name, [m]⟩ := by
  have hall := evalWithin_outer depth (.cons hm .nil) hc (spliceLimit - depth) f.name []
  rwa [Nat.add_sub_cancel' hd, List.append_nil] at hall

/-- A fragment that passes the check is rendered to a text if all scalars are texts. -/
theorem exists_render (hm : ModelShape.Holds Value.IsText shape m)
    (hc : checkWithin depth [shape] f.body = true) (hd : depth ≤ spliceLimit) :
    ∃ s, f.render m = .ok s := by
  rw [render_checked hm hc hd]
  exact exists_evalWithin depth (.cons hm .nil) hc f.name

end Render

end Fragment

end ThriftScala
