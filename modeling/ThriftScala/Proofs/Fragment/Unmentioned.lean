/-
  Keys that no tag mentions.

  `Model.without k` takes a key out of a model and of every model inside it.  Where neither a
  fragment nor any fragment in the models mentions the key, every tag finds in the models without
  the key what it finds in the models themselves, up to the key; and it looks no further than at
  the text, the shape and the number of items.  So the evaluation does not notice that the key is
  gone (`evalWithin_without`).

  Two models that differ in the values of such a key alone become the same model without it.  So
  they are rendered alike (`render_of_unmentioned`), whatever was put under the key and wherever.
  What was put there may hold fragments that mention the key: the condition is on the fragments
  that are left when the key is out.
-/
import Mathlib.Logic.Relation
import ThriftScala.Proofs.Fragment.Meaning

namespace ThriftScala

/-! ## A key taken out -/

mutual

/-- The value with a key taken out of every model in it. -/
def Value.without (k : String) : Value → Value
  | .text s => .text s
  | .flag b => .flag b
  | .model m => .model (Model.without k m)
  | .sequence items => .sequence (Value.itemsWithout k items)
  | .fragment f => .fragment f

/-- The model with a key taken out, of it and of every model in it. -/
def Model.without (k : String) : List (String × Value) → List (String × Value)
  | [] => []
  | (j, v) :: m => if j = k then Model.without k m else (j, v.without k) :: Model.without k m

/-- The items of a sequence with a key taken out of each. -/
def Value.itemsWithout (k : String) :
    List (List (String × Value)) → List (List (String × Value))
  | [] => []
  | m :: items => Model.without k m :: Value.itemsWithout k items

end

mutual

/-- The fragments in a value, at any depth. -/
def Value.fragments : Value → List Fragment
  | .text _ => []
  | .flag _ => []
  | .model m => Model.fragments m
  | .sequence items => Value.itemFragments items
  | .fragment f => [f]

/-- The fragments among the values of a model, at any depth. -/
def Model.fragments : List (String × Value) → List Fragment
  | [] => []
  | (_, v) :: m => v.fragments ++ Model.fragments m

/-- The fragments in the items of a sequence, at any depth. -/
def Value.itemFragments : List (List (String × Value)) → List Fragment
  | [] => []
  | m :: items => Model.fragments m ++ Value.itemFragments items

end

/-- `k` is set to any value, in a model or in some model inside it. -/
inductive Model.Resets (k : String) : Model → Model → Prop
  | here (m : Model) (v : Value) : Resets k m (Entries.set m k v)
  | inModel {before after inner inner' : Model} {j : String} : Resets k inner inner' →
      Resets k (before ++ (j, .model inner) :: after) (before ++ (j, .model inner') :: after)
  | inItem {before after inner inner' : Model} {front back : List Model} {j : String} :
      Resets k inner inner' →
      Resets k (before ++ (j, .sequence (front ++ inner :: back)) :: after)
        (before ++ (j, .sequence (front ++ inner' :: back)) :: after)

namespace Value

theorem itemsWithout_eq_map (k : String) :
    ∀ items : List Model, itemsWithout k items = items.map (Model.without k)
  | [] => rfl
  | m :: items => by rw [itemsWithout, itemsWithout_eq_map k items, List.map_cons]

/-- The fragments in items are those in any one of them. -/
theorem mem_itemFragments {f : Fragment} :
    ∀ {items : List Model}, f ∈ itemFragments items ↔ ∃ m ∈ items, f ∈ Model.fragments m
  | [] => by simp [itemFragments]
  | m :: items => by simp [itemFragments, @mem_itemFragments _ items]

end Value

namespace Model

/-- A key is left out of both parts. -/
theorem without_append (k : String) (m n : Model) :
    without k (m ++ n) = without k m ++ without k n := by
  induction m with
  | nil => rfl
  | cons e m ih =>
    obtain ⟨j, v⟩ := e
    rw [List.cons_append, without, without, ih]
    split <;> rfl

/-- Setting the key is not noticed once the key is out. -/
theorem without_set (k : String) (m : Model) (v : Value) :
    without k (Entries.set m k v) = without k m := by
  induction m with
  | nil => simp [Entries.set, without]
  | cons e m ih =>
    obtain ⟨j, w⟩ := e
    by_cases hj : j = k
    · rw [Entries.set, if_pos hj, without, without, if_pos hj, if_pos hj]
    · rw [Entries.set, if_neg hj, without, without, if_neg hj, if_neg hj, ih]

/-- A reset of a key cannot be seen once the key is left out. -/
theorem Resets.without_eq {k : String} {m m' : Model} (h : Resets k m m') :
    without k m' = without k m := by
  induction h with
  | here m v => exact without_set k m v
  | inModel _ ih => simp only [without_append, without, Value.without, ih]
  | inItem _ ih =>
    simp only [without_append, without, Value.without, Value.itemsWithout_eq_map, List.map_append,
      List.map_cons, ih]

/-- Another key is found where it was. -/
theorem lookup_without {k key : String} (h : key ≠ k) (m : Model) :
    (without k m).lookup key = (m.lookup key).map (Value.without k) := by
  induction m with
  | nil => rfl
  | cons e m ih =>
    obtain ⟨j, v⟩ := e
    rw [without]
    by_cases hj : j = k
    · have hkey : (key == j) = false := by simp [hj, h]
      rw [if_pos hj, ih, List.lookup_cons, hkey]
    · rw [if_neg hj, List.lookup_cons, List.lookup_cons]
      cases key == j with
      | true => rfl
      | false => exact ih

/-- The fragments in the value under a key are fragments of the model. -/
theorem mem_fragments_of_lookup {f : Fragment} {key : String} {v : Value} {m : Model}
    (hv : m.lookup key = some v) (hf : f ∈ v.fragments) : f ∈ fragments m := by
  induction m with
  | nil => cases hv
  | cons e m ih =>
    obtain ⟨j, w⟩ := e
    rw [fragments, List.mem_append]
    rw [List.lookup_cons] at hv
    cases hkey : key == j with
    | true =>
      rw [hkey] at hv
      obtain rfl : w = v := by simpa using hv
      exact .inl hf
    | false =>
      rw [hkey] at hv
      exact .inr (ih hv)

end Model

mutual

/-- No fragment comes in when a key goes out. -/
theorem Value.fragments_without (k : String) :
    ∀ (v : Value) {f : Fragment}, f ∈ (v.without k).fragments → f ∈ v.fragments
  | .text _, _, h => h
  | .flag _, _, h => h
  | .model m, _, h => Model.fragments_without k m h
  | .sequence items, _, h => Value.itemFragments_without k items h
  | .fragment _, _, h => h

/-- Leaving a key out brings no fragment in. -/
theorem Model.fragments_without (k : String) :
    ∀ (m : List (String × Value)) {f : Fragment},
      f ∈ Model.fragments (Model.without k m) → f ∈ Model.fragments m
  | [], _, h => h
  | (j, v) :: m, f, h => by
    rw [Model.fragments, List.mem_append]
    rw [Model.without] at h
    split at h
    · exact .inr (Model.fragments_without k m h)
    · rw [Model.fragments, List.mem_append] at h
      exact h.imp (Value.fragments_without k v) (Model.fragments_without k m)

/-- Leaving a key out of items brings no fragment in. -/
theorem Value.itemFragments_without (k : String) :
    ∀ (items : List (List (String × Value))) {f : Fragment},
      f ∈ Value.itemFragments (Value.itemsWithout k items) → f ∈ Value.itemFragments items
  | [], _, h => h
  | m :: items, f, h => by
    rw [Value.itemFragments, List.mem_append]
    rw [Value.itemsWithout, Value.itemFragments, List.mem_append] at h
    exact h.imp (Model.fragments_without k m) (Value.itemFragments_without k items)

end

/-! ## Fragments that do not mention the key -/

namespace Fragment

mutual

/-- The keys of a tag and of the tags in its body. -/
def Node.keys : Node → List String
  | .text _ => []
  | .scalar key => [key]
  | .block key body => key :: keysIn body
  | .inverse key body => key :: keysIn body
  | .splice key => [key]

/-- The keys of the tags among nodes and in their bodies. -/
def keysIn : List Node → List String
  | [] => []
  | node :: nodes => node.keys ++ keysIn nodes

end

end Fragment

/-- No fragment that is left in the value without the key mentions the key. -/
def Value.Ignores (k : String) (v : Value) : Prop :=
  ∀ f ∈ (v.without k).fragments, k ∉ Fragment.keysIn f.body

/-- No fragment that is left in the model without the key mentions the key. -/
def Model.Ignores (k : String) (m : Model) : Prop :=
  ∀ f ∈ Model.fragments (Model.without k m), k ∉ Fragment.keysIn f.body

/-- What another key holds in a model that ignores a key ignores it too. -/
theorem Model.Ignores.lookup {k key : String} {m : Model} {v : Value} (h : Model.Ignores k m)
    (hkey : key ≠ k) (hv : m.lookup key = some v) : v.Ignores k := by
  intro f hf
  have hout : (Model.without k m).lookup key = some (v.without k) := by
    rw [Model.lookup_without hkey, hv, Option.map_some]
  exact h f (Model.mem_fragments_of_lookup hout hf)

namespace Scope

variable {k key : String} {scope : Scope}

/-- The scope with a key taken out of its models. -/
def without (k : String) (scope : Scope) : Scope :=
  { scope with models := scope.models.map (Model.without k) }

/-- All models of the scope ignore the key. -/
def Ignores (k : String) (scope : Scope) : Prop := ∀ m ∈ scope.models, Model.Ignores k m

/-! ## What tags find when the key is out -/

/-- Another key is resolved as before, to a value without the key. -/
theorem resolve_without (hkey : key ≠ k) (scope : Scope) :
    (scope.without k).resolve key = (scope.resolve key).map (Value.without k) := by
  have hlook : (scope.without k).lookup? key = (scope.lookup? key).map (Value.without k) := by
    rw [lookup?, lookup?, without, List.findSome?_map]
    induction scope.models with
    | nil => rfl
    | cons m ms ih =>
      rw [List.findSome?_cons, List.findSome?_cons, Function.comp, Model.lookup_without hkey]
      cases m.lookup key with
      | some v => rfl
      | none => exact ih
  rw [resolve, resolve, hlook]
  cases scope.lookup? key <;> rfl

/-- A tag with another key writes what it wrote before. -/
theorem text_without (hkey : key ≠ k) (scope : Scope) :
    (scope.without k).text key = scope.text key := by
  rw [text, text, resolve_without hkey]
  cases scope.resolve key with
  | error e => rfl
  | ok v => cases v <;> rfl

/-- A splice with another key finds the fragment that it found before. -/
theorem fragmentAt_without (hkey : key ≠ k) (scope : Scope) :
    (scope.without k).fragmentAt key = scope.fragmentAt key := by
  rw [fragmentAt, fragmentAt, resolve_without hkey]
  cases scope.resolve key with
  | error e => rfl
  | ok v => cases v <;> rfl

/-- A block has the same items, but for the key. -/
theorem items_without (hkey : key ≠ k) (scope : Scope) :
    (scope.without k).items key = (scope.items key).map (List.map (Scope.without k)) := by
  rw [items, items, resolve_without hkey]
  cases scope.resolve key with
  | error e => rfl
  | ok v =>
    cases v with
    | flag b => cases b <;> rfl
    | sequence ms =>
      have hitems : (Value.itemsWithout k ms).map (scope.without k).push =
          (ms.map scope.push).map (Scope.without k) := by
        rw [Value.itemsWithout_eq_map, List.map_map, List.map_map]
        rfl
      exact congrArg Except.ok hitems
    | _ => rfl

/-- Whether there are items under another key stays the same. -/
theorem isEmpty_without (hkey : key ≠ k) (scope : Scope) :
    (scope.without k).isEmpty key = scope.isEmpty key := by
  rw [Fragment.isEmpty_eq_items, Fragment.isEmpty_eq_items, items_without hkey]
  cases scope.items key with
  | error e => rfl
  | ok scopes => exact congrArg Except.ok List.isEmpty_map

end Scope

namespace Fragment

open Outcome

/-! ## Models that ignore the key, all the way in -/

section Ignoring

variable {k key : String} {ms : List Model} {scope : Scope}

/-- What is bound in models whose fragments do not mention the key does not mention it either. -/
theorem Bound.ignores {v : Value} (hbound : Bound ms key v) (h : ∀ m ∈ ms, Model.Ignores k m)
    (hkey : key ≠ k) : v.Ignores k := by
  induction hbound with
  | here hm => exact (h _ List.mem_cons_self).lookup hkey hm
  | outer _ _ ih => exact ih (fun m hm => h m (List.mem_cons_of_mem _ hm)) hkey

/-- If a sequence does not mention the key, no item does. -/
theorem ignores_of_sequence {items : List Model} (h : (Value.sequence items).Ignores k) {m : Model}
    (hm : m ∈ items) : Model.Ignores k m := by
  intro f hf
  refine h f (Value.mem_itemFragments.mpr ⟨Model.without k m, ?_, hf⟩)
  rw [Value.itemsWithout_eq_map]
  exact List.mem_map_of_mem hm

/-- The scopes of the items ignore the key if the scope of the block does. -/
theorem ignores_of_items (h : scope.Ignores k) (hkey : key ≠ k) {scopes : List Scope}
    (hscopes : scope.items key = .ok scopes) : ∀ inner ∈ scopes, inner.Ignores k := by
  obtain ⟨name, ms⟩ := scope
  obtain ⟨items, hitems, rfl⟩ := items_eq_ok.mp hscopes
  intro inner hinner
  obtain ⟨models, hmodels, rfl⟩ := List.mem_map.mp hinner
  -- an item is the scope itself, or it has one model more in front
  cases hitems with
  | yes _ =>
    obtain rfl := List.mem_singleton.mp hmodels
    exact h
  | no _ => cases hmodels
  | @model m hbound =>
    obtain rfl := List.mem_singleton.mp hmodels
    have hm : Model.Ignores k m := hbound.ignores h hkey
    exact List.forall_mem_cons.mpr ⟨hm, h⟩
  | @sequence items hbound =>
    obtain ⟨m, hm, rfl⟩ := List.mem_map.mp hmodels
    exact List.forall_mem_cons.mpr ⟨ignores_of_sequence (hbound.ignores h hkey) hm, h⟩

/-- A fragment that is found under another key does not mention the key. -/
theorem not_mentioned_of_fragmentAt (h : scope.Ignores k) (hkey : key ≠ k) {f : Fragment}
    (hf : scope.fragmentAt key = .ok f) : k ∉ keysIn f.body := by
  obtain ⟨name, ms⟩ := scope
  have hignores : (Value.fragment f).Ignores k := (fragmentAt_eq_ok.mp hf).ignores h hkey
  exact hignores f List.mem_cons_self

end Ignoring

/-! ## The evaluation does not notice -/

section Overlooked

variable {k : String} {splice : List Node → Scope → Except RenderError String}

/-- `splice` gives the same without the key, for nodes and in scopes that ignore it. -/
def Overlooks (k : String) (splice : List Node → Scope → Except RenderError String) : Prop :=
  ∀ ⦃ns scope⦄, k ∉ keysIn ns → Scope.Ignores k scope →
    splice ns (scope.without k) = splice ns scope

mutual

/-- A node that does not mention the key gives the same without it. -/
theorem evalNode_without (hs : Overlooks k splice) :
    ∀ (node : Node) {scope : Scope}, k ∉ node.keys → scope.Ignores k →
      evalNode splice node (scope.without k) = evalNode splice node scope
  | .text _, _, _, _ => rfl
  | .scalar key, scope, hk, _ => by
    rw [Node.keys, List.mem_singleton] at hk
    exact Scope.text_without (Ne.symm hk) scope
  | .block key body, scope, hk, h => by
    rw [Node.keys, List.mem_cons, not_or] at hk
    have hkey : key ≠ k := Ne.symm hk.1
    rw [evalNode_block, evalNode_block, Scope.items_without hkey]
    cases hscopes : scope.items key with
    | error e => rfl
    | ok scopes =>
      have hbody : ∀ inner ∈ scopes, evalNodes splice body (inner.without k) =
          evalNodes splice body inner := by
        intro inner hinner
        exact evalNodes_without hs body hk.2 (ignores_of_items h hkey hscopes inner hinner)
      rw [map_ok, ok_bind, ok_bind, List.mapM_map]
      exact congrArg (· >>= _) (mapM_congr hbody)
  | .inverse key body, scope, hk, h => by
    rw [Node.keys, List.mem_cons, not_or] at hk
    rw [evalNode_inverse, evalNode_inverse, Scope.isEmpty_without (Ne.symm hk.1)]
    cases scope.isEmpty key with
    | error e => rfl
    | ok b =>
      cases b with
      | true => exact evalNodes_without hs body hk.2 h
      | false => rfl
  | .splice key, scope, hk, h => by
    rw [Node.keys, List.mem_singleton] at hk
    have hkey : key ≠ k := Ne.symm hk
    rw [evalNode_splice, evalNode_splice, Scope.fragmentAt_without hkey]
    cases hf : scope.fragmentAt key with
    | error e => rfl
    | ok f =>
      have hinside : Scope.Ignores k { scope with fragment := f.name } := h
      -- the fragment spliced is one of the scope, and so mentions the key no more than the scope
      -- does
      exact hs (not_mentioned_of_fragmentAt h hkey hf) hinside

/-- Nodes that do not mention the key give the same without it. -/
theorem evalNodes_without (hs : Overlooks k splice) :
    ∀ (nodes : List Node) {scope : Scope}, k ∉ keysIn nodes → scope.Ignores k →
      evalNodes splice nodes (scope.without k) = evalNodes splice nodes scope
  | [], _, _, _ => rfl
  | node :: nodes, scope, hk, h => by
    rw [keysIn, List.mem_append, not_or] at hk
    rw [evalNodes_cons, evalNodes_cons, evalNode_without hs node hk.1 h,
      evalNodes_without hs nodes hk.2 h]

end

/-- With any room, fragments that do not mention the key overlook it. -/
theorem evalWithin_without : ∀ depth, Overlooks k (evalWithin depth)
  | 0 => by
    intro ns scope hk h
    exact evalNodes_without (fun _ _ _ _ => rfl) ns hk h
  | depth + 1 => by
    intro ns scope hk h
    exact evalNodes_without (evalWithin_without depth) ns hk h

end Overlooked

/-- A fragment is rendered without a key as with it, if no fragment mentions the key. -/
theorem render_without {k : String} {f : Fragment} {m : Model} (hf : k ∉ keysIn f.body)
    (hm : Model.Ignores k m) : f.render (Model.without k m) = f.render m := by
  have hscope : Scope.Ignores k ⟨f.name, [m]⟩ := by
    intro n hn
    obtain rfl := List.mem_singleton.mp hn
    exact hm
  exact evalWithin_without spliceLimit hf hscope

/-- **Keys that no tag mentions do not matter.**  If neither a fragment nor any fragment in a model
    mentions a key, the key may be set to anything, anywhere in the model and any number of times:
    the fragment gives the same text or the same error. -/
theorem render_of_unmentioned {k : String} {f : Fragment} {m m' : Model}
    (hf : k ∉ keysIn f.body) (hm : ∀ g ∈ Model.fragments m, k ∉ keysIn g.body)
    (hreset : Relation.ReflTransGen (Model.Resets k) m m') : f.render m' = f.render m := by
  have hwithout : Model.without k m' = Model.without k m := by
    induction hreset with
    | refl => rfl
    | tail _ hstep ih => rw [hstep.without_eq, ih]
  have hignores : Model.Ignores k m := fun g hg => hm g (Model.fragments_without k m hg)
  -- what is set under the key may mention it, so only the model without the key tells of `m'`
  have hignores' : Model.Ignores k m' := by
    rw [Model.Ignores, hwithout]
    exact hignores
  rw [← render_without hf hignores', hwithout, render_without hf hignores]

/-- A fragment for one name. -/
def entryFragment : Fragment := ⟨"entry", [.scalar "name"]⟩

/-- A fragment that splices one in for each of several names. -/
def listFragment : Fragment := ⟨"list", [.block "names" [.splice "entry", .text ";"]]⟩

/-- A model with two items. -/
def listModel : Model :=
  [("entry", .fragment entryFragment),
   ("names", .sequence [[("name", .text "a")], [("name", .text "b")]])]

/-- A new key in the second item, and beside the list with a fragment that asks for the key. -/
def notedModel : Model :=
  [("entry", .fragment entryFragment),
   ("names", .sequence [[("name", .text "a")], [("name", .text "b"), ("note", .flag true)]]),
   ("note", .fragment ⟨"note", [.scalar "note"]⟩)]

/-- A note in the model and in an item of it that no fragment asks for: the text stays the same. -/
theorem note_is_not_noticed :
    "note" ∉ keysIn listFragment.body ∧
      (∀ g ∈ Model.fragments listModel, "note" ∉ keysIn g.body) ∧
      Relation.ReflTransGen (Model.Resets "note") listModel notedModel ∧
      listFragment.render notedModel = listFragment.render listModel ∧
      listFragment.render listModel = .ok "a;b;" := by
  have hf : "note" ∉ keysIn listFragment.body := by decide
  have hm : ∀ g ∈ Model.fragments listModel, "note" ∉ keysIn g.body := by decide
  have hitem : Model.Resets "note" [("name", .text "b")]
      [("name", .text "b"), ("note", .flag true)] := .here _ _
  have hinside := @Model.Resets.inItem "note" [("entry", .fragment entryFragment)] [] _ _
    [[("name", .text "a")]] [] "names" hitem
  have hreset : Relation.ReflTransGen (Model.Resets "note") listModel notedModel :=
    .tail (.single hinside) (.here _ (.fragment ⟨"note", [.scalar "note"]⟩))
  exact ⟨hf, hm, hreset, render_of_unmentioned hf hm hreset, rfl⟩

end Fragment

end ThriftScala
