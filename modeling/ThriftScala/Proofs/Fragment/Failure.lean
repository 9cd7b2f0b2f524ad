/-
  The tag that makes a rendering fail.

  Every tag asks something of the value under its key (`Node.asks?`), and `Misses` says what is
  wrong where it does not get that.  `FailsFirst owner outer models nodes failure` says by rules
  which tag fails first when nodes are written: whatever stands before it is written (`Writes`).
  The rules carry the fragment that owns the nodes.  It changes at a splice and nowhere else, so
  behind a splice that was written the owner is the old one again.

  The rules know of no scope, of no name kept in it and of no bound on splices.  Three facts tie
  them to the evaluation:

  1. the owner of a failing tag is the fragment in whose source the tag stands
     (`FailsFirst.standsIn`);
  2. where an evaluation stops for a tag, this tag fails first (`failsFirst_of_evalNodes`);
  3. the tag that fails first stops the evaluation, once there is room for the splices around and
     before it (`FailsFirst.exists_evalWithin`).
-/
import ThriftScala.Proofs.Fragment.Meaning

namespace ThriftScala

/-- Has a value the shape that is asked for? -/
def Expectation.isMetBy : Expectation → Value → Bool
  | .scalar, .text _ => true
  | .sectionValue, .flag _ => true
  | .sectionValue, .model _ => true
  | .sectionValue, .sequence _ => true
  | .fragment, .fragment _ => true
  | _, _ => false

namespace Fragment

open Outcome

/-! ## Tags and what they ask for -/

/-- The key of a tag and what it asks of the value there; a text asks for nothing. -/
def Node.asks? : Node → Option (String × Expectation)
  | .text _ => none
  | .scalar key => some (key, .scalar)
  | .block key _ => some (key, .sectionValue)
  | .inverse key _ => some (key, .sectionValue)
  | .splice key => some (key, .fragment)

/-- A node is one of the nodes, or stands in the body of one of them. -/
inductive StandsIn (node : Node) : List Node → Prop
  | here {ns : List Node} : node ∈ ns → StandsIn node ns
  | inBlock {ns body : List Node} {key : String} :
      .block key body ∈ ns → StandsIn node body → StandsIn node ns
  | inInverse {ns body : List Node} {key : String} :
      .inverse key body ∈ ns → StandsIn node body → StandsIn node ns

/-- What stands behind a node stands among the nodes from that one on. -/
theorem StandsIn.behind {node first : Node} {ns : List Node} (h : StandsIn node ns) :
    StandsIn node (first :: ns) := by
  cases h with
  | here hmem => exact .here (List.mem_cons_of_mem first hmem)
  | inBlock hmem hbody => exact .inBlock (List.mem_cons_of_mem first hmem) hbody
  | inInverse hmem hbody => exact .inInverse (List.mem_cons_of_mem first hmem) hbody

/-- What is wrong with a key that a tag asks for: no model has it, or its value is of another
    shape. -/
inductive Misses (ms : List Model) (key : String) (asked : Expectation) : BindingFault → Prop
  | undefined : (∀ m ∈ ms, m.lookup key = none) → Misses ms key asked .undefined
  | shape {v : Value} :
      Bound ms key v → asked.isMetBy v = false → Misses ms key asked (.shape v.shape asked)

section Asked

variable {name key : String} {ms : List Model} {e : RenderError}

theorem resolve_eq_error : Scope.resolve ⟨name, ms⟩ key = .error e ↔
    (∀ m ∈ ms, m.lookup key = none) ∧ e = .binding ⟨key, name, .undefined⟩ := by
  have hlook : Scope.lookup? ⟨name, ms⟩ key = none ↔ ∀ m ∈ ms, m.lookup key = none :=
    List.findSome?_eq_none_iff
  rw [← hlook, Scope.resolve]
  cases Scope.lookup? ⟨name, ms⟩ key with
  | some v => simp
  | none => simp [Scope.fail, eq_comm]

/-- A tag that takes the values of the shape it asks for, and refuses the others, fails exactly if
    it misses something. -/
theorem ask_eq_error {α : Type} {asked : Expectation} {take : Value → Except RenderError α}
    (htake : ∀ v, asked.isMetBy v = true → ∃ a, take v = .ok a)
    (hrefuse : ∀ v, asked.isMetBy v = false →
      take v = Scope.fail ⟨name, ms⟩ key (.shape v.shape asked)) :
    (Scope.resolve ⟨name, ms⟩ key >>= take) = .error e ↔
      ∃ fault, Misses ms key asked fault ∧ e = .binding ⟨key, name, fault⟩ := by
  rw [bind_eq_error, resolve_eq_error]
  constructor
  · rintro (⟨hnone, rfl⟩ | ⟨v, hv, he⟩)
    · exact ⟨.undefined, .undefined hnone, rfl⟩
    · have hbound := resolve_eq_ok.mp hv
      cases hmet : asked.isMetBy v with
      | true =>
        obtain ⟨a, ha⟩ := htake v hmet
        rw [ha] at he
        cases he
      | false =>
        rw [hrefuse v hmet] at he
        cases he
        exact ⟨.shape v.shape asked, .shape hbound hmet, rfl⟩
  · rintro ⟨fault, hmiss, rfl⟩
    cases hmiss with
    | undefined hnone => exact .inl ⟨hnone, rfl⟩
    | shape hbound hmet => exact .inr ⟨_, resolve_eq_ok.mpr hbound, hrefuse _ hmet⟩

theorem text_eq_error : Scope.text ⟨name, ms⟩ key = .error e ↔
    ∃ fault, Misses ms key .scalar fault ∧ e = .binding ⟨key, name, fault⟩ := by
  refine ask_eq_error ?_ ?_
  · intro v hv
    cases v with
    | text s => exact ⟨s, rfl⟩
    | _ => cases hv
  · intro v hv
    cases v with
    | text s => cases hv
    | _ => rfl

theorem items_eq_error : Scope.items ⟨name, ms⟩ key = .error e ↔
    ∃ fault, Misses ms key .sectionValue fault ∧ e = .binding ⟨key, name, fault⟩ := by
  refine ask_eq_error ?_ ?_
  · intro v hv
    cases v with
    | flag b => exact ⟨_, rfl⟩
    | model m => exact ⟨_, rfl⟩
    | sequence items => exact ⟨_, rfl⟩
    | _ => cases hv
  · intro v hv
    cases v with
    | text s => rfl
    | fragment f => rfl
    | _ => cases hv

theorem isEmpty_eq_error : Scope.isEmpty ⟨name, ms⟩ key = .error e ↔
    ∃ fault, Misses ms key .sectionValue fault ∧ e = .binding ⟨key, name, fault⟩ := by
  rw [isEmpty_eq_items, map_eq_error, items_eq_error]

theorem fragmentAt_eq_error : Scope.fragmentAt ⟨name, ms⟩ key = .error e ↔
    ∃ fault, Misses ms key .fragment fault ∧ e = .binding ⟨key, name, fault⟩ := by
  refine ask_eq_error ?_ ?_
  · intro v hv
    cases v with
    | fragment f => exact ⟨f, rfl⟩
    | _ => cases hv
  · intro v hv
    cases v with
    | fragment f => cases hv
    | _ => rfl

end Asked

/-! ## The first tag that fails -/

/-- A tag that fails. -/
structure Failure where
  /-- The fragment in whose source the tag stands. -/
  owner : Fragment
  /-- The fragments whose splices led to the owner, the innermost in front. -/
  outer : List Fragment
  tag : Node
  key : String
  fault : BindingFault

/-- What is reported of a tag that fails: its key, the name of the fragment in whose source it
    stands, and what is wrong. -/
def Failure.error (failure : Failure) : BindingError :=
  ⟨failure.key, failure.owner.name, failure.fault⟩

/-- The tag that fails first when nodes of `owner` are written in a chain of models. -/
inductive FailsFirst :
    Fragment → List Fragment → List Model → List Node → Failure → Prop
  /-- The tag in front does not get what it asks for. -/
  | tag {owner : Fragment} {outer : List Fragment} {ms : List Model} {node : Node}
      {ns : List Node} {key : String} {asked : Expectation} {fault : BindingFault} :
      node.asks? = some (key, asked) → Misses ms key asked fault →
      FailsFirst owner outer ms (node :: ns) ⟨owner, outer, node, key, fault⟩
  /-- What stands in front is written. -/
  | behind {owner : Fragment} {outer : List Fragment} {ms : List Model} {node : Node}
      {ns : List Node} {out : String} {failure : Failure} :
      Writes ms [node] out → FailsFirst owner outer ms ns failure →
      FailsFirst owner outer ms (node :: ns) failure
  /-- The body is written for some items, and a tag fails for the next one. -/
  | block {owner : Fragment} {outer : List Fragment} {ms : List Model} {body ns : List Node}
      {key out : String} {before after : List (List Model)} {item : List Model}
      {failure : Failure} :
      Items ms key (before ++ item :: after) → WritesEach before body out →
      FailsFirst owner outer item body failure →
      FailsFirst owner outer ms (.block key body :: ns) failure
  | inverse {owner : Fragment} {outer : List Fragment} {ms : List Model} {body ns : List Node}
      {key : String} {failure : Failure} :
      Items ms key [] → FailsFirst owner outer ms body failure →
      FailsFirst owner outer ms (.inverse key body :: ns) failure
  /-- A tag of the fragment that is spliced in fails. -/
  | splice {owner f : Fragment} {outer : List Fragment} {ms : List Model} {ns : List Node}
      {key : String} {failure : Failure} :
      Bound ms key (.fragment f) → FailsFirst f (owner :: outer) ms f.body failure →
      FailsFirst owner outer ms (.splice key :: ns) failure

/-- A tag that fails first stands in the source of its owner. -/
theorem FailsFirst.standsIn {owner : Fragment} {outer : List Fragment} {ms : List Model}
    {ns : List Node} {failure : Failure} (h : FailsFirst owner outer ms ns failure)
    (hns : ∀ node, StandsIn node ns → StandsIn node owner.body) :
    StandsIn failure.tag failure.owner.body ∧
      ∃ asked, failure.tag.asks? = some (failure.key, asked) := by
  -- the nodes at hand are nodes of the owner; a splice takes all nodes of another fragment
  induction h with
  | tag hasks _ => exact ⟨hns _ (.here List.mem_cons_self), _, hasks⟩
  | behind _ _ ih => exact ih fun node hnode => hns node hnode.behind
  | block _ _ _ ih => exact ih fun node hnode => hns node (.inBlock List.mem_cons_self hnode)
  | inverse _ _ ih => exact ih fun node hnode => hns node (.inInverse List.mem_cons_self hnode)
  | splice _ _ ih => exact ih fun node hnode => hnode

/-! ## An evaluation that stops, stops at the tag that fails first -/

section Stops

variable {splice : List Node → Scope → Except RenderError String} {owner : Fragment}
  {outer : List Fragment} {ms : List Model} {e : BindingError}

/-- Where `splice` stops for a tag, this tag fails first in the fragment that is spliced in. -/
def Blames (splice : List Node → Scope → Except RenderError String) : Prop :=
  ∀ ⦃f outer ms e⦄, splice f.body ⟨f.name, ms⟩ = .error (.binding e) →
    ∃ failure, FailsFirst f outer ms f.body failure ∧ failure.error = e

/-- A failing tag is reported with the name of its owner. -/
theorem exists_failsFirst_of_misses {node : Node} {key : String} {asked : Expectation}
    (hasks : node.asks? = some (key, asked)) (ns : List Node)
    (h : ∃ fault, Misses ms key asked fault ∧
      RenderError.binding e = .binding ⟨key, owner.name, fault⟩) :
    ∃ failure, FailsFirst owner outer ms (node :: ns) failure ∧ failure.error = e := by
  obtain ⟨fault, hmiss, he⟩ := h
  cases he
  exact ⟨⟨owner, outer, node, key, fault⟩, .tag hasks hmiss, rfl⟩

/-- What items give one by one is what they write one after the other. -/
theorem writesEach_of_mapM (hw : Follows splice) {name : String} {body : List Node} :
    ∀ {items : List (List Model)} {texts : List String},
      (items.map (⟨name, ·⟩)).mapM (evalNodes splice body) = .ok texts →
      WritesEach items body (String.join texts)
  | [], texts, h => by
    obtain rfl : [] = texts := by simpa using h
    exact .nil
  | item :: items, texts, h => by
    rw [List.map_cons, List.mapM_cons] at h
    obtain ⟨first, hfirst, h⟩ := bind_eq_ok.mp h
    obtain ⟨rest, hrest, h⟩ := bind_eq_ok.mp h
    obtain rfl : first :: rest = texts := by simpa using h
    rw [String.join_cons]
    exact .cons (writes_of_evalNodes hw body hfirst) (writesEach_of_mapM hw hrest)

mutual

theorem failsFirst_of_evalNode (hw : Follows splice) (hb : Blames splice) (ns : List Node) :
    ∀ (node : Node) {ms : List Model} {e : BindingError},
      evalNode splice node ⟨owner.name, ms⟩ = .error (.binding e) →
      ∃ failure, FailsFirst owner outer ms (node :: ns) failure ∧ failure.error = e
  | .text s, _, _, h => by cases h
  | .scalar key, _, _, h => exists_failsFirst_of_misses rfl ns (text_eq_error.mp h)
  | .block key body, ms, e, h => by
    rw [evalNode_block] at h
    rcases bind_eq_error.mp h with hitems | ⟨scopes, hscopes, h⟩
    · exact exists_failsFirst_of_misses rfl ns (items_eq_error.mp hitems)
    · obtain ⟨items, hitems, rfl⟩ := items_eq_ok.mp hscopes
      rcases bind_eq_error.mp h with hstop | ⟨texts, -, h⟩
      · -- the items up to the one that stops are written
        obtain ⟨before, scope, after, texts, hsplit, hbefore, hstop⟩ := mapM_eq_error.mp hstop
        obtain ⟨done, rest, rfl, rfl, hrest⟩ := List.map_eq_append_iff.mp hsplit
        obtain ⟨item, left, rfl, rfl, rfl⟩ := List.map_eq_cons_iff.mp hrest
        obtain ⟨failure, hfails, he⟩ := failsFirst_of_evalNodes hw hb body hstop
        exact ⟨failure, .block hitems (writesEach_of_mapM hw hbefore) hfails, he⟩
      · cases h
  | .inverse key body, ms, e, h => by
    rw [evalNode_inverse] at h
    rcases bind_eq_error.mp h with hempty | ⟨b, hb', h⟩
    · exact exists_failsFirst_of_misses rfl ns (isEmpty_eq_error.mp hempty)
    · obtain ⟨items, hitems, rfl⟩ := isEmpty_eq_ok.mp hb'
      cases items with
      | nil =>
        obtain ⟨failure, hfails, he⟩ := failsFirst_of_evalNodes hw hb body h
        exact ⟨failure, .inverse hitems hfails, he⟩
      | cons item items => cases h
  | .splice key, ms, e, h => by
    rw [evalNode_splice] at h
    rcases bind_eq_error.mp h with hkey | ⟨f, hf, h⟩
    · exact exists_failsFirst_of_misses rfl ns (fragmentAt_eq_error.mp hkey)
    · obtain ⟨failure, hfails, he⟩ := hb h
      exact ⟨failure, .splice (fragmentAt_eq_ok.mp hf) hfails, he⟩

theorem failsFirst_of_evalNodes (hw : Follows splice) (hb : Blames splice) :
    ∀ (nodes : List Node) {ms : List Model} {e : BindingError},
      evalNodes splice nodes ⟨owner.name, ms⟩ = .error (.binding e) →
      ∃ failure, FailsFirst owner outer ms nodes failure ∧ failure.error = e
  | [], _, _, h => by cases h
  | node :: nodes, ms, e, h => by
    rw [evalNodes_cons] at h
    rcases bind_eq_error.mp h with hfirst | ⟨first, hfirst, h⟩
    · exact failsFirst_of_evalNode hw hb nodes node hfirst
    · rcases bind_eq_error.mp h with hrest | ⟨rest, -, h⟩
      · have hwritten := writes_of_evalNode hw node hfirst .nil
        obtain ⟨failure, hfails, he⟩ := failsFirst_of_evalNodes hw hb nodes hrest
        exact ⟨failure, .behind hwritten hfails, he⟩
      · cases h

end

theorem blames_splicer : ∀ depth, Blames (splicer depth)
  | 0 => by
    intro f outer ms e h
    cases h
  | depth + 1 => by
    intro f outer ms e h
    rw [splicer, evalWithin_eq] at h
    exact failsFirst_of_evalNodes (follows_splicer depth) (blames_splicer depth) f.body h

end Stops

/-! ## The tag that fails first stops the evaluation -/

/-- A node that stops the evaluation does so whatever stands behind it. -/
theorem evalWithin_stops {depth : Nat} {node : Node} {scope : Scope} {e : RenderError}
    (h : evalNode (splicer depth) node scope = .error e) (ns : List Node) :
    evalWithin depth (node :: ns) scope = .error e := by
  rw [evalWithin_eq, evalNodes_cons, h]
  rfl

/-- A tag that misses something stops the evaluation. -/
theorem evalNode_of_misses {splice : List Node → Scope → Except RenderError String} {node : Node}
    {key name : String} {asked : Expectation} {ms : List Model} {fault : BindingFault}
    (hasks : node.asks? = some (key, asked)) (hmiss : Misses ms key asked fault) :
    evalNode splice node ⟨name, ms⟩ = .error (.binding ⟨key, name, fault⟩) := by
  cases node with
  | text s => cases hasks
  | scalar key' =>
    cases hasks
    exact text_eq_error.mpr ⟨fault, hmiss, rfl⟩
  | block key' body =>
    cases hasks
    rw [evalNode_block, items_eq_error.mpr ⟨fault, hmiss, rfl⟩]
    rfl
  | inverse key' body =>
    cases hasks
    rw [evalNode_inverse, isEmpty_eq_error.mpr ⟨fault, hmiss, rfl⟩]
    rfl
  | splice key' =>
    cases hasks
    rw [evalNode_splice, fragmentAt_eq_error.mpr ⟨fault, hmiss, rfl⟩]
    rfl

theorem FailsFirst.exists_evalWithin {owner : Fragment} {outer : List Fragment} {ms : List Model}
    {ns : List Node} {failure : Failure} (h : FailsFirst owner outer ms ns failure) :
    ∃ depth, evalWithin depth ns ⟨owner.name, ms⟩ = .error (.binding failure.error) := by
  have hne : ∀ e, (Except.error (RenderError.binding e) : Except RenderError String) ≠
      .error .tooDeep := by simp
  induction h with
  | tag hasks hmiss => exact ⟨0, evalWithin_stops (evalNode_of_misses hasks hmiss) _⟩
  | @behind owner outer ms node ns out failure hwritten _ ih =>
    obtain ⟨before, hbefore⟩ := hwritten.exists_evalWithin
    obtain ⟨depth, h⟩ := ih
    refine ⟨max before depth, ?_⟩
    have hnode := evalWithin_le (Nat.le_max_left before depth) (hbefore owner.name)
    have hrest := evalWithin_settled (Nat.le_max_right before depth) (hne _) h
    rw [evalWithin_eq] at hnode hrest ⊢
    obtain ⟨first, rest, hfirst, -, -⟩ := evalNodes_cons_eq_ok.mp hnode
    rw [evalNodes_cons, hfirst, ok_bind, hrest]
    rfl
  | @block owner outer ms body ns key out before after item failure hitems hwritten _ ih =>
    obtain ⟨room, hroom⟩ := hwritten.exists_evalWithin
    obtain ⟨depth, h⟩ := ih
    refine ⟨max room depth, evalWithin_stops ?_ ns⟩
    obtain ⟨texts, htexts, -⟩ := hroom owner.name
    have hbefore := mapM_ok_mono
      (fun _ _ ht => evalWithin_le (Nat.le_max_left room depth) ht) htexts
    have hitem := evalWithin_settled (Nat.le_max_right room depth) (hne _) h
    rw [evalWithin_eq] at hbefore hitem
    -- the items in front give their texts, and the next one stops the list
    have hstop : ((before ++ item :: after).map (⟨owner.name, ·⟩)).mapM
        (evalNodes (splicer (max room depth)) body) = .error (.binding failure.error) :=
      mapM_eq_error.mpr ⟨before.map (⟨owner.name, ·⟩), ⟨owner.name, item⟩,
        after.map (⟨owner.name, ·⟩), texts, by simp, hbefore, hitem⟩
    rw [evalNode_block, items_eq_ok.mpr ⟨_, hitems, rfl⟩, ok_bind, hstop]
    rfl
  | @inverse owner outer ms body ns key failure hitems _ ih =>
    obtain ⟨depth, h⟩ := ih
    refine ⟨depth, evalWithin_stops ?_ ns⟩
    rw [evalWithin_eq] at h
    rw [evalNode_inverse, isEmpty_eq_ok.mpr ⟨[], hitems, rfl⟩]
    exact h
  | @splice owner f outer ms ns key failure hbound _ ih =>
    obtain ⟨depth, h⟩ := ih
    -- the spliced fragment needs one level more than its own splices
    refine ⟨depth + 1, evalWithin_stops ?_ ns⟩
    rw [evalNode_splice, fragmentAt_eq_ok.mpr hbound]
    exact h

/-- **Evaluation and the rules agree on failures.**  The evaluation stops for a tag, with enough
    room for splices, exactly if this tag fails first. -/
theorem failsFirst_iff_evalWithin {owner : Fragment} (outer : List Fragment) {ms : List Model}
    {ns : List Node} {e : BindingError} :
    (∃ failure, FailsFirst owner outer ms ns failure ∧ failure.error = e) ↔
      ∃ depth, evalWithin depth ns ⟨owner.name, ms⟩ = .error (.binding e) := by
  constructor
  · rintro ⟨failure, hfails, rfl⟩
    exact hfails.exists_evalWithin
  · rintro ⟨depth, h⟩
    rw [evalWithin_eq] at h
    exact failsFirst_of_evalNodes (follows_splicer depth) (blames_splicer depth) ns h

/-! ## Whole fragments -/

/-- The splices of a fragment do not go on for ever. -/
def Ends (f : Fragment) (m : Model) : Prop :=
  ∃ depth, evalWithin depth f.body ⟨f.name, [m]⟩ ≠ .error .tooDeep

section Whole

variable {f : Fragment} {m : Model}

/-- Splices that end do not come to `tooDeep`. -/
theorem Ends.ne_tooDeep (h : Ends f m) {e : RenderError} (he : Renders f m (.error e)) :
    e ≠ .tooDeep := by
  obtain ⟨depth, hdepth⟩ := h
  rintro rfl
  exact hdepth ((renders_of_evalWithin hdepth rfl).unique he)

/-- Rendering comes to an error exactly for the tag that fails first. -/
theorem Ends.renders_error_iff (h : Ends f m) {e : RenderError} :
    Renders f m (.error e) ↔
      ∃ failure, FailsFirst f [] [m] f.body failure ∧ e = .binding failure.error := by
  constructor
  · intro he
    cases e with
    | tooDeep => exact absurd rfl (h.ne_tooDeep he)
    | binding e =>
      obtain ⟨depth, heval⟩ := (renders_iff_evalWithin (by simp)).mp he
      obtain ⟨failure, hfails, rfl⟩ := (failsFirst_iff_evalWithin []).mpr ⟨depth, heval⟩
      exact ⟨failure, hfails, rfl⟩
  · rintro ⟨failure, hfails, rfl⟩
    obtain ⟨depth, heval⟩ := hfails.exists_evalWithin
    exact renders_of_evalWithin (by simp) heval

/-- Rendering comes to a text or to the error of a tag. -/
theorem Ends.exists_renders (h : Ends f m) :
    (∃ out, Renders f m (.ok out)) ∨ ∃ e, Renders f m (.error (.binding e)) := by
  obtain ⟨depth, hdepth⟩ := h
  have hrenders := renders_of_evalWithin hdepth rfl
  cases heval : evalWithin depth f.body ⟨f.name, [m]⟩ with
  | ok out => exact .inl ⟨out, heval ▸ hrenders⟩
  | error e =>
    cases e with
    | tooDeep => exact absurd heval hdepth
    | binding e => exact .inr ⟨e, heval ▸ hrenders⟩

/-- **Failures are attributed.**  A fragment whose splices do not go on for ever is rendered, with
    room for them, to a text or to the error of a tag, and never to both or to two of one kind.
    The text is what the rules write.  The error is that of the tag that fails first: it has the
    tag's key and the name of the fragment in whose own source the tag stands.  A bound on splices
    that is not too small for this fragment gives the same. -/
theorem failure_is_attributed (hends : Ends f m) :
    ((∃ out, Renders f m (.ok out)) ∨ ∃ e, Renders f m (.error (.binding e))) ∧
    (∀ r r', Renders f m r → Renders f m r' → r = r') ∧
    (∀ out, Renders f m (.ok out) ↔ Writes [m] f.body out) ∧
    (∀ e, Renders f m (.error e) ↔ ∃ failure, FailsFirst f [] [m] f.body failure ∧
      e = .binding ⟨failure.key, failure.owner.name, failure.fault⟩) ∧
    (∀ failure, FailsFirst f [] [m] f.body failure →
      StandsIn failure.tag failure.owner.body ∧
        ∃ asked, failure.tag.asks? = some (failure.key, asked)) ∧
    (f.render m ≠ .error .tooDeep → ∀ r, f.render m = r ↔ Renders f m r) :=
  ⟨hends.exists_renders, fun _ _ h h' => h.unique h', fun _ => renders_ok_iff,
    fun _ => hends.renders_error_iff,
    fun _ hfails => hfails.standsIn fun _ hnode => hnode,
    fun hroom _ => render_eq_iff hroom⟩

end Whole

/-- A fragment that is spliced into `pageFragment`. -/
def rowFragment : Fragment := ⟨"row", [.scalar "name"]⟩

/-- For each item a row, and behind it a key of the page itself. -/
def pageFragment : Fragment := ⟨"page", [.block "rows" [.splice "row", .scalar "note"]]⟩

/-- The second row has a name, but no note. -/
def pageModel : Model :=
  [("row", .fragment rowFragment),
   ("rows", .sequence [[("name", .text "a"), ("note", .text "b")], [("name", .text "c")]])]

/-- The note is missed behind a row that was written, so it is missed by the page. -/
theorem note_is_missed_by_the_page :
    Ends pageFragment pageModel ∧
      pageFragment.render pageModel = .error (.binding ⟨"note", "page", .undefined⟩) ∧
      Renders pageFragment pageModel (.error (.binding ⟨"note", "page", .undefined⟩)) ∧
      ∃ failure, FailsFirst pageFragment [] [pageModel] pageFragment.body failure ∧
        failure.key = "note" ∧ failure.owner.name = "page" ∧
        StandsIn failure.tag failure.owner.body := by
  have hrender : pageFragment.render pageModel =
      .error (.binding ⟨"note", "page", .undefined⟩) := rfl
  have hroom : pageFragment.render pageModel ≠ .error .tooDeep := by
    rw [hrender]
    simp
  have hends : Ends pageFragment pageModel := ⟨spliceLimit, hroom⟩
  obtain ⟨-, -, -, hreports, hstands, hbound⟩ := failure_is_attributed hends
  have hrenders := (hbound hroom _).mp hrender
  obtain ⟨failure, hfails, he⟩ := (hreports _).mp hrenders
  simp only [RenderError.binding.injEq, BindingError.mk.injEq] at he
  obtain ⟨hkey, howner, -⟩ := he
  exact ⟨hends, hrender, hrenders, failure, hfails, hkey.symm, howner.symm,
    (hstands failure hfails).1⟩

end Fragment

end ThriftScala
