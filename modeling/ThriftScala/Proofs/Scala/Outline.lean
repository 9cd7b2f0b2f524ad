/-
  Scans of fragments.

  A fragment fixes all brackets, quotes and comments of what it writes, if the texts under its keys
  are what their places ask for.  So it is the fragment that is scanned, once, and not what it
  writes.

  1. `role` says of a key where its texts are written: in code, inside of literals, or in both, and
     `Fits` that a value has what its key asks for.
  2. `Outlines` spells a fragment: its texts letter by letter, its tags as they are.  A scan of the
     outline passes over scalars, and asks that the body of a block and a spliced fragment end in
     the state in which they began, since nobody knows how often a body is written.
  3. What a fragment writes takes a scan to where the scan of the outline ends (`takes_of_writes`),
     so a balanced fragment that is filled with a fitting model gives a balanced text
     (`balanced_of_filled`).
  4. The fragments of the generator are balanced (`isBalanced_of_mem_fragments`).
-/
import ThriftScala.Proofs.Scala.Assembly
import ThriftScala.Proofs.Scala.Lexical

namespace ThriftScala.Scala

open Fragment

/-! ## The texts under keys -/

/-- Where the text under a key is written. -/
inductive Role where
  | code
  | literal
  /-- In code and in literals. -/
  | both
  /-- Nowhere: the value only says how often a fixed text is written. -/
  | nowhere
  deriving DecidableEq

namespace Role

/-- May a text of the role be written there? -/
def admits : Role → LexMode → Bool
  | .code, .code => true
  | .literal, .literal => true
  | .both, .code => true
  | .both, .literal => true
  | _, _ => false

/-- Is the text what the role asks for? -/
def Holds : Role → String → Prop
  | .code, s => Balanced s
  | .literal, s => Quotable s
  | .both, s => Inert s
  | .nowhere, _ => True

/-- A text of a role changes nothing where it may be written. -/
theorem Holds.takes {r : Role} {s : String} (h : r.Holds s) {st : LexState}
    (hadmits : r.admits st.mode = true) : Takes st s st := by
  obtain ⟨mode, opened⟩ := st
  cases r with
  | code =>
    cases mode with
    | code => exact Balanced.takes h opened
    | _ => cases hadmits
  | literal =>
    cases mode with
    | literal => exact Quotable.takes h opened
    | _ => cases hadmits
  | both =>
    cases mode with
    | code => exact Inert.takes h (.inl rfl) opened
    | literal => exact Inert.takes h (.inr rfl) opened
    | _ => cases hadmits
  | nowhere => cases mode <;> cases hadmits

end Role

/-- The role of a key in the fragments of a generated file. -/
def role (key : String) : Role :=
  if key = "name" ∨ key = "structName" then .both
  else if key = "wireName" ∨ key = "nameLowerCase" then .literal
  else if key = "addComments" then .nowhere
  else .code

/-! ## Outlines -/

/-- A node with its text spelled. -/
inductive Outline where
  | letters (cs : List Char)
  | scalar (key : String)
  | block (key : String) (body : List Outline)
  | inverse (key : String) (body : List Outline)
  | splice (key : String)

/-- The outlines of nodes, one by one. -/
inductive Outlines : List Node → List Outline → Prop
  | nil : Outlines [] []
  | text {cs : List Char} {ns : List Node} {os : List Outline} (rest : Outlines ns os) :
    Outlines (.text (.ofList cs) :: ns) (.letters cs :: os)
  | scalar {key : String} {ns : List Node} {os : List Outline} (rest : Outlines ns os) :
    Outlines (.scalar key :: ns) (.scalar key :: os)
  | block {key : String} {body ns : List Node} {inner os : List Outline}
    (hbody : Outlines body inner) (rest : Outlines ns os) :
    Outlines (.block key body :: ns) (.block key inner :: os)
  | inverse {key : String} {body ns : List Node} {inner os : List Outline}
    (hbody : Outlines body inner) (rest : Outlines ns os) :
    Outlines (.inverse key body :: ns) (.inverse key inner :: os)
  | splice {key : String} {ns : List Node} {os : List Outline} (rest : Outlines ns os) :
    Outlines (.splice key :: ns) (.splice key :: os)

namespace Outline

/-- Is it a text? -/
def isLetters : Outline → Bool
  | .letters _ => true
  | _ => false

mutual

/-- The state behind what a node writes, whatever its keys stand for. -/
def scan (st : LexState) : Outline → Option LexState
  | .letters cs => st.scan cs
  | .scalar key => if (role key).admits st.mode then some st else none
  | .block key body =>
    -- nothing is known of the models that a key of no role brings into scope
    if role key = .nowhere ∧ ¬ body.all isLetters then none
    else if scanAll st body = some st then some st else none
  | .inverse _ body => if scanAll st body = some st then some st else none
  | .splice key => if st.mode = .code ∧ role key ≠ .nowhere then some st else none

/-- The state behind what nodes write. -/
def scanAll (st : LexState) : List Outline → Option LexState
  | [] => some st
  | o :: os =>
    match o.scan st with
    | some next => scanAll next os
    | none => none

end

end Outline

/-- Whatever its keys stand for, the fragment is well formed on its own. -/
def IsBalanced (f : Fragment) : Prop :=
  ∃ os, Outlines f.body os ∧ Outline.scanAll .start os = some .start

/-! ## Models that fit -/

mutual

/-- Has the value what its key asks for? -/
def Fits (key : String) : Value → Prop
  | .text s => (role key).Holds s
  | .flag _ => True
  | .model m => role key ≠ .nowhere → ModelFits m
  | .sequence items => role key ≠ .nowhere → ItemsFit items
  | .fragment f => role key ≠ .nowhere → IsBalanced f

/-- Has every value of the model what its key asks for? -/
def ModelFits : List (String × Value) → Prop
  | [] => True
  | (k, v) :: m => Fits k v ∧ ModelFits m

/-- Do all models fit? -/
def ItemsFit : List (List (String × Value)) → Prop
  | [] => True
  | m :: items => ModelFits m ∧ ItemsFit items

end

/-- Items fit if each of them does. -/
theorem itemsFit_iff {items : List Model} : ItemsFit items ↔ ∀ m ∈ items, ModelFits m := by
  induction items with
  | nil => simp [ItemsFit]
  | cons m items ih => simp [ItemsFit, ih]

/-- A value in a model that fits fits under its key. -/
theorem ModelFits.lookup {m : Model} (h : ModelFits m) {key : String} {v : Value}
    (hv : m.lookup key = some v) : Fits key v := by
  induction m with
  | nil => cases hv
  | cons e m ih =>
    obtain ⟨k, w⟩ := e
    rw [List.lookup_cons] at hv
    split at hv
    · rename_i hkey
      cases hv
      rw [eq_of_beq hkey]
      exact h.1
    · exact ih h.2 hv

/-- Nothing is asked of the value of a key without a role. -/
theorem fits_of_nowhere {key : String} (h : role key = .nowhere) (v : Value) : Fits key v := by
  cases v <;> simp [Fits, h, Role.Holds]

/-- All models in scope fit. -/
def ScopeFits (ms : List Model) : Prop := ∀ m ∈ ms, ModelFits m

/-- What a key is bound to fits where all models of the scope do. -/
theorem fits_of_bound {ms : List Model} {key : String} {v : Value} (h : ScopeFits ms)
    (hv : Fragment.Bound ms key v) : Fits key v := by
  induction hv with
  | here hlook => exact (h _ List.mem_cons_self).lookup hlook
  | outer _ _ ih => exact ih fun m hm => h m (List.mem_cons_of_mem _ hm)

/-- Every item is a scope that fits, unless the key has no role. -/
theorem scopeFits_of_items {ms : List Model} {key : String} {items : List (List Model)}
    (h : ScopeFits ms) (hrole : role key ≠ .nowhere) (hitems : Items ms key items) :
    ∀ item ∈ items, ScopeFits item := by
  cases hitems with
  | yes _ => simpa using h
  | no _ => simp
  | model hm =>
    have hfits : ModelFits _ := fits_of_bound h hm hrole
    have hscope : ScopeFits (_ :: ms) := List.forall_mem_cons.mpr ⟨hfits, h⟩
    simpa using hscope
  | sequence hms =>
    have hfits : ItemsFit _ := fits_of_bound h hms hrole
    intro item hitem
    obtain ⟨m, hm, rfl⟩ := List.mem_map.mp hitem
    exact List.forall_mem_cons.mpr ⟨itemsFit_iff.mp hfits m hm, h⟩

/-! ## What is written takes a scan as far as the outline -/

/-- What a scan of an outline may be asked about: in the scope all models fit, or the outline has
    letters only and asks for no model. -/
def Readable (ms : List Model) (os : List Outline) : Prop :=
  ScopeFits ms ∨ os.all Outline.isLetters = true

/-- What is left of readable outlines is readable. -/
theorem Readable.rest {ms : List Model} {o : Outline} {os : List Outline}
    (h : Readable ms (o :: os)) : Readable ms os := by
  refine h.imp_right fun hletters => ?_
  rw [List.all_cons, Bool.and_eq_true] at hletters
  exact hletters.2

/-- Where anything but letters comes next, all models of the scope fit. -/
theorem Readable.scope {ms : List Model} {o : Outline} {os : List Outline}
    (h : Readable ms (o :: os)) (ho : o.isLetters = false) : ScopeFits ms := by
  refine h.resolve_right fun hletters => ?_
  rw [List.all_cons, ho] at hletters
  cases hletters

namespace Outline

variable {a b : LexState} {o : Outline} {os : List Outline}

/-- Outlines are gone through one after the other. -/
theorem scanAll_cons_eq_some :
    scanAll a (o :: os) = some b ↔ ∃ next, scan a o = some next ∧ scanAll next os = some b := by
  rw [scanAll]
  cases scan a o <;> simp

end Outline

mutual

/-- **What nodes write takes a scan to where the scan of their outline ends.** -/
theorem takes_of_writes : ∀ {ms : List Model} {ns : List Node} {out : String}, Writes ms ns out →
    ∀ {os : List Outline} {a b : LexState}, Readable ms os → Outlines ns os →
      Outline.scanAll a os = some b → Takes a out b
  | _, _, _, .nil, _, a, _, _, .nil, h => by
    cases h
    exact .empty a
  | _, _, _, .text hw, _, a, b, hread, houtlines, h => by
    cases houtlines with
    | @text cs _ _ rest =>
      obtain ⟨next, hletters, h⟩ := Outline.scanAll_cons_eq_some.mp h
      have hfirst : Takes a (.ofList cs) next := by
        rw [Takes, String.toList_ofList]
        exact hletters
      exact hfirst.append (takes_of_writes hw hread.rest rest h)
  | _, _, _, .scalar hkey hw, _, a, b, hread, .scalar rest, h => by
    obtain ⟨next, hscalar, h⟩ := Outline.scanAll_cons_eq_some.mp h
    rw [Outline.scan] at hscalar
    split_ifs at hscalar with hadmits
    cases hscalar
    have hfits := fits_of_bound (hread.scope rfl) hkey
    have hfirst : Takes a _ a := Role.Holds.takes hfits hadmits
    exact hfirst.append (takes_of_writes hw hread.rest rest h)
  | _, _, _, @Writes.block _ key _ _ _ _ items hitems heach hw, _, a, b, hread, houtlines, h => by
    cases houtlines with
    | @block _ _ _ inner _ hbody rest =>
      obtain ⟨next, hblock, h⟩ := Outline.scanAll_cons_eq_some.mp h
      rw [Outline.scan] at hblock
      split_ifs at hblock with hletters hsame
      cases hblock
      -- where no code may stand the body is letters only, and the items need not fit
      have hitem : ∀ item ∈ items, Readable item inner := by
        by_cases hrole : role key = .nowhere
        · have hall := not_not.mp (not_and.mp hletters hrole)
          exact fun item _ => .inr hall
        · have hscopes := scopeFits_of_items (hread.scope rfl) hrole hitems
          exact fun item hi => .inl (hscopes item hi)
      have hfirst := takes_of_writesEach heach hitem hbody hsame
      exact hfirst.append (takes_of_writes hw hread.rest rest h)
  | _, _, _, .absent hitems hinner hw, _, a, b, hread, .inverse hbody rest, h => by
    obtain ⟨next, hblock, h⟩ := Outline.scanAll_cons_eq_some.mp h
    rw [Outline.scan] at hblock
    split_ifs at hblock with hsame
    cases hblock
    have hfirst := takes_of_writes hinner (.inl (hread.scope rfl)) hbody hsame
    exact hfirst.append (takes_of_writes hw hread.rest rest h)
  | _, _, _, .present hitems hw, _, a, b, hread, .inverse hbody rest, h => by
    obtain ⟨next, hblock, h⟩ := Outline.scanAll_cons_eq_some.mp h
    rw [Outline.scan] at hblock
    split_ifs at hblock with hsame
    cases hblock
    exact takes_of_writes hw hread.rest rest h
  | _, _, _, .splice hkey hinner hw, _, ⟨mode, opened⟩, b, hread, .splice rest, h => by
    obtain ⟨next, hsplice, h⟩ := Outline.scanAll_cons_eq_some.mp h
    rw [Outline.scan] at hsplice
    split_ifs at hsplice with hmode
    cases hsplice
    -- a splice stands in code, and what it splices is balanced whatever brackets are open
    obtain ⟨rfl, hrole⟩ := hmode
    have hscope := hread.scope rfl
    obtain ⟨inner, hbody, hstart⟩ := fits_of_bound hscope hkey hrole
    have hfirst : Takes ⟨.code, opened⟩ _ ⟨.code, opened⟩ :=
      Balanced.takes (takes_of_writes hinner (.inl hscope) hbody hstart) opened
    exact hfirst.append (takes_of_writes hw hread.rest rest h)

/-- What is written for the items leaves the reader where the outline of the body leaves it. -/
theorem takes_of_writesEach : ∀ {items : List (List Model)} {body : List Node} {out : String},
    WritesEach items body out → ∀ {os : List Outline} {a : LexState},
      (∀ item ∈ items, Readable item os) → Outlines body os → Outline.scanAll a os = some a →
      Takes a out a
  | _, _, _, .nil, _, a, _, _, _ => .empty a
  | _, _, _, .cons hfirst hrest, _, _, hread, hbody, h =>
    .append (takes_of_writes hfirst (hread _ List.mem_cons_self) hbody h)
      (takes_of_writesEach hrest (fun item hi => hread item (List.mem_cons_of_mem _ hi)) hbody h)

end

/-- **A balanced fragment that is filled with a fitting model gives a balanced text.** -/
theorem balanced_of_filled {f : Fragment} {m : Model} {s : String} (hf : IsBalanced f)
    (hm : ModelFits m) (h : filled f m = .ok s) : Balanced s := by
  obtain ⟨os, houtlines, hscan⟩ := hf
  have hwrites : Writes [m] f.body s :=
    (writes_iff_evalWithin f.name).mpr ⟨spliceLimit, filled_eq_ok.mp h⟩
  have hscope : ScopeFits [m] := by simpa [ScopeFits] using hm
  exact takes_of_writes hwrites (.inl hscope) houtlines hscan

/-! ## The fragments are balanced -/

/-- A fragment is balanced if its outlines come back to the beginning. -/
theorem isBalanced_of_outlines {f : Fragment} {os : List Outline} (h : Outlines f.body os)
    (hscan : Outline.scanAll .start os = some .start) : IsBalanced f := ⟨os, h, hscan⟩

/-- **The fragments of the generator close what they open**, the one of a service around those that
it splices. -/
theorem isBalanced_of_mem_fragments : ∀ f ∈ Generator.fragments, IsBalanced f := by
  have hnone : ∀ f ∈ ([] : List Fragment), IsBalanced f := fun _ h => nomatch h
  simp only [Generator.fragments, List.forall_mem_cons]
  refine ⟨?header, ?consts, ?enum, ?enums, ?struct, ?client, ?finagle, ?server, ?service, hnone⟩
  all_goals
    apply isBalanced_of_outlines
    · -- the outline is found by spelling the fragment
      dsimp only [Fragments.header, Fragments.consts, Fragments.enum, Fragments.enums,
        Fragments.struct, Fragments.finagleClient, Fragments.finagleService,
        Fragments.ostrichServer, Fragments.service]
      repeat constructor
    · decide +kernel

end ThriftScala.Scala
