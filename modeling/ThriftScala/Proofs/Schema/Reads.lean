/-
  What it means for a reader of the layout to be right.

  `Reads r x` says of the outcome `x` of a reader that it gives the values that `r` allows and no
  other, and that where there is none, the error tells what is wrong with the description and is no
  misuse.  It passes through a chain of steps (`Reads.bind`) and through lists (`Reads.mapM`), so a
  reader needs one lemma, which follows its steps.

  A list of parts that is no list is a misuse.  The lemma on lists of parts therefore asks for a
  list, `Layout.HasList`.
-/
import ThriftScala.Proofs.Json.Shape
import ThriftScala.Schema.Layout

namespace ThriftScala

open Outcome Layout

/-! ## Readers -/

/-- A reader gives the values that `r` allows, and where there are none it reports the
    description. -/
structure Reads {α : Type} (r : α → Prop) (x : Loaded α) : Prop where
  value : ∀ a, x = .ok a ↔ r a
  report : ∀ m, x ≠ .error (.misuse m)

namespace Reads

variable {α β : Type} {r r' : α → Prop} {x : Loaded α}

/-- A value is read as itself. -/
theorem ok (a : α) : Reads (fun b => a = b) (.ok a) :=
  ⟨fun b => by simp, fun m => by simp⟩

/-- An error that reports something is right where nothing is described. -/
theorem error {e : DocumentError} (hr : ∀ a, ¬ r a) (he : ∀ m, e ≠ .misuse m) :
    Reads r (.error e) :=
  ⟨fun a => by simpa using hr a, fun m => by simpa using he m⟩

/-- What is read can be said in other words. -/
theorem congr (h : Reads r x) (hr : ∀ a, r a ↔ r' a) : Reads r' x :=
  ⟨fun a => (h.value a).trans (hr a), h.report⟩

/-- A chain of two steps gives what the second does of what the first gave. -/
theorem bind_of {f : α → Loaded β} {s : α → β → Prop} (hx : Reads r x)
    (hf : ∀ a, r a → Reads (s a) (f a)) : Reads (fun b => ∃ a, r a ∧ s a b) (x >>= f) := by
  constructor
  · intro b
    rw [bind_eq_ok]
    refine exists_congr fun a => ?_
    rw [hx.value a]
    exact and_congr_right fun ha => (hf a ha).value b
  · intro m
    cases x with
    | error e => simpa using hx.report m
    | ok a => exact (hf a ((hx.value a).mp rfl)).report m

/-- What is read in two steps stands in the relation of both. -/
theorem bind {f : α → Loaded β} {s : α → β → Prop} (hx : Reads r x)
    (hf : ∀ a, Reads (s a) (f a)) : Reads (fun b => ∃ a, r a ∧ s a b) (x >>= f) :=
  hx.bind_of fun a _ => hf a

/-- What is read and mapped is the image of what is read. -/
theorem map {f : α → β} (hx : Reads r x) : Reads (fun b => ∃ a, r a ∧ f a = b) (x.map f) := by
  constructor
  · intro b
    rw [map_eq_ok]
    exact exists_congr fun a => and_congr_left' (hx.value a)
  · intro m
    cases x with
    | error e => simpa using hx.report m
    | ok a => simp

/-- A list is read element by element. -/
theorem mapM {f : α → Loaded β} {s : α → β → Prop} {l : List α}
    (h : ∀ a ∈ l, Reads (s a) (f a)) : Reads (List.Forall₂ s l) (l.mapM f) := by
  induction l with
  | nil => exact (ok []).congr fun bs => by rw [List.forall₂_nil_left_iff, eq_comm]
  | cons a l ih =>
    rw [List.mapM_cons]
    have hrest := ih fun b hb => h b (List.mem_cons_of_mem a hb)
    refine ((h a List.mem_cons_self).bind fun b => hrest.bind fun bs => ok (b :: bs)).congr ?_
    intro bs
    rw [List.forall₂_cons_left_iff]
    simp only [eq_comm (a := bs), exists_and_left]

end Reads

/-! ## Members of an object -/

/-- What is required is what stands under the key. -/
theorem Layout.reads_require {place key : String} {node : Json} :
    Reads (fun v => optional? node key = some v) (require place node key) := by
  cases node with
  | obj members =>
    simp only [require, optional?]
    cases members.lookup key with
    | some v => exact (Reads.ok v).congr fun w => by rw [Option.some_inj]
    | none => exact .error (fun v hv => by cases hv) (fun m hm => by cases hm)
  | _ => exact .error (fun v hv => by cases hv) (fun m hm => by cases hm)

/-- A value under a key is smaller than the object. -/
theorem Layout.sizeOf_optional?_lt {node v : Json} {key : String}
    (h : optional? node key = some v) : sizeOf v < sizeOf node := by
  cases node with
  | obj members => exact Json.sizeOf_lt_obj (Entries.mem_of_get? h)
  | _ => cases h

/-- The parts that are listed under a key. -/
def Layout.listed (node : Json) (key : String) : List Json :=
  match optional? node key with
  | some (.arr nodes) => nodes
  | _ => []

/-- If there is something under the key, it is a list. -/
def Layout.HasList (node : Json) (key : String) : Prop :=
  ∀ v, optional? node key = some v → ∃ nodes, v = .arr nodes

/-- The parts under a key are those of the list there. -/
theorem Layout.partsUnder_of_hasList {node : Json} {key : String} (h : HasList node key) :
    partsUnder node key = .ok (listed node key) := by
  unfold partsUnder listed
  cases hv : optional? node key with
  | none => rfl
  | some v =>
    obtain ⟨nodes, rfl⟩ := h v hv
    rfl

/-- A part is smaller than the value that it is listed in. -/
theorem Layout.sizeOf_listed_lt {node part : Json} {key : String}
    (h : part ∈ listed node key) : sizeOf part < sizeOf node := by
  unfold listed at h
  split at h
  · rename_i nodes hnodes
    exact Nat.lt_trans (Json.sizeOf_lt_arr h) (sizeOf_optional?_lt hnodes)
  · cases h

/-- A chain that goes on with the parts that are listed under a key, read one by one. -/
theorem Layout.reads_listed {α β : Type} {node : Json} {key : String} {f : Json → Loaded α}
    {k : List α → Loaded β} {s : Json → α → Prop} {t : List α → β → Prop} (hlist : HasList node key)
    (hf : ∀ part ∈ listed node key, Reads (s part) (f part)) (hk : ∀ as, Reads (t as) (k as)) :
    Reads (fun b => ∃ as, List.Forall₂ s (listed node key) as ∧ t as b)
      (partsUnder node key >>= fun nodes => nodes.mapM f >>= k) := by
  rw [partsUnder_of_hasList hlist]
  exact (Reads.mapM hf).bind hk

/-! ## Words -/

/-- A base type is known by its own name only. -/
theorem BaseType.ofName?_eq_some {s : String} {b : BaseType} :
    BaseType.ofName? s = some b ↔ s = b.name := by
  constructor
  · intro h
    have hname := List.find?_some h
    exact (of_decide_eq_true hname).symm
  · rintro rfl
    cases b <;> decide

/-- A requiredness is known by its own name only. -/
theorem Requiredness.ofName?_eq_some {s : String} {r : Requiredness} :
    Requiredness.ofName? s = some r ↔ s = r.name := by
  constructor
  · intro h
    have hname := List.find?_some h
    exact (of_decide_eq_true hname).symm
  · rintro rfl
    cases r <;> decide

/-- A kind of structs is known by its own name only. -/
theorem StructKind.ofName?_eq_some {s : String} {k : StructKind} :
    StructKind.ofName? s = some k ↔ s = k.name := by
  constructor
  · intro h
    have hname := List.find?_some h
    exact (of_decide_eq_true hname).symm
  · rintro rfl
    cases k <;> decide

/-- A word of a choice, or the word of the default in its place. -/
theorem Layout.reads_choiceUnder {α : Type} {node : Json} {key : String} {standard : α}
    {ofName? : String → Option α} {name : α → String} {wrong : Json → DocumentError}
    (hname : ∀ s a, ofName? s = some a ↔ s = name a) (hwrong : ∀ v m, wrong v ≠ .misuse m) :
    Reads (fun a => (optional? node key).getD (.str (name standard)) = .str (name a))
      (choiceUnder node key standard ofName? wrong) := by
  have hinj : ∀ a b, name a = name b ↔ a = b := by
    intro a b
    rw [← hname (name a) b, (hname (name a) a).mpr rfl, Option.some_inj]
  unfold choiceUnder
  cases optional? node key with
  | none => exact (Reads.ok standard).congr fun a => by simp [hinj]
  | some v =>
    cases v with
    | str s =>
      simp only [Option.getD_some, Json.str.injEq]
      cases hs : ofName? s with
      | some a => exact (Reads.ok a).congr fun b => by rw [← hname s b, hs, Option.some_inj]
      | none => exact .error (fun a => by rw [← hname s a, hs]; simp) (hwrong _)
    | _ => exact .error (by simp) (hwrong _)

/-- A chain that goes on with the integer that a value is. -/
theorem Layout.reads_integer {β : Type} {v : Json} {e : DocumentError} {f : Int → Loaded β}
    {s : Int → β → Prop} (he : ∀ m, e ≠ .misuse m) (hf : ∀ n, Reads (s n) (f n)) :
    Reads (fun b => ∃ n, v = .int n ∧ s n b)
      (match integer? v with
        | some n => pure n >>= f
        | none => throw e >>= f) := by
  cases v with
  | int n => exact (hf n).congr fun b => by simp
  | _ => exact .error (by simp) he

end ThriftScala
