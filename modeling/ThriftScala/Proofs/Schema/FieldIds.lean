/-
  Ids of fields in a document that was read.

  Reading refuses a list of fields in which an id comes twice (`Field.duplicateId?_eq_none_iff`), and
  it checks every list on its own: the fields of a struct, the arguments of a function, and its
  exceptions (`Document.hasDistinctIds_ofJson`).  Conversions of names keep the ids, since these are
  part of what is seen on the wire (`Document.hasDistinctIds_normalizeAll`).
-/
import ThriftScala.Proofs.Schema.Normalize
import ThriftScala.Schema.Layout

namespace ThriftScala

open Outcome

/-! ## Distinct ids -/

/-- No two fields have the same id. -/
def Field.DistinctIds (fields : List Field) : Prop := (fields.map (·.id)).Nodup

/-- No two arguments and no two exceptions of a function have the same id. -/
structure ServiceFunction.HasDistinctIds (f : ServiceFunction) : Prop where
  args : Field.DistinctIds f.args
  throws : Field.DistinctIds f.throws

/-- In every list of fields of a document the ids differ. -/
structure Document.HasDistinctIds (d : Document) : Prop where
  structs : ∀ s ∈ d.structs, Field.DistinctIds s.fields
  functions : ∀ s ∈ d.services, ∀ f ∈ s.functions, f.HasDistinctIds

/-! ## Reading -/

theorem Field.duplicateId?_eq_none_iff {fields : List Field} {seen : List Int} :
    Field.duplicateId? seen fields = none ↔
      Field.DistinctIds fields ∧ ∀ f ∈ fields, f.id ∉ seen := by
  induction fields generalizing seen with
  | nil => simp [duplicateId?, DistinctIds]
  | cons f fields ih =>
    rw [duplicateId?, DistinctIds, List.map_cons, List.nodup_cons]
    by_cases hseen : f.id ∈ seen
    · simp [hseen]
    · rw [if_neg hseen, ih]
      -- a field behind `f` may not have its id, nor one of those seen before
      have hsplit : (∀ g ∈ fields, g.id ∉ f.id :: seen) ↔
          f.id ∉ fields.map (·.id) ∧ ∀ g ∈ fields, g.id ∉ seen := by
        simp only [List.mem_cons, not_or, List.mem_map, not_exists, not_and]
        exact forall₂_and
      rw [hsplit]
      simp only [DistinctIds, List.forall_mem_cons]
      tauto

/-- A list of fields that was read has distinct ids. -/
theorem Field.distinctIds_listOfJson {place key : String} {node : Json} {fields : List Field}
    (h : Field.listOfJson place node key = .ok fields) : Field.DistinctIds fields := by
  obtain ⟨nodes, -, h⟩ := bind_eq_ok.mp h
  obtain ⟨made, -, h⟩ := bind_eq_ok.mp h
  cases hduplicate : Field.duplicateId? [] made with
  | some id =>
    rw [hduplicate] at h
    cases h
  | none =>
    rw [hduplicate] at h
    cases h
    exact (duplicateId?_eq_none_iff.mp hduplicate).1

theorem Struct.distinctIds_ofJson {node : Json} {s : Struct} (h : Struct.ofJson node = .ok s) :
    Field.DistinctIds s.fields := by
  obtain ⟨name, -, h⟩ := bind_eq_ok.mp h
  obtain ⟨kind, -, h⟩ := bind_eq_ok.mp h
  obtain ⟨fields, hfields, h⟩ := bind_eq_ok.mp h
  cases h
  exact Field.distinctIds_listOfJson hfields

theorem ServiceFunction.hasDistinctIds_ofJson {service node : Json} {f : ServiceFunction}
    (h : ServiceFunction.ofJson service node = .ok f) : f.HasDistinctIds := by
  obtain ⟨name, -, h⟩ := bind_eq_ok.mp h
  obtain ⟨returnType, -, h⟩ := bind_eq_ok.mp h
  obtain ⟨args, hargs, h⟩ := bind_eq_ok.mp h
  obtain ⟨throws, hthrows, h⟩ := bind_eq_ok.mp h
  cases h
  exact ⟨Field.distinctIds_listOfJson hargs, Field.distinctIds_listOfJson hthrows⟩

theorem Service.hasDistinctIds_ofJson {node : Json} {s : Service}
    (h : Service.ofJson node = .ok s) : ∀ f ∈ s.functions, f.HasDistinctIds := by
  obtain ⟨name, -, h⟩ := bind_eq_ok.mp h
  obtain ⟨nodes, -, h⟩ := bind_eq_ok.mp h
  obtain ⟨functions, hfunctions, h⟩ := bind_eq_ok.mp h
  cases h
  exact forall_of_mapM_eq_ok hfunctions fun _ _ _ => ServiceFunction.hasDistinctIds_ofJson

/-- **A document that was read has distinct ids** in each of its lists of fields. -/
theorem Document.hasDistinctIds_ofJson {standard v : Json} {d : Document}
    (h : Document.ofJson standard v = .ok d) : d.HasDistinctIds := by
  cases v with
  | obj members =>
    rw [Document.ofJson] at h
    simp only [bind_eq_ok] at h
    obtain ⟨_, -, _, -, _, -, _, -, _, -, _, -, _, -, structs, hstructs, _, -, services, hservices,
      h⟩ := h
    cases h
    exact
      ⟨forall_of_mapM_eq_ok hstructs fun _ _ _ => Struct.distinctIds_ofJson,
       forall_of_mapM_eq_ok hservices fun _ _ _ => Service.hasDistinctIds_ofJson⟩
  | _ => simp [Document.ofJson] at h

/-! ## Conversion of names -/

/-- The ids of fields are those of the fields on the wire. -/
theorem Field.ids_onWire (fields : List Field) :
    (fields.map (·.onWire)).map (·.id) = fields.map (·.id) := by
  simp [Field.onWire]

theorem Field.DistinctIds.congr {fields fields' : List Field}
    (h : fields'.map (·.onWire) = fields.map (·.onWire)) (hd : Field.DistinctIds fields) :
    Field.DistinctIds fields' := by
  unfold DistinctIds at hd ⊢
  rwa [← ids_onWire fields', h, ids_onWire]

/-- Of two lists that look alike, each element of the one looks like an element of the other. -/
theorem exists_mem_of_alike {α β : Type} {g : α → β} {l l' : List α} (h : l'.map g = l.map g)
    {a' : α} (ha' : a' ∈ l') : ∃ a ∈ l, g a' = g a := by
  have hmem : g a' ∈ l.map g := h ▸ List.mem_map_of_mem ha'
  obtain ⟨a, ha, hsame⟩ := List.mem_map.mp hmem
  exact ⟨a, ha, hsame.symm⟩

/-- Documents that look alike on the wire have distinct ids together. -/
theorem Document.HasDistinctIds.congr {d d' : Document} (h : d'.onWire = d.onWire)
    (hd : d.HasDistinctIds) : d'.HasDistinctIds := by
  obtain ⟨-, -, -, -, hstructs, hservices, -⟩ := Document.onWire_eq_iff.mp h
  constructor
  · intro s' hs'
    obtain ⟨s, hs, hsame⟩ := exists_mem_of_alike hstructs hs'
    exact (hd.structs s hs).congr (Struct.onWire_eq_iff.mp hsame).2.1
  · intro s' hs' f' hf'
    obtain ⟨s, hs, hsame⟩ := exists_mem_of_alike hservices hs'
    obtain ⟨f, hf, hfunction⟩ := exists_mem_of_alike (Service.onWire_eq_iff.mp hsame).2.1 hf'
    obtain ⟨-, -, hargs, hthrows, -⟩ := ServiceFunction.onWire_eq_iff.mp hfunction
    have hids := hd.functions s hs f hf
    exact ⟨hids.args.congr hargs, hids.throws.congr hthrows⟩

theorem Document.hasDistinctIds_normalizeAll {cases : List NamingCase} {d d' : Document}
    (h : d.normalizeAll cases = .ok d') (hd : d.HasDistinctIds) : d'.HasDistinctIds :=
  hd.congr (Document.normalizeAll_keeps h).2

end ThriftScala
