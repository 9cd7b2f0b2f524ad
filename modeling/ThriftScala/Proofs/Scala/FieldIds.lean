/-
  Ids of fields in the structs that are rendered for a document.

  The descriptors and the arms of the decoder of a struct are written with the ids of its fields, so
  two of them agree exactly if two fields have one id (`nodup_writtenIds_iff`).

  The structs of a document and those of arguments have the lists of fields that were read, and their
  ids differ.  The struct of a result is made anew: in front of the declared exceptions stands the
  field of what the function gives back, with the id 0, and nobody has checked that no exception has
  this id too.  So its ids differ exactly if the function gives nothing back or no exception has the
  id 0 (`distinctIds_resultStruct_iff`).
-/
import Mathlib.Data.List.Nodup
import ThriftScala.Proofs.Json.Tokens
import ThriftScala.Proofs.Scala.Codable
import ThriftScala.Proofs.Scala.Parameters
import ThriftScala.Proofs.Schema.FieldIds

namespace ThriftScala.Scala

open Outcome

/-! ## Ids in a model -/

/-- The ids that the descriptors and the arms of a struct are written with, in order. -/
def writtenIds (m : Model) : List (Option Value) :=
  match m.lookup "fields" with
  | some (.sequence fields) => fields.map fun f => f.lookup "id"
  | _ => []

theorem fieldModel_id {names : TypeNames} {f : Field} {m : Model} (h : fieldModel names f = .ok m) :
    m.lookup "id" = some (.text (toString f.id)) := by
  obtain ⟨name, -, h⟩ := bind_eq_ok.mp h
  obtain ⟨wire, -, h⟩ := bind_eq_ok.mp h
  obtain ⟨read, -, h⟩ := bind_eq_ok.mp h
  obtain ⟨tag, -, h⟩ := bind_eq_ok.mp h
  obtain ⟨write, -, h⟩ := bind_eq_ok.mp h
  obtain ⟨type, -, h⟩ := bind_eq_ok.mp h
  cases h
  rfl

/-- A model is written with the ids of the fields, in order. -/
theorem writtenIds_eq {names : TypeNames} {s : Struct} {m : Model}
    (h : structModel names s = .ok m) :
    writtenIds m = s.fields.map fun f => some (.text (toString f.id)) := by
  obtain ⟨fields, hfields, h⟩ := bind_eq_ok.mp h
  obtain ⟨args, -, h⟩ := bind_eq_ok.mp h
  obtain ⟨constructor, -, h⟩ := bind_eq_ok.mp h
  obtain ⟨name, -, h⟩ := bind_eq_ok.mp h
  cases h
  exact map_eq_of_mapM (fun _ _ hmade => fieldModel_id hmade) hfields

/-- The ids that are written differ exactly if the ids of the fields do. -/
theorem nodup_writtenIds_iff {names : TypeNames} {s : Struct} {m : Model}
    (h : structModel names s = .ok m) :
    (writtenIds m).Nodup ↔ Field.DistinctIds s.fields := by
  have hinjective : Function.Injective fun id : Int => some (Value.text (toString id)) := by
    intro a b hab
    have htext : toString a = toString b := by simpa using hab
    exact Json.toString_int_inj htext
  have hmap : (s.fields.map fun f => some (Value.text (toString f.id))) =
      (s.fields.map (·.id)).map fun id => some (Value.text (toString id)) := by
    rw [List.map_map]
    rfl
  rw [writtenIds_eq h, hmap, List.nodup_map_iff hinjective, Field.DistinctIds]

/-! ## The struct of a result -/

/-- The ids of a result are those of the exceptions, behind 0 if something is given back. -/
theorem ids_resultStruct (f : ServiceFunction) :
    (resultStruct f).fields.map (·.id) =
      (if f.isVoid then [] else [0]) ++ f.throws.map (·.id) := by
  have hthrown : (f.throws.map thrownField).map (·.id) = f.throws.map (·.id) := by
    simp [thrownField]
  rw [resultStruct, List.map_append, hthrown, successField?]
  cases f.isVoid <;> rfl

/-- The ids of a result differ exactly if those of the exceptions do and, where something is given
    back, none of them is 0. -/
theorem distinctIds_resultStruct_iff (f : ServiceFunction) :
    Field.DistinctIds (resultStruct f).fields ↔
      Field.DistinctIds f.throws ∧ (f.isVoid = true ∨ ∀ t ∈ f.throws, t.id ≠ 0) := by
  rw [Field.DistinctIds, Field.DistinctIds, ids_resultStruct]
  cases f.isVoid with
  | true => simp
  | false => simp [and_comm]

/-! ## Documents -/

/-- **Which rendered structs have distinct ids.**  For a document that was read, whatever cases its
    names are converted to: all of its structs and all structs of arguments; and of the structs of
    results exactly those of functions that give nothing back or declare no exception with the id 0.
    Where the ids of the fields differ, so do those that the struct is written with. -/
theorem distinct_ids_of_loaded {standard v : Json} {d n : Document} {cases : List NamingCase}
    (h : Document.ofJson standard v = .ok d) (hn : d.normalizeAll cases = .ok n) :
    (∀ s ∈ n.structs, Field.DistinctIds s.fields) ∧
    (∀ service ∈ n.services, ∀ f ∈ service.functions,
      Field.DistinctIds (argsStruct f).fields ∧
      (Field.DistinctIds (resultStruct f).fields ↔
        f.isVoid = true ∨ ∀ t ∈ f.throws, t.id ≠ 0)) ∧
    ∀ (names : TypeNames) (s : Struct) (m : Model), structModel names s = .ok m →
      ((writtenIds m).Nodup ↔ Field.DistinctIds s.fields) := by
  have hids := Document.hasDistinctIds_normalizeAll hn (Document.hasDistinctIds_ofJson h)
  refine ⟨hids.structs, fun service hservice f hf => ?_, fun names s m hm => nodup_writtenIds_iff hm⟩
  obtain ⟨hargs, hthrows⟩ := hids.functions service hservice f hf
  refine ⟨hargs, ?_⟩
  rw [distinctIds_resultStruct_iff]
  exact and_iff_right hthrows

/-- A function that gives a number back and declares an exception with the id 0: its result has two
    fields with this id. -/
theorem result_with_two_zeros :
    let v : Json := .obj [("services", .arr [.obj [("name", .str "S"), ("functions", .arr [.obj
      [("name", .str "f"), ("return_type", .str "i32"), ("throws", .arr [.obj
        [("id", .int 0), ("name", .str "e"), ("type", .obj [("struct", .str "E")])]])]])]])]
    let e : Field := { id := 0, name := .str "e", type := .struct "E" }
    let f : ServiceFunction := { name := .str "f", returnType := .base .i32, throws := [e] }
    let d : Document :=
      { services := [{ name := .str "S", functions := [f] }]
        defaultNamespace := .str standardNamespace }
    Document.ofJson (.str standardNamespace) v = .ok d ∧
    (resultStruct f).fields.map (·.id) = [0, 0] ∧
    ¬ Field.DistinctIds (resultStruct f).fields := by
  intro v e f d
  have h : Document.ofJson (.str standardNamespace) v = .ok d := rfl
  have hn : d.normalizeAll [] = .ok d := rfl
  refine ⟨h, rfl, fun hdistinct => ?_⟩
  obtain ⟨-, hservices, -⟩ := distinct_ids_of_loaded h hn
  have hresult := (hservices _ (List.mem_singleton_self _) f (List.mem_singleton_self f)).2
  rcases hresult.mp hdistinct with hvoid | hzero
  · exact absurd hvoid (by decide)
  · exact hzero e (List.mem_singleton_self e) rfl

end ThriftScala.Scala
