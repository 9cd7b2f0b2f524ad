/-
  Which JSON objects are documents.

  The acceptance of a value is said here part by part, as a writer of schemas would say it: what
  must stand under a key, what may stand there, and what is asked of the parts of a list.  A value
  is accepted exactly if it describes something (`Field.isAccepted_iff` and its siblings up to
  `Document.isAccepted_iff`), and the readers give what is described; so a document is read exactly
  if it is accepted (`Document.read_iff_accepted`).
-/
import ThriftScala.Proofs.Schema.Description

namespace ThriftScala

open Layout

/-! ## Keys -/

/-- Something stands under the key. -/
def Layout.Has (node : Json) (key : String) : Prop := ∃ v, optional? node key = some v

/-- Something stands under the key, and it is such a value. -/
def Layout.HasSuch (node : Json) (key : String) (p : Json → Prop) : Prop :=
  ∃ v, optional? node key = some v ∧ p v

/-- Nothing stands under the key, or such a value. -/
def Layout.MayHave (node : Json) (key : String) (p : Json → Prop) : Prop :=
  ∀ v, optional? node key = some v → p v

/-- The value is an integer.  Truth values are none. -/
def Layout.IsInteger (v : Json) : Prop := ∃ n, v = .int n

/-- A value of some form may stand under a key exactly if the value there, or the standard one in
    its place, is of that form. -/
theorem Layout.mayHave_iff {α : Type} (node : Json) (key : String) (form : α → Json)
    (standard : α) :
    MayHave node key (fun v => ∃ a, v = form a) ↔
      ∃ a, (optional? node key).getD (form standard) = form a := by
  unfold MayHave
  cases optional? node key with
  | none => simp
  | some v => simp

/-- Each element has something that it is related to exactly if the list has. -/
theorem forall_iff_exists_forall₂ {α β : Type} {p : α → Prop} {r : α → β → Prop} {l : List α}
    (h : ∀ a ∈ l, (p a ↔ ∃ b, r a b)) : (∀ a ∈ l, p a) ↔ ∃ bs, List.Forall₂ r l bs := by
  induction l with
  | nil => simp
  | cons a l ih =>
    rw [List.forall_mem_cons, h a List.mem_cons_self,
      ih fun b hb => h b (List.mem_cons_of_mem a hb)]
    simp only [List.forall₂_cons_left_iff]
    constructor
    · rintro ⟨⟨b, hb⟩, bs, hbs⟩
      exact ⟨b :: bs, b, bs, hb, hbs, rfl⟩
    · rintro ⟨_, b, bs, hb, hbs, -⟩
      exact ⟨⟨b, hb⟩, bs, hbs⟩

/-! ## Types and constants -/

/-- The value is a type as it is written in a schema. -/
def FieldType.IsAccepted (v : Json) : Prop := ∃ t : FieldType, v = t.description

/-- The value stands for a constant. -/
def Constant.IsAccepted (v : Json) : Prop := ∃ c, Constant.Describes v c

/-! ## Fields -/

/-- The value is a field. -/
structure Field.IsAccepted (node : Json) : Prop where
  name : Has node "name"
  id : HasSuch node "id" IsInteger
  type : HasSuch node "type" FieldType.IsAccepted
  requiredness : MayHave node "requiredness" fun v => ∃ r : Requiredness, v = .str r.name
  default : MayHave node "default" Constant.IsAccepted

theorem Constant.mayHave_iff {node : Json} {key : String} :
    MayHave node key IsAccepted ↔ ∃ c?, Option.Rel Describes (optional? node key) c? := by
  unfold MayHave
  cases optional? node key with
  | none =>
    have hnone : ∃ c?, Option.Rel Describes none c? := ⟨none, .none⟩
    simpa using hnone
  | some v =>
    constructor
    · intro h
      obtain ⟨c, hc⟩ := h v rfl
      exact ⟨some c, .some hc⟩
    · rintro ⟨_, ⟨hc⟩⟩ w hw
      cases hw
      exact ⟨_, hc⟩

theorem Field.isAccepted_iff {node : Json} :
    Field.IsAccepted node ↔ ∃ f, Field.Describes node f := by
  have hrequiredness :=
    mayHave_iff node "requiredness" (fun r : Requiredness => .str r.name) .default
  constructor
  · rintro ⟨⟨name, hname⟩, ⟨_, hid, id, rfl⟩, ⟨_, htype, type, rfl⟩, hword, hdefault⟩
    obtain ⟨requiredness, hword⟩ := hrequiredness.mp hword
    obtain ⟨default?, hdefault⟩ := Constant.mayHave_iff.mp hdefault
    exact ⟨{ id, name, type, requiredness, default? }, hname, hid, hword, htype, hdefault, rfl⟩
  · rintro ⟨f, hname, hid, hword, htype, hdefault, -⟩
    exact ⟨⟨_, hname⟩, ⟨_, hid, _, rfl⟩, ⟨_, htype, _, rfl⟩, hrequiredness.mpr ⟨_, hword⟩,
      Constant.mayHave_iff.mpr ⟨_, hdefault⟩⟩

/-- The values under the key are fields, and no two of them have the same id. -/
structure Field.AreAccepted (node : Json) (key : String) : Prop where
  each : ∀ f ∈ listed node key, Field.IsAccepted f
  ids : ((listed node key).map (optional? · "id")).Nodup

/-- The ids in the values are those of the fields. -/
theorem Field.ids_of_describe {nodes : List Json} {fields : List Field}
    (h : List.Forall₂ Field.Describes nodes fields) :
    nodes.map (optional? · "id") = (fields.map (·.id)).map (some ∘ Json.int) := by
  induction h with
  | nil => rfl
  | cons hf _ ih => simp [ih, hf.id]

theorem Field.areAccepted_iff {node : Json} {key : String} :
    Field.AreAccepted node key ↔ ∃ fields, Field.DescribeAll node key fields := by
  have heach : (∀ f ∈ listed node key, Field.IsAccepted f) ↔
      ∃ fields, List.Forall₂ Field.Describes (listed node key) fields :=
    forall_iff_exists_forall₂ fun f _ => isAccepted_iff
  have hinjective : Function.Injective (some ∘ Json.int) := by
    intro m n h
    simpa using h
  constructor
  · rintro ⟨hall, hids⟩
    obtain ⟨fields, hfields⟩ := heach.mp hall
    rw [ids_of_describe hfields, List.nodup_map_iff hinjective] at hids
    exact ⟨fields, hfields, hids⟩
  · rintro ⟨fields, hfields, hids⟩
    refine ⟨heach.mpr ⟨fields, hfields⟩, ?_⟩
    rwa [ids_of_describe hfields, List.nodup_map_iff hinjective]

/-! ## Structs, enums and constants -/

/-- The value is a struct, a union or an exception. -/
structure Struct.IsAccepted (node : Json) : Prop where
  name : Has node "name"
  kind : MayHave node "kind" fun v => ∃ k : StructKind, v = .str k.name
  fields : Field.AreAccepted node "fields"

theorem Struct.isAccepted_iff {node : Json} :
    Struct.IsAccepted node ↔ ∃ s, Struct.Describes node s := by
  have hkind := mayHave_iff node "kind" (fun k : StructKind => .str k.name) .struct
  constructor
  · rintro ⟨⟨name, hname⟩, hword, hfields⟩
    obtain ⟨kind, hword⟩ := hkind.mp hword
    obtain ⟨fields, hfields⟩ := Field.areAccepted_iff.mp hfields
    exact ⟨{ name, fields, kind }, hname, hword, hfields⟩
  · rintro ⟨s, hname, hword, hfields⟩
    exact ⟨⟨_, hname⟩, hkind.mpr ⟨_, hword⟩, Field.areAccepted_iff.mpr ⟨_, hfields⟩⟩

/-- The value is a value of an enum. -/
structure EnumValue.IsAccepted (node : Json) : Prop where
  name : Has node "name"
  number : HasSuch node "value" IsInteger

theorem EnumValue.isAccepted_iff {node : Json} :
    EnumValue.IsAccepted node ↔ ∃ v, EnumValue.Describes node v := by
  constructor
  · rintro ⟨⟨name, hname⟩, ⟨_, hnumber, number, rfl⟩⟩
    exact ⟨{ name, number }, hname, hnumber⟩
  · rintro ⟨v, hname, hnumber⟩
    exact ⟨⟨_, hname⟩, ⟨_, hnumber, _, rfl⟩⟩

/-- The value is an enum. -/
structure EnumDef.IsAccepted (node : Json) : Prop where
  name : Has node "name"
  values : ∀ v ∈ listed node "values", EnumValue.IsAccepted v

theorem EnumDef.isAccepted_iff {node : Json} :
    EnumDef.IsAccepted node ↔ ∃ e, EnumDef.Describes node e := by
  have hvalues : (∀ v ∈ listed node "values", EnumValue.IsAccepted v) ↔
      ∃ values, List.Forall₂ EnumValue.Describes (listed node "values") values :=
    forall_iff_exists_forall₂ fun v _ => EnumValue.isAccepted_iff
  constructor
  · rintro ⟨⟨name, hname⟩, hall⟩
    obtain ⟨values, hall⟩ := hvalues.mp hall
    exact ⟨{ name, values }, hname, hall⟩
  · rintro ⟨e, hname, hall⟩
    exact ⟨⟨_, hname⟩, hvalues.mpr ⟨_, hall⟩⟩

/-- The value is a constant that a document declares. -/
structure Const.IsAccepted (node : Json) : Prop where
  name : Has node "name"
  type : HasSuch node "type" FieldType.IsAccepted
  value : HasSuch node "value" Constant.IsAccepted

theorem Const.isAccepted_iff {node : Json} :
    Const.IsAccepted node ↔ ∃ c, Const.Describes node c := by
  constructor
  · rintro ⟨⟨name, hname⟩, ⟨_, htype, type, rfl⟩, ⟨v, hv, value, hvalue⟩⟩
    exact ⟨{ name, type, value }, hname, htype, v, hv, hvalue⟩
  · rintro ⟨c, hname, htype, v, hv, hvalue⟩
    exact ⟨⟨_, hname⟩, ⟨_, htype, _, rfl⟩, ⟨v, hv, _, hvalue⟩⟩

/-! ## Services -/

/-- The value is a function. -/
structure ServiceFunction.IsAccepted (node : Json) : Prop where
  name : Has node "name"
  returnType : MayHave node "return_type" FieldType.IsAccepted
  args : Field.AreAccepted node "args"
  throws : Field.AreAccepted node "throws"

theorem ServiceFunction.isAccepted_iff {node : Json} :
    ServiceFunction.IsAccepted node ↔ ∃ f, ServiceFunction.Describes node f := by
  have hreturn := mayHave_iff node "return_type" FieldType.description (.base .void)
  constructor
  · rintro ⟨⟨name, hname⟩, htype, hargs, hthrows⟩
    obtain ⟨returnType, htype⟩ := hreturn.mp htype
    obtain ⟨args, hargs⟩ := Field.areAccepted_iff.mp hargs
    obtain ⟨throws, hthrows⟩ := Field.areAccepted_iff.mp hthrows
    exact ⟨{ name, returnType, args, throws, oneway := _ }, hname, htype, hargs, hthrows, rfl, rfl⟩
  · rintro ⟨f, hname, htype, hargs, hthrows, -, -⟩
    exact ⟨⟨_, hname⟩, hreturn.mpr ⟨_, htype⟩, Field.areAccepted_iff.mpr ⟨_, hargs⟩,
      Field.areAccepted_iff.mpr ⟨_, hthrows⟩⟩

/-- The value is a service. -/
structure Service.IsAccepted (node : Json) : Prop where
  name : Has node "name"
  functions : ∀ f ∈ listed node "functions", ServiceFunction.IsAccepted f

theorem Service.isAccepted_iff {node : Json} :
    Service.IsAccepted node ↔ ∃ s, Service.Describes node s := by
  have hfunctions : (∀ f ∈ listed node "functions", ServiceFunction.IsAccepted f) ↔
      ∃ functions, List.Forall₂ ServiceFunction.Describes (listed node "functions") functions :=
    forall_iff_exists_forall₂ fun f _ => ServiceFunction.isAccepted_iff
  constructor
  · rintro ⟨⟨name, hname⟩, hall⟩
    obtain ⟨functions, hall⟩ := hfunctions.mp hall
    exact ⟨{ name, functions, parent := _ }, hname, hall, rfl⟩
  · rintro ⟨s, hname, hall, -⟩
    exact ⟨⟨_, hname⟩, hfunctions.mpr ⟨_, hall⟩⟩

/-! ## Documents -/

mutual

/-- The value is a document. -/
inductive Document.IsAccepted : Json → Prop
  | intro {members : List (String × Json)}
    (includes : ∀ i ∈ listed (.obj members) "includes", Document.IsAcceptedInclude i)
    (consts : ∀ c ∈ listed (.obj members) "consts", Const.IsAccepted c)
    (enums : ∀ e ∈ listed (.obj members) "enums", EnumDef.IsAccepted e)
    (structs : ∀ s ∈ listed (.obj members) "structs", Struct.IsAccepted s)
    (services : ∀ s ∈ listed (.obj members) "services", Service.IsAccepted s) :
    Document.IsAccepted (.obj members)

/-- The value is an include: a path and a document. -/
inductive Document.IsAcceptedInclude : Json → Prop
  | intro {node path v : Json} (hpath : optional? node "path" = some path)
    (hdocument : optional? node "document" = some v) (h : Document.IsAccepted v) :
    Document.IsAcceptedInclude node

end

/-- What is accepted is what describes a document. -/
theorem Document.isAccepted_iff (standard : Json) : ∀ {node : Json}, IsArranged node →
    (Document.IsAccepted node ↔ ∃ d, Document.Describes standard node d)
  | .obj members, .intro hnamespaces _ _ _ _ _ _ _ _ hincluded => by
    -- an included document is smaller, so the statement holds of it already
    have hincludes : (∀ i ∈ listed (.obj members) "includes", Document.IsAcceptedInclude i) ↔
        ∃ includes, List.Forall₂ (Document.DescribesInclude standard)
          (listed (.obj members) "includes") includes := by
      refine forall_iff_exists_forall₂ fun i hi => ?_
      constructor
      · rintro ⟨hpath, hv, hd⟩
        obtain ⟨d, hd⟩ := (Document.isAccepted_iff standard (hincluded i hi _ hv)).mp hd
        exact ⟨_, .intro hpath hv hd⟩
      · rintro ⟨_, hpath, hv, hd⟩
        have hd := (Document.isAccepted_iff standard (hincluded i hi _ hv)).mpr ⟨_, hd⟩
        exact .intro hpath hv hd
    have hpackages : ∃ namespaces,
        (optional? (.obj members) "namespaces").getD (.obj []) = .obj namespaces := by
      cases hv : optional? (.obj members) "namespaces" with
      | none => exact ⟨[], rfl⟩
      | some v => exact hnamespaces v hv
    constructor
    · rintro ⟨hincluded, hconsts, henums, hstructs, hservices⟩
      obtain ⟨namespaces, hnamespaces⟩ := hpackages
      obtain ⟨includes, hincluded⟩ := hincludes.mp hincluded
      obtain ⟨consts, hconsts⟩ :=
        (forall_iff_exists_forall₂ fun c _ => Const.isAccepted_iff).mp hconsts
      obtain ⟨enums, henums⟩ :=
        (forall_iff_exists_forall₂ fun e _ => EnumDef.isAccepted_iff).mp henums
      obtain ⟨structs, hstructs⟩ :=
        (forall_iff_exists_forall₂ fun s _ => Struct.isAccepted_iff).mp hstructs
      obtain ⟨services, hservices⟩ :=
        (forall_iff_exists_forall₂ fun s _ => Service.isAccepted_iff).mp hservices
      exact ⟨{ namespaces, includes, consts, enums, structs, services, defaultNamespace := standard },
        .intro hnamespaces hincluded hconsts henums hstructs hservices rfl⟩
    · rintro ⟨d, -, hincluded, hconsts, henums, hstructs, hservices, -⟩
      exact .intro (hincludes.mpr ⟨_, hincluded⟩)
        ((forall_iff_exists_forall₂ fun c _ => Const.isAccepted_iff).mpr ⟨_, hconsts⟩)
        ((forall_iff_exists_forall₂ fun e _ => EnumDef.isAccepted_iff).mpr ⟨_, henums⟩)
        ((forall_iff_exists_forall₂ fun s _ => Struct.isAccepted_iff).mpr ⟨_, hstructs⟩)
        ((forall_iff_exists_forall₂ fun s _ => Service.isAccepted_iff).mpr ⟨_, hservices⟩)
  | .null, _ | .bool _, _ | .int _, _ | .double _, _ | .str _, _ | .arr _, _ => by
    constructor
    · intro h
      cases h
    · rintro ⟨d, h⟩
      cases h
termination_by node => sizeOf node
decreasing_by
  all_goals exact Nat.lt_trans (sizeOf_optional?_lt hv) (sizeOf_listed_lt hi)

/-- **A JSON object is read as a document exactly if it is one.**  What is read is the document that
    the object describes, and what is not read is reported: no object whose lists are lists meets a
    misuse. -/
theorem Document.read_iff_accepted (standard : Json) {members : List (String × Json)}
    (h : IsArranged (.obj members)) :
    ((∃ d, Document.ofJson standard (.obj members) = .ok d) ↔ IsAccepted (.obj members)) ∧
    (∀ d, Document.ofJson standard (.obj members) = .ok d →
      Document.Describes standard (.obj members) d) ∧
    ∀ e, Document.ofJson standard (.obj members) = .error e → ∀ m, e ≠ .misuse m := by
  have hreads := Document.reads_ofJson standard h
  refine ⟨?_, fun d hd => (hreads.value d).mp hd, ?_⟩
  · rw [isAccepted_iff standard h]
    exact exists_congr hreads.value
  · rintro _ he m rfl
    exact hreads.report m he

/-- A document with an include and a struct is read, hence accepted. -/
theorem Document.book_is_accepted :
    Document.IsAccepted (.obj [
      ("includes", .arr [.obj [("path", .str "shared.thrift"), ("document", .obj [])]]),
      ("structs", .arr [.obj [("name", .str "Book"), ("fields", .arr [
        .obj [("id", .int 1), ("name", .str "title"), ("type", .str "string")]])]])]) := by
  have hshared : IsArranged (.obj []) := by
    constructor <;> simp [HasList, optional?, listed]
  refine (read_iff_accepted (.str standardNamespace) ?_).1.mp ⟨_, rfl⟩
  constructor <;> simp [HasList, optional?, listed, List.lookup_cons, hshared]

end ThriftScala
