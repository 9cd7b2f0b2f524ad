/-
  What a JSON value describes, and that the readers of the layout give just that.

  `FieldType.description` writes a type down, and `Constant.Describes`, `Field.Describes` and so on
  up to `Document.Describes` say of a JSON value and a part of a document that the value describes
  the part.  They speak of the value only: no order of checks, no error and no text of a message is
  in them.  Beside each stands the lemma on its reader, `Field.reads_ofJson` and so on.

  The readers of lists ask for lists, so `Document.IsArranged` says it of every list of parts in a
  document and in the documents that it includes.
-/
import ThriftScala.Proofs.Schema.FieldIds
import ThriftScala.Proofs.Schema.Reads

namespace ThriftScala

open Outcome Layout

/-! ## Types -/

/-- A type as it is written in a schema. -/
def FieldType.description : FieldType → Json
  | .base b => .str b.name
  | .list t => .obj [("list", t.description)]
  | .set t => .obj [("set", t.description)]
  | .map k v => .obj [("map", .arr [k.description, v.description])]
  | .enum name => .obj [("enum", .str name)]
  | .struct name => .obj [("struct", .str name)]
  | .reference name => .obj [("ref", .str name)]

/-- **A type is read exactly from its description.** -/
theorem FieldType.reads_ofJson (v : Json) :
    Reads (fun t : FieldType => v = t.description) (FieldType.ofJson v) := by
  fun_induction FieldType.ofJson v with
  | case1 s b hb =>
    refine (Reads.ok (base b)).congr fun t => ?_
    cases t <;> simp [description, ← BaseType.ofName?_eq_some, hb]
  | case2 s hb =>
    refine .error (fun t => ?_) (by simp)
    cases t <;> simp [description, ← BaseType.ofName?_eq_some, hb]
  | case3 arg ih | case4 arg ih =>
    refine ih.map.congr fun t => ?_
    cases t <;> simp [description]
  | case5 key value ihkey ihvalue =>
    refine (ihkey.bind fun k => ihvalue.bind fun v => .ok (map k v)).congr fun t => ?_
    cases t <;> simp [description]
  | case6 arg hpair =>
    refine .error (fun t ht => ?_) (by simp)
    cases t <;> simp [description] at ht
    exact hpair _ _ ht
  | case7 name | case8 name | case9 name =>
    refine (Reads.ok _).congr fun t => ?_
    cases t <;> simp [description]
  | case10 kind arg hlist hset _ hmap henum hstruct href _
  | case11 kind arg hlist hset _ hmap henum hstruct href _ =>
    -- the kinds of the seven forms are the words above, with the arguments that were taken there
    refine .error (fun t ht => ?_) (by simp)
    cases t <;> simp [description] at ht
    · exact hlist ht.1
    · exact hset ht.1
    · exact hmap ht.1
    · exact henum _ ht.1 ht.2
    · exact hstruct _ ht.1 ht.2
    · exact href _ ht.1 ht.2
  | case12 v hstr hlist hset _ hmap henum hstruct href _ =>
    refine .error (fun t ht => ?_) (by simp)
    cases t with
    | base b => exact hstr _ ht
    | list t => exact hlist _ ht
    | set t => exact hset _ ht
    | map k v => exact hmap _ ht
    | enum name => exact henum _ ht
    | struct name => exact hstruct _ ht
    | reference name => exact href _ ht

/-! ## Constants -/

mutual

/-- The value stands for the constant.  The two keys of an enum value come in either order. -/
def Constant.Describes (v : Json) : Constant → Prop
  | .null => v = .null
  | .bool b => v = .bool b
  | .int n => v = .int n
  | .double x => v = .double x
  | .str s => v = .str s
  | .list cs => ∃ elems, v = .arr elems ∧ Constant.DescribeElems elems cs
  | .map cs => ∃ pairs, v = .obj [("map", .arr pairs)] ∧ Constant.DescribePairs pairs cs
  | .enumValue enum value =>
    v = .obj [("enum", enum), ("value", value)] ∨ v = .obj [("value", value), ("enum", enum)]
  | .identifier name => v = .obj [("identifier", name)]

/-- The values stand for the constants, one by one. -/
def Constant.DescribeElems : List Json → List Constant → Prop
  | [], [] => True
  | v :: vs, c :: cs => Constant.Describes v c ∧ Constant.DescribeElems vs cs
  | _, _ => False

/-- The values are lists of two, which stand for the pairs of constants. -/
def Constant.DescribePairs : List Json → List (Constant × Constant) → Prop
  | [], [] => True
  | p :: ps, (ck, cv) :: cs =>
    (∃ k v, p = .arr [k, v] ∧ Constant.Describes k ck ∧ Constant.Describes v cv) ∧
      Constant.DescribePairs ps cs
  | _, _ => False

end

/-- What stands for pairs are lists of two. -/
theorem Constant.DescribePairs.all_isPair : ∀ {pairs : List Json} {cs : List (Constant × Constant)},
    DescribePairs pairs cs → pairs.all isPair = true
  | [], [], _ => rfl
  | p :: ps, (ck, cv) :: cs, h => by
    rw [DescribePairs] at h
    obtain ⟨⟨k, v, rfl, -, -⟩, hrest⟩ := h
    simpa [isPair] using hrest.all_isPair
  | [], _ :: _, h => by simp [DescribePairs] at h
  | _ :: _, [], h => by simp [DescribePairs] at h

namespace Constant

/-! ### Objects under the key for maps -/

/-- A map is read if its pairs are. -/
theorem reads_mapped {pairs : List Json} (hpairs : pairs.all isPair = true)
    (h : Reads (DescribePairs pairs) (pairsOfJson pairs)) :
    Reads (Describes (.obj [("map", .arr pairs)])) (ofJson (.obj [("map", .arr pairs)])) := by
  rw [ofJson, if_pos hpairs]
  refine h.map.congr fun c => ?_
  cases c <;> simp [Describes]

/-- A map is not made of anything but lists of two. -/
theorem reads_unpaired {pairs : List Json} (hpairs : ¬ pairs.all isPair = true) :
    Reads (Describes (.obj [("map", .arr pairs)])) (ofJson (.obj [("map", .arr pairs)])) := by
  rw [ofJson, if_neg hpairs]
  refine .error (fun c hc => ?_) (by simp)
  cases c <;> simp [Describes] at hc
  exact hpairs hc.all_isPair

/-- A map is not made of anything but a list. -/
theorem reads_unlisted {v : Json} (hv : ∀ pairs, v = .arr pairs → False) :
    Reads (Describes (.obj [("map", v)])) (ofJson (.obj [("map", v)])) := by
  have hread : ofJson (.obj [("map", v)]) = .error (.badMapConstant v) := by
    rw [ofJson]
    exact hv
  rw [hread]
  refine .error (fun c hc => ?_) (by simp)
  cases c <;> simp [Describes] at hc
  obtain ⟨pairs, hpairs, -⟩ := hc
  exact hv pairs hpairs

/-! ### Elements and pairs, one by one -/

/-- Elements are read one after the other. -/
theorem reads_cons {v : Json} {vs : List Json} (hv : Reads (Describes v) (ofJson v))
    (hvs : Reads (DescribeElems vs) (listOfJson vs)) :
    Reads (DescribeElems (v :: vs)) (listOfJson (v :: vs)) := by
  rw [listOfJson]
  refine (hv.bind fun c => hvs.bind fun cs => .ok (c :: cs)).congr fun cs => ?_
  cases cs <;> simp [DescribeElems]

/-- A pair is read if both its constants are. -/
theorem reads_pair {k v : Json} {ps : List Json} (hk : Reads (Describes k) (ofJson k))
    (hv : Reads (Describes v) (ofJson v)) (hps : Reads (DescribePairs ps) (pairsOfJson ps)) :
    Reads (DescribePairs (.arr [k, v] :: ps)) (pairsOfJson (.arr [k, v] :: ps)) := by
  rw [pairsOfJson]
  refine (hk.bind fun k => hv.bind fun v => hps.bind fun cs => .ok ((k, v) :: cs)).congr
    fun cs => ?_
  cases cs with
  | nil => simp [DescribePairs]
  | cons c cs =>
    obtain ⟨ck, cv⟩ := c
    simp [DescribePairs]
    tauto

/-- What is no list of two stands for no pair. -/
theorem reads_no_pair {p : Json} {ps : List Json} (hp : ∀ k v, p = .arr [k, v] → False) :
    Reads (DescribePairs (p :: ps)) (pairsOfJson (p :: ps)) := by
  have hread : pairsOfJson (p :: ps) = .error (.badMapConstant p) := by
    rw [pairsOfJson]
    exact hp
  rw [hread]
  refine .error (fun cs hcs => ?_) (by simp)
  cases cs with
  | nil => simp [DescribePairs] at hcs
  | cons c cs =>
    obtain ⟨⟨k, v, rfl, -, -⟩, -⟩ := hcs
    exact hp k v rfl

/-! ### All readers -/

/-- What the three readers of constants give. -/
theorem reads :
    (∀ v, Reads (Describes v) (ofJson v)) ∧
    (∀ ps, Reads (DescribePairs ps) (pairsOfJson ps)) ∧
    (∀ vs, Reads (DescribeElems vs) (listOfJson vs)) := by
  apply ofJson.mutual_induct
  case case1 | case2 | case3 | case4 | case5 | case10 | case11 | case12 =>
    intros
    rw [ofJson]
    refine (Reads.ok _).congr fun c => ?_
    cases c <;> simp [Describes, and_comm]
  case case6 =>
    intro elems ih
    rw [ofJson]
    refine ih.map.congr fun c => ?_
    cases c <;> simp [Describes]
  case case7 => exact fun pairs => reads_mapped
  case case8 => exact fun pairs => reads_unpaired
  case case9 => exact fun v => reads_unlisted
  case case13 =>
    -- the value has none of the forms that a constant has
    intro v hnull hbool hint hdouble hstr harr hmap hmapped henum hvalue hidentifier
    have hread : ofJson v = .error (.badConstant v) := by
      rw [ofJson] <;> assumption
    rw [hread]
    refine .error (fun c hc => ?_) (by simp)
    cases c with
    | null => exact hnull hc
    | bool b => exact hbool b hc
    | int n => exact hint n hc
    | double x => exact hdouble x hc
    | str s => exact hstr s hc
    | list cs => exact hc.elim fun elems h => harr elems h.1
    | map cs => exact hc.elim fun pairs h => hmap pairs h.1
    | enumValue enum value => exact hc.elim (henum enum value) (hvalue value enum)
    | identifier name => exact hidentifier name hc
  case case14 =>
    rw [pairsOfJson]
    refine (Reads.ok _).congr fun cs => ?_
    cases cs <;> simp [DescribePairs]
  case case17 =>
    rw [listOfJson]
    refine (Reads.ok _).congr fun cs => ?_
    cases cs <;> simp [DescribeElems]
  case case15 => exact fun k v ps => reads_pair
  case case16 => exact fun p ps => reads_no_pair
  case case18 => exact fun v vs => reads_cons

end Constant

/-- **A constant is read exactly from a value that describes it.** -/
theorem Constant.reads_ofJson (v : Json) : Reads (Constant.Describes v) (Constant.ofJson v) :=
  Constant.reads.1 v

/-- A chain that goes on with a constant that may be missing. -/
theorem Constant.reads_optional {β : Type} {value? : Option Json} {f : Option Constant → Loaded β}
    {s : Option Constant → β → Prop} (hf : ∀ c?, Reads (s c?) (f c?)) :
    Reads (fun b => ∃ c?, Option.Rel Constant.Describes value? c? ∧ s c? b)
      (match value? with
        | none => pure none >>= f
        | some v => (Constant.ofJson v).map some >>= f) := by
  cases value? with
  | none =>
    refine (hf none).congr fun b => ⟨fun h => ⟨none, .none, h⟩, ?_⟩
    rintro ⟨_, ⟨⟩, h⟩
    exact h
  | some v =>
    refine ((Constant.reads_ofJson v).map.bind hf).congr fun b => ⟨?_, ?_⟩
    · rintro ⟨_, ⟨c, hc, rfl⟩, h⟩
      exact ⟨some c, .some hc, h⟩
    · rintro ⟨_, ⟨hc⟩, h⟩
      exact ⟨_, ⟨_, hc, rfl⟩, h⟩

/-! ## Fields -/

/-- The value describes the field. -/
structure Field.Describes (node : Json) (f : Field) : Prop where
  name : optional? node "name" = some f.name
  id : optional? node "id" = some (.int f.id)
  requiredness : (optional? node "requiredness").getD (.str "default") = .str f.requiredness.name
  type : optional? node "type" = some f.type.description
  default : Option.Rel Constant.Describes (optional? node "default") f.default?
  spelling : f.spelling? = none

/-- A field is read exactly from an object that describes it. -/
theorem Field.reads_ofJson (place : String) (node : Json) :
    Reads (Field.Describes node) (Field.ofJson place node) := by
  unfold Field.ofJson
  refine .congr (.bind reads_require fun name => .bind reads_require fun idValue =>
    reads_integer (fun _ => by simp) fun id =>
    .bind (reads_choiceUnder (fun _ _ => Requiredness.ofName?_eq_some) fun _ _ => by simp)
      fun requiredness =>
    .bind reads_require fun typeValue => .bind (FieldType.reads_ofJson typeValue) fun type =>
    Constant.reads_optional fun default? => .ok _) fun f => ?_
  constructor
  · rintro ⟨name, hname, idValue, hid, id, rfl, requiredness, hrequiredness, typeValue, htype, type,
      rfl, default?, hdefault, rfl⟩
    exact ⟨hname, hid, hrequiredness, htype, hdefault, rfl⟩
  · rintro ⟨hname, hid, hrequiredness, htype, hdefault, hspelling⟩
    refine ⟨_, hname, _, hid, _, rfl, _, hrequiredness, _, htype, _, rfl, _, hdefault, ?_⟩
    rw [← hspelling]

/-- The values under the key describe the fields, and no two of these have the same id. -/
structure Field.DescribeAll (node : Json) (key : String) (fields : List Field) : Prop where
  each : List.Forall₂ Field.Describes (listed node key) fields
  ids : Field.DistinctIds fields

/-- Fields are taken as they are if no two of them have the same number. -/
theorem Field.reads_distinct {e : Int → DocumentError} {fields : List Field}
    (he : ∀ id m, e id ≠ .misuse m) :
    Reads (fun made => Field.DistinctIds fields ∧ fields = made)
      (match Field.duplicateId? [] fields with
        | some id => throw (e id)
        | none => pure fields) := by
  have hiff : Field.duplicateId? [] fields = none ↔ Field.DistinctIds fields := by
    simp [duplicateId?_eq_none_iff]
  cases hduplicate : Field.duplicateId? [] fields with
  | none =>
    have hids := hiff.mp hduplicate
    exact (Reads.ok fields).congr fun made => by simp [hids]
  | some id =>
    have hids : ¬ Field.DistinctIds fields := fun h => by simp [hiff.mpr h] at hduplicate
    exact .error (fun made h => hids h.1) (he id)

/-- Fields are read exactly from a list that describes them all, with distinct numbers. -/
theorem Field.reads_listOfJson {place key : String} {node : Json} (hlist : HasList node key) :
    Reads (Field.DescribeAll node key) (Field.listOfJson place node key) := by
  unfold Field.listOfJson
  refine .congr (reads_listed hlist (fun part _ => Field.reads_ofJson place part) fun fields =>
    reads_distinct fun _ _ => by simp) fun fields => ?_
  constructor
  · rintro ⟨_, heach, hids, rfl⟩
    exact ⟨heach, hids⟩
  · rintro ⟨heach, hids⟩
    exact ⟨fields, heach, hids, rfl⟩

/-! ## Structs, enums and constants -/

/-- The value describes the struct. -/
structure Struct.Describes (node : Json) (s : Struct) : Prop where
  name : optional? node "name" = some s.name
  kind : (optional? node "kind").getD (.str "struct") = .str s.kind.name
  fields : Field.DescribeAll node "fields" s.fields

/-- A struct is read exactly from an object that describes it. -/
theorem Struct.reads_ofJson {node : Json} (h : HasList node "fields") :
    Reads (Struct.Describes node) (Struct.ofJson node) := by
  unfold Struct.ofJson
  refine .congr (.bind reads_require fun name =>
    .bind (reads_choiceUnder (fun _ _ => StructKind.ofName?_eq_some) fun _ _ => by simp)
      fun kind =>
    .bind (Field.reads_listOfJson h) fun fields => .ok _) fun s => ?_
  constructor
  · rintro ⟨name, hname, kind, hkind, fields, hfields, rfl⟩
    exact ⟨hname, hkind, hfields⟩
  · rintro ⟨hname, hkind, hfields⟩
    exact ⟨_, hname, _, hkind, _, hfields, rfl⟩

/-- The value describes the value of an enum. -/
structure EnumValue.Describes (node : Json) (v : EnumValue) : Prop where
  name : optional? node "name" = some v.name
  number : optional? node "value" = some (.int v.number)

/-- A member of an enum is read exactly from an object that describes it. -/
theorem EnumValue.reads_ofJson (enum node : Json) :
    Reads (EnumValue.Describes node) (EnumValue.ofJson enum node) := by
  unfold EnumValue.ofJson
  refine .congr (.bind reads_require fun name => .bind reads_require fun value =>
    reads_integer (fun _ => by simp) fun number => .ok _) fun v => ?_
  constructor
  · rintro ⟨name, hname, value, hvalue, number, rfl, rfl⟩
    exact ⟨hname, hvalue⟩
  · rintro ⟨hname, hnumber⟩
    exact ⟨_, hname, _, hnumber, _, rfl, rfl⟩

/-- The value describes the enum. -/
structure EnumDef.Describes (node : Json) (e : EnumDef) : Prop where
  name : optional? node "name" = some e.name
  values : List.Forall₂ EnumValue.Describes (listed node "values") e.values

/-- An enum is read exactly from an object that describes it. -/
theorem EnumDef.reads_ofJson {node : Json} (h : HasList node "values") :
    Reads (EnumDef.Describes node) (EnumDef.ofJson node) := by
  unfold EnumDef.ofJson
  refine .congr (.bind reads_require fun name =>
    reads_listed h (fun part _ => EnumValue.reads_ofJson name part) fun values => .ok _)
    fun e => ?_
  constructor
  · rintro ⟨name, hname, values, hvalues, rfl⟩
    exact ⟨hname, hvalues⟩
  · rintro ⟨hname, hvalues⟩
    exact ⟨_, hname, _, hvalues, rfl⟩

/-- The value describes the constant that a document declares. -/
structure Const.Describes (node : Json) (c : Const) : Prop where
  name : optional? node "name" = some c.name
  type : optional? node "type" = some c.type.description
  value : ∃ v, optional? node "value" = some v ∧ Constant.Describes v c.value

/-- A named constant is read exactly from an object that describes it. -/
theorem Const.reads_ofJson (node : Json) : Reads (Const.Describes node) (Const.ofJson node) := by
  unfold Const.ofJson
  refine .congr (.bind reads_require fun name =>
    .bind reads_require fun typeValue => .bind (FieldType.reads_ofJson typeValue) fun type =>
    .bind reads_require fun v => .bind (Constant.reads_ofJson v) fun value => .ok _)
    fun c => ?_
  constructor
  · rintro ⟨name, hname, typeValue, htype, type, rfl, v, hv, value, hvalue, rfl⟩
    exact ⟨hname, htype, v, hv, hvalue⟩
  · rintro ⟨hname, htype, v, hv, hvalue⟩
    exact ⟨_, hname, _, htype, _, rfl, v, hv, _, hvalue, rfl⟩

/-! ## Services -/

/-- What is listed for a function is in lists. -/
structure ServiceFunction.IsArranged (node : Json) : Prop where
  args : HasList node "args"
  throws : HasList node "throws"

/-- The value describes the function. -/
structure ServiceFunction.Describes (node : Json) (f : ServiceFunction) : Prop where
  name : optional? node "name" = some f.name
  returnType : (optional? node "return_type").getD (.str "void") = f.returnType.description
  args : Field.DescribeAll node "args" f.args
  throws : Field.DescribeAll node "throws" f.throws
  oneway : ((optional? node "oneway").getD (.bool false)).truthy = f.oneway
  spelling : f.spelling? = none

/-- A function is read exactly from an object that describes it. -/
theorem ServiceFunction.reads_ofJson (service : Json) {node : Json} (h : IsArranged node) :
    Reads (ServiceFunction.Describes node) (ServiceFunction.ofJson service node) := by
  unfold ServiceFunction.ofJson
  refine .congr (.bind reads_require fun name => .bind (FieldType.reads_ofJson _) fun returnType =>
    .bind (Field.reads_listOfJson h.args) fun args =>
    .bind (Field.reads_listOfJson h.throws) fun throws => .ok _) fun f => ?_
  constructor
  · rintro ⟨name, hname, returnType, hreturn, args, hargs, throws, hthrows, rfl⟩
    exact ⟨hname, hreturn, hargs, hthrows, rfl, rfl⟩
  · rintro ⟨hname, hreturn, hargs, hthrows, honeway, hspelling⟩
    refine ⟨_, hname, _, hreturn, _, hargs, _, hthrows, ?_⟩
    rw [honeway, ← hspelling]

/-- What is listed for a service and its functions is in lists. -/
structure Service.IsArranged (node : Json) : Prop where
  functions : HasList node "functions"
  each : ∀ f ∈ listed node "functions", ServiceFunction.IsArranged f

/-- The value describes the service. -/
structure Service.Describes (node : Json) (s : Service) : Prop where
  name : optional? node "name" = some s.name
  functions : List.Forall₂ ServiceFunction.Describes (listed node "functions") s.functions
  parent : (optional? node "parent").getD .null = s.parent

/-- A service is read exactly from an object that describes it. -/
theorem Service.reads_ofJson {node : Json} (h : IsArranged node) :
    Reads (Service.Describes node) (Service.ofJson node) := by
  unfold Service.ofJson
  refine .congr (.bind reads_require fun name =>
    reads_listed h.functions (fun f hf => ServiceFunction.reads_ofJson name (h.each f hf))
      fun functions => .ok _) fun s => ?_
  constructor
  · rintro ⟨name, hname, functions, hfunctions, rfl⟩
    exact ⟨hname, hfunctions, rfl⟩
  · rintro ⟨hname, hfunctions, hparent⟩
    refine ⟨_, hname, _, hfunctions, ?_⟩
    rw [hparent]

/-! ## Documents -/

/-- The namespaces are an object, and what is listed is in lists: in the document, in its parts and
    in the documents that it includes. -/
inductive Document.IsArranged : Json → Prop
  | intro {node : Json}
    (namespaces : ∀ v, optional? node "namespaces" = some v → ∃ members, v = .obj members)
    (includes : HasList node "includes") (consts : HasList node "consts")
    (enums : HasList node "enums") (structs : HasList node "structs")
    (services : HasList node "services")
    (values : ∀ e ∈ listed node "enums", HasList e "values")
    (fields : ∀ s ∈ listed node "structs", HasList s "fields")
    (functions : ∀ s ∈ listed node "services", Service.IsArranged s)
    (included : ∀ i ∈ listed node "includes", ∀ v, optional? i "document" = some v →
      Document.IsArranged v) :
    Document.IsArranged node

mutual

/-- The value describes the document; `standard` is the package where the document names none. -/
inductive Document.Describes (standard : Json) : Json → Document → Prop
  | intro {members : List (String × Json)} {d : Document}
    (namespaces : (optional? (.obj members) "namespaces").getD (.obj []) = .obj d.namespaces)
    (includes : List.Forall₂ (Document.DescribesInclude standard)
      (listed (.obj members) "includes") d.includes)
    (consts : List.Forall₂ Const.Describes (listed (.obj members) "consts") d.consts)
    (enums : List.Forall₂ EnumDef.Describes (listed (.obj members) "enums") d.enums)
    (structs : List.Forall₂ Struct.Describes (listed (.obj members) "structs") d.structs)
    (services : List.Forall₂ Service.Describes (listed (.obj members) "services") d.services)
    (defaultNamespace : d.defaultNamespace = standard) :
    Document.Describes standard (.obj members) d

/-- The value describes an included document and its path. -/
inductive Document.DescribesInclude (standard : Json) : Json → Json × Document → Prop
  | intro {node path v : Json} {d : Document} (hpath : optional? node "path" = some path)
    (hdocument : optional? node "document" = some v) (h : Document.Describes standard v d) :
    Document.DescribesInclude standard node (path, d)

end

/-- The packages of a document, where they are an object at all. -/
theorem Layout.reads_namespaces {node : Json}
    (h : ∀ v, optional? node "namespaces" = some v → ∃ members, v = .obj members) :
    Reads (fun namespaces => (optional? node "namespaces").getD (.obj []) = .obj namespaces)
      (namespacesOf node) := by
  unfold namespacesOf
  cases hv : optional? node "namespaces" with
  | none => exact (Reads.ok []).congr fun namespaces => by simp
  | some v =>
    obtain ⟨members, rfl⟩ := h v hv
    exact (Reads.ok members).congr fun namespaces => by simp

/-- The document among the members of an include is the one under its key. -/
theorem Document.amongMembers_eq (standard : Json) (place : String)
    (members : List (String × Json)) :
    amongMembers standard place members =
      require place (.obj members) "document" >>= ofJson standard := by
  induction members with
  | nil => rfl
  | cons m members ih =>
    obtain ⟨key, v⟩ := m
    rw [amongMembers, ih]
    by_cases hkey : key = "document"
    · simp [hkey, require]
    · have hne : ("document" == key) = false := by simpa using Ne.symm hkey
      simp [hkey, require, List.lookup_cons, hne]

/-- An include has a path and a document. -/
theorem Document.includeOf_eq (standard node : Json) :
    includeOf standard node = (do
      let path ← require "include" node "path"
      let v ← require ("include '" ++ path.display ++ "'") node "document"
      let document ← ofJson standard v
      pure (path, document)) := by
  cases node with
  | obj members => simp only [includeOf, amongMembers_eq, bind_assoc]
  | _ => simp [includeOf, require]

/-- Includes are read one after the other. -/
theorem Document.includeList_eq (standard : Json) (nodes : List Json) :
    includeList standard nodes = nodes.mapM (includeOf standard) := by
  induction nodes with
  | nil => rfl
  | cons node nodes ih => rw [includeList, List.mapM_cons, ih]

/-- The includes of a document are those in the list under their key. -/
theorem Document.includesAmong_eq (standard : Json) : ∀ {members : List (String × Json)},
    HasList (.obj members) "includes" →
      includesAmong standard members =
        (listed (.obj members) "includes").mapM (includeOf standard)
  | [], _ => rfl
  | (key, v) :: members, h => by
    rw [includesAmong]
    by_cases hkey : key = "includes"
    · obtain ⟨nodes, rfl⟩ := h v (by simp [optional?, hkey])
      rw [if_pos hkey, includesOf, includeList_eq]
      simp [listed, optional?, hkey]
    · have hne : ("includes" == key) = false := by simpa using Ne.symm hkey
      have hsame : optional? (.obj ((key, v) :: members)) "includes" =
          optional? (.obj members) "includes" := by
        simp only [optional?, List.lookup_cons, hne]
      rw [if_neg hkey, includesAmong_eq standard fun w hw => h w (hsame.trans hw)]
      simp only [listed, hsame]

/-- **A document is read exactly from an object that describes it**, by induction over the documents
    that it includes. -/
theorem Document.reads_ofJson (standard : Json) : ∀ {node : Json}, IsArranged node →
    Reads (Document.Describes standard node) (Document.ofJson standard node)
  | .obj members, .intro hnamespaces hincludes hconsts henums hstructs hservices hvalues hfields
      hfunctions hincluded => by
    have hinclude : ∀ i ∈ listed (.obj members) "includes",
        Reads (Document.DescribesInclude standard i) (includeOf standard i) := by
      intro i hi
      rw [includeOf_eq]
      refine .congr (.bind reads_require fun path => .bind_of reads_require fun v hv =>
        .bind (Document.reads_ofJson standard (hincluded i hi v hv)) fun d => .ok _) fun p => ?_
      constructor
      · rintro ⟨path, hpath, v, hv, d, hd, rfl⟩
        exact .intro hpath hv hd
      · rintro ⟨hpath, hv, hd⟩
        exact ⟨_, hpath, _, hv, _, hd, rfl⟩
    rw [Document.ofJson, includesAmong_eq standard hincludes]
    refine .congr (.bind (reads_namespaces hnamespaces) fun namespaces =>
      .bind (.mapM hinclude) fun includes =>
      reads_listed hconsts (fun c _ => Const.reads_ofJson c) fun consts =>
      reads_listed henums (fun e he => EnumDef.reads_ofJson (hvalues e he)) fun enums =>
      reads_listed hstructs (fun s hs => Struct.reads_ofJson (hfields s hs)) fun structs =>
      reads_listed hservices (fun s hs => Service.reads_ofJson (hfunctions s hs)) fun services =>
      .ok _) fun d => ?_
    constructor
    · rintro ⟨namespaces, hnamespaces, includes, hincludes, consts, hconsts, enums, henums, structs,
        hstructs, services, hservices, rfl⟩
      exact .intro hnamespaces hincludes hconsts henums hstructs hservices rfl
    · rintro ⟨hnamespaces, hincludes, hconsts, henums, hstructs, hservices, hdefault⟩
      -- a document holds documents, so it is no record that equals its fields put together
      cases d
      cases hdefault
      exact ⟨_, hnamespaces, _, hincludes, _, hconsts, _, henums, _, hstructs, _, hservices, rfl⟩
  | .null, _ | .bool _, _ | .int _, _ | .double _, _ | .str _, _ | .arr _, _ => by
    rw [Document.ofJson]
    · exact .error (fun d hd => by cases hd) (by simp)
    · simp
termination_by node => sizeOf node
decreasing_by
  exact Nat.lt_trans (sizeOf_optional?_lt hv) (sizeOf_listed_lt hi)

end ThriftScala
