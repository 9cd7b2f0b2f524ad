/-
  The shapes of the models that generated files are made from.

  For each part of a document there is a shape, the fragment of the part passes the check with it,
  and the model that is made of the part has it.  So every key that a fragment asks for, in the
  scope where it asks, is there with a value it can use, whatever the document holds; only what
  stands under a scalar depends on the document.  `Admits` gathers what is asked of those values:
  nothing at all, or that they are texts.
-/
import ThriftScala.Proofs.Fragment.Shape
import ThriftScala.Scala.Models

namespace ThriftScala.Scala

open Outcome

/-! ## Shapes -/

/-- Scalars under the given keys. -/
def scalars (keys : List String) : ModelShape := keys.map fun key => (key, .scalar)

/-- The head of a file. -/
def headerShape : ModelShape :=
  [("scalaNamespace", .scalar), ("imports", .sequence (scalars ["namespace"])),
   ("addComments", .flag)]

/-- The constants. -/
def constsShape : ModelShape :=
  [("hasConstants", .flag), ("constants", .sequence (scalars ["name", "type", "value"]))]

/-- A value of an enum. -/
def enumValueShape : ModelShape := scalars ["name", "nameLowerCase", "value"] ++ [("last", .flag)]

/-- An enum. -/
def enumShape : ModelShape := [("enum_name", .scalar), ("values", .sequence enumValueShape)]

/-- All enums. -/
def enumsShape : ModelShape :=
  [("hasEnums", .flag), ("enums", .sequence enumShape), ("enum", .fragment Fragments.enum)]

/-- A field. -/
def fieldShape : ModelShape :=
  scalars ["id", "name", "localName", "wireName", "fieldConst", "constType", "fieldType",
    "defaultReadValue", "readValue", "writeGuard", "writeItem", "setFlag", "itemName",
    "writeValue"] ++ [("required", .flag), ("checkNotNull", .flag)]

/-- A struct. -/
def structShape : ModelShape :=
  [("structName", .scalar), ("parentType", .scalar), ("fields", .sequence fieldShape),
   ("fieldArgs", .scalar), ("constructorArgs", .scalar)]

/-- A function. -/
def functionShape : ModelShape :=
  scalars ["name", "wireName", "fieldArgs", "returnType"] ++ [("hasReturn", .flag)]
    ++ scalars ["oneway", "argsName", "resultName", "argNames", "argAccessors"]
    ++ [("argsStruct", .model structShape), ("resultStruct", .model structShape),
        ("throws", .sequence (scalars ["name", "type"]))]

/-- A service. -/
def serviceShape : ModelShape :=
  [("serviceName", .scalar), ("hasParent", .flag), ("parent", .scalar),
   ("functions", .sequence functionShape),
   ("struct", .fragment Fragments.struct), ("finagleClient", .fragment Fragments.finagleClient),
   ("finagleService", .fragment Fragments.finagleService),
   ("ostrichServer", .fragment Fragments.ostrichServer),
   ("withFinagleClient", .flag), ("withFinagleService", .flag), ("withOstrichServer", .flag)]

/-! ## The fragments pass the check -/

/-- The fragment of the header asks for nothing that its shape does not have. -/
theorem header_checked : Fragment.checkWithin 0 [headerShape] Fragments.header.body = true := by
  decide

/-- The fragment of the constants asks for nothing that its shape does not have. -/
theorem consts_checked : Fragment.checkWithin 0 [constsShape] Fragments.consts.body = true := by
  decide

/-- The fragment of an enum asks for nothing that its shape does not have. -/
theorem enum_checked : Fragment.checkWithin 0 [enumShape] Fragments.enum.body = true := by
  decide

/-- The fragment of all enums splices that of one, in the scope of an item. -/
theorem enums_checked : Fragment.checkWithin 1 [enumsShape] Fragments.enums.body = true := by
  decide

/-- The fragment of a struct asks for nothing that its shape does not have. -/
theorem struct_checked : Fragment.checkWithin 0 [structShape] Fragments.struct.body = true := by
  decide

/-- The fragment of a service splices those of its parts. -/
theorem service_checked : Fragment.checkWithin 1 [serviceShape] Fragments.service.body = true := by
  decide

/-! ## Values that are offered to a model -/

/-- What a value of a schema or a setting becomes in a model passes `leaf`. -/
def Offers (leaf : Value → Prop) (v : Json) : Prop := ∀ key w, offered key v = .ok w → leaf w

/-- Texts and the types of values pass `leaf`. -/
structure Admits (leaf : Value → Prop) (names : TypeNames) : Prop where
  text : ∀ s, leaf (.text s)
  type : ∀ t, Offers leaf (scalaType names t)

/-- A text is offered as it is. -/
@[simp] theorem offered_str (key s : String) : offered key (.str s) = .ok (.text s) := by
  simp [offered, Value.ofJson, Datum.ofJson, Value.ofDatum]

/-- Only a text is a text in a model. -/
theorem offered_eq_text {key s : String} {v : Json} : offered key v = .ok (.text s) ↔ v = .str s := by
  constructor
  · intro h
    have hvalue : Value.ofJson key v = .ok (.text s) := by
      rw [offered] at h
      cases hv : Value.ofJson key v with
      | ok w =>
        rw [hv] at h
        cases h
        rfl
      | error e =>
        rw [hv] at h
        cases h
    -- lists and objects are offered as sequences and models, everything else is refused
    cases v with
    | str t =>
      rw [Value.ofJson, Datum.ofJson, Value.ofDatum] at hvalue
      cases hvalue
      rfl
    | arr elems =>
      rw [Value.ofJson, Datum.ofJson, Value.ofDatum] at hvalue
      obtain ⟨_, -, hitems⟩ := map_eq_ok.mp hvalue
      cases hitems
    | obj members =>
      rw [Value.ofJson, Datum.ofJson, Value.ofDatum] at hvalue
      obtain ⟨_, -, hentries⟩ := map_eq_ok.mp hvalue
      cases hentries
    | _ =>
      rw [Value.ofJson, Datum.ofJson, Value.ofDatum] at hvalue
      cases hvalue
  · rintro rfl
    exact offered_str key s

/-- A text is a text in a model. -/
theorem offers_text (s : String) : Offers Value.IsText (.str s) := by
  intro key w h
  rw [offered_str] at h
  cases h
  exact ⟨s, rfl⟩

/-- Nothing is asked of what stands under scalars. -/
def anyLeaf (_ : Value) : Prop := True

/-- Where any leaf does, any value does. -/
theorem offers_any (v : Json) : Offers anyLeaf v := fun _ _ _ => trivial

theorem admits_any (names : TypeNames) : Admits anyLeaf names :=
  ⟨fun _ => trivial, fun t => offers_any (scalaType names t)⟩

/-- Texts pass if the type for binary data is one, for it alone stands bare in a model. -/
theorem admits_text {names : TypeNames} {binary : String} (h : names.binary = .str binary) :
    Admits Value.IsText names := by
  refine ⟨fun s => ⟨s, rfl⟩, fun t => ?_⟩
  have ht : ∃ s, scalaType names t = .str s := by
    unfold scalaType
    split
    · exact ⟨binary, h⟩
    · exact ⟨_, rfl⟩
  obtain ⟨s, hs⟩ := ht
  rw [hs]
  exact offers_text s

@[simp] theorem used_ok {α : Type} (a : α) : used (.ok a) = .ok a := rfl

/-- What is used has the value that was found. -/
theorem used_eq_ok {α : Type} {x : Except Misuse α} {a : α} : used x = .ok a ↔ x = .ok a := by
  cases x <;> simp [used]

/-- What is mapped has the value that was found. -/
theorem mapped_eq_ok {α : Type} {x : Except Unmapped α} {a : α} :
    mapped x = .ok a ↔ x = .ok a := by
  cases x <;> simp [mapped]

/-! ## The models have their shapes -/

section Models

variable {leaf : Value → Prop} {names : TypeNames}

/-- The model of a header has its shape if the packages do as leaves. -/
theorem headerModel_holds {comments : Bool} {d : Document} {m : Model}
    (hp : Offers leaf d.targetNamespace)
    (hi : ∀ p ∈ importedPackages d.targetNamespace (d.includes.map (·.2.targetNamespace)),
      Offers leaf p)
    (h : headerModel (.bool comments) d = .ok m) : ModelShape.Holds leaf headerShape m := by
  obtain ⟨package, hpackage, h⟩ := bind_eq_ok.mp h
  obtain ⟨imports, himports, h⟩ := bind_eq_ok.mp h
  obtain ⟨flag, hflag, h⟩ := bind_eq_ok.mp h
  cases hflag
  cases h
  have himport : ∀ i ∈ imports, ModelShape.Holds leaf (scalars ["namespace"]) i := by
    intro i hmem
    obtain ⟨p, hp, hmade⟩ := mem_of_mapM_eq_ok himports hmem
    obtain ⟨value, hvalue, hmade⟩ := bind_eq_ok.mp hmade
    cases hmade
    exact ⟨rfl, hi p hp _ _ hvalue, trivial⟩
  exact ⟨rfl, hp _ _ hpackage, rfl, himport, rfl, trivial, trivial⟩

/-- The model of the constants has its shape if their names and literals do as leaves. -/
theorem constsModel_holds (ha : Admits leaf names) {consts : List Const} {m : Model}
    (hn : ∀ c ∈ consts, Offers leaf c.name)
    (hv : ∀ c ∈ consts, ∀ v, literal {} c.value = .ok v → Offers leaf v)
    (h : constsModel names consts = .ok m) : ModelShape.Holds leaf constsShape m := by
  obtain ⟨values, hvalues, h⟩ := bind_eq_ok.mp h
  obtain ⟨models, hmodels, h⟩ := bind_eq_ok.mp h
  cases h
  refine ⟨rfl, trivial, rfl, fun item hmem => ?_, trivial⟩
  obtain ⟨⟨c, v⟩, hcv, hmade⟩ := mem_of_mapM_eq_ok hmodels hmem
  obtain ⟨name, hname, hmade⟩ := bind_eq_ok.mp hmade
  obtain ⟨type, htype, hmade⟩ := bind_eq_ok.mp hmade
  obtain ⟨value, hvalue, hmade⟩ := bind_eq_ok.mp hmade
  cases hmade
  have hc : c ∈ consts := (List.of_mem_zip hcv).1
  have hlit : literal {} c.value = .ok v := by
    have hused := eq_ok_of_mem_zip hvalues hcv
    exact used_eq_ok.mp hused
  exact ⟨rfl, hn c hc _ _ hname, rfl, ha.type _ _ _ htype, rfl, hv c hc v hlit _ _ hvalue,
    trivial⟩

/-- The models of the values of an enum, with the last one marked, are all of one shape. -/
theorem enumValueModels_holds (ht : ∀ s, leaf (.text s)) :
    ∀ (vs : List (EnumValue × String)), ∀ m ∈ enumValueModels vs,
      ModelShape.Holds leaf enumValueShape m
  | [], m, hm => by cases hm
  | [(v, name)], m, hm => by
    obtain rfl := List.mem_singleton.mp hm
    exact ⟨rfl, ht _, rfl, ht _, rfl, ht _, rfl, trivial, trivial⟩
  | (v, name) :: w :: vs, m, hm => by
    rcases List.mem_cons.mp hm with rfl | hm
    · exact ⟨rfl, ht _, rfl, ht _, rfl, ht _, rfl, trivial, trivial⟩
    · exact enumValueModels_holds ht (w :: vs) m hm

/-- The model of an enum has its shape if its name does as a leaf. -/
theorem enumModel_holds (ht : ∀ s, leaf (.text s)) {e : EnumDef} {m : Model}
    (hn : Offers leaf e.name) (h : enumModel e = .ok m) : ModelShape.Holds leaf enumShape m := by
  obtain ⟨texts, -, h⟩ := bind_eq_ok.mp h
  obtain ⟨name, hname, h⟩ := bind_eq_ok.mp h
  cases h
  exact ⟨rfl, hn _ _ hname, rfl, enumValueModels_holds ht _, trivial⟩

/-- The model of all enums has its shape if their names do as leaves. -/
theorem enumsModel_holds (ht : ∀ s, leaf (.text s)) {enums : List EnumDef} {m : Model}
    (hn : ∀ e ∈ enums, Offers leaf e.name) (h : enumsModel enums = .ok m) :
    ModelShape.Holds leaf enumsShape m := by
  obtain ⟨models, hmodels, h⟩ := bind_eq_ok.mp h
  cases h
  refine ⟨rfl, trivial, rfl, ?_, rfl, rfl, trivial⟩
  exact forall_of_mapM_eq_ok hmodels fun e he _ hmade => enumModel_holds ht (hn e he) hmade

/-- The model of a field has its shape if the names of types do as leaves. -/
theorem fieldModel_holds (ha : Admits leaf names) {f : Field} {m : Model}
    (h : fieldModel names f = .ok m) : ModelShape.Holds leaf fieldShape m := by
  obtain ⟨name, -, h⟩ := bind_eq_ok.mp h
  obtain ⟨wireName, -, h⟩ := bind_eq_ok.mp h
  obtain ⟨read, -, h⟩ := bind_eq_ok.mp h
  obtain ⟨tag, -, h⟩ := bind_eq_ok.mp h
  obtain ⟨write, -, h⟩ := bind_eq_ok.mp h
  obtain ⟨type, htype, h⟩ := bind_eq_ok.mp h
  cases h
  have hleaf : leaf type := by
    unfold fieldType at htype
    split at htype
    · rw [offered_str] at htype
      cases htype
      exact ha.text _
    · exact ha.type _ _ _ htype
  simp [fieldShape, scalars, ModelShape.Holds, Shape.Holds, ha.text, hleaf]

/-- The model of a struct has its shape if its name does as a leaf. -/
theorem structModel_holds (ha : Admits leaf names) {s : Struct} {m : Model}
    (hn : Offers leaf s.name) (h : structModel names s = .ok m) :
    ModelShape.Holds leaf structShape m := by
  obtain ⟨fields, hfields, h⟩ := bind_eq_ok.mp h
  obtain ⟨args, -, h⟩ := bind_eq_ok.mp h
  obtain ⟨constructor, -, h⟩ := bind_eq_ok.mp h
  obtain ⟨name, hname, h⟩ := bind_eq_ok.mp h
  cases h
  refine ⟨rfl, hn _ _ hname, rfl, ha.text _, rfl, ?_, rfl, ha.text _, rfl, ha.text _, trivial⟩
  exact forall_of_mapM_eq_ok hfields fun _ _ _ hmade => fieldModel_holds ha hmade

/-- The structs of the arguments and the result of a function are called by texts. -/
theorem functionModel_holds (ha : Admits leaf names) {f : ServiceFunction} {m : Model}
    (h : functionModel names f = .ok m) : ModelShape.Holds leaf functionShape m := by
  obtain ⟨name, -, h⟩ := bind_eq_ok.mp h
  obtain ⟨wireName, -, h⟩ := bind_eq_ok.mp h
  obtain ⟨args, -, h⟩ := bind_eq_ok.mp h
  obtain ⟨argsModel, hargs, h⟩ := bind_eq_ok.mp h
  obtain ⟨resultModel, hresult, h⟩ := bind_eq_ok.mp h
  obtain ⟨throwNames, -, h⟩ := bind_eq_ok.mp h
  obtain ⟨returnType, hreturn, h⟩ := bind_eq_ok.mp h
  obtain ⟨throws, hthrows, h⟩ := bind_eq_ok.mp h
  cases h
  -- the names of the two structs are texts of the builder's own making
  have hstr : ∀ s, Offers leaf (.str s) := by
    intro s key w hw
    rw [offered_str] at hw
    cases hw
    exact ha.text s
  have hargsModel := structModel_holds ha (hstr _) hargs
  have hresultModel := structModel_holds ha (hstr _) hresult
  have hthrow : ∀ t ∈ throws, ModelShape.Holds leaf (scalars ["name", "type"]) t := by
    intro t hmem
    obtain ⟨⟨thrown, name⟩, -, hmade⟩ := mem_of_mapM_eq_ok hthrows hmem
    obtain ⟨type, htype, hmade⟩ := bind_eq_ok.mp hmade
    cases hmade
    exact ⟨rfl, ha.text _, rfl, ha.type _ _ _ htype, trivial⟩
  have htype := ha.type _ _ _ hreturn
  exact ⟨rfl, ha.text _, rfl, ha.text _, rfl, ha.text _, rfl, htype, rfl, trivial, rfl, ha.text _,
    rfl, ha.text _, rfl, ha.text _, rfl, ha.text _, rfl, ha.text _, rfl, hargsModel, rfl,
    hresultModel, rfl, hthrow, trivial⟩

/-- The model of a service has its shape if its name and its parent do as leaves. -/
theorem serviceModel_holds (ha : Admits leaf names) {options : List ServiceOption} {s : Service}
    {m : Model} (hn : Offers leaf s.name)
    (hp : Offers leaf (if s.parent.truthy then s.parent else .str ""))
    (h : serviceModel names options s = .ok m) : ModelShape.Holds leaf serviceShape m := by
  obtain ⟨functions, hfunctions, h⟩ := bind_eq_ok.mp h
  obtain ⟨name, hname, h⟩ := bind_eq_ok.mp h
  obtain ⟨parent, hparent, h⟩ := bind_eq_ok.mp h
  cases h
  have hfunction : ∀ f ∈ functions, ModelShape.Holds leaf functionShape f :=
    forall_of_mapM_eq_ok hfunctions fun _ _ _ hmade => functionModel_holds ha hmade
  exact ⟨rfl, hn _ _ hname, rfl, trivial, rfl, hp _ _ hparent, rfl, hfunction, rfl, rfl, rfl, rfl,
    rfl, rfl, rfl, rfl, rfl, trivial, rfl, trivial, rfl, trivial, trivial⟩

end Models

end ThriftScala.Scala
