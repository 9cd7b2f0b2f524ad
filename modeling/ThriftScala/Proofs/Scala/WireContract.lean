/-
  What goes over the wire does not depend on how names are spelled in code.

  Code that was generated under one naming case must talk to code that was generated under another.
  What they have to agree on is the descriptor of every field (its wire name, its wire tag and its
  id), in the structs of a document and in those of the arguments and results of functions, and the
  wire name of every function.

  A descriptor says what its field is on the wire and nothing else, in the model of a struct
  (`fieldDescriptor_eq`) and in its text (`declares_of_structText`).  Two documents that look alike
  on the wire have the same descriptors, or fail with the same error (`structModel_descriptors`,
  `serviceModel_descriptors`): a model is made of the name of a field and of what the field is on
  the wire, and only the latter goes into a descriptor.  Since conversions of names keep the view on
  the wire, so they keep the descriptors, however many there are and whatever case the generator
  converts to after them (`wire_contract`).
-/
import ThriftScala.Proofs.Scala.Codable
import ThriftScala.Proofs.Scala.Parameters
import ThriftScala.Proofs.Scala.StructText
import ThriftScala.Proofs.Scala.Totality

namespace ThriftScala.Scala

open Outcome

/-! ## Descriptors -/

/-- What the model of a field says of the wire: wire name, wire tag and id. -/
def fieldDescriptor (m : Model) : List (Option Value) :=
  ["wireName", "constType", "id"].map fun key => m.lookup key

/-- The descriptors of the fields in the model of a struct, in order. -/
def structDescriptors (m : Model) : List (List (Option Value)) :=
  match m.lookup "fields" with
  | some (.sequence fields) => fields.map fieldDescriptor
  | _ => []

/-- The descriptors of a struct that stands in a model under a key. -/
def innerDescriptors (m : Model) (key : String) : List (List (Option Value)) :=
  match m.lookup key with
  | some (.model s) => structDescriptors s
  | _ => []

/-- The wire name of a function, and the descriptors of its arguments and of its result. -/
structure FunctionDescriptor where
  wireName : Option Value
  args : List (List (Option Value))
  result : List (List (Option Value))

/-- What the model of a function says of the wire. -/
def functionDescriptor (m : Model) : FunctionDescriptor :=
  { wireName := m.lookup "wireName"
    args := innerDescriptors m "argsStruct"
    result := innerDescriptors m "resultStruct" }

/-- What the model of a service says of the wire, function by function. -/
def serviceDescriptors (m : Model) : List FunctionDescriptor :=
  match m.lookup "functions" with
  | some (.sequence functions) => functions.map functionDescriptor
  | _ => []

/-! ## What a descriptor says -/

/-- What goes over the wire for a field: its wire name, its wire tag and its id. -/
structure WireEntry where
  wireName : String
  tag : WireTag
  id : Int
  deriving DecidableEq, Repr

/-- The entry as values of a model. -/
def WireEntry.values (e : WireEntry) : List (Option Value) :=
  [some (.text (escapeText e.wireName)), some (.text e.tag.name), some (.text (toString e.id))]

/-- The entry as it is declared under a constant in the text of a struct. -/
def WireEntry.declaration (e : WireEntry) (constant : String) : String :=
  "  val " ++ constant ++ " = new TField(\"" ++ escapeText e.wireName ++ "\", TType." ++ e.tag.name
    ++ ", " ++ toString e.id ++ ")\n"

/-- The field goes over the wire so. -/
structure GoesAs (f : Field) (e : WireEntry) : Prop where
  wireName : f.wireName = .str e.wireName
  tag : wireTag f.type = .ok e.tag
  id : f.id = e.id

/-- A field goes over the wire in one way. -/
theorem GoesAs.unique {f : Field} {e e' : WireEntry} (h : GoesAs f e) (h' : GoesAs f e') :
    e' = e := by
  obtain ⟨wire, tag, id⟩ := e
  obtain ⟨wire', tag', id'⟩ := e'
  obtain rfl : wire' = wire := Json.str.inj (h'.wireName.symm.trans h.wireName)
  obtain rfl : tag' = tag := Except.ok.inj (h'.tag.symm.trans h.tag)
  obtain rfl : id' = id := h'.id.symm.trans h.id
  rfl

/-- Fields that look alike go over the wire alike. -/
theorem GoesAs.congr {f f' : Field} {e : WireEntry} (h : GoesAs f e) (hsame : f'.onWire = f.onWire) :
    GoesAs f' e := by
  obtain ⟨hid, hwire, htype, -⟩ := Field.onWire_eq_iff.mp hsame
  exact ⟨hwire.trans h.wireName, htype ▸ h.tag, hid.trans h.id⟩

/-- The fields go over the wire so, in order. -/
abbrev GoAs (fields : List Field) (entries : List WireEntry) : Prop :=
  List.Forall₂ GoesAs fields entries

theorem GoAs.congr {fields fields' : List Field} {entries : List WireEntry}
    (h : GoAs fields entries) (hsame : fields'.map (·.onWire) = fields.map (·.onWire)) :
    GoAs fields' entries := by
  induction h generalizing fields' with
  | nil =>
    rw [List.map_eq_nil_iff.mp hsame]
    exact .nil
  | cons hfirst _ ih =>
    obtain ⟨f', rest', rfl, hf', hrest'⟩ := List.map_eq_cons_iff.mp hsame
    exact .cons (hfirst.congr hf') (ih hrest')

theorem GoAs.unique {fields : List Field} {entries entries' : List WireEntry}
    (h : GoAs fields entries) (h' : GoAs fields entries') : entries' = entries := by
  induction h generalizing entries' with
  | nil =>
    cases h'
    rfl
  | cons hfirst _ ih =>
    cases h' with
    | cons hfirst' hrest' => rw [hfirst.unique hfirst', ih hrest']

/-! ## Fields -/

variable {names : TypeNames}

/-- **The descriptor of a field** says how the field goes over the wire. -/
theorem fieldDescriptor_eq {f : Field} {m : Model} (h : fieldModel names f = .ok m) :
    ∃ e, GoesAs f e ∧ fieldDescriptor m = e.values := by
  obtain ⟨name, -, h⟩ := bind_eq_ok.mp h
  obtain ⟨wire, hwire, h⟩ := bind_eq_ok.mp h
  obtain ⟨read, -, h⟩ := bind_eq_ok.mp h
  obtain ⟨tag, htag, h⟩ := bind_eq_ok.mp h
  obtain ⟨write, -, h⟩ := bind_eq_ok.mp h
  obtain ⟨type, -, h⟩ := bind_eq_ok.mp h
  cases h
  have hwire := used_eq_ok.mp hwire
  refine ⟨⟨wire, tag, f.id⟩, ⟨?_, ?_, rfl⟩, rfl⟩
  · cases hw : f.wireName with
    | str s =>
      rw [hw] at hwire
      cases hwire
      rfl
    | _ => rw [hw] at hwire; cases hwire
  · cases ht : wireTag f.type with
    | ok tag' =>
      rw [ht] at htag
      cases htag
      rfl
    | error u => rw [ht] at htag; cases htag

/-- Fields that look alike on the wire have the same descriptor, or none for the same reason. -/
theorem fieldModel_descriptor {f f' : Field} (h : f'.onWire = f.onWire) (hf : f.IsNamed)
    (hf' : f'.IsNamed) :
    (fieldModel names f').map fieldDescriptor = (fieldModel names f).map fieldDescriptor := by
  obtain ⟨hid, hwire, htype, hreq, -⟩ := Field.onWire_eq_iff.mp h
  obtain ⟨wire, hw⟩ : f.wireName.IsText := wireNameOf_isText f.spelling? hf
  obtain ⟨name, hname⟩ := hf
  obtain ⟨name', hname'⟩ := hf'
  have hfieldType : fieldType names f' = fieldType names f := by
    simp [fieldType, Field.isOptional, htype, hreq]
  rw [fieldModel, fieldModel, hname, hname', hwire, hw]
  simp only [Json.textOr, used_ok, ok_bind, htype, hid, hfieldType]
  refine bind_map_congr (u := id) rfl fun read _ hread _ _ => ?_
  -- a type that can be read can be written, whatever the item is called
  have hcodable : f.type.Codable := by
    cases hr : readValue inputProtocol toString 0 f.type with
    | ok s => exact codable_of_readValue _ _ hr
    | error u => rw [hr] at hread; cases hread
  obtain ⟨tag, htag⟩ := exists_wireTag hcodable
  obtain ⟨write, hwrite⟩ := exists_writeValue outputProtocol toString hcodable 0 (name ++ "_item")
  obtain ⟨write', hwrite'⟩ := exists_writeValue outputProtocol toString hcodable 0 (name' ++ "_item")
  simp only [htag, hwrite, hwrite', mapped, ok_bind]
  refine bind_map_congr (u := id) rfl fun type type' _ _ htype => ?_
  obtain rfl : type' = type := htype
  simp [fieldDescriptor, List.lookup_cons]

/-- Lists of parameters are there or not, whatever the names of the fields are. -/
theorem fieldArgs_alike {fields fields' : List Field}
    (h : fields'.map (·.onWire) = fields.map (·.onWire)) :
    (fieldArgs names fields').map (fun _ => ()) = (fieldArgs names fields).map (fun _ => ()) := by
  have hparams := mapM_map_congr (f := fieldParam names) (u := fun _ => ()) h
    fun f' _ f _ hf => by
      obtain ⟨-, -, -, hreq, hdefault⟩ := Field.onWire_eq_iff.mp hf
      have hvalue : defaultFieldValue f' = defaultFieldValue f := by
        simp [defaultFieldValue, Field.isOptional, hreq, hdefault]
      unfold fieldParam
      refine bind_map_congr (u := id) (by rw [hvalue]) fun v v' _ _ _ => ?_
      cases v <;> cases v' <;> rfl
  exact bind_map_congr hparams fun _ _ _ _ _ => rfl

theorem used_map_alike {α : Type} {x x' : Except Misuse α}
    (h : x'.map (fun _ => ()) = x.map (fun _ => ())) :
    (used x').map (fun _ => ()) = (used x).map (fun _ => ()) := by
  cases x <;> cases x' <;> simp_all [used]

/-! ## Structs -/

/-- Structs whose fields look alike on the wire have the same descriptors. -/
theorem structModel_descriptors {s s' : Struct}
    (hfields : s'.fields.map (·.onWire) = s.fields.map (·.onWire)) (hs : s.IsNamed)
    (hs' : s'.IsNamed)
    (hname : (offered "structName" s'.name).map (fun _ => ()) =
      (offered "structName" s.name).map fun _ => ()) :
    (structModel names s').map structDescriptors = (structModel names s).map structDescriptors := by
  have hmodels := mapM_map_congr (f := fieldModel names) (u := fieldDescriptor) hfields
    fun f' hf' f hf h => fieldModel_descriptor h (hs f hf) (hs' f' hf')
  obtain ⟨constructor, hconstructor⟩ := exists_constructorArgs hs
  obtain ⟨constructor', hconstructor'⟩ := exists_constructorArgs hs'
  refine bind_map_congr hmodels fun models models' _ _ hsame => ?_
  refine bind_map_congr (used_map_alike (fieldArgs_alike hfields)) fun args args' _ _ _ => ?_
  rw [hconstructor, hconstructor', used_ok, used_ok, ok_bind, ok_bind]
  refine bind_map_congr hname fun name name' _ _ _ => ?_
  simpa [structDescriptors, List.lookup_cons] using hsame

/-- The descriptors are those of these fields. -/
def Describe (descriptors : List (List (Option Value))) (fields : List Field) : Prop :=
  ∃ entries, GoAs fields entries ∧ descriptors = entries.map WireEntry.values

theorem fieldDescriptors_describe {fields : List Field} {models : List Model}
    (h : fields.mapM (fieldModel names) = .ok models) :
    Describe (models.map fieldDescriptor) fields := by
  have hpairs := mapM_eq_ok.mp h
  clear h
  induction hpairs with
  | nil => exact ⟨[], .nil, rfl⟩
  | cons hfirst _ ih =>
    obtain ⟨e, he, hvalues⟩ := fieldDescriptor_eq hfirst
    obtain ⟨entries, hentries, hrest⟩ := ih
    exact ⟨e :: entries, .cons he hentries, by rw [List.map_cons, List.map_cons, hvalues, hrest]⟩

/-- The model of a struct describes the fields of the struct. -/
theorem structDescriptors_describe {s : Struct} {m : Model} (h : structModel names s = .ok m) :
    Describe (structDescriptors m) s.fields := by
  obtain ⟨models, hmodels, h⟩ := bind_eq_ok.mp h
  obtain ⟨args, -, h⟩ := bind_eq_ok.mp h
  obtain ⟨constructor, -, h⟩ := bind_eq_ok.mp h
  obtain ⟨name, -, h⟩ := bind_eq_ok.mp h
  cases h
  exact fieldDescriptors_describe hmodels

/-! ## Functions and services -/

/-- The fields of a result look alike on the wire if the functions do. -/
theorem resultStruct_alike {f f' : ServiceFunction} (h : f'.onWire = f.onWire) :
    (resultStruct f').fields.map (·.onWire) = (resultStruct f).fields.map (·.onWire) := by
  obtain ⟨-, hreturn, -, hthrows, -⟩ := ServiceFunction.onWire_eq_iff.mp h
  have hsuccess : successField? f' = successField? f := by
    simp [successField?, ServiceFunction.isVoid, hreturn]
  -- a declared exception as a field is what it is on the wire, but for the two parts it loses
  have hthrown : ∀ throws : List Field, (throws.map thrownField).map (·.onWire) =
      (throws.map (·.onWire)).map fun t => { t with requiredness := .optional, default? := none } := by
    intro throws
    simp [thrownField, Field.onWire, Field.wireName, Function.comp_def]
  simp only [resultStruct, List.map_append, hsuccess, hthrown, hthrows]

theorem map_zip_onWire {throws : List Field} {texts : List String}
    (h : throws.length = texts.length) :
    (throws.zip texts).map (fun p => p.1.onWire) = throws.map (·.onWire) := by
  conv_rhs => rw [← List.map_fst_zip (Nat.le_of_eq h), List.map_map]
  rfl

/-- Functions that look alike on the wire have the same descriptor. -/
theorem functionModel_descriptor {f f' : ServiceFunction} (h : f'.onWire = f.onWire)
    (hf : f.IsNamed) (hf' : f'.IsNamed) :
    (functionModel names f').map functionDescriptor =
      (functionModel names f).map functionDescriptor := by
  obtain ⟨hwire, hreturn, hargs, hthrows, -⟩ := ServiceFunction.onWire_eq_iff.mp h
  obtain ⟨wire, hw⟩ : f.wireName.IsText := wireNameOf_isText f.spelling? hf.name
  obtain ⟨name, hname⟩ := hf.name
  obtain ⟨name', hname'⟩ := hf'.name
  obtain ⟨throwNames, hthrowNames⟩ := exists_throwNames hf
  obtain ⟨throwNames', hthrowNames'⟩ := exists_throwNames hf'
  have hargsAlike : (structModel names (argsStruct f')).map structDescriptors =
      (structModel names (argsStruct f)).map structDescriptors :=
    structModel_descriptors hargs (argsStruct_isNamed hf) (argsStruct_isNamed hf')
      (by simp [argsStruct])
  have hresultAlike : (structModel names (resultStruct f')).map structDescriptors =
      (structModel names (resultStruct f)).map structDescriptors :=
    structModel_descriptors (resultStruct_alike h) (resultStruct_isNamed hf)
      (resultStruct_isNamed hf') (by simp [resultStruct])
  -- what a throw names is not on the wire: only that there is one for each exception matters
  have hthrowsAlike : ((f'.throws.zip throwNames').mapM fun p => throwModel names p.1 p.2).map
      (List.map fun _ => ()) =
      ((f.throws.zip throwNames).mapM fun p => throwModel names p.1 p.2).map (List.map fun _ => ()) := by
    refine mapM_map_congr (g := fun p => p.1.onWire) ?_ fun p' _ p _ hp => ?_
    · have hlength := (mapM_eq_ok.mp hthrowNames).length_eq
      have hlength' := (mapM_eq_ok.mp hthrowNames').length_eq
      rw [map_zip_onWire hlength', map_zip_onWire hlength, hthrows]
    · obtain ⟨-, -, htype, -⟩ := Field.onWire_eq_iff.mp hp
      unfold throwModel
      exact bind_map_congr (u := id) (by rw [htype]) fun _ _ _ _ _ => rfl
  rw [functionModel, functionModel, hname, hname', hwire, hw, hreturn, hthrowNames, hthrowNames']
  simp only [Json.textOr, used_ok, ok_bind]
  -- step by step: each makes alike outcomes, and the last one shows only what is alike
  refine bind_map_congr (used_map_alike (fieldArgs_alike hargs)) fun args args' _ _ _ => ?_
  refine bind_map_congr hargsAlike fun argsModel argsModel' _ _ hargsSame => ?_
  refine bind_map_congr hresultAlike fun resultModel resultModel' _ _ hresultSame => ?_
  refine bind_map_congr (u := id) rfl fun type type' _ _ _ => ?_
  refine bind_map_congr hthrowsAlike fun throws throws' _ _ _ => ?_
  simp [functionDescriptor, innerDescriptors, List.lookup_cons, hargsSame, hresultSame]

/-- Services that look alike on the wire have the same descriptors. -/
theorem serviceModel_descriptors (options : List ServiceOption) {s s' : Service}
    (h : s'.onWire = s.onWire) (hs : s.IsNamed) (hs' : s'.IsNamed) :
    (serviceModel names options s').map serviceDescriptors =
      (serviceModel names options s).map serviceDescriptors := by
  obtain ⟨hname, hfunctions, hparent⟩ := Service.onWire_eq_iff.mp h
  have hmodels := mapM_map_congr (f := functionModel names) (u := functionDescriptor) hfunctions
    fun f' hf' f hf h => functionModel_descriptor h (hs f hf) (hs' f' hf')
  rw [serviceModel, serviceModel, hname, hparent]
  refine bind_map_congr hmodels fun models models' _ _ hsame => ?_
  refine bind_map_congr (u := id) rfl fun name name' _ _ _ => ?_
  refine bind_map_congr (u := id) rfl fun parent parent' _ _ _ => ?_
  simpa [serviceDescriptors, List.lookup_cons] using hsame

/-- The descriptor is that of the function: its wire name, and the descriptors of its arguments and
    its result. -/
structure DescribesFunction (descriptor : FunctionDescriptor) (f : ServiceFunction) : Prop where
  wireName : ∃ wire, f.wireName = .str wire ∧
    descriptor.wireName = some (.text (escapeText wire))
  args : Describe descriptor.args (argsStruct f).fields
  result : Describe descriptor.result (resultStruct f).fields

theorem functionDescriptor_describes {f : ServiceFunction} {m : Model}
    (h : functionModel names f = .ok m) : DescribesFunction (functionDescriptor m) f := by
  obtain ⟨args, result, hargs, hresult, hargsKey, hresultKey⟩ := functionModel_structs h
  obtain ⟨name, -, h⟩ := bind_eq_ok.mp h
  obtain ⟨wire, hwire, h⟩ := bind_eq_ok.mp h
  have hname : f.wireName = .str wire := by
    have hwire := used_eq_ok.mp hwire
    cases hw : f.wireName with
    | str s =>
      rw [hw] at hwire
      cases hwire
      rfl
    | _ => rw [hw] at hwire; cases hwire
  have hwireKey : m.lookup "wireName" = some (.text (escapeText wire)) := by
    obtain ⟨params, -, h⟩ := bind_eq_ok.mp h
    obtain ⟨args, -, h⟩ := bind_eq_ok.mp h
    obtain ⟨result, -, h⟩ := bind_eq_ok.mp h
    obtain ⟨throwNames, -, h⟩ := bind_eq_ok.mp h
    obtain ⟨returnType, -, h⟩ := bind_eq_ok.mp h
    obtain ⟨throws, -, h⟩ := bind_eq_ok.mp h
    cases h
    rfl
  refine ⟨⟨wire, hname, hwireKey⟩, ?_, ?_⟩
  · simpa [functionDescriptor, innerDescriptors, hargsKey] using structDescriptors_describe hargs
  · simpa [functionDescriptor, innerDescriptors, hresultKey] using structDescriptors_describe hresult

/-- The model of a service describes its functions in order. -/
theorem serviceDescriptors_describe {options : List ServiceOption} {s : Service} {m : Model}
    (h : serviceModel names options s = .ok m) :
    List.Forall₂ DescribesFunction (serviceDescriptors m) s.functions := by
  obtain ⟨functions, hfunctions, hkey⟩ := serviceModel_functions h
  rw [serviceDescriptors, hkey]
  simp only [List.forall₂_map_left_iff]
  exact (mapM_eq_ok.mp hfunctions).flip.imp fun _ _ => functionDescriptor_describes

/-! ## What is rendered -/

/-- The entry of a field in the text of a struct. -/
def CodedField.entry (f : CodedField) : WireEntry := ⟨f.wireName, f.tag, f.field.id⟩

theorem CodedField.goesAs (f : CodedField) : GoesAs f.field f.entry :=
  ⟨f.wireName_eq, f.tag_eq, rfl⟩

/-- The text of a struct declares these entries in order, each under the constant of a field. -/
def Declares (text : String) (entries : List WireEntry) : Prop :=
  ∃ (struct parent args : String) (fields : List CodedField),
    text = structSource struct parent args fields ∧
    List.Forall₂ (fun f e => f.descriptor = e.declaration f.constant) fields entries

/-- **The text of a struct declares how its fields go over the wire.** -/
theorem declares_of_structText {g : Generator} {s : Struct} {text : String}
    (h : g.structText s = .ok text) : ∃ entries, GoAs s.fields entries ∧ Declares text entries := by
  obtain ⟨struct, args, fields, hfields, rfl⟩ := structText_eq_ok h
  refine ⟨fields.map CodedField.entry, ?_, struct, _, args, fields, rfl, ?_⟩
  · rw [← hfields, GoAs, List.forall₂_map_left_iff, List.forall₂_map_right_iff, List.forall₂_same]
    exact fun f _ => f.goesAs
  · rw [List.forall₂_map_right_iff, List.forall₂_same]
    exact fun f _ => rfl

/-- What two generators write of two structs declares the same entries, which are those of the
    first one's fields. -/
def TextsAgree (g g' : Generator) (s s' : Struct) : Prop :=
  ∀ text text', g.structText s = .ok text → g'.structText s' = .ok text' →
    ∃ entries, GoAs s.fields entries ∧ Declares text entries ∧ Declares text' entries

theorem textsAgree {s s' : Struct} (h : s'.fields.map (·.onWire) = s.fields.map (·.onWire))
    (g g' : Generator) : TextsAgree g g' s s' := by
  intro text text' htext htext'
  obtain ⟨entries, hgo, hdeclares⟩ := declares_of_structText htext
  obtain ⟨entries', hgo', hdeclares'⟩ := declares_of_structText htext'
  obtain rfl := (hgo.congr h).unique hgo'
  exact ⟨_, hgo, hdeclares, hdeclares'⟩

/-- The structs that are rendered for a document: its own, and those of the arguments and the result
    of each function. -/
def renderedStructs (d : Document) : List Struct :=
  d.structs ++ d.services.flatMap fun s => s.functions.flatMap fun f => [argsStruct f, resultStruct f]

/-- The structs of documents that look alike on the wire have fields that do. -/
theorem renderedStructs_alike {d d' : Document} (h : d'.onWire = d.onWire) :
    (renderedStructs d').map (fun s => s.fields.map (·.onWire)) =
      (renderedStructs d).map fun s => s.fields.map (·.onWire) := by
  obtain ⟨-, -, -, -, hstructs, hservices, -⟩ := Document.onWire_eq_iff.mp h
  have hown : d'.structs.map (fun s => s.fields.map (·.onWire)) =
      d.structs.map fun s => s.fields.map (·.onWire) :=
    map_eq_of_alike hstructs fun _ _ _ _ hsame => (Struct.onWire_eq_iff.mp hsame).2.1
  have hfunction : ∀ f f' : ServiceFunction, f'.onWire = f.onWire →
      [argsStruct f', resultStruct f'].map (fun s => s.fields.map (·.onWire)) =
        [argsStruct f, resultStruct f].map fun s => s.fields.map (·.onWire) := by
    intro f f' hsame
    obtain ⟨-, -, hargs, -⟩ := ServiceFunction.onWire_eq_iff.mp hsame
    simp [argsStruct, hargs, resultStruct_alike hsame]
  have hinner : d'.services.map (fun s => s.functions.flatMap fun f =>
      [argsStruct f, resultStruct f].map fun s => s.fields.map (·.onWire)) =
      d.services.map fun s => s.functions.flatMap fun f =>
        [argsStruct f, resultStruct f].map fun s => s.fields.map (·.onWire) :=
    map_eq_of_alike hservices fun s' _ s _ hsame => by
      obtain ⟨-, hfunctions, -⟩ := Service.onWire_eq_iff.mp hsame
      rw [List.flatMap_def, List.flatMap_def,
        map_eq_of_alike hfunctions fun f' _ f _ hsame => hfunction f f' hsame]
  simp only [renderedStructs, List.map_append, List.map_flatMap, hown]
  rw [List.flatMap_def, List.flatMap_def, hinner]

/-! ## Documents -/

/-- What the generator puts on the wire for a document: the descriptors of its structs and of its
    services, each with the error instead where there is no model. -/
def wireDescriptors (names : TypeNames) (options : List ServiceOption) (d : Document) :
    List (Generated (List (List (Option Value)))) × List (Generated (List FunctionDescriptor)) :=
  (d.structs.map fun s => (structModel names s).map structDescriptors,
   d.services.map fun s => (serviceModel names options s).map serviceDescriptors)

/-- Documents that look alike on the wire put the same on the wire. -/
theorem wireDescriptors_eq {options : List ServiceOption} {d d' : Document}
    (h : d'.onWire = d.onWire) (hd : d.IsNamed) (hd' : d'.IsNamed) :
    wireDescriptors names options d' = wireDescriptors names options d := by
  obtain ⟨-, -, -, -, hstructs, hservices, -⟩ := Document.onWire_eq_iff.mp h
  have hs := map_eq_of_alike (f := fun s => (structModel names s).map structDescriptors) hstructs
    fun s' hs' s hs hsame => by
      obtain ⟨hname, hfields, -⟩ := Struct.onWire_eq_iff.mp hsame
      exact structModel_descriptors hfields (hd.structs s hs) (hd'.structs s' hs') (by rw [hname])
  have ht := map_eq_of_alike
    (f := fun s => (serviceModel names options s).map serviceDescriptors) hservices
    fun s' hs' s hs hsame =>
      serviceModel_descriptors options hsame (hd.services s hs) (hd'.services s' hs')
  exact Prod.ext hs ht

/-- What the models of a document describe is what the document says. -/
structure WireDescribed (names : TypeNames) (options : List ServiceOption) (d : Document) : Prop where
  structs : ∀ s ∈ d.structs, ∀ m, structModel names s = .ok m →
    Describe (structDescriptors m) s.fields
  services : ∀ s ∈ d.services, ∀ m, serviceModel names options s = .ok m →
    List.Forall₂ DescribesFunction (serviceDescriptors m) s.functions

/-- **The wire does not depend on names.**  A sequence of conversions goes through if the names are
    texts, and then the document differs from the original in nothing but the names and kept
    spellings of its fields and functions, each of which has the wire name that it had.  Whatever
    cases the generator then converts the two to, the same goes over the wire: the models describe
    the same fields and functions, which are those of the document; and the texts of a struct, which
    may be one of arguments or of a result, declare the same wire names, tags and ids in the same
    order, whatever the generators are. -/
theorem wire_contract (d : Document) (cases : List NamingCase) :
    ((∃ d', d.normalizeAll cases = .ok d') ↔ cases = [] ∨ d.IsNamed) ∧
    ∀ d', d.normalizeAll cases = .ok d' → d'.onWire = d.onWire ∧
      ∀ (names : TypeNames) (options : List ServiceOption) (case case' : NamingCase) n n',
        d.normalize case = .ok n → d'.normalize case' = .ok n' →
        n'.onWire = n.onWire ∧
        wireDescriptors names options n' = wireDescriptors names options n ∧
        WireDescribed names options n ∧
        ∀ g g' : Generator,
          List.Forall₂ (TextsAgree g g') (renderedStructs n) (renderedStructs n') := by
  constructor
  · constructor
    · rintro ⟨d', h⟩
      cases cases with
      | nil => exact .inl rfl
      | cons case rest =>
        rw [Document.normalizeAll, List.foldlM_cons] at h
        obtain ⟨d₁, h₁, -⟩ := bind_eq_ok.mp h
        exact .inr ((Document.exists_normalize case d).mp ⟨d₁, h₁⟩)
    · rintro (rfl | h)
      · exact ⟨d, rfl⟩
      · exact Document.exists_normalizeAll cases h
  · intro d' h
    obtain ⟨-, hwire⟩ := Document.normalizeAll_keeps h
    refine ⟨hwire, fun names options case case' n n' hn hn' => ?_⟩
    -- both documents have been renamed, and no renaming shows on the wire
    have hsame : n'.onWire = n.onWire := by
      rw [Document.onWire_normalize hn', Document.onWire_normalize hn, hwire]
    refine ⟨hsame, wireDescriptors_eq hsame (Document.isNamed_normalize hn)
      (Document.isNamed_normalize hn'), ⟨fun _ _ _ => structDescriptors_describe,
        fun _ _ _ => serviceDescriptors_describe⟩, fun g g' => ?_⟩
    -- the rendered structs are paired in order, and each pair has the same fields on the wire
    have halike : List.Forall₂ (· = ·)
        ((renderedStructs n').map fun s => s.fields.map (·.onWire))
        ((renderedStructs n).map fun s => s.fields.map (·.onWire)) := by
      rw [renderedStructs_alike hsame]
      exact List.forall₂_refl _
    rw [List.forall₂_map_left_iff, List.forall₂_map_right_iff] at halike
    exact halike.flip.imp fun _ _ hfields => textsAgree hfields g g'

/-- A field under two cases, in models and in texts: as it was declared, and after two other
    conversions.  In both it is called `user_id` on the wire. -/
theorem wire_contract_of_one_field :
    let id : Field :=
      { id := 1, name := .str "user_id", type := .base .i64, requiredness := .required }
    let d : Document :=
      { structs := [{ name := .str "User", fields := [id] }]
        defaultNamespace := .str standardNamespace }
    let inCase (name : String) : Struct :=
      { name := .str "User", fields := [{ id with name := .str name, spelling? := some "user_id" }] }
    let entry : WireEntry := ⟨"user_id", .i64, 1⟩
    let g : Generator := ⟨{}, {}⟩
    ∃ d', d.normalizeAll [.pascal, .screamingSnake] = .ok d' ∧
      d.normalize .camel = .ok { d with structs := [inCase "userId"] } ∧
      d'.normalize .snake = .ok { d with structs := [inCase "user_id"] } ∧
      wireDescriptors {} [] { d with structs := [inCase "user_id"] } =
        wireDescriptors {} [] { d with structs := [inCase "userId"] } ∧
      (wireDescriptors {} [] { d with structs := [inCase "userId"] }).1 = [.ok [entry.values]] ∧
      ∃ text text', g.structText (inCase "userId") = .ok text ∧
        g.structText (inCase "user_id") = .ok text' ∧
        Declares text [entry] ∧ Declares text' [entry] := by
  intro id d inCase entry g
  have hd : d.IsNamed := by
    constructor
    · intro s hs f hf
      obtain rfl := List.mem_singleton.mp hs
      obtain rfl := List.mem_singleton.mp hf
      exact ⟨_, rfl⟩
    · exact fun s hs => by cases hs
  obtain ⟨hgoes, hkeeps⟩ := wire_contract d [.pascal, .screamingSnake]
  obtain ⟨d', hd'⟩ := hgoes.mpr (.inr hd)
  have hconverted : d.normalizeAll [.pascal, .screamingSnake] =
      .ok { d with structs := [inCase "USER_ID"] } := rfl
  obtain rfl := Except.ok.inj (hd'.symm.trans hconverted)
  have hn : d.normalize .camel = .ok { d with structs := [inCase "userId"] } := rfl
  have hn' : Document.normalize .snake { d with structs := [inCase "USER_ID"] } =
      .ok { d with structs := [inCase "user_id"] } := rfl
  obtain ⟨-, hdescriptors, hdescribed, htexts⟩ :=
    (hkeeps _ hd').2 {} [] .camel .snake _ _ hn hn'
  refine ⟨_, hd', hn, hn', hdescriptors, rfl, ?_⟩
  have hwritten (name : String) : ∃ text, g.structText (inCase name) = .ok text := by
    have hs : (inCase name).HasTextNames :=
      ⟨⟨_, rfl⟩, by simpa [inCase, id] using ⟨⟨_, rfl⟩, nofun⟩⟩
    exact (Generator.structText_decides ⟨_, rfl⟩ hs).1 (by simp [inCase, id, Struct.Codable])
  obtain ⟨text, htext⟩ := hwritten "userId"
  obtain ⟨text', htext'⟩ := hwritten "user_id"
  refine ⟨text, text', htext, htext', ?_⟩
  cases htexts g g with
  | cons hagree _ =>
    obtain ⟨entries, hgo, hdeclares, hdeclares'⟩ := hagree text text' htext htext'
    have hentry : GoAs (inCase "userId").fields [entry] := .cons ⟨rfl, rfl, rfl⟩ .nil
    rw [hentry.unique hgo] at hdeclares hdeclares'
    exact ⟨hdeclares, hdeclares'⟩

end ThriftScala.Scala
