/-
  A file is generated exactly where every type can be read and written.

  In a document whose names are texts, under settings of their declared types, there is one thing
  only that can go wrong: a type that cannot be coded.  `Decides p x` says that of one step — it
  gives a value where `p` holds, and where it does not it refuses a type and does nothing else.

  1. The literals of constants and the parameters of fields are always there (`exists_literal`,
     `exists_fieldArgs`).
  2. The models of fields, structs, functions and services are there exactly if their types are
     codable; the first error that is met is the refusal of a type.
  3. A model, once it is there, fills its fragment, since the fragment passes the check with the
     shape of the model (`exists_filled`).
  4. So it is with whole files (`generates_iff_codable`).
-/
import Mathlib.Data.List.Induction
import ThriftScala.Proofs.Scala.Codable
import ThriftScala.Proofs.Scala.Parameters
import ThriftScala.Proofs.Settings.Loaded

namespace ThriftScala.Scala

open Outcome

/-! ## Steps that fail for types only -/

/-- A step gives a value where `p` holds, and refuses a type where it does not. -/
def Decides {α : Type} (p : Prop) (x : Generated α) : Prop :=
  (p → ∃ a, x = .ok a) ∧ (¬ p → ∃ u, x = .error (.unmapped u))

namespace Decides

variable {α β : Type} {p q : Prop} {x : Generated α}

/-- A step that always gives a value decides nothing. -/
theorem of_exists (h : ∃ a, x = .ok a) : Decides True x :=
  ⟨fun _ => h, fun hn => absurd trivial hn⟩

/-- A condition can be replaced by one that holds in the same cases. -/
theorem congr (h : Decides p x) (hpq : p ↔ q) : Decides q x := by rwa [← hpq]

/-- Two steps decide both of their questions. -/
theorem bind {f : α → Generated β} (hx : Decides p x) (hf : ∀ a, x = .ok a → Decides q (f a)) :
    Decides (p ∧ q) (x >>= f) := by
  constructor
  · rintro ⟨hp, hq⟩
    obtain ⟨a, ha⟩ := hx.1 hp
    rw [ha, ok_bind]
    exact (hf a ha).1 hq
  · intro hn
    by_cases hp : p
    · obtain ⟨a, ha⟩ := hx.1 hp
      rw [ha, ok_bind]
      exact (hf a ha).2 fun hq => hn ⟨hp, hq⟩
    · obtain ⟨u, hu⟩ := hx.2 hp
      exact ⟨u, by rw [hu, error_bind]⟩

/-- A step before the one that decides. -/
theorem after {f : α → Generated β} (hx : ∃ a, x = .ok a)
    (hf : ∀ a, x = .ok a → Decides q (f a)) : Decides q (x >>= f) :=
  (bind (of_exists hx) hf).congr (by simp)

/-- Nothing after the step that decides can fail. -/
theorem before {f : α → Generated β} (hx : Decides p x)
    (hf : ∀ a, x = .ok a → ∃ b, f a = .ok b) : Decides p (x >>= f) :=
  (bind hx fun a ha => of_exists (hf a ha)).congr (by simp)

/-- The elements of a list are worked off exactly if each one can be. -/
theorem mapM {f : α → Generated β} {r : α → Prop} : ∀ {l : List α},
    (∀ a ∈ l, Decides (r a) (f a)) → Decides (∀ a ∈ l, r a) (l.mapM f)
  | [], _ => (of_exists ⟨[], rfl⟩).congr (by simp)
  | a :: l, h => by
    rw [List.mapM_cons]
    have hrest : Decides (∀ b ∈ l, r b) (l.mapM f) :=
      mapM fun b hb => h b (List.mem_cons_of_mem a hb)
    refine (bind (h a List.mem_cons_self) fun b _ => ?_).congr List.forall_mem_cons.symm
    exact before hrest fun bs _ => ⟨b :: bs, rfl⟩

/-- A step that decides has a value exactly if the answer is yes. -/
theorem exists_iff (h : Decides p x) : (∃ a, x = .ok a) ↔ p := by
  refine ⟨?_, h.1⟩
  rintro ⟨a, ha⟩
  by_contra hp
  obtain ⟨u, hu⟩ := h.2 hp
  rw [ha] at hu
  cases hu

end Decides

/-! ## Fields -/

variable {names : TypeNames}

/-- A text can always be offered. -/
theorem exists_offered (key : String) {v : Json} (h : v.IsText) :
    ∃ w, offered key v = .ok w := by
  obtain ⟨s, rfl⟩ := h
  exact ⟨_, offered_str key s⟩

/-- What a type is called in a declaration is a text. -/
def TypeNames.AreTexts (names : TypeNames) : Prop := ∃ binary, names.binary = .str binary

/-- Where the names of types are texts, every type is a text. -/
theorem scalaType_isText (h : names.AreTexts) (t : FieldType) : (scalaType names t).IsText := by
  unfold scalaType
  split
  · exact h
  · exact ⟨_, rfl⟩

/-- The model of a field is there exactly if the type of the field is codable. -/
theorem fieldModel_decides (hnames : names.AreTexts) {f : Field} (hf : f.HasTextNames) :
    Decides f.type.Codable (fieldModel names f) := by
  refine .after (exists_used_textOr hf.name _) fun name _ => ?_
  refine .after (exists_used_textOr (wireNameOf_isText _ hf.name) _) fun wireName _ => ?_
  have hread : Decides f.type.Codable (mapped (readValue inputProtocol toString 0 f.type)) := by
    constructor
    · intro h
      obtain ⟨s, hs⟩ := exists_readValue inputProtocol toString h 0
      exact ⟨s, by rw [hs]; rfl⟩
    · intro h
      obtain ⟨u, hu⟩ := readValue_error inputProtocol toString 0 h
      exact ⟨u, by rw [hu]; rfl⟩
  refine hread.before fun read hok => ?_
  -- what can be read has a tag and can be written
  have hcodable : f.type.Codable := hread.exists_iff.mp ⟨read, hok⟩
  obtain ⟨tag, htag⟩ := exists_wireTag hcodable
  obtain ⟨write, hwrite⟩ :=
    exists_writeValue outputProtocol toString hcodable 0 (name ++ "_item")
  have htype : ∃ w, offered "fieldType" (fieldType names f) = .ok w := by
    apply exists_offered
    unfold fieldType
    split
    · exact ⟨_, rfl⟩
    · exact scalaType_isText hnames _
  obtain ⟨type, htype⟩ := htype
  simp [htag, hwrite, htype, mapped]

/-! ## Structs -/

/-- A struct has a model exactly if all its fields can be coded. -/
theorem structModel_decides (hnames : names.AreTexts) {s : Struct} (hs : s.HasTextNames) :
    Decides s.Codable (structModel names s) := by
  refine (Decides.mapM fun f hf => fieldModel_decides hnames (hs.fields f hf)).before
    fun fields _ => ?_
  obtain ⟨args, hargs⟩ := exists_fieldArgs names hs.fields
  obtain ⟨constructor, hconstructor⟩ :=
    exists_constructorArgs fun f hf => (hs.fields f hf).name
  obtain ⟨name, hname⟩ := exists_offered "structName" hs.name
  simp [hargs, hconstructor, hname]

/-- A function is codable exactly if the structs of its arguments and of its result are. -/
theorem codable_structs_iff (f : ServiceFunction) :
    (argsStruct f).Codable ∧ (resultStruct f).Codable ↔ f.Codable := by
  have hvoid : f.isVoid = true ↔ f.returnType = .base .void := by simp [ServiceFunction.isVoid]
  rw [ServiceFunction.codable_iff]
  by_cases h : f.isVoid
  · simp [argsStruct, resultStruct, successField?, Struct.Codable, thrownField, h, hvoid.mp h]
  · have hne : f.returnType ≠ .base .void := fun hr => h (hvoid.mpr hr)
    simp [argsStruct, resultStruct, successField?, Struct.Codable, thrownField, h, hne]

/-! ## Services -/

/-- A function has a model exactly if its arguments and its result can be coded. -/
theorem functionModel_decides (hnames : names.AreTexts) {f : ServiceFunction}
    (hf : f.HasTextNames) : Decides f.Codable (functionModel names f) := by
  refine .after (exists_used_textOr hf.name _) fun name _ => ?_
  refine .after (exists_used_textOr (wireNameOf_isText _ hf.name) _) fun wireName _ => ?_
  refine .after (exists_fieldArgs names hf.args) fun args _ => ?_
  have hargs := structModel_decides hnames (argsStruct_hasTextNames hf)
  have hresult := structModel_decides hnames (resultStruct_hasTextNames hf)
  refine (hargs.bind fun argsModel _ => hresult.before fun resultModel _ => ?_).congr
    (codable_structs_iff f)
  obtain ⟨throwNames, hthrowNames⟩ := exists_throwNames hf.isNamed
  obtain ⟨returnType, hreturn⟩ := exists_offered "returnType" (scalaType_isText hnames f.returnType)
  have hthrow : ∀ t ∈ f.throws.zip throwNames, ∃ m, throwModel names t.1 t.2 = .ok m := by
    intro t _
    obtain ⟨type, htype⟩ := exists_offered "type" (scalaType_isText hnames t.1.type)
    simp [throwModel, htype]
  obtain ⟨throws, hthrows⟩ := exists_mapM_eq_ok hthrow
  simp [hthrowNames, hreturn, hthrows]

/-- The service that is extended, or no name at all. -/
theorem parent_isText {s : Service} (hs : s.HasTextNames) :
    Json.IsText (if s.parent.truthy then s.parent else .str "") := by
  split
  · rename_i htruthy
    rcases hs.parent with hnull | htext
    · rw [hnull] at htruthy
      cases htruthy
    · exact htext
  · exact ⟨_, rfl⟩

/-- A service has a model exactly if all its functions can be coded. -/
theorem serviceModel_decides (hnames : names.AreTexts) (options : List ServiceOption)
    {s : Service} (hs : s.HasTextNames) :
    Decides (∀ f ∈ s.functions, f.Codable) (serviceModel names options s) := by
  refine (Decides.mapM fun f hf => functionModel_decides hnames (hs.functions f hf)).before
    fun functions _ => ?_
  obtain ⟨name, hname⟩ := exists_offered "serviceName" hs.name
  obtain ⟨parent, hparent⟩ := exists_offered "parent" (parent_isText hs)
  simp [hname, hparent]

/-! ## Filled fragments -/

/-- A model of the shape that its fragment is checked with fills it. -/
theorem exists_filled {f : Fragment} {m : Model} {shape : ModelShape} {depth : Nat}
    (hm : ModelShape.Holds Value.IsText shape m)
    (hc : Fragment.checkWithin depth [shape] f.body = true) (hd : depth ≤ Fragment.spliceLimit) :
    ∃ s, filled f m = .ok s := by
  obtain ⟨s, hs⟩ := Fragment.exists_render hm hc hd
  exact ⟨s, by simp [filled, Fragment.fill, hs, Except.mapError]⟩

/-- Names of types that are texts may stand as leaves. -/
theorem TypeNames.AreTexts.admits (h : names.AreTexts) : Admits Value.IsText names := by
  obtain ⟨binary, hbinary⟩ := h
  exact admits_text hbinary

/-- A text that is offered to a model is a text there. -/
theorem offers_isText {v : Json} (h : v.IsText) : Offers Value.IsText v := by
  obtain ⟨s, rfl⟩ := h
  exact offers_text s

/-- One package more is looked at after all others. -/
theorem importedPackages_snoc (own p : Json) (packages : List Json) :
    importedPackages own (packages ++ [p]) =
      if p.same own || (importedPackages own packages).any (p.same ·) then
        importedPackages own packages
      else importedPackages own packages ++ [p] := by
  simp [importedPackages, List.foldl_append]

/-- The packages to import come from those that are given. -/
theorem mem_of_mem_importedPackages {own p : Json} {packages : List Json}
    (h : p ∈ importedPackages own packages) : p ∈ packages := by
  induction packages using List.reverseRecOn with
  | nil => exact h
  | append_singleton packages q ih =>
    rw [importedPackages_snoc] at h
    split at h
    · exact List.mem_append_left _ (ih h)
    · exact List.mem_append.mpr ((List.mem_append.mp h).imp_left ih)

namespace Generator

variable {g : Generator} {d : Document}

/-! ## Parts of a file -/

/-- There always is a header if the packages are texts. -/
theorem exists_header (hcomments : ∃ b, g.settings.addComments = .bool b)
    (hd : d.HasTextTargets) : ∃ s, g.header d = .ok s := by
  obtain ⟨comments, hcomments⟩ := hcomments
  have himported : ∀ p ∈ importedPackages d.targetNamespace
      (d.includes.map (·.2.targetNamespace)), p.IsText := by
    intro p hp
    obtain ⟨i, hi, rfl⟩ := List.mem_map.mp (mem_of_mem_importedPackages hp)
    exact hd.includes i hi
  obtain ⟨package, hpackage⟩ := exists_offered "scalaNamespace" hd.own
  have himport : ∀ p ∈ importedPackages d.targetNamespace
      (d.includes.map (·.2.targetNamespace)),
      ∃ m : Model, (do pure [("namespace", ← offered "namespace" p)] : Generated Model) = .ok m := by
    intro p hp
    obtain ⟨w, hw⟩ := exists_offered "namespace" (himported p hp)
    simp [hw]
  obtain ⟨imports, himports⟩ := exists_mapM_eq_ok himport
  have hmodel : ∃ m, headerModel (.bool comments) d = .ok m :=
    ⟨_, bind_eq_ok.mpr ⟨package, hpackage, bind_eq_ok.mpr ⟨imports, himports,
      bind_eq_ok.mpr ⟨.flag comments, rfl, rfl⟩⟩⟩⟩
  obtain ⟨m, hm⟩ := hmodel
  have hholds := headerModel_holds (offers_isText hd.own)
    (fun p hp => offers_isText (himported p hp)) hm
  rw [header, hcomments, hm, ok_bind]
  exact exists_filled hholds header_checked (by decide)

/-- There always is a text of the constants if their names are texts. -/
theorem exists_constsText (hnames : g.names.AreTexts) {consts : List Const}
    (h : ∀ c ∈ consts, c.HasTextNames) : ∃ s, g.constsText consts = .ok s := by
  have hvalue : ∀ c ∈ consts, ∃ v, used (literal {} c.value) = .ok v := by
    intro c hc
    obtain ⟨s, hs⟩ := exists_literal {} (h c hc).value
    simp [hs]
  obtain ⟨values, hvalues⟩ := exists_mapM_eq_ok hvalue
  -- every value is the literal of its constant, and so a text
  have hliteral : ∀ c ∈ consts, ∀ v, literal {} c.value = .ok v → v.IsText := by
    intro c hc v hv
    obtain ⟨s, hs⟩ := exists_literal {} (h c hc).value
    exact ⟨s, Except.ok.inj (hv.symm.trans hs)⟩
  have hconst : ∀ cv ∈ consts.zip values, ∃ m, constModel g.names cv.1 cv.2 = .ok m := by
    intro cv hcv
    have hmem := (List.of_mem_zip hcv).1
    have hlit := (List.forall₂_iff_zip.mp (mapM_eq_ok.mp hvalues)).2 hcv
    obtain ⟨name, hname⟩ := exists_offered "name" (h cv.1 hmem).name
    obtain ⟨type, htype⟩ := exists_offered "type" (scalaType_isText hnames cv.1.type)
    obtain ⟨value, hvalue⟩ := exists_offered "value" (hliteral cv.1 hmem cv.2 (used_eq_ok.mp hlit))
    simp [constModel, hname, htype, hvalue]
  obtain ⟨models, hmodels⟩ := exists_mapM_eq_ok hconst
  have hmodel : ∃ m, constsModel g.names consts = .ok m := by
    simp [constsModel, hvalues, hmodels]
  obtain ⟨m, hm⟩ := hmodel
  have hholds := constsModel_holds hnames.admits (fun c hc => offers_isText (h c hc).name)
    (fun c hc v hv => offers_isText (hliteral c hc v hv)) hm
  rw [constsText, hm, ok_bind]
  exact exists_filled hholds consts_checked (by decide)

/-- There always is a text of the enums if their names are texts. -/
theorem exists_enumsText {enums : List EnumDef} (h : ∀ e ∈ enums, e.HasTextNames) :
    ∃ s, enumsText enums = .ok s := by
  have henum : ∀ e ∈ enums, ∃ m, enumModel e = .ok m := by
    intro e he
    obtain ⟨texts, htexts⟩ :=
      exists_mapM_eq_ok fun v hv => exists_used_textOr ((h e he).values v hv) .noOperation
    obtain ⟨name, hname⟩ := exists_offered "enum_name" (h e he).name
    simp [enumModel, htexts, hname]
  obtain ⟨models, hmodels⟩ := exists_mapM_eq_ok henum
  have hmodel : ∃ m, enumsModel enums = .ok m := by simp [enumsModel, hmodels]
  obtain ⟨m, hm⟩ := hmodel
  have hholds : ModelShape.Holds Value.IsText enumsShape m :=
    enumsModel_holds (fun s => ⟨s, rfl⟩) (fun e he => offers_isText (h e he).name) hm
  rw [enumsText, hm, ok_bind]
  exact exists_filled hholds enums_checked (by decide)

/-- There is a text of a struct exactly if all its fields can be coded. -/
theorem structText_decides (hnames : g.names.AreTexts) {s : Struct} (hs : s.HasTextNames) :
    Decides s.Codable (g.structText s) := by
  refine (structModel_decides hnames hs).before fun m hm => ?_
  have hholds := structModel_holds hnames.admits (offers_isText hs.name) hm
  exact exists_filled hholds struct_checked (by decide)

/-- There is a text of a service exactly if all its functions can be coded. -/
theorem serviceText_decides (hnames : g.names.AreTexts) (options : List ServiceOption)
    {s : Service} (hs : s.HasTextNames) :
    Decides (∀ f ∈ s.functions, f.Codable) (g.serviceText options s) := by
  refine (serviceModel_decides hnames options hs).before fun m hm => ?_
  have hholds := serviceModel_holds hnames.admits (offers_isText hs.name)
    (offers_isText (parent_isText hs)) hm
  exact exists_filled hholds service_checked (by decide)

/-! ## Whole files -/

/-- A document whose names have their case already. -/
theorem assemble_decides (hnames : g.names.AreTexts)
    (hcomments : ∃ b, g.settings.addComments = .bool b) (options : List ServiceOption)
    (hd : d.HasTextNames) (ht : d.HasTextTargets) : Decides d.Codable (g.assemble options d) := by
  refine .after (exists_constsText hnames hd.consts) fun consts _ => ?_
  refine .after (exists_enumsText hd.enums) fun enums _ => ?_
  have hstructs : Decides (∀ s ∈ d.structs, s.Codable) (d.structs.mapM g.structText) :=
    .mapM fun s hs => structText_decides hnames (hd.structs s hs)
  have hservices : Decides (∀ s ∈ d.services, ∀ f ∈ s.functions, f.Codable)
      (d.services.mapM (g.serviceText options)) :=
    .mapM fun s hs => serviceText_decides hnames options (hd.services s hs)
  refine (hstructs.bind fun structs _ => hservices.before fun services _ => ?_).congr
    (Document.codable_iff d).symm
  obtain ⟨head, hhead⟩ := exists_header hcomments ht
  simp [hhead]

/-- **There is code exactly if the document can be coded.** -/
theorem generate_decides (hnames : g.names.AreTexts)
    (hcomments : ∃ b, g.settings.addComments = .bool b) (hp : g.settings.problems = .ok [])
    (hd : d.HasTextNames) (ht : d.HasTextTargets) : Decides d.Codable (g.generate none d) := by
  refine .after (Settings.exists_serviceOptions hp) fun options _ => ?_
  obtain ⟨case, hcase⟩ := Settings.exists_namingCase hp
  refine .after ⟨case, by rw [hcase]; rfl⟩ fun case _ => ?_
  obtain ⟨d₁, hd₁⟩ := (Document.exists_normalize case d).mpr hd.isNamed
  refine .after ⟨d₁, by rw [hd₁]; rfl⟩ fun d' hd' => ?_
  have hd' := used_eq_ok.mp hd'
  exact (assemble_decides hnames hcomments options (hd.normalize hd') (ht.normalize hd')).congr
    (Document.codable_normalize hd')

/-- Warnings only ask for names that are texts. -/
theorem exists_warnings (hp : g.settings.problems = .ok []) (hd : d.HasTextNames) :
    ∃ ws, g.warnings d = .ok ws := by
  obtain ⟨case, hcase⟩ := Settings.exists_namingCase hp
  have hfields : ∀ (owner kind : String) (fields : List Field), (∀ f ∈ fields, f.HasTextNames) →
      ∃ ws, fields.mapM (fieldWarnings case owner kind) = .ok ws := by
    intro owner kind fields hf
    refine exists_mapM_eq_ok fun f hmem => ?_
    obtain ⟨f', hf'⟩ := (Field.exists_normalize case f).mpr (hf f hmem).name
    simp [fieldWarnings, hf']
  obtain ⟨fields, hfs⟩ := exists_mapM_eq_ok fun s hs =>
    hfields s.name.display "Field" s.fields (hd.structs s hs).fields
  have hservice : ∀ s ∈ d.services, ∃ ws, s.functions.mapM (fun f => f.args.mapM
      (fieldWarnings case (s.name.display ++ "." ++ f.name.display) "Argument")) = .ok ws := by
    intro s hs
    exact exists_mapM_eq_ok fun f hf => hfields _ _ f.args ((hd.services s hs).functions f hf).args
  obtain ⟨args, hargs⟩ := exists_mapM_eq_ok hservice
  simp [warnings, hcase, hfs, hargs]

/-- What a run gives follows from what the generation of the text gives. -/
theorem run_eq (hp : g.settings.problems = .ok []) (hl : g.settings.lineEnding.IsText)
    (hd : d.HasTextNames) :
    (∀ text, g.generate none d = .ok text →
      ∃ code ws, g.run d = .ok (.code code ws (summary d))) ∧
    ∀ u, g.generate none d = .error (.unmapped u) → g.run d = .ok (.failed (.unmapped u)) := by
  obtain ⟨ws, hws⟩ := exists_warnings hp hd
  obtain ⟨ending, hl⟩ := hl
  constructor
  · intro text h
    simp [run, produce, hws, h, format, hl, Json.textOr]
  · intro u h
    simp [run, produce, hws, h, GenerationError.isReported]

/-- **A file is generated exactly if every type in it is codable.**  Under settings that were
    loaded, for a document that was read, whatever else stands in it: where a type is not codable,
    the generation refuses a type and nothing else can go wrong, and a run gives a failed result
    that holds nothing but this refusal. -/
theorem generates_iff_codable {files : Files} {language path standard : String}
    {overrides v : Json} {s : Settings} {d : Document}
    (hs : Settings.load files language path overrides = .ok s) (ht : s.HasDeclaredTypes)
    (hv : Document.ofJson (.str standard) v = .ok d) (hd : d.HasTextNames) :
    ∃ g, ofSettings s = .ok g ∧
      ((∃ text, g.generate none d = .ok text) ↔ d.Codable) ∧
      (d.Codable → ∃ code ws, g.run d = .ok (.code code ws (summary d))) ∧
      (¬ d.Codable → ∃ u, g.generate none d = .error (.unmapped u) ∧
        g.run d = .ok (.failed (.unmapped u))) := by
  obtain ⟨names, binary, hnames, hbinary⟩ := ht.exists_typeNames
  have hp : s.problems = .ok [] := Settings.problems_of_load hs
  let g : Generator := ⟨s, names⟩
  have hg : Decides d.Codable (g.generate none d) :=
    generate_decides ⟨binary, hbinary⟩ ht.addComments hp hd (hd.targets hv)
  obtain ⟨hcode, hfailed⟩ := run_eq (g := g) hp ht.lineEnding hd
  refine ⟨g, by simp [ofSettings, hnames, g], hg.exists_iff, fun h => ?_, fun h => ?_⟩
  · obtain ⟨text, htext⟩ := hg.1 h
    exact hcode text htext
  · obtain ⟨u, hu⟩ := hg.2 h
    exact ⟨u, hu, hfailed u hu⟩

/-- A schema with one struct, whose only field is a list of nothing. -/
def listOfNothing : Json :=
  .obj [("structs", .arr [.obj [("name", .str "Box"), ("fields", .arr
    [.obj [("id", .int 1), ("name", .str "content"), ("type", .obj [("list", .str "void")])]])]])]

/-- Under the standard settings a list of nothing is refused. -/
theorem listOfNothing_is_refused :
    ∃ s d, Settings.load [] "scala" "" .null = .ok s ∧
      Document.ofJson (.str standardNamespace) listOfNothing = .ok d ∧
      ∃ g u, ofSettings s = .ok g ∧ g.run d = .ok (.failed (.unmapped u)) := by
  let s : Settings :=
    { custom := .ofJson (.obj
        [("list_type", .str "Seq"), ("set_type", .str "Set"), ("map_type", .str "Map"),
         ("option_type", .str "Option"), ("binary_type", .str "ByteBuffer")]) }
  let content : Field :=
    { id := 1, name := .str "content", type := .list (.base .void), requiredness := .default }
  let d : Document :=
    { structs := [{ name := .str "Box", fields := [content] }]
      defaultNamespace := .str standardNamespace }
  have hs : Settings.load [] "scala" "" .null = .ok s := rfl
  have hv : Document.ofJson (.str standardNamespace) listOfNothing = .ok d := rfl
  have ht : s.HasDeclaredTypes := by
    refine ⟨.inl rfl, ⟨_, rfl⟩, ⟨_, rfl⟩, ⟨_, rfl⟩, ⟨_, rfl⟩, ⟨[], rfl⟩, _, rfl, ?_⟩
    intro key hkey v hlook
    simp only [typeNameKeys, List.mem_cons, List.not_mem_nil, or_false] at hkey
    rcases hkey with rfl | rfl | rfl | rfl | rfl <;> cases hlook <;> exact ⟨_, rfl⟩
  have hcontent : content.HasTextNames := ⟨⟨_, rfl⟩, fun c hc => by cases hc⟩
  have hd : d.HasTextNames := by
    constructor <;> simp [Document.HasTextPackages, d]
    exact ⟨⟨_, rfl⟩, by simpa using hcontent⟩
  have hbad : ¬ d.Codable := by
    intro h
    have hlist := h.structs _ List.mem_cons_self content List.mem_cons_self
    simp [content] at hlist
  obtain ⟨g, hg, -, -, hrefused⟩ := generates_iff_codable hs ht hv hd
  obtain ⟨u, -, hrun⟩ := hrefused hbad
  exact ⟨s, d, hs, hv, g, u, hg, hrun⟩

end Generator

end ThriftScala.Scala
