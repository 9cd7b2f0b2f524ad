/-
  Generated files are lexically well formed.

  The names in a document and in the settings are taken to be ASCII names; the texts of constants
  may be any.  Then all that a fragment is filled with fits:

  1. A name is inert, so it fits under every key (`fits_name`); an expression fits under the keys
     of code (`fits_code`).
  2. Part by part of a document, the model that is made of it fits.
  3. The fragments are balanced, so what they write is (`balanced_of_filled`), and so is the whole
     file, which is a row of such texts (`generate_wellFormed`).
-/
import ThriftScala.Proofs.Scala.Expressions
import ThriftScala.Proofs.Scala.Outline
import ThriftScala.Proofs.Scala.Totality

namespace ThriftScala.Scala

open Outcome Fragment

/-! ## Values under keys -/

/-- An inert text is what any role asks for. -/
theorem Role.holds_of_inert (r : Role) {s : String} (h : Inert s) : r.Holds s := by
  cases r with
  | code => exact h.balanced
  | literal => exact h.quotable
  | both => exact h
  | nowhere => trivial

/-- A text that leaves the reader where it is fits under every key. -/
theorem fits_inert {key s : String} (h : Inert s) : Fits key (.text s) :=
  (role key).holds_of_inert h

/-- A balanced text fits where code stands. -/
theorem fits_balanced {key s : String} (hrole : role key = .code) (h : Balanced s) :
    Fits key (.text s) := by
  rw [Fits, hrole]
  exact h

/-- A name fits under every key. -/
theorem fits_name {key : String} {v : Json} {w : Value} (hv : v.IsAsciiName)
    (h : offered key v = .ok w) : Fits key w := by
  obtain ⟨s, rfl, hs⟩ := hv
  rw [offered_str] at h
  cases h
  exact fits_inert (inert_of_isAsciiName hs)

/-- An expression fits where code is written. -/
theorem fits_code {key : String} {v : Json} {w : Value} (hrole : role key = .code) (hv : IsCode v)
    (h : offered key v = .ok w) : Fits key w := by
  obtain ⟨s, rfl, hs⟩ := hv
  rw [offered_str] at h
  cases h
  exact fits_balanced hrole hs

/-- Models that fit, under any key. -/
theorem fits_sequence {key : String} {items : List Model} (h : ∀ m ∈ items, ModelFits m) :
    Fits key (.sequence items) := fun _ => itemsFit_iff.mpr h

/-- A balanced fragment fits where it is spliced. -/
theorem fits_fragment {key : String} {f : Fragment} (h : IsBalanced f) : Fits key (.fragment f) :=
  fun _ => h

/-- A text behind a name is inert if the text is. -/
theorem inert_behind {name suffix : String} (h : name.IsAsciiName) (hs : Inert suffix) :
    Inert (name ++ suffix) := (inert_of_isAsciiName h).append hs

/-! ## Head, constants and enums -/

variable {names : TypeNames}

/-- The packages of a document with ASCII names fit into the header. -/
theorem headerModel_fits {comments : Json} {d : Document} {m : Model} (hd : d.HasAsciiNames)
    (h : headerModel comments d = .ok m) : ModelFits m := by
  obtain ⟨package, hpackage, h⟩ := bind_eq_ok.mp h
  obtain ⟨imports, himports, h⟩ := bind_eq_ok.mp h
  obtain ⟨flag, hflag, h⟩ := bind_eq_ok.mp h
  cases h
  have himport : ∀ i ∈ imports, ModelFits i := by
    refine forall_of_mapM_eq_ok himports fun p hp i hmade => ?_
    obtain ⟨shared, hshared, rfl⟩ := List.mem_map.mp (mem_of_mem_importedPackages hp)
    obtain ⟨value, hvalue, hmade⟩ := bind_eq_ok.mp hmade
    cases hmade
    exact ⟨fits_name (hd.includes shared hshared) hvalue, trivial⟩
  -- the comments may be any value, for it is written nowhere
  exact ⟨fits_name hd.package hpackage, fits_sequence himport, fits_of_nowhere (by decide) flag,
    trivial⟩

/-- The literals and names of constants fit into their fragment. -/
theorem constsModel_fits (hn : names.AreAscii) {consts : List Const} {m : Model}
    (hc : ∀ c ∈ consts, c.HasAsciiNames) (h : constsModel names consts = .ok m) :
    ModelFits m := by
  obtain ⟨values, hvalues, h⟩ := bind_eq_ok.mp h
  obtain ⟨models, hmodels, h⟩ := bind_eq_ok.mp h
  cases h
  have hmodel : ∀ item ∈ models, ModelFits item := by
    refine forall_of_mapM_eq_ok hmodels ?_
    rintro ⟨c, v⟩ hcv item hmade
    have hnames := hc c (List.of_mem_zip hcv).1
    have hliteral : literal {} c.value = .ok v := by
      have hused := eq_ok_of_mem_zip hvalues hcv
      exact used_eq_ok.mp hused
    have hcode : IsCode v := literal_isCode (by decide) (by decide) hnames.value hliteral
    obtain ⟨name, hname, hmade⟩ := bind_eq_ok.mp hmade
    obtain ⟨type, htype, hmade⟩ := bind_eq_ok.mp hmade
    obtain ⟨value, hvalue, hmade⟩ := bind_eq_ok.mp hmade
    cases hmade
    have htype := fits_code (by decide) (scalaType_isCode hn hnames.type) htype
    exact ⟨fits_name hnames.name hname, htype, fits_code (by decide) hcode hvalue, trivial⟩
  exact ⟨trivial, fits_sequence hmodel, trivial⟩

/-- The name of a member fits into the fragment of its enum. -/
theorem enumValueModel_fits (v : EnumValue) {name : String} (h : name.IsAsciiName) (last : Bool) :
    ModelFits (enumValueModel v name last) :=
  ⟨fits_inert (inert_of_isAsciiName h), fits_inert (inert_lowered h),
    fits_inert (inert_toString_int v.number), trivial, trivial⟩

/-- The names of all members fit into the fragment of their enum. -/
theorem enumValueModels_fit {vs : List (EnumValue × String)} (h : ∀ v ∈ vs, v.2.IsAsciiName) :
    ∀ m ∈ enumValueModels vs, ModelFits m := by
  fun_induction enumValueModels vs with
  | case1 => simp
  | case2 v name =>
    rw [List.forall_mem_singleton] at h ⊢
    exact enumValueModel_fits v h true
  | case3 v name vs _ ih =>
    rw [List.forall_mem_cons] at h ⊢
    exact ⟨enumValueModel_fits v h.1 false, ih h.2⟩

/-- The members of an enum with ASCII names fit into its fragment. -/
theorem enumModel_fits {e : EnumDef} {m : Model} (he : e.HasAsciiNames)
    (h : enumModel e = .ok m) : ModelFits m := by
  obtain ⟨valueNames, hnames, h⟩ := bind_eq_ok.mp h
  obtain ⟨name, hname, h⟩ := bind_eq_ok.mp h
  cases h
  have hvalues : ∀ n ∈ valueNames, n.IsAsciiName := by
    refine forall_of_mapM_eq_ok hnames fun v hv n hmade => ?_
    exact isAsciiName_of_textOr (he.values v hv) (used_eq_ok.mp hmade)
  have hpairs : ∀ v ∈ e.values.zip valueNames, v.2.IsAsciiName :=
    fun v hv => hvalues v.2 (List.of_mem_zip hv).2
  exact ⟨fits_name he.name hname, fits_sequence (enumValueModels_fit hpairs), trivial⟩

/-! ## Structs -/

/-- What a field is before it is read is balanced. -/
theorem defaultReadValue_balanced (f : Field) : Balanced (defaultReadValue f) := by
  unfold defaultReadValue
  split
  · decide
  · unfold readDefault?
    split <;> decide

/-- The condition for writing a field is balanced, and so is what is written. -/
theorem writeGuard_balanced (f : Field) {accessor : String} (h : Inert accessor) :
    Balanced (writeGuard f accessor).1 ∧ Balanced (writeGuard f accessor).2 := by
  have hdefined : Inert ".isDefined" := by decide
  have hget : Inert ".get" := by decide
  have hnull : Inert " ne null" := by decide
  have htrue : Balanced "true" := by decide
  unfold writeGuard
  split_ifs
  · exact ⟨(h.append hdefined).balanced, (h.append hget).balanced⟩
  · exact ⟨(h.append hnull).balanced, h.balanced⟩
  · exact ⟨htrue, h.balanced⟩

/-- The labels of temporaries. -/
theorem toString_balanced (n : Nat) : Balanced (toString n) := (inert_toString_nat n).balanced

/-- The model of a field fits.  Its name on the wire may be any text, for it is written in literals
    only. -/
theorem fieldModel_fits (hn : names.AreAscii) {f : Field} {m : Model} (hf : f.HasAsciiNames)
    (h : fieldModel names f = .ok m) : ModelFits m := by
  obtain ⟨name, hname, h⟩ := bind_eq_ok.mp h
  obtain ⟨wireName, -, h⟩ := bind_eq_ok.mp h
  obtain ⟨read, hread, h⟩ := bind_eq_ok.mp h
  obtain ⟨tag, -, h⟩ := bind_eq_ok.mp h
  obtain ⟨write, hwrite, h⟩ := bind_eq_ok.mp h
  obtain ⟨type, htype, h⟩ := bind_eq_ok.mp h
  cases h
  have hname : name.IsAsciiName := isAsciiName_of_textOr hf.name (used_eq_ok.mp hname)
  have haccessor : Inert (quoteKeyword name) := inert_quoteKeyword (inert_of_isAsciiName hname)
  have hitem : Inert (name ++ "_item") := inert_behind hname (by decide)
  have hread : Balanced read :=
    readValue_balanced (by decide) toString_balanced hf.type (mapped_eq_ok.mp hread)
  have hvalue : Balanced (if f.isOptional then "Some(" ++ read ++ ")" else read) := by
    split
    · exact balanced_some hread
    · exact hread
  have hwrite : Balanced write :=
    writeValue_balanced (by decide) toString_balanced hitem.balanced (mapped_eq_ok.mp hwrite)
  obtain ⟨hguard, hwritten⟩ := writeGuard_balanced f haccessor
  -- one entry after the other, in the order of the keys
  exact ⟨fits_inert (inert_toString_int f.id), fits_inert haccessor,
    fits_inert (inert_behind hname (by decide)), escapeText_quotable wireName,
    fits_inert (inert_fieldConstName hname), fits_balanced (by decide) (wireTag_balanced tag),
    fits_code (by decide) (fieldType_isCode hn hf) htype,
    fits_balanced (by decide) (defaultReadValue_balanced f), fits_balanced (by decide) hvalue,
    fits_balanced (by decide) hguard, fits_balanced (by decide) hwritten,
    fits_inert (inert_behind hname (by decide)), fits_inert hitem,
    fits_balanced (by decide) hwrite, trivial, trivial, trivial⟩

/-- The fields of a struct with ASCII names fit into its fragment. -/
theorem structModel_fits (hn : names.AreAscii) {s : Struct} {m : Model} (hs : s.HasAsciiNames)
    (h : structModel names s = .ok m) : ModelFits m := by
  obtain ⟨fields, hfields, h⟩ := bind_eq_ok.mp h
  obtain ⟨args, hargs, h⟩ := bind_eq_ok.mp h
  obtain ⟨constructor, hconstructor, h⟩ := bind_eq_ok.mp h
  obtain ⟨name, hname, h⟩ := bind_eq_ok.mp h
  cases h
  have hparent : Inert (parentType s) := by
    unfold parentType
    split <;> decide
  have hfield : ∀ f ∈ fields, ModelFits f :=
    forall_of_mapM_eq_ok hfields fun f hmem _ hmade => fieldModel_fits hn (hs.fields f hmem) hmade
  exact ⟨fits_name hs.name hname, fits_inert hparent, fits_sequence hfield,
    fits_balanced (by decide) (fieldArgs_balanced hn hs.fields (used_eq_ok.mp hargs)),
    fits_balanced (by decide) (constructorArgs_balanced hs.fields (used_eq_ok.mp hconstructor)),
    trivial⟩

/-! ## Services -/

/-- A name with an ending of its own is a name. -/
theorem isAsciiName_ending {v : Json} {suffix : String} (hv : v.IsAsciiName)
    (hs : suffix.IsAsciiName) : (Json.str (v.display ++ suffix)).IsAsciiName := by
  obtain ⟨s, rfl, hname⟩ := hv
  refine ⟨_, rfl, ?_⟩
  unfold String.IsAsciiName
  rw [String.toList_append]
  exact Text.IsAsciiName.append hname hs

/-- The struct of the arguments has ASCII names if the function has. -/
theorem argsStruct_hasAsciiNames {f : ServiceFunction} (hf : f.HasAsciiNames) :
    (argsStruct f).HasAsciiNames := ⟨isAsciiName_ending hf.name (by decide), hf.args⟩

/-- The struct of the result has ASCII names if the function has. -/
theorem resultStruct_hasAsciiNames {f : ServiceFunction} (hf : f.HasAsciiNames) :
    (resultStruct f).HasAsciiNames := by
  refine ⟨isAsciiName_ending hf.name (by decide), fun g hg => ?_⟩
  rcases mem_resultStruct hg with hsuccess | ⟨t, ht, rfl⟩
  · unfold successField? at hsuccess
    split at hsuccess
    · cases hsuccess
    · cases hsuccess
      exact ⟨⟨_, rfl, by decide⟩, hf.returnType, fun c hc => by cases hc⟩
  · have hthrown := hf.throws t ht
    exact ⟨hthrown.name, hthrown.type, fun c hc => by cases hc⟩

/-- The model of a function fits, with the structs of its arguments and its result. -/
theorem functionModel_fits (hn : names.AreAscii) {f : ServiceFunction} {m : Model}
    (hf : f.HasAsciiNames) (h : functionModel names f = .ok m) : ModelFits m := by
  obtain ⟨name, hname, h⟩ := bind_eq_ok.mp h
  obtain ⟨wireName, -, h⟩ := bind_eq_ok.mp h
  obtain ⟨args, hargs, h⟩ := bind_eq_ok.mp h
  obtain ⟨argsModel, hargsModel, h⟩ := bind_eq_ok.mp h
  obtain ⟨resultModel, hresultModel, h⟩ := bind_eq_ok.mp h
  obtain ⟨throwNames, hthrowNames, h⟩ := bind_eq_ok.mp h
  obtain ⟨returnType, hreturn, h⟩ := bind_eq_ok.mp h
  obtain ⟨throws, hthrows, h⟩ := bind_eq_ok.mp h
  cases h
  have hname : name.IsAsciiName := isAsciiName_of_textOr hf.name (used_eq_ok.mp hname)
  have hthrow : ∀ item ∈ throws, ModelFits item := by
    refine forall_of_mapM_eq_ok hthrows ?_
    rintro ⟨t, thrown⟩ ht item hmade
    have hnames := hf.throws t (List.of_mem_zip ht).1
    have hused := eq_ok_of_mem_zip hthrowNames ht
    have hthrown : thrown.IsAsciiName :=
      isAsciiName_of_textOr hnames.name (used_eq_ok.mp hused)
    obtain ⟨type, htype, hmade⟩ := bind_eq_ok.mp hmade
    cases hmade
    exact ⟨fits_inert (inert_quoteKeyword (inert_of_isAsciiName hthrown)),
      fits_code (by decide) (scalaType_isCode hn hnames.type) htype, trivial⟩
  have honeway : Inert (if f.oneway then "true" else "false") := by split <;> decide
  -- entry by entry, in the order of the model
  exact ⟨fits_inert (inert_quoteKeyword (inert_of_isAsciiName hname)),
    escapeText_quotable wireName,
    fits_balanced (by decide) (fieldArgs_balanced hn hf.args (used_eq_ok.mp hargs)),
    fits_code (by decide) (scalaType_isCode hn hf.returnType) hreturn, trivial,
    fits_inert honeway, fits_inert (inert_behind hname (by decide)),
    fits_inert (inert_behind hname (by decide)),
    fits_balanced (by decide) (argumentNames_balanced (by decide) hf.args),
    fits_balanced (by decide) (argumentNames_balanced (by decide) hf.args),
    fun _ => structModel_fits hn (argsStruct_hasAsciiNames hf) hargsModel,
    fun _ => structModel_fits hn (resultStruct_hasAsciiNames hf) hresultModel,
    fits_sequence hthrow, trivial⟩

/-- The functions of a service with ASCII names fit into its fragment. -/
theorem serviceModel_fits (hn : names.AreAscii) {options : List ServiceOption} {s : Service}
    {m : Model} (hs : s.HasAsciiNames) (h : serviceModel names options s = .ok m) :
    ModelFits m := by
  obtain ⟨functions, hfunctions, h⟩ := bind_eq_ok.mp h
  obtain ⟨name, hname, h⟩ := bind_eq_ok.mp h
  obtain ⟨parent, hparent, h⟩ := bind_eq_ok.mp h
  cases h
  have hfunction : ∀ f ∈ functions, ModelFits f :=
    forall_of_mapM_eq_ok hfunctions fun f hmem _ hmade =>
      functionModel_fits hn (hs.functions f hmem) hmade
  have hextended : (if s.parent.truthy then s.parent else .str "").IsAsciiName := by
    split
    · rename_i hpresent
      refine hs.parent.resolve_left fun hnull => ?_
      rw [hnull] at hpresent
      cases hpresent
    · exact ⟨_, rfl, by decide⟩
  have hstruct := isBalanced_of_mem_fragments Fragments.struct (by simp [Generator.fragments])
  have hclient := isBalanced_of_mem_fragments Fragments.finagleClient (by simp [Generator.fragments])
  have hfinagle :=
    isBalanced_of_mem_fragments Fragments.finagleService (by simp [Generator.fragments])
  have hserver := isBalanced_of_mem_fragments Fragments.ostrichServer (by simp [Generator.fragments])
  exact ⟨fits_name hs.name hname, trivial, fits_name hextended hparent, fits_sequence hfunction,
    fits_fragment hstruct, fits_fragment hclient, fits_fragment hfinagle, fits_fragment hserver,
    trivial, trivial, trivial, trivial⟩

/-! ## Whole files -/

/-- Balanced texts, each ended by a line feed. -/
theorem joinSections_balanced {texts : List String} (h : ∀ t ∈ texts, Balanced t) :
    Balanced (Generator.joinSections texts) := by
  have hfeed : Balanced "\n" := by decide
  unfold Generator.joinSections
  induction texts with
  | nil => exact balanced_empty
  | cons t texts ih =>
    rw [List.forall_mem_cons] at h
    rw [List.map_cons, String.join_cons]
    exact (h.1.append hfeed).append (ih h.2)

namespace Generator

variable {g : Generator}

/-- The header is balanced. -/
theorem head_balanced {d : Document} {s : String} (hd : d.HasAsciiNames)
    (h : g.header d = .ok s) : Balanced s := by
  obtain ⟨m, hm, h⟩ := bind_eq_ok.mp h
  have hfragment := isBalanced_of_mem_fragments Fragments.header (by simp [fragments])
  exact balanced_of_filled hfragment (headerModel_fits hd hm) h

/-- The text of the constants is balanced. -/
theorem constsText_balanced (hn : g.names.AreAscii) {consts : List Const} {s : String}
    (hc : ∀ c ∈ consts, c.HasAsciiNames) (h : g.constsText consts = .ok s) : Balanced s := by
  obtain ⟨m, hm, h⟩ := bind_eq_ok.mp h
  have hfragment := isBalanced_of_mem_fragments Fragments.consts (by simp [fragments])
  exact balanced_of_filled hfragment (constsModel_fits hn hc hm) h

/-- The text of an enum is balanced. -/
theorem enumText_balanced {e : EnumDef} {s : String} (he : e.HasAsciiNames)
    (h : enumText e = .ok s) : Balanced s := by
  obtain ⟨m, hm, h⟩ := bind_eq_ok.mp h
  have hfragment := isBalanced_of_mem_fragments Fragments.enum (by simp [fragments])
  exact balanced_of_filled hfragment (enumModel_fits he hm) h

/-- The text of a struct is balanced. -/
theorem structText_balanced (hn : g.names.AreAscii) {s : Struct} {text : String}
    (hs : s.HasAsciiNames) (h : g.structText s = .ok text) : Balanced text := by
  obtain ⟨m, hm, h⟩ := bind_eq_ok.mp h
  have hfragment := isBalanced_of_mem_fragments Fragments.struct (by simp [fragments])
  exact balanced_of_filled hfragment (structModel_fits hn hs hm) h

/-- The text of a service is balanced. -/
theorem serviceText_balanced (hn : g.names.AreAscii) {options : List ServiceOption} {s : Service}
    {text : String} (hs : s.HasAsciiNames) (h : g.serviceText options s = .ok text) :
    Balanced text := by
  obtain ⟨m, hm, h⟩ := bind_eq_ok.mp h
  have hfragment := isBalanced_of_mem_fragments Fragments.service (by simp [fragments])
  exact balanced_of_filled hfragment (serviceModel_fits hn hs hm) h

/-- **A file of balanced parts is balanced.** -/
theorem assemble_balanced (hn : g.names.AreAscii) {options : List ServiceOption} {d : Document}
    {text : String} (hd : d.HasAsciiNames) (h : g.assemble options d = .ok text) :
    Balanced text := by
  obtain ⟨p, hp, rfl⟩ := assemble_eq_ok.mp h
  have hhead := head_balanced hd hp.head
  have hconsts := constsText_balanced hn hd.consts hp.consts
  have henums : ∀ t ∈ p.enums, Balanced t :=
    forall_of_mapM_eq_ok hp.enums fun e he _ hmade => enumText_balanced (hd.enums e he) hmade
  have hstructs : ∀ t ∈ p.structs, Balanced t :=
    forall_of_mapM_eq_ok hp.structs fun s hs _ hmade =>
      structText_balanced hn (hd.structs s hs) hmade
  have hservices : ∀ t ∈ p.services, Balanced t :=
    forall_of_mapM_eq_ok hp.services fun s hs _ hmade =>
      serviceText_balanced hn (hd.services s hs) hmade
  have hfeed : Balanced "\n" := by decide
  have hfront := ((hhead.append hfeed).append hconsts).append (joinSections_balanced henums)
  exact (hfront.append (joinSections_balanced hstructs)).append (joinSections_balanced hservices)

/-- **Every generated file is lexically well formed**, if the names in the document and in the
    settings are ASCII names.  A scan that skips comments ends outside of literals, no literal goes
    over the end of a line, and all brackets are closed in the order in which they were opened,
    whatever the texts of constants are and whatever extras the services have. -/
theorem generate_wellFormed {g : Generator} {options? : Option (List Json)} {d : Document}
    {text : String} (hn : g.names.AreAscii) (hd : d.HasAsciiNames)
    (h : g.generate options? d = .ok text) : WellFormed text := by
  obtain ⟨words, options, case, n, -, -, -, hnormal, hfile⟩ := generate_eq_ok.mp h
  exact assemble_balanced hn (hd.normalize hnormal) hfile

set_option maxRecDepth 20000 in
/-- A file with a server, with a map of lists, and with a constant whose text would end its literal
    and open a bracket, if it stood there as it is. -/
theorem generate_wellFormed_of_book :
    let quotes : Const := { name := .str "quotes", type := .base .string, value := .str "\"(\n" }
    let entry : Field :=
      { id := 1, name := .str "entry", type := .map (.base .string) (.list (.base .i32)) }
    let page : Struct := { name := .str "Page", fields := [entry] }
    let look : ServiceFunction :=
      { name := .str "look", returnType := .struct "Page", args := [entry] }
    let book : Service := { name := .str "Book", functions := [look] }
    let d : Document :=
      { consts := [quotes], structs := [page], services := [book],
        defaultNamespace := .str standardNamespace }
    ∃ text, generate ⟨{}, {}⟩ (some [.str "ostrich_server"]) d = .ok text ∧ WellFormed text := by
  intro quotes entry page look book d
  have hok : ∃ text, generate ⟨{}, {}⟩ (some [.str "ostrich_server"]) d = .ok text := ⟨_, rfl⟩
  have hname : ∀ {s : String}, s.IsAsciiName → (Json.str s).IsAsciiName := fun h => ⟨_, rfl, h⟩
  have hnames : TypeNames.AreAscii {} := by
    constructor <;> exact hname (by decide)
  -- a constant's value has no names to ask about, whatever text it holds
  have hquotes : quotes.HasAsciiNames := ⟨hname (by decide), trivial, trivial⟩
  have hentry : entry.HasAsciiNames :=
    ⟨hname (by decide), ⟨trivial, trivial⟩, fun _ hnone => by cases hnone⟩
  have hpage : page.HasAsciiNames := ⟨hname (by decide), by simpa [page] using hentry⟩
  have hlook : look.HasAsciiNames := by
    refine ⟨hname (by decide), ?_, by simpa [look] using hentry, by simp [look]⟩
    show String.IsAsciiName "Page"
    decide
  have hbook : book.HasAsciiNames :=
    ⟨hname (by decide), .inl rfl, by simpa [book] using hlook⟩
  have hd : d.HasAsciiNames := by
    refine ⟨hname (by decide), by simp [d], ?_, by simp [d], ?_, ?_⟩
    · simpa [d] using hquotes
    · simpa [d] using hpage
    · simpa [d] using hbook
  obtain ⟨text, htext⟩ := hok
  exact ⟨text, htext, generate_wellFormed hnames hd htext⟩

end Generator

end ThriftScala.Scala
