/-
  A file is put together from parts that are rendered on their own.

  Two fragments splice others: the one for all enums, and the one for a service, which splices the
  structs of its functions.  There the spliced fragment is evaluated behind the models of the whole
  document, where keys like `name` stand at several levels.  It never looks at them: it passes the
  check with the shape of its own model alone, so what it writes there is what it writes alone
  (`spliced_eq_render`).

  With that, `enumsText_eq_ok` takes the text of all enums apart and `serviceText_parts` the text of
  a service; `generate_parts` puts the whole file together and says where each part stands.
-/
import ThriftScala.Proofs.Fragment.Meaning
import ThriftScala.Proofs.Scala.Shapes
import ThriftScala.Proofs.Schema.Normalize
import ThriftScala.Scala.Generator

namespace ThriftScala.Scala

open Outcome

theorem filled_eq_ok {f : Fragment} {m : Model} {s : String} :
    filled f m = .ok s ↔ f.render m = .ok s := by
  unfold filled Fragment.fill
  cases f.render m <;> simp [Except.mapError]

/-! ## Spliced fragments -/

/-- **A spliced fragment writes what it writes alone**, whatever models lie behind its own. -/
theorem spliced_eq_render {f : Fragment} {m : Model} {shape : ModelShape}
    (hm : ModelShape.Holds anyLeaf shape m)
    (hc : Fragment.checkWithin 0 [shape] f.body = true) (depth : Nat) (outer : List Model) :
    Fragment.evalWithin depth f.body ⟨f.name, m :: outer⟩ = f.render m := by
  rw [Fragment.render_checked hm hc (Nat.zero_le _)]
  have h := Fragment.evalWithin_outer 0 (.cons hm .nil) hc depth f.name outer
  rwa [Nat.zero_add] at h

/-- A key that stands for a fragment in the shapes of a scope stands for it in the scope. -/
theorem fragmentAt_of_shaped {shapes : List ModelShape} {models : List Model} {f : Fragment}
    (h : Scope.Shaped anyLeaf shapes models) (key : String)
    (hk : ModelShape.find? shapes key = some (.fragment f)) (name : String) :
    Scope.fragmentAt ⟨name, models⟩ key = .ok f := by
  obtain ⟨v, hv, hres⟩ := Fragment.resolve_checked h hk
  have hres : Scope.resolve ⟨name, models⟩ key = .ok v := by simpa using hres name []
  cases v with
  | fragment g =>
    obtain rfl : g = f := hv
    simp [Scope.fragmentAt, hres]
  | _ => exact hv.elim

/-! ## Enums -/

/-- The fragment of all enums writes each enum as the fragment of an enum does, and a line feed. -/
theorem render_enums {models : List Model}
    (hm : ∀ m ∈ models, ModelShape.Holds anyLeaf enumShape m) :
    Fragments.enums.render
        [("hasEnums", .flag !models.isEmpty), ("enums", .sequence models),
          ("enum", .fragment Fragments.enum)] =
      (models.mapM Fragments.enum.render).map Generator.joinSections := by
  let all : Model := [("hasEnums", .flag !models.isEmpty), ("enums", .sequence models),
    ("enum", .fragment Fragments.enum)]
  have hall : ModelShape.Holds anyLeaf enumsShape all := ⟨rfl, trivial, rfl, hm, rfl, rfl, trivial⟩
  -- one item: the fragment of an enum is spliced in the scope of the item and sees nothing else
  have hitem : ∀ m ∈ models,
      Fragment.evalNodes (Fragment.evalWithin 999) [.splice "enum", .text "\n"] ⟨"enums", [m, all]⟩ =
        (Fragments.enum.render m).map (· ++ "\n") := by
    intro m hmem
    have hshaped : Scope.Shaped anyLeaf [enumShape, enumsShape] [m, all] :=
      .cons (hm m hmem) (.cons hall .nil)
    have hfragment := fragmentAt_of_shaped hshaped "enum" rfl "enums"
    simp only [Fragment.evalNodes_cons, Fragment.evalNodes_nil, Fragment.evalNode_splice,
      Fragment.evalNode_text, hfragment, ok_bind, spliced_eq_render (hm m hmem) enum_checked]
    cases Fragments.enum.render m <;> simp
  have hblock : Fragment.evalNode (Fragment.evalWithin 999)
      (.block "enums" [.splice "enum", .text "\n"]) ⟨"enums", [all]⟩ =
        (models.mapM Fragments.enum.render).map Generator.joinSections := by
    have hscopes : Scope.items ⟨"enums", [all]⟩ "enums" =
        .ok (models.map fun m => ⟨"enums", [m, all]⟩) := rfl
    rw [Fragment.evalNode_block, hscopes, ok_bind, List.mapM_map]
    have heach := (mapM_congr hitem).trans (mapM_map_each _ _ models)
    rw [Function.comp_def, heach]
    cases models.mapM Fragments.enum.render <;> rfl
  -- the block around all enums is left out if there are none
  cases hmodels : models with
  | nil => rfl
  | cons m ms =>
    have hscopes : Scope.items ⟨"enums", [all]⟩ "hasEnums" = .ok [⟨"enums", [all]⟩] := by
      simp [Scope.items, Scope.resolve, Scope.lookup?, all, hmodels]
    rw [← hmodels]
    change Fragment.evalNodes (Fragment.evalWithin 999) Fragments.enums.body ⟨"enums", [all]⟩ = _
    rw [← hblock]
    simp only [Fragments.enums, Fragment.evalNodes_cons, Fragment.evalNodes_nil]
    rw [Fragment.evalNode_block, hscopes]
    simp only [ok_bind, List.mapM_cons, List.mapM_nil, Fragment.evalNodes_cons,
      Fragment.evalNodes_nil]
    generalize Fragment.evalNode _ _ _ = x
    cases x <;> simp [String.join]

theorem mapM_filled_eq_ok {f : Fragment} {models : List Model} {texts : List String} :
    models.mapM (filled f) = .ok texts ↔ models.mapM f.render = .ok texts := by
  rw [mapM_eq_ok, mapM_eq_ok]
  simp only [filled_eq_ok]

/-- **The text of all enums is the text of each**, with a line feed after it. -/
theorem enumsText_eq_ok {enums : List EnumDef} {text : String} :
    Generator.enumsText enums = .ok text ↔
      ∃ texts, enums.mapM Generator.enumText = .ok texts ∧ text = Generator.joinSections texts := by
  -- once the models are made, all texts come from one fragment
  have hrendered : ∀ models, enums.mapM enumModel = .ok models →
      ((do filled Fragments.enums (← enumsModel enums)) = .ok text ↔
        ∃ texts, models.mapM Fragments.enum.render = .ok texts ∧
          Generator.joinSections texts = text) := by
    intro models hmodels
    have hholds : ∀ m ∈ models, ModelShape.Holds anyLeaf enumShape m :=
      forall_of_mapM_eq_ok hmodels fun _ _ _ hmade =>
        enumModel_holds (fun _ => trivial) (offers_any _) hmade
    have hempty : enums.isEmpty = models.isEmpty := by
      have hlength := (mapM_eq_ok.mp hmodels).length_eq
      cases enums <;> cases models <;> simp_all
    rw [enumsModel, hmodels, ok_bind, hempty, pure_eq_ok, ok_bind, filled_eq_ok,
      render_enums hholds, map_eq_ok]
  rw [Generator.enumsText]
  simp only [show Generator.enumText = fun e => enumModel e >>= filled Fragments.enum from rfl,
    mapM_bind_eq_ok, mapM_filled_eq_ok]
  constructor
  · intro h
    obtain ⟨m, hm, -⟩ := bind_eq_ok.mp h
    obtain ⟨models, hmodels, -⟩ := bind_eq_ok.mp hm
    obtain ⟨texts, htexts, rfl⟩ := (hrendered models hmodels).mp h
    exact ⟨texts, ⟨models, hmodels, htexts⟩, rfl⟩
  · rintro ⟨texts, ⟨models, hmodels, htexts⟩, rfl⟩
    exact (hrendered models hmodels).mpr ⟨texts, htexts, rfl⟩

/-! ## Services -/

/-- The fragment of a service up to the structs of its functions. -/
def serviceFront : Fragment := ⟨Fragments.service.name, Fragments.service.body.take 17⟩

/-- The fragment of a service behind the structs of its functions. -/
def serviceBack : Fragment := ⟨Fragments.service.name, Fragments.service.body.drop 18⟩

/-- What the fragment of a service writes of the structs of one function. -/
def functionStructs : List Fragment.Node :=
  [.block "argsStruct" [.splice "struct"], .text "\n", .block "resultStruct" [.splice "struct"],
   .text "\n"]

theorem service_body :
    Fragments.service.body =
      serviceFront.body ++ .block "functions" functionStructs :: serviceBack.body := rfl

/-- The structs of a function, each as it is rendered alone, with a line feed after it. -/
def Generator.functionStructsText (g : Generator) (f : ServiceFunction) : Generated String := do
  let args ← g.structText (argsStruct f)
  let result ← g.structText (resultStruct f)
  pure (args ++ "\n" ++ result ++ "\n")

/-- The models of the two structs of a function, where its own model has them. -/
theorem functionModel_structs {names : TypeNames} {f : ServiceFunction} {m : Model}
    (h : functionModel names f = .ok m) :
    ∃ args result, structModel names (argsStruct f) = .ok args ∧
      structModel names (resultStruct f) = .ok result ∧
      m.lookup "argsStruct" = some (.model args) ∧
      m.lookup "resultStruct" = some (.model result) := by
  obtain ⟨name, -, h⟩ := bind_eq_ok.mp h
  obtain ⟨wireName, -, h⟩ := bind_eq_ok.mp h
  obtain ⟨params, -, h⟩ := bind_eq_ok.mp h
  obtain ⟨args, hargs, h⟩ := bind_eq_ok.mp h
  obtain ⟨result, hresult, h⟩ := bind_eq_ok.mp h
  obtain ⟨throwNames, -, h⟩ := bind_eq_ok.mp h
  obtain ⟨returnType, -, h⟩ := bind_eq_ok.mp h
  obtain ⟨throws, -, h⟩ := bind_eq_ok.mp h
  cases h
  exact ⟨args, result, hargs, hresult, rfl, rfl⟩

/-- The model of a service holds the models of its functions in order. -/
theorem serviceModel_functions {names : TypeNames} {options : List ServiceOption} {s : Service}
    {m : Model} (h : serviceModel names options s = .ok m) :
    ∃ functions, s.functions.mapM (functionModel names) = .ok functions ∧
      m.lookup "functions" = some (.sequence functions) := by
  obtain ⟨functions, hfunctions, h⟩ := bind_eq_ok.mp h
  obtain ⟨name, -, h⟩ := bind_eq_ok.mp h
  obtain ⟨parent, -, h⟩ := bind_eq_ok.mp h
  cases h
  exact ⟨functions, hfunctions, rfl⟩

/-- A block with the model of a struct writes what the struct is alone. -/
theorem structBlock_eq_ok {g : Generator} {s : Struct} {inner function outer : Model}
    {depth : Nat} {name key text : String} (hinner : structModel g.names s = .ok inner)
    (hfunction : ModelShape.Holds anyLeaf functionShape function)
    (houter : ModelShape.Holds anyLeaf serviceShape outer)
    (hkey : function.lookup key = some (.model inner))
    (h : Fragment.evalNode (Fragment.evalWithin depth) (.block key [.splice "struct"])
      ⟨name, [function, outer]⟩ = .ok text) : g.structText s = .ok text := by
  have hholds := structModel_holds (admits_any g.names) (offers_any _) hinner
  have hshaped : Scope.Shaped anyLeaf [structShape, functionShape, serviceShape]
      [inner, function, outer] := .cons hholds (.cons hfunction (.cons houter .nil))
  have hfragment := fragmentAt_of_shaped hshaped "struct" rfl name
  have hitems : Scope.items ⟨name, [function, outer]⟩ key =
      .ok [⟨name, [inner, function, outer]⟩] := by
    simp [Scope.items, Scope.resolve, Scope.lookup?, hkey, Scope.push]
  -- neither the function nor the service is asked for any key of the struct
  have hspliced := spliced_eq_render hholds struct_checked depth [function, outer]
  rw [Generator.structText, hinner, ok_bind, filled_eq_ok, ← hspliced, ← h]
  simp only [Fragment.evalNodes_cons, Fragment.evalNodes_nil, Fragment.evalNode_block,
    Fragment.evalNode_splice, hitems, hfragment, ok_bind, List.mapM_cons, List.mapM_nil]
  cases Fragment.evalWithin depth Fragments.struct.body
    ⟨Fragments.struct.name, [inner, function, outer]⟩ <;> simp [String.join]

/-- Inside the model of a function, its structs are written as they are alone. -/
theorem functionStructs_eq_ok {g : Generator} {f : ServiceFunction} {m outer : Model}
    (hm : functionModel g.names f = .ok m) (houter : ModelShape.Holds anyLeaf serviceShape outer)
    (depth : Nat) {name out : String}
    (h : Fragment.evalNodes (Fragment.evalWithin depth) functionStructs ⟨name, [m, outer]⟩ =
      .ok out) : g.functionStructsText f = .ok out := by
  obtain ⟨args, result, hargs, hresult, hargsKey, hresultKey⟩ := functionModel_structs hm
  have hfunction := functionModel_holds (admits_any g.names) hm
  obtain ⟨argsText, out₁, hargsText, h₁, rfl⟩ := Fragment.evalNodes_cons_eq_ok.mp h
  obtain ⟨feed, out₂, hfeed, h₂, rfl⟩ := Fragment.evalNodes_cons_eq_ok.mp h₁
  obtain ⟨resultText, out₃, hresultText, h₃, rfl⟩ := Fragment.evalNodes_cons_eq_ok.mp h₂
  cases hfeed
  cases h₃
  have hargsText := structBlock_eq_ok hargs hfunction houter hargsKey hargsText
  have hresultText := structBlock_eq_ok hresult hfunction houter hresultKey hresultText
  simp [Generator.functionStructsText, hargsText, hresultText, String.append_assoc]

/-- **The text of a service** is what stands before the structs of its functions, the structs in
    order, and what stands behind them. -/
theorem serviceText_parts {g : Generator} {options : List ServiceOption} {s : Service}
    {text : String} (h : g.serviceText options s = .ok text) :
    ∃ m front structs back, serviceModel g.names options s = .ok m ∧
      filled serviceFront m = .ok front ∧
      s.functions.mapM g.functionStructsText = .ok structs ∧ filled serviceBack m = .ok back ∧
      text = front ++ String.join structs ++ back := by
  obtain ⟨m, hm, hfilled⟩ := bind_eq_ok.mp h
  have hholds := serviceModel_holds (admits_any g.names) (offers_any _) (offers_any _) hm
  obtain ⟨functions, hfunctions, hkey⟩ := serviceModel_functions hm
  rw [filled_eq_ok, Fragment.render, Fragment.evalWithin_eq, service_body,
    Fragment.evalNodes_append_eq_ok] at hfilled
  obtain ⟨front, rest, hfront, hrest, rfl⟩ := hfilled
  obtain ⟨structs, back, hstructs, hback, rfl⟩ := Fragment.evalNodes_cons_eq_ok.mp hrest
  obtain ⟨scopes, texts, hscopes, htexts, rfl⟩ := Fragment.evalNode_block_eq_ok.mp hstructs
  -- the model of the service stands behind that of each function
  have hitems : Scope.items ⟨Fragments.service.name, [m]⟩ "functions" =
      .ok (functions.map fun f => ⟨Fragments.service.name, [f, m]⟩) := by
    simp [Scope.items, Scope.resolve, Scope.lookup?, hkey, Scope.push]
  rw [hitems] at hscopes
  cases hscopes
  have hpieces : s.functions.mapM g.functionStructsText = .ok texts := by
    rw [List.mapM_map] at htexts
    refine mapM_ok_comp ?_ hfunctions htexts
    intro f inner out hinner hout
    exact functionStructs_eq_ok hinner hholds 999 hout
  refine ⟨m, front, texts, back, hm, ?_, hpieces, ?_, by rw [String.append_assoc]⟩
  · rw [filled_eq_ok, Fragment.render, Fragment.evalWithin_eq]
    exact hfront
  · rw [filled_eq_ok, Fragment.render, Fragment.evalWithin_eq]
    exact hback

/-! ## Whole files -/

namespace Generator

/-- The parts of a file. -/
structure Parts where
  head : String
  consts : String
  enums : List String
  structs : List String
  services : List String

/-- The file of its parts. -/
def Parts.text (p : Parts) : String :=
  p.head ++ "\n" ++ p.consts ++ joinSections p.enums ++ joinSections p.structs
    ++ joinSections p.services

variable {g : Generator}

/-- The parts of a document, each rendered on its own. -/
structure HasParts (g : Generator) (options : List ServiceOption) (d : Document) (p : Parts) :
    Prop where
  head : g.header d = .ok p.head
  consts : g.constsText d.consts = .ok p.consts
  enums : d.enums.mapM enumText = .ok p.enums
  structs : d.structs.mapM g.structText = .ok p.structs
  services : d.services.mapM (g.serviceText options) = .ok p.services

theorem assemble_eq_ok {options : List ServiceOption} {d : Document} {text : String} :
    g.assemble options d = .ok text ↔ ∃ p, g.HasParts options d p ∧ text = p.text := by
  constructor
  · intro h
    obtain ⟨consts, hconsts, h⟩ := bind_eq_ok.mp h
    obtain ⟨all, hall, h⟩ := bind_eq_ok.mp h
    obtain ⟨structs, hstructs, h⟩ := bind_eq_ok.mp h
    obtain ⟨services, hservices, h⟩ := bind_eq_ok.mp h
    obtain ⟨head, hhead, h⟩ := bind_eq_ok.mp h
    obtain ⟨enums, henums, rfl⟩ := enumsText_eq_ok.mp hall
    cases h
    exact ⟨⟨head, consts, enums, structs, services⟩,
      ⟨hhead, hconsts, henums, hstructs, hservices⟩, rfl⟩
  · rintro ⟨p, hp, rfl⟩
    have hall := enumsText_eq_ok.mpr ⟨p.enums, hp.enums, rfl⟩
    simp [assemble, hp.head, hp.consts, hall, hp.structs, hp.services, Parts.text]

/-- The options of a call, or those of the settings. -/
def givenOptions (g : Generator) : Option (List Json) → Except Misuse (List Json)
  | some words => .ok words
  | none => g.settings.serviceOptions.elements

/-- What is generated is assembled from the document in the case of the settings. -/
theorem generate_eq_ok {options? : Option (List Json)} {d : Document} {text : String} :
    g.generate options? d = .ok text ↔ ∃ words options case n,
      g.givenOptions options? = .ok words ∧ ServiceOption.resolve words = .ok options ∧
      g.settings.namingCase = .ok case ∧ d.normalize case = .ok n ∧
      g.assemble options n = .ok text := by
  -- both ways to give options end in the same resolution and go on alike
  have hboth : g.generate options? d = (do
      let options ← ServiceOption.resolve (← used (g.givenOptions options?))
      let case ← used g.settings.namingCase
      let n ← used (d.normalize case)
      g.assemble options n) := by
    cases options? with
    | some words => rfl
    | none =>
      simp only [generate, givenOptions, ServiceOption.ofSetting]
      cases g.settings.serviceOptions.elements <;> rfl
  rw [hboth]
  simp only [bind_eq_ok, used_eq_ok]
  constructor
  · rintro ⟨words, hwords, options, hresolve, case, hcase, n, hn, h⟩
    exact ⟨words, options, case, n, hwords, hresolve, hcase, hn, h⟩
  · rintro ⟨words, options, case, n, hwords, hresolve, hcase, hn, h⟩
    exact ⟨words, hwords, options, hresolve, case, hcase, n, hn, h⟩

/-- The block of a struct whose names have yet to be converted. -/
def structBlock (g : Generator) (case : NamingCase) (s : Struct) : Generated String := do
  g.structText (← used (s.normalize case))

/-- **Another order of the structs is another order of their blocks**, and nothing else. -/
theorem generate_perm {options : List ServiceOption} {options? : Option (List Json)}
    {words : List Json} {case : NamingCase} {d n : Document} {p : Parts}
    (hwords : g.givenOptions options? = .ok words)
    (hresolve : ServiceOption.resolve words = .ok options)
    (hcase : g.settings.namingCase = .ok case) (hn : d.normalize case = .ok n)
    (hp : g.HasParts options n p) {structs : List Struct} (hperm : structs.Perm d.structs) :
    ∃ blocks, blocks.Perm p.structs ∧ structs.mapM (g.structBlock case) = .ok blocks ∧
      g.generate options? { d with structs := structs } = .ok { p with structs := blocks }.text := by
  obtain ⟨nstructs, nservices, hnstructs, hnservices, rfl⟩ := Document.normalize_eq_ok.mp hn
  obtain ⟨converted, hconverted, hpermn⟩ := mapM_perm hperm hnstructs
  obtain ⟨blocks, hblocks, hpermb⟩ := mapM_perm hpermn hp.structs
  refine ⟨blocks, hpermb, ?_, ?_⟩
  · refine mapM_ok_comp ?_ hconverted hblocks
    intro s s' block hs hblock
    simp [structBlock, hs, hblock]
  · have hn' : ({ d with structs := structs } : Document).normalize case =
        .ok { d with structs := converted, services := nservices } :=
      Document.normalize_eq_ok.mpr ⟨converted, nservices, hconverted, hnservices, rfl⟩
    refine generate_eq_ok.mpr ⟨words, options, case, _, hwords, hresolve, hcase, hn', ?_⟩
    exact assemble_eq_ok.mpr ⟨{ p with structs := blocks },
      ⟨hp.head, hp.consts, hp.enums, hblocks, hp.services⟩, rfl⟩

/-- With the head in front, a list of parts is what each entity gives on its own. -/
theorem mapM_behind_head {α : Type} {f : α → Generated String} {l : List α} {texts : List String}
    {head : String} (h : l.mapM f = .ok texts) :
    l.mapM (fun a => (f a).map (head ++ ·)) = .ok (texts.map (head ++ ·)) := by
  rw [mapM_map_each, h, map_ok]

/-- **A generated file is the concatenation of parts that are rendered on their own.**  Behind the
    head, each part is what the entry point of its kind gives; inside a service stand the structs of
    its functions, as they are rendered alone; and another order of the structs only changes the
    order of their blocks. -/
theorem generate_parts {g : Generator} {options? : Option (List Json)} {d : Document}
    {text : String} (h : g.generate options? d = .ok text) :
    ∃ words options case n p,
      (g.givenOptions options? = .ok words ∧ ServiceOption.resolve words = .ok options ∧
        g.settings.namingCase = .ok case ∧ d.normalize case = .ok n) ∧
      (g.HasParts options n p ∧ text = p.text) ∧
      (g.renderConsts n = .ok (p.head ++ p.consts) ∧
        n.enums.mapM (g.renderEnum n) = .ok (p.enums.map (p.head ++ ·)) ∧
        n.structs.mapM (g.renderStruct n) = .ok (p.structs.map (p.head ++ ·)) ∧
        n.services.mapM (g.renderService n · words) = .ok (p.services.map (p.head ++ ·))) ∧
      List.Forall₂ (fun s service => ∃ m front structs back,
        serviceModel g.names options s = .ok m ∧ filled serviceFront m = .ok front ∧
        s.functions.mapM g.functionStructsText = .ok structs ∧ filled serviceBack m = .ok back ∧
        service = front ++ String.join structs ++ back) n.services p.services ∧
      ∀ structs : List Struct, structs.Perm d.structs → ∃ blocks, blocks.Perm p.structs ∧
        structs.mapM (g.structBlock case) = .ok blocks ∧
        g.generate options? { d with structs := structs } =
          .ok { p with structs := blocks }.text := by
  obtain ⟨words, options, case, n, hwords, hresolve, hcase, hn, h⟩ := generate_eq_ok.mp h
  obtain ⟨p, hp, htext⟩ := assemble_eq_ok.mp h
  refine ⟨words, options, case, n, p, ⟨hwords, hresolve, hcase, hn⟩, ⟨hp, htext⟩,
    ⟨?_, ?_, ?_, ?_⟩, ?_, fun structs => generate_perm hwords hresolve hcase hn hp⟩
  · simp [renderConsts, hp.head, hp.consts]
  -- each `render_*` puts the same head before its one block
  · have hrender : g.renderEnum n = fun e => (enumText e).map (p.head ++ ·) := by
      funext e
      simp only [renderEnum, hp.head, ok_bind]
      cases enumText e <;> rfl
    rw [hrender, mapM_behind_head hp.enums]
  · have hrender : g.renderStruct n = fun s => (g.structText s).map (p.head ++ ·) := by
      funext s
      simp only [renderStruct, hp.head, ok_bind]
      cases g.structText s <;> rfl
    rw [hrender, mapM_behind_head hp.structs]
  · have hrender : (g.renderService n · words) =
        fun s => (g.serviceText options s).map (p.head ++ ·) := by
      funext s
      simp only [renderService, hresolve, hp.head, ok_bind]
      cases g.serviceText options s <;> rfl
    rw [hrender, mapM_behind_head hp.services]
  · exact (mapM_eq_ok.mp hp.services).imp fun s service => serviceText_parts

set_option maxRecDepth 20000 in
/-- A file with two structs, and the file with the same two the other way round. -/
theorem generate_parts_of_two_structs :
    let key : Struct := { name := .str "Key", fields := [] }
    let lock : Struct := { name := .str "Lock", fields := [] }
    let d : Document := { structs := [key, lock], defaultNamespace := .str standardNamespace }
    ∃ (p : Parts) (blocks : List String),
      generate ⟨{}, {}⟩ none d = .ok p.text ∧ blocks.Perm p.structs ∧
      generate ⟨{}, {}⟩ none { d with structs := [lock, key] } =
        .ok { p with structs := blocks }.text := by
  intro key lock d
  have hok : ∃ text, generate ⟨{}, {}⟩ none d = .ok text := ⟨_, rfl⟩
  obtain ⟨text, htext⟩ := hok
  obtain ⟨words, options, case, n, p, -, ⟨-, rfl⟩, -, -, hperm⟩ := generate_parts htext
  obtain ⟨blocks, hblocks, -, hswapped⟩ := hperm [lock, key] (.swap key lock [])
  exact ⟨p, blocks, htext, hblocks, hswapped⟩

end Generator

end ThriftScala.Scala
