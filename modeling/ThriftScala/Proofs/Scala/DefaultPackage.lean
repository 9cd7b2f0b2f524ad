/-
  Where the default package does not matter.

  The default package is read into a document and into all that it includes (`withDefault`); apart
  from it, a document is read the same whatever it is (`Document.ofJson_withDefault`).  It shows in
  one place only, the package of a document, and there only if neither a package for Scala nor one
  for Java counts as present (`targetNamespace_withDefault`).

  The head of a file holds the packages of the document and of its direct includes, and the summary
  holds that of the document; nothing else in the generation looks at a package.  So if the document
  and its direct includes name theirs, the run does not change (`run_withDefault`).
-/
import ThriftScala.Generate
import ThriftScala.Proofs.Schema.Normalize

namespace ThriftScala

open Outcome

/-! ## Documents with another default package -/

mutual

/-- The document with another default package, for itself and for all that it includes. -/
def Document.withDefault (standard : Json) : Document → Document
  | ⟨namespaces, includes, consts, enums, structs, services, _⟩ =>
    ⟨namespaces, Document.includesWithDefault standard includes, consts, enums, structs, services,
      standard⟩

/-- The includes with another default package. -/
def Document.includesWithDefault (standard : Json) :
    List (Json × Document) → List (Json × Document)
  | [] => []
  | (path, d) :: is => (path, d.withDefault standard) :: Document.includesWithDefault standard is

end

namespace Document

/-- Included documents get the same standard package. -/
theorem includesWithDefault_eq_map (standard : Json) (is : List (Json × Document)) :
    includesWithDefault standard is = is.map fun i => (i.1, i.2.withDefault standard) := by
  induction is with
  | nil => rfl
  | cons i is ih => rw [includesWithDefault, ih, List.map_cons]

mutual

/-- **Another default package makes no other difference to what is read**, and none to whether it
    is read. -/
theorem ofJson_withDefault (p q : Json) : ∀ v : Json,
    ofJson q v = (ofJson p v).map (withDefault q)
  | .obj members => by
    rw [ofJson, ofJson, includesAmong_withDefault p q members]
    simp only [bind_of_map, map_of_bind]
    rfl
  | .null | .bool _ | .int _ | .double _ | .str _ | .arr _ => by simp [ofJson]

/-- The includes under the members of an object, read with another standard package. -/
theorem includesAmong_withDefault (p q : Json) : ∀ members : List (String × Json),
    includesAmong q members = (includesAmong p members).map (includesWithDefault q)
  | [] => rfl
  | (key, v) :: members => by
    rw [includesAmong, includesAmong]
    split
    · exact includesOf_withDefault p q v
    · exact includesAmong_withDefault p q members

/-- Includes that are read with another standard package differ in it only. -/
theorem includesOf_withDefault (p q : Json) : ∀ v : Json,
    includesOf q v = (includesOf p v).map (includesWithDefault q)
  | .arr nodes => by
    rw [includesOf, includesOf]
    exact includeList_withDefault p q nodes
  | .null | .bool _ | .int _ | .double _ | .str _ | .obj _ => by
    -- what these hold are texts, so there is no include among them
    simp only [includesOf, map_of_bind]
    refine congrArg _ (funext fun elems => ?_)
    cases elems <;> rfl

/-- A list of includes that is read with another standard package differs in it only. -/
theorem includeList_withDefault (p q : Json) : ∀ nodes : List Json,
    includeList q nodes = (includeList p nodes).map (includesWithDefault q)
  | [] => rfl
  | node :: nodes => by
    rw [includeList, includeList, includeOf_withDefault p q node,
      includeList_withDefault p q nodes]
    cases includeOf p node with
    | error e => rfl
    | ok i => cases includeList p nodes <;> rfl

/-- An include that is read with another standard package differs in it only. -/
theorem includeOf_withDefault (p q : Json) : ∀ node : Json,
    includeOf q node = (includeOf p node).map fun i => (i.1, i.2.withDefault q)
  | .obj members => by
    rw [includeOf, includeOf]
    cases Layout.require "include" (.obj members) "path" with
    | error e => rfl
    | ok path =>
      simp only [ok_bind]
      rw [amongMembers_withDefault p q _ members]
      cases amongMembers p _ members <;> rfl
  | .null | .bool _ | .int _ | .double _ | .str _ | .arr _ => by simp [includeOf]

/-- A document that is read with another standard package differs in it only. -/
theorem amongMembers_withDefault (p q : Json) (place : String) :
    ∀ members : List (String × Json),
    amongMembers q place members = (amongMembers p place members).map (withDefault q)
  | [] => rfl
  | (key, v) :: members => by
    rw [amongMembers, amongMembers]
    split
    · exact ofJson_withDefault p q v
    · exact amongMembers_withDefault p q place members

end

/-! ## Packages that are named -/

variable {d : Document} {standard : Json}

@[simp] theorem namespaceFor_withDefault (language : String) :
    (d.withDefault standard).namespaceFor language = d.namespaceFor language := by
  cases d
  rfl

@[simp] theorem includes_withDefault : (d.withDefault standard).includes =
    d.includes.map fun i => (i.1, i.2.withDefault standard) := by
  cases d
  exact includesWithDefault_eq_map standard _

@[simp] theorem consts_withDefault : (d.withDefault standard).consts = d.consts := by
  cases d
  rfl

@[simp] theorem enums_withDefault : (d.withDefault standard).enums = d.enums := by
  cases d
  rfl

@[simp] theorem structs_withDefault : (d.withDefault standard).structs = d.structs := by
  cases d
  rfl

@[simp] theorem services_withDefault : (d.withDefault standard).services = d.services := by
  cases d
  rfl

/-- The document names its package: the one for Scala or the one for Java is not empty. -/
def NamesPackage (d : Document) : Prop :=
  ∃ language ∈ ["scala", "java"], ∃ v, d.namespaceFor language = some v ∧ v.truthy = true

/-- The document and each document that it includes directly name their packages. -/
structure NamesPackages (d : Document) : Prop where
  own : d.NamesPackage
  includes : ∀ i ∈ d.includes, i.2.NamesPackage

/-- **A document that names its package has it**, whatever the default one is. -/
theorem targetNamespace_withDefault (h : d.NamesPackage) :
    (d.withDefault standard).targetNamespace = d.targetNamespace := by
  obtain ⟨language, hlanguage, v, hv, htruthy⟩ := h
  simp only [targetNamespace, namespaceFor_withDefault]
  cases hscala : (d.namespaceFor "scala").filter (·.truthy) with
  | some w => rfl
  | none =>
    rcases List.mem_pair.mp hlanguage with rfl | rfl
    · simp [hv, Option.filter, htruthy] at hscala
    · simp [hv, Option.filter, htruthy]

/-- Names are converted alike, and the packages stay. -/
theorem normalize_withDefault (case : NamingCase) :
    (d.withDefault standard).normalize case = (d.normalize case).map (withDefault standard) := by
  simp only [normalize, structs_withDefault, services_withDefault, map_of_bind]
  cases d
  rfl

/-- Renaming fields leaves the packages named. -/
theorem NamesPackages.normalize {case : NamingCase} {n : Document} (h : d.NamesPackages)
    (hn : d.normalize case = .ok n) : n.NamesPackages := by
  obtain ⟨structs, services, -, -, rfl⟩ := Document.normalize_eq_ok.mp hn
  exact ⟨h.own, h.includes⟩

end Document

/-! ## Files of such documents -/

namespace Scala

variable {d : Document}

/-- The header of a document that names its packages does not show the standard one. -/
theorem headerModel_withDefault (standard comments : Json) (h : d.NamesPackages) :
    headerModel comments (d.withDefault standard) = headerModel comments d := by
  have hincludes : (d.withDefault standard).includes.map (·.2.targetNamespace) =
      d.includes.map (·.2.targetNamespace) := by
    rw [Document.includes_withDefault, List.map_map]
    exact List.map_congr_left fun i hi => Document.targetNamespace_withDefault (h.includes i hi)
  rw [headerModel, headerModel, Document.targetNamespace_withDefault h.own, hincludes]

namespace Generator

variable {g : Generator}

/-- The sections of a document that names its packages do not show the standard one. -/
theorem assemble_withDefault (standard : Json) (h : d.NamesPackages)
    (options : List ServiceOption) :
    g.assemble options (d.withDefault standard) = g.assemble options d := by
  simp only [assemble, header, headerModel_withDefault standard _ h, Document.consts_withDefault,
    Document.enums_withDefault, Document.structs_withDefault, Document.services_withDefault]

/-- The code of a document that names its packages does not show the standard one. -/
theorem generate_withDefault (standard : Json) (h : d.NamesPackages)
    (options? : Option (List Json)) :
    g.generate options? (d.withDefault standard) = g.generate options? d := by
  have hsame (options : List ServiceOption) (case : NamingCase) :
      (used ((d.withDefault standard).normalize case) >>= g.assemble options) =
        used (d.normalize case) >>= g.assemble options := by
    rw [Document.normalize_withDefault]
    cases hn : d.normalize case with
    | error m => rfl
    | ok n => exact assemble_withDefault standard (h.normalize hn) options
  cases options? <;> simp only [generate, hsame]

/-- Warnings never speak of packages. -/
theorem warnings_withDefault (standard : Json) :
    g.warnings (d.withDefault standard) = g.warnings d := by
  simp only [warnings, Document.structs_withDefault, Document.services_withDefault]

/-- **The run for a document does not change with the default package**, if the document and what it
    includes name theirs. -/
theorem run_withDefault (standard : Json) (h : d.NamesPackages) :
    g.run (d.withDefault standard) = g.run d := by
  have hsummary : summary (d.withDefault standard) = summary d := by
    simp only [summary, Document.targetNamespace_withDefault h.own, Document.consts_withDefault,
      Document.enums_withDefault, Document.structs_withDefault, Document.services_withDefault]
  simp only [run, produce, warnings_withDefault, generate_withDefault standard h, hsummary]

end Generator

end Scala

/-- The result for a JSON document with the given settings: it is read with their default package,
    and its file is made by a generator with these settings. -/
def resultWith (files : Files) (language : String) (settings : Settings) (v : Json) :
    Except Failure Scala.Generator.Result := do
  let g ← generatorFor files language (.settings settings)
  resultFor g g.settings.packageName v

/-- **The default package is a default only.**  Let a JSON document be one that can be read, and let
    the document and each of its direct includes name a package for Scala or for Java that is not
    empty.  Then settings that differ in the default package alone give the same result: the same
    code, warnings and summary, or the same error. -/
theorem result_of_named_packages {standard v : Json} {d : Document}
    (hd : Document.ofJson standard v = .ok d) (h : d.NamesPackages) (files : Files)
    (language : String) (settings : Settings) (p q : Json) :
    resultWith files language { settings with packageName := p } v =
      resultWith files language { settings with packageName := q } v := by
  -- the package is read by the document only, and this one has no place for it
  have hresult (package : Json) (names : Scala.TypeNames) :
      resultFor ⟨{ settings with packageName := package }, names⟩ package v =
        ((⟨settings, names⟩ : Scala.Generator).run d).mapError .generation := by
    have hread := Document.ofJson_withDefault standard package v
    rw [hd] at hread
    rw [resultFor, hread]
    change (Scala.Generator.run _ (d.withDefault package)).mapError _ = _
    rw [Scala.Generator.run_withDefault package h]
    rfl
  unfold resultWith generatorFor Registry.create
  cases Registry.builtIn.classOf language with
  | error e => rfl
  | ok c =>
    cases Registry.builtIn.resolve language with
    | error e => rfl
    | ok key =>
      simp only [Registry.settingsFor, ok_bind, Scala.Generator.ofSettings]
      cases Scala.TypeNames.ofCustom settings.custom.toJson with
      | error m => rfl
      | ok names => exact (hresult p names).trans (hresult q names).symm

set_option maxRecDepth 20000 in
/-- A document with a package for Java includes one with a package for Scala, and what this one
    includes in turn names none. -/
theorem inner_include_names_no_package :
    let including (path : String) (document : Json) : Json :=
      .obj [("path", .str path), ("document", document)]
    let shared : Json :=
      .obj [("namespaces", .obj [("scala", .str "com.shared")]),
        ("includes", .arr [including "inner.thrift" (.obj [])])]
    let v : Json :=
      .obj [("namespaces", .obj [("scala", .str ""), ("java", .str "com.own")]),
        ("includes", .arr [including "shared.thrift" shared])]
    let result (package : String) : Except Failure Scala.Generator.Result :=
      resultWith [] "scala" { packageName := .str package } v
    (∃ code warnings summary, result "first" = .ok (.code code warnings summary)) ∧
      result "first" = result "second" := by
  intro including shared v result
  let document (namespaces : List (String × Json)) (includes : List (Json × Document)) : Document :=
    { namespaces, includes, defaultNamespace := .str standardNamespace }
  let inner : Document :=
    document [("scala", .str "com.shared")] [(.str "inner.thrift", document [] [])]
  let d : Document := document [("scala", .str ""), ("java", .str "com.own")]
    [(.str "shared.thrift", inner)]
  have hd : Document.ofJson (.str standardNamespace) v = .ok d := rfl
  have hinner : inner.NamesPackage := ⟨"scala", by decide, .str "com.shared", rfl, rfl⟩
  have hown : d.NamesPackage := ⟨"java", by decide, .str "com.own", rfl, rfl⟩
  have h : d.NamesPackages := ⟨hown, List.forall_mem_singleton.mpr hinner⟩
  exact ⟨⟨_, _, _, rfl⟩, result_of_named_packages hd h [] "scala" {} _ _⟩

end ThriftScala
