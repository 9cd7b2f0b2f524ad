/-
  Which packages a file imports.

  1. **The package of a document** is the first text that is not empty, of the package for Scala,
     the one for Java and the default one (`targetNamespace_eq`).

  2. **The imports** are gathered in one pass over the includes.  `FirstSeen` says what has been
     gathered when some of them are done: their packages without the document's own, each once, in
     the order in which they came first.  One more include keeps this (`FirstSeen.snoc`), so it
     holds in the end (`firstSeen_importedPackages`).

  3. **The head of a file** is a list of lines, with one line for each import at the end
     (`render_head`).  Where no package holds a line feed, they are read off the text again
     (`importLines_headLines`).
-/
import Mathlib.Data.List.Induction
import Mathlib.Data.List.Nodup
import ThriftScala.Proofs.Scala.Assembly
import ThriftScala.Proofs.Scala.Totality

namespace ThriftScala

open Outcome

/-! ## The package of a document -/

/-- The text that a value is; no text counts as the empty one. -/
def textIn : Option Json → String
  | some (.str s) => s
  | _ => ""

/-- The first text that is not empty, of the packages for Scala and Java and the default one. -/
def Document.package (d : Document) : String :=
  ([textIn (d.namespaceFor "scala"), textIn (d.namespaceFor "java"),
    textIn (some d.defaultNamespace)].find? (· ≠ "")).getD ""

/-- All packages that the document names are texts, and so is its default package. -/
structure Document.HasTextNamespaces (d : Document) : Prop where
  packages : d.HasTextPackages
  default : d.defaultNamespace.IsText

/-- Of a text, or of nothing, nothing is left if it is empty. -/
theorem filter_truthy {v : Option Json} (h : ∀ w, v = some w → w.IsText) :
    v.filter (·.truthy) = if textIn v = "" then none else some (.str (textIn v)) := by
  cases v with
  | none => rfl
  | some w =>
    obtain ⟨s, rfl⟩ := h w rfl
    by_cases hs : s = "" <;> simp [Option.filter, textIn, Json.truthy, hs]

/-- **The package of a document is the first that is not empty.** -/
theorem Document.targetNamespace_eq {d : Document} (h : d.HasTextNamespaces) :
    d.targetNamespace = .str d.package := by
  obtain ⟨standard, hstandard⟩ := h.default
  have hdefault : textIn (some (.str standard)) = standard := rfl
  simp only [targetNamespace, package, filter_truthy fun _ => h.packages.namespaceFor, hstandard,
    hdefault]
  by_cases hscala : textIn (d.namespaceFor "scala") = ""
  · by_cases hjava : textIn (d.namespaceFor "java") = ""
    · by_cases hs : standard = "" <;> simp [hscala, hjava, hs]
    · simp [hscala, hjava]
  · simp [hscala]

/-! ## What is imported -/

/-- Of the given packages, those that differ from `own`, each once, in the order in which they come
    first. -/
structure FirstSeen (own : String) (packages imports : List String) : Prop where
  distinct : imports.Nodup
  mem : ∀ p, p ∈ imports ↔ p ∈ packages ∧ p ≠ own
  order : imports.Pairwise fun p q => packages.idxOf p < packages.idxOf q

namespace FirstSeen

variable {own : String} {packages imports : List String}

theorem nil (own : String) : FirstSeen own [] [] where
  distinct := .nil
  mem p := by simp
  order := .nil

/-- A package more does not change where the others came first. -/
theorem idxOf_snoc (h : FirstSeen own packages imports) {p q : String} (hq : q ∈ imports) :
    (packages ++ [p]).idxOf q = packages.idxOf q :=
  List.idxOf_append_of_mem ((h.mem q).mp hq).1

/-- The document's own package, and one that has been seen, are passed over. -/
theorem snoc_seen (h : FirstSeen own packages imports) {p : String} (hp : p = own ∨ p ∈ imports) :
    FirstSeen own (packages ++ [p]) imports where
  distinct := h.distinct
  mem q := by
    rw [h.mem, List.mem_append, List.mem_singleton]
    constructor
    · exact fun ⟨hq, hne⟩ => ⟨.inl hq, hne⟩
    · rintro ⟨hq | rfl, hne⟩
      · exact ⟨hq, hne⟩
      · exact (h.mem q).mp (hp.resolve_left hne)
  order := h.order.imp_of_mem fun hp hq hlt => by rwa [h.idxOf_snoc hp, h.idxOf_snoc hq]

/-- A new package goes to the end. -/
theorem snoc_new (h : FirstSeen own packages imports) {p : String} (hne : p ≠ own)
    (hnew : p ∉ imports) : FirstSeen own (packages ++ [p]) (imports ++ [p]) where
  distinct := List.nodup_append.mpr ⟨h.distinct, List.nodup_singleton p, fun q hq r hr hqr =>
    hnew (by rwa [← List.mem_singleton.mp hr, ← hqr])⟩
  mem q := by
    rw [List.mem_append, List.mem_append, List.mem_singleton, h.mem]
    constructor
    · rintro (⟨hq, hq'⟩ | rfl)
      · exact ⟨.inl hq, hq'⟩
      · exact ⟨.inr rfl, hne⟩
    · rintro ⟨hq | rfl, hq'⟩
      · exact .inl ⟨hq, hq'⟩
      · exact .inr rfl
  order := by
    have habsent : p ∉ packages := fun hp => hnew ((h.mem p).mpr ⟨hp, hne⟩)
    refine List.pairwise_append.mpr ⟨?_, List.pairwise_singleton _ p, fun q hq r hr => ?_⟩
    · exact h.order.imp_of_mem fun hp hq hlt => by rwa [h.idxOf_snoc hp, h.idxOf_snoc hq]
    · obtain rfl := List.mem_singleton.mp hr
      rw [h.idxOf_snoc hq, List.idxOf_append_of_notMem habsent]
      exact Nat.lt_add_right _ (List.idxOf_lt_length_iff.mpr ((h.mem q).mp hq).1)

/-- There is one such list only. -/
theorem unique {others : List String} (h : FirstSeen own packages imports)
    (h' : FirstSeen own packages others) : imports = others := by
  have hperm : imports.Perm others :=
    (List.perm_ext_iff_of_nodup h.distinct h'.distinct).mpr fun p => (h.mem p).trans (h'.mem p).symm
  exact hperm.eq_of_pairwise (fun _ _ _ _ hlt hgt => absurd hgt (Nat.lt_asymm hlt)) h.order h'.order

end FirstSeen

namespace Scala

theorem same_str (s t : String) : (Json.str s).same (.str t) = (s == t) := by rw [Json.same]

/-- **The packages to import are those of the includes that are not the document's own, each once,
    in the order in which they come first.** -/
theorem firstSeen_importedPackages (own : String) (packages : List String) :
    ∃ imports : List String,
      importedPackages (.str own) (packages.map .str) = imports.map .str ∧
      FirstSeen own packages imports := by
  induction packages using List.reverseRecOn with
  | nil => exact ⟨[], rfl, .nil own⟩
  | append_singleton packages p ih =>
    obtain ⟨imports, himports, h⟩ := ih
    rw [List.map_append, List.map_singleton, importedPackages_snoc, himports]
    have hseen : ((Json.str p).same (.str own) ||
        (imports.map Json.str).any ((Json.str p).same ·)) = true ↔ p = own ∨ p ∈ imports := by
      simp [same_str]
    by_cases hp : p = own ∨ p ∈ imports
    · rw [if_pos (hseen.mpr hp)]
      exact ⟨imports, rfl, h.snoc_seen hp⟩
    · rw [if_neg (hp ∘ hseen.mp)]
      obtain ⟨hne, hnew⟩ := not_or.mp hp
      exact ⟨imports ++ [p], by simp, h.snoc_new hne hnew⟩

/-! ## The head of a file -/

/-- The comment at the beginning of a file. -/
def generatedNote : String := "// Generated by thriftgen. Do not edit."

/-- What every file imports. -/
def standardImports : List String :=
  ["import com.twitter.scrooge.\x7bThriftEnum, ThriftStruct, ThriftStructCodec\x7d",
   "import java.nio.ByteBuffer",
   "import org.apache.thrift.protocol._",
   "import scala.collection.mutable"]

/-- The line that imports a package. -/
def importLine (package : String) : String := "import " ++ package ++ "._"

/-- The lines of the head of a file, with the comment as often as the settings have it written. -/
def headLines (notes : Nat) (package : String) (imports : List String) : List String :=
  List.replicate notes generatedNote ++ ("package " ++ package) :: "" ::
    (standardImports ++ imports.map importLine)

/-- The model of the head of a file whose packages are texts. -/
def headModel (package : String) (imports : List String) (comments : Value) : Model :=
  [("scalaNamespace", .text package),
   ("imports", .sequence (imports.map fun p => [("namespace", .text p)])),
   ("addComments", comments)]

/-- The lines of a text that begin with the word for imports. -/
def importLines (text : String) : List String :=
  ((Text.splitAt '\n' text.toList).filter ("import ".toList.isPrefixOf ·)).map .ofList

/-- Where packages are texts, the model is in place as soon as the settings offer a comment. -/
theorem headerModel_eq_ok {comments : Json} {d : Document} {package : String}
    {imports : List String} (hpackage : d.targetNamespace = .str package)
    (himports : importedPackages (.str package) (d.includes.map (·.2.targetNamespace)) =
      imports.map .str) :
    headerModel comments d = (offered "addComments" comments).map (headModel package imports) := by
  have heach : (imports.map Json.str).mapM (fun p => do
      pure [("namespace", ← offered "namespace" p)]) =
        (.ok (imports.map fun p => [("namespace", .text p)]) : Generated (List Model)) := by
    rw [List.mapM_map]
    exact mapM_of_forall fun p _ => by simp
  rw [headerModel, hpackage, himports, offered_str, ok_bind, heach, ok_bind]
  cases offered "addComments" comments <;> rfl

section Head

variable {package : String} {imports : List String} {comments : Value}

/-- Every import is a line. -/
theorem evalNode_imports (splice : List Fragment.Node → Scope → Except RenderError String)
    (name : String) :
    Fragment.evalNode splice
        (.block "imports" [.text "import ", .scalar "namespace", .text "._\n"])
        ⟨name, [headModel package imports comments]⟩ =
      .ok (Generator.joinSections (imports.map importLine)) := by
  have hitems : Scope.items ⟨name, [headModel package imports comments]⟩ "imports" =
      .ok (imports.map fun p =>
        ⟨name, [[("namespace", .text p)], headModel package imports comments]⟩) :=
    Fragment.items_eq_ok.mpr ⟨_, .sequence (.here rfl), by simp⟩
  have hline : ∀ p ∈ imports, Fragment.evalNodes splice
      [.text "import ", .scalar "namespace", .text "._\n"]
      ⟨name, [[("namespace", .text p)], headModel package imports comments]⟩ =
        .ok (importLine p ++ "\n") := by
    intro p _
    have hscalar : Scope.text ⟨name, [[("namespace", .text p)],
        headModel package imports comments]⟩ "namespace" = .ok p := rfl
    simp [Fragment.evalNodes_cons, Fragment.evalNodes_nil, Fragment.evalNode_text,
      Fragment.evalNode_scalar, hscalar, importLine, String.append_assoc]
  rw [Fragment.evalNode_block, hitems, ok_bind, List.mapM_map]
  rw [Function.comp_def, mapM_of_forall hline]
  simp [Generator.joinSections, Function.comp_def]

/-- **The head of a file is its lines.** -/
theorem render_head {text : String}
    (h : Fragments.header.render (headModel package imports comments) = .ok text) :
    ∃ items, Fragment.Items [headModel package imports comments] "addComments" items ∧
      text = Generator.joinSections (headLines items.length package imports) := by
  rw [Fragment.render, Fragment.evalWithin_eq] at h
  simp only [Fragments.header] at h
  obtain ⟨notes, rest, hnotes, hrest, rfl⟩ := Fragment.evalNodes_cons_eq_ok.mp h
  obtain ⟨scopes, texts, hscopes, htexts, rfl⟩ := Fragment.evalNode_block_eq_ok.mp hnotes
  obtain ⟨items, hitems, rfl⟩ := Fragment.items_eq_ok.mp hscopes
  have hnote : ∀ scope ∈ items.map (Scope.mk "header" ·), Fragment.evalNodes (Fragment.splicer 1000)
      [.text "// Generated by thriftgen. Do not edit.\n"] scope = .ok (generatedNote ++ "\n") :=
    fun scope _ => rfl
  obtain rfl := Except.ok.inj ((mapM_of_forall hnote).symm.trans htexts)
  have hpackage : Scope.text ⟨"header", [headModel package imports comments]⟩ "scalaNamespace" =
      .ok package := rfl
  simp only [Fragment.evalNodes_cons, Fragment.evalNodes_nil, evalNode_imports] at hrest
  simp only [Fragment.evalNode_text, Fragment.evalNode_scalar, hpackage, ok_bind, pure_eq_ok,
    Except.ok.injEq] at hrest
  refine ⟨items, hitems, ?_⟩
  rw [← hrest]
  simp [Generator.joinSections, headLines, standardImports, String.append_assoc,
    Function.comp_def, List.map_const']

end Head

/-! ## Lines -/

/-- Lines without line feeds are read off their text again. -/
theorem splitAt_joinSections {lines : List String} (h : ∀ l ∈ lines, '\n' ∉ l.toList) :
    Text.splitAt '\n' (Generator.joinSections lines).toList =
      lines.map String.toList ++ [[]] := by
  induction lines with
  | nil => rfl
  | cons l lines ih =>
    rw [List.forall_mem_cons] at h
    have hcut : Text.splitAt '\n' ('\n' :: (Generator.joinSections lines).toList) =
        [] :: (lines.map String.toList ++ [[]]) := by
      rw [Text.splitAt, if_pos rfl, ih h.2]
    have hcons : (Generator.joinSections (l :: lines)).toList =
        l.toList ++ '\n' :: (Generator.joinSections lines).toList := by
      simp [Generator.joinSections, String.join_cons]
    rw [hcons, Text.splitAt_append h.1 hcut]
    simp

theorem headLines_clean {notes : Nat} {package : String} {imports : List String}
    (h : ∀ p ∈ package :: imports, '\n' ∉ p.toList) :
    ∀ l ∈ headLines notes package imports, '\n' ∉ l.toList := by
  rw [List.forall_mem_cons] at h
  simp only [headLines, List.forall_mem_append, List.forall_mem_cons, List.forall_mem_map]
  refine ⟨fun l hl => ?_, ?_, by simp, by decide +kernel, fun p hp => ?_⟩
  · rw [List.eq_of_mem_replicate hl]
    decide +kernel
  · simpa using h.1
  · simpa [importLine] using h.2 p hp

/-- **The lines that import something are the standard ones and one for each import.** -/
theorem importLines_headLines {notes : Nat} {package : String} {imports : List String}
    (h : ∀ p ∈ package :: imports, '\n' ∉ p.toList) :
    importLines (Generator.joinSections (headLines notes package imports)) =
      standardImports ++ imports.map importLine := by
  let isImport (l : List Char) : Bool := "import ".toList.isPrefixOf l
  have hnotes : ((List.replicate notes generatedNote).map String.toList).filter isImport = [] := by
    rw [List.map_replicate, List.filter_replicate, if_neg (by decide)]
  have hpackage : isImport ("package " ++ package).toList = false := by
    simp [isImport, List.isPrefixOf]
  have hstandard : (standardImports.map String.toList).filter isImport =
      standardImports.map String.toList := by decide +kernel
  have himports : ((imports.map importLine).map String.toList).filter isImport =
      (imports.map importLine).map String.toList := by
    rw [List.filter_eq_self]
    simp [isImport, importLine]
  rw [importLines, splitAt_joinSections (headLines_clean h)]
  change List.map _ (List.filter isImport _) = _
  simp only [headLines, List.map_append, List.map_cons, List.filter_append, List.filter_cons,
    hnotes, hpackage, hstandard, himports]
  simp [isImport, Function.comp_def]

namespace Generator

variable {g : Generator} {d : Document}

/-- A truth value among the settings has the comment written once or not at all. -/
theorem length_items_flag {package : String} {imports : List String} {b : Bool}
    {items : List (List Model)}
    (h : Fragment.Items [headModel package imports (.flag b)] "addComments" items) :
    items.length = b.toNat := by
  have hbound {v : Value} (hv : Fragment.Bound [headModel package imports (.flag b)]
      "addComments" v) : v = .flag b :=
    (Option.some.inj ((Fragment.lookup?_eq_some "").mpr hv)).symm
  cases h with
  | yes h =>
    cases hbound h
    rfl
  | no h =>
    cases hbound h
    rfl
  | model h => cases hbound h
  | sequence h => cases hbound h

/-- A head that is written is the model's lines, with the comment as often as the settings say. -/
theorem header_lines {package : String} {imports : List String}
    (hpackage : d.targetNamespace = .str package)
    (himports : importedPackages (.str package) (d.includes.map (·.2.targetNamespace)) =
      imports.map .str) {text : String} (h : g.header d = .ok text) :
    ∃ comments items, offered "addComments" g.settings.addComments = .ok comments ∧
      Fragment.Items [headModel package imports comments] "addComments" items ∧
      text = joinSections (headLines items.length package imports) := by
  obtain ⟨m, hm, hfilled⟩ := bind_eq_ok.mp h
  rw [headerModel_eq_ok hpackage himports, map_eq_ok] at hm
  obtain ⟨comments, hcomments, rfl⟩ := hm
  obtain ⟨items, hitems, htext⟩ := render_head (filled_eq_ok.mp hfilled)
  exact ⟨comments, items, hcomments, hitems, htext⟩

/-- A truth value among the settings has the head written, with the comment or without it. -/
theorem header_of_flag {package : String} {imports : List String} {b : Bool}
    (hpackage : d.targetNamespace = .str package) (htargets : d.HasTextTargets)
    (himports : importedPackages (.str package) (d.includes.map (·.2.targetNamespace)) =
      imports.map .str) (hb : g.settings.addComments = .bool b) :
    g.header d = .ok (joinSections (headLines b.toNat package imports)) := by
  obtain ⟨text, htext⟩ := exists_header ⟨b, hb⟩ htargets
  obtain ⟨comments, items, hcomments, hitems, rfl⟩ := header_lines hpackage himports htext
  rw [hb] at hcomments
  cases hcomments
  rw [htext, length_items_flag hitems]

/-- **The file of a document that names nothing but packages is its head.** -/
theorem generate_head {case : NamingCase} {b : Bool} (hcase : g.settings.namingCase = .ok case)
    (hoptions : g.settings.serviceOptions = .arr []) (hcomments : g.settings.addComments = .bool b)
    {namespaces : List (String × Json)} {standard : Json} {package : String}
    (hpackage : Document.targetNamespace { namespaces, defaultNamespace := standard } =
      .str package) :
    g.generate none { namespaces, defaultNamespace := standard } =
      .ok (joinSections (headLines b.toNat package []) ++ "\n") := by
  have hhead : g.header { namespaces, defaultNamespace := standard } =
      .ok (joinSections (headLines b.toNat package [])) :=
    header_of_flag hpackage ⟨⟨package, hpackage⟩, by simp⟩ rfl hcomments
  have hwords : g.givenOptions none = .ok [] := by
    rw [givenOptions, hoptions]
    rfl
  refine generate_eq_ok.mpr ⟨[], [], case, _, hwords, rfl, hcase, rfl, ?_⟩
  let parts : Parts := ⟨joinSections (headLines b.toNat package []), "", [], [], []⟩
  refine assemble_eq_ok.mpr ⟨parts, ⟨hhead, rfl, rfl, rfl, rfl⟩, ?_⟩
  have hnone : joinSections [] = "" := rfl
  simp [parts, Parts.text, hnone]

/-- Such a file is made without warnings, and is tidied. -/
theorem run_head {case : NamingCase} {b : Bool} {ending : String}
    (hcase : g.settings.namingCase = .ok case) (hoptions : g.settings.serviceOptions = .arr [])
    (hcomments : g.settings.addComments = .bool b) (hending : g.settings.lineEnding = .str ending)
    {namespaces : List (String × Json)} {standard : Json} {package : String}
    (hpackage : Document.targetNamespace { namespaces, defaultNamespace := standard } =
      .str package) :
    g.run { namespaces, defaultNamespace := standard } =
      .ok (.code (formatCode ending (joinSections (headLines b.toNat package []) ++ "\n")) []
        (summary { namespaces, defaultNamespace := standard })) := by
  have hwarnings : g.warnings { namespaces, defaultNamespace := standard } = .ok [] := by
    rw [warnings, hcase]
    rfl
  have hformat (code : String) : g.format code = .ok (formatCode ending code) := by
    rw [format, hending]
    rfl
  rw [run, produce, hwarnings, generate_head hcase hoptions hcomments hpackage]
  simp [used, hformat]

/-- **A file imports the packages of its includes.**  Let the packages of a document and of what it
    includes be texts.  Where the head of its file is written, the last lines of it import, one
    each, the packages of the includes other than the document's own, in the order in which they
    come first; and if no package holds a line feed, the lines of the text that import something are
    these and the four of every file.  The head is written, whatever the packages are, if the
    settings say by a truth value whether the comment is wanted. -/
theorem header_imports (hd : d.HasTextNamespaces)
    (hi : ∀ i ∈ d.includes, i.2.HasTextNamespaces) :
    ∃ imports, FirstSeen d.package (d.includes.map (·.2.package)) imports ∧
      (∀ text, g.header d = .ok text →
        (∃ notes, text = joinSections (headLines notes d.package imports)) ∧
        ((∀ p ∈ d.package :: imports, '\n' ∉ p.toList) →
          importLines text = standardImports ++ imports.map importLine)) ∧
      ∀ b, g.settings.addComments = .bool b →
        g.header d = .ok (joinSections (headLines b.toNat d.package imports)) := by
  have hown := Document.targetNamespace_eq hd
  have hincluded : d.includes.map (·.2.targetNamespace) =
      (d.includes.map (·.2.package)).map .str := by
    rw [List.map_map]
    exact List.map_congr_left fun i hmem => Document.targetNamespace_eq (hi i hmem)
  obtain ⟨imports, himports, hseen⟩ :=
    firstSeen_importedPackages d.package (d.includes.map (·.2.package))
  have hpackages : importedPackages (.str d.package) (d.includes.map (·.2.targetNamespace)) =
      imports.map .str := hincluded ▸ himports
  refine ⟨imports, hseen, fun text h => ?_, fun b hb => ?_⟩
  · obtain ⟨comments, items, -, -, rfl⟩ := header_lines hown hpackages h
    exact ⟨⟨_, rfl⟩, importLines_headLines⟩
  · have htargets : d.HasTextTargets :=
      ⟨⟨_, hown⟩, fun i hmem => ⟨_, Document.targetNamespace_eq (hi i hmem)⟩⟩
    exact header_of_flag hown htargets hpackages hb

/-- Of five includes one has the document's own package, and two have one that came before. -/
theorem two_of_five_packages :
    let document (scala java : String) (includes : List (Json × Document)) : Document :=
      { namespaces := [("java", .str java), ("scala", .str scala)], includes
        defaultNamespace := .str standardNamespace }
    let d := document "" "com.own"
      [(.str "b", document "com.b" "x" []), (.str "own", document "com.own" "" []),
       (.str "a", document "" "com.a" []), (.str "b2", document "com.b" "" []),
       (.str "b3", document "" "com.b" [])]
    header ⟨{}, {}⟩ d = .ok (joinSections (headLines 1 "com.own" ["com.b", "com.a"])) ∧
      importLines (joinSections (headLines 1 "com.own" ["com.b", "com.a"])) =
        standardImports ++ ["import com.b._", "import com.a._"] := by
  intro document d
  have htext (scala java : String) (includes : List (Json × Document)) :
      (document scala java includes).HasTextNamespaces := by
    refine ⟨?_, ⟨_, rfl⟩⟩
    simp [Document.HasTextPackages, document, Json.IsText]
  have hincludes : ∀ i ∈ d.includes, i.2.HasTextNamespaces := by
    simp only [d, document, List.forall_mem_cons]
    exact ⟨htext _ _ _, htext _ _ _, htext _ _ _, htext _ _ _, htext _ _ _, by simp⟩
  have hfirst : FirstSeen "com.own" ["com.b", "com.own", "com.a", "com.b", "com.b"]
      ["com.b", "com.a"] := ⟨by decide, fun p => by grind, by decide⟩
  obtain ⟨imports, hseen, htexts, hhead⟩ :=
    header_imports (g := ⟨{}, {}⟩) (htext "" "com.own" _) hincludes
  obtain rfl := hseen.unique hfirst
  have hwritten := hhead true rfl
  exact ⟨hwritten, (htexts _ hwritten).2 (by decide +kernel)⟩

end Generator

end Scala

end ThriftScala
