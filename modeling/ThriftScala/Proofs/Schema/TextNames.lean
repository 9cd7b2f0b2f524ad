/-
  Documents whose names are texts.

  Nothing in the layout of a document asks its names to be texts.  `Document.HasTextNames` does:
  the names of constants, enums, structs, fields, services and functions, the packages, the parts of
  enum constants and the identifiers in constants and defaults; a service may extend nothing.
  Converting the names keeps this, and in a document that was read with a text as its default
  package every package is a text then (`Document.targetNamespace_isText`).
-/
import ThriftScala.Proofs.Schema.Normalize
import ThriftScala.Schema.Layout

namespace ThriftScala

open Outcome

/-! ## What it means -/

mutual

/-- The names inside a constant are texts. -/
def Constant.HasTextNames : Constant → Prop
  | .list elems => Constant.HaveTextNames elems
  | .map pairs => Constant.PairsHaveTextNames pairs
  | .enumValue enum value => enum.IsText ∧ value.IsText
  | .identifier name => name.IsText
  | _ => True

/-- The names inside all constants of a list are texts. -/
def Constant.HaveTextNames : List Constant → Prop
  | [] => True
  | c :: cs => c.HasTextNames ∧ Constant.HaveTextNames cs

/-- The names inside all pairs of constants are texts. -/
def Constant.PairsHaveTextNames : List (Constant × Constant) → Prop
  | [] => True
  | (k, v) :: ps => k.HasTextNames ∧ v.HasTextNames ∧ Constant.PairsHaveTextNames ps

end

/-- The name of a field and the names inside its default are texts. -/
structure Field.HasTextNames (f : Field) : Prop where
  name : f.name.IsText
  default : ∀ c, f.default? = some c → c.HasTextNames

/-- The names of a constant and inside it are texts. -/
structure Const.HasTextNames (c : Const) : Prop where
  name : c.name.IsText
  value : c.value.HasTextNames

/-- The names of an enum and of its values are texts. -/
structure EnumDef.HasTextNames (e : EnumDef) : Prop where
  name : e.name.IsText
  values : ∀ v ∈ e.values, v.name.IsText

/-- The names of a struct and of its fields are texts. -/
structure Struct.HasTextNames (s : Struct) : Prop where
  name : s.name.IsText
  fields : ∀ f ∈ s.fields, f.HasTextNames

/-- The names of a function, its arguments and its exceptions are texts. -/
structure ServiceFunction.HasTextNames (f : ServiceFunction) : Prop where
  name : f.name.IsText
  args : ∀ a ∈ f.args, a.HasTextNames
  throws : ∀ t ∈ f.throws, t.HasTextNames

/-- The names of a service, of its functions and of the service that it may extend are texts. -/
structure Service.HasTextNames (s : Service) : Prop where
  name : s.name.IsText
  parent : s.parent = .null ∨ s.parent.IsText
  functions : ∀ f ∈ s.functions, f.HasTextNames

/-- The packages that a document names are texts. -/
def Document.HasTextPackages (d : Document) : Prop := ∀ p ∈ d.namespaces, p.2.IsText

/-- The names in a document are texts, and so are the packages that its includes name. -/
structure Document.HasTextNames (d : Document) : Prop where
  packages : d.HasTextPackages
  includes : ∀ i ∈ d.includes, i.2.HasTextPackages
  consts : ∀ c ∈ d.consts, c.HasTextNames
  enums : ∀ e ∈ d.enums, e.HasTextNames
  structs : ∀ s ∈ d.structs, s.HasTextNames
  services : ∀ s ∈ d.services, s.HasTextNames

/-! ## Conversion of names -/

theorem ServiceFunction.HasTextNames.isNamed {f : ServiceFunction} (h : f.HasTextNames) :
    f.IsNamed where
  name := h.name
  args a ha := (h.args a ha).name
  throws t ht := (h.throws t ht).name

theorem Document.HasTextNames.isNamed {d : Document} (h : d.HasTextNames) : d.IsNamed where
  structs s hs f hf := ((h.structs s hs).fields f hf).name
  services s hs f hf := ((h.services s hs).functions f hf).isNamed

theorem Field.HasTextNames.normalize {case : NamingCase} {f f' : Field} (hf : f.HasTextNames)
    (h : f.normalize case = .ok f') : f'.HasTextNames := by
  obtain ⟨s, -, rfl⟩ := Field.normalize_eq_ok.mp h
  exact ⟨⟨_, rfl⟩, hf.default⟩

/-- The fields of a list keep texts for names. -/
theorem Field.hasTextNames_of_mapM {case : NamingCase} {fields fields' : List Field}
    (hf : ∀ f ∈ fields, f.HasTextNames)
    (h : fields.mapM (·.normalize case) = .ok fields') : ∀ f ∈ fields', f.HasTextNames :=
  forall_of_mapM_eq_ok h fun f hmem _ hmade => (hf f hmem).normalize hmade

theorem Struct.HasTextNames.normalize {case : NamingCase} {s s' : Struct} (hs : s.HasTextNames)
    (h : s.normalize case = .ok s') : s'.HasTextNames := by
  obtain ⟨fields, hfields, h⟩ := bind_eq_ok.mp h
  cases h
  exact ⟨hs.name, Field.hasTextNames_of_mapM hs.fields hfields⟩

theorem ServiceFunction.HasTextNames.normalize {case : NamingCase} {f f' : ServiceFunction}
    (hf : f.HasTextNames) (h : f.normalize case = .ok f') : f'.HasTextNames := by
  obtain ⟨s, args, throws, -, hargs, hthrows, rfl⟩ := ServiceFunction.normalize_eq_ok.mp h
  exact ⟨⟨_, rfl⟩, Field.hasTextNames_of_mapM hf.args hargs,
    Field.hasTextNames_of_mapM hf.throws hthrows⟩

theorem Service.HasTextNames.normalize {case : NamingCase} {s s' : Service} (hs : s.HasTextNames)
    (h : s.normalize case = .ok s') : s'.HasTextNames := by
  obtain ⟨functions, hfunctions, h⟩ := bind_eq_ok.mp h
  cases h
  refine ⟨hs.name, hs.parent, ?_⟩
  exact forall_of_mapM_eq_ok hfunctions fun f hmem _ hmade => (hs.functions f hmem).normalize hmade

theorem Document.HasTextNames.normalize {case : NamingCase} {d d' : Document}
    (hd : d.HasTextNames) (h : d.normalize case = .ok d') : d'.HasTextNames := by
  obtain ⟨structs, services, hstructs, hservices, rfl⟩ := Document.normalize_eq_ok.mp h
  refine ⟨hd.packages, hd.includes, hd.consts, hd.enums, ?_, ?_⟩
  · exact forall_of_mapM_eq_ok hstructs fun s hmem _ hmade => (hd.structs s hmem).normalize hmade
  · exact forall_of_mapM_eq_ok hservices fun s hmem _ hmade => (hd.services s hmem).normalize hmade

/-! ## Packages -/

/-- A document that was read keeps the default package that it was read with. -/
theorem Document.defaultNamespace_ofJson {standard v : Json} {d : Document}
    (h : Document.ofJson standard v = .ok d) : d.defaultNamespace = standard := by
  cases v with
  | obj members =>
    rw [Document.ofJson] at h
    simp only [bind_eq_ok] at h
    obtain ⟨_, -, _, -, _, -, _, -, _, -, _, -, _, -, _, -, _, -, _, -, h⟩ := h
    cases h
    rfl
  | _ => simp [Document.ofJson] at h

theorem Document.exists_ofJson_of_amongMembers {standard : Json} {place : String} {d : Document} :
    ∀ {members : List (String × Json)}, Document.amongMembers standard place members = .ok d →
      ∃ v, Document.ofJson standard v = .ok d
  | [], h => by simp [Document.amongMembers] at h
  | (key, v) :: members, h => by
    rw [Document.amongMembers] at h
    split at h
    · exact ⟨v, h⟩
    · exact exists_ofJson_of_amongMembers h

theorem Document.exists_ofJson_of_includeList {standard : Json} :
    ∀ {nodes : List Json} {is : List (Json × Document)},
      Document.includeList standard nodes = .ok is →
      ∀ i ∈ is, ∃ v, Document.ofJson standard v = .ok i.2
  | [], is, h => by
    rw [Document.includeList] at h
    cases h
    exact fun i hi => by cases hi
  | node :: nodes, is, h => by
    rw [Document.includeList] at h
    obtain ⟨first, hfirst, h⟩ := bind_eq_ok.mp h
    obtain ⟨rest, hrest, h⟩ := bind_eq_ok.mp h
    cases h
    intro i hi
    rcases List.mem_cons.mp hi with rfl | hi
    · cases node with
      | obj members =>
        rw [Document.includeOf] at hfirst
        obtain ⟨path, -, hfirst⟩ := bind_eq_ok.mp hfirst
        obtain ⟨d, hd, hfirst⟩ := bind_eq_ok.mp hfirst
        cases hfirst
        exact exists_ofJson_of_amongMembers hd
      -- an include is read from an object only
      | _ => simp [Document.includeOf] at hfirst
    · exact exists_ofJson_of_includeList hrest i hi

/-- What a document includes was read with the same default package. -/
theorem Document.exists_ofJson_of_include {standard v : Json} {d : Document}
    (h : Document.ofJson standard v = .ok d) :
    ∀ i ∈ d.includes, ∃ w, Document.ofJson standard w = .ok i.2 := by
  have hamong : ∀ {members : List (String × Json)} {is},
      Document.includesAmong standard members = .ok is →
      ∀ i ∈ is, ∃ w, Document.ofJson standard w = .ok i.2 := by
    intro members
    induction members with
    | nil =>
      intro is h
      rw [Document.includesAmong] at h
      cases h
      exact fun i hi => by cases hi
    | cons m members ih =>
      obtain ⟨key, w⟩ := m
      intro is h
      rw [Document.includesAmong] at h
      split at h
      · cases w with
        | arr nodes =>
          rw [Document.includesOf] at h
          exact exists_ofJson_of_includeList h
        | _ =>
          -- a text or an object lists nothing unless it is empty
          rw [Document.includesOf] at h
          · obtain ⟨elems, -, h⟩ := bind_eq_ok.mp h
            cases elems with
            | nil =>
              cases h
              exact fun i hi => by cases hi
            | cons _ _ => cases h
          · simp
      · exact ih h
  cases v with
  | obj members =>
    rw [Document.ofJson] at h
    simp only [bind_eq_ok] at h
    obtain ⟨_, -, is, his, _, -, _, -, _, -, _, -, _, -, _, -, _, -, _, -, h⟩ := h
    cases h
    exact hamong his
  | _ => simp [Document.ofJson] at h

/-- A package that is found is one of those that the document names. -/
theorem Document.HasTextPackages.namespaceFor {d : Document} (h : d.HasTextPackages)
    {language : String} {v : Json} (hv : d.namespaceFor language = some v) : v.IsText := by
  obtain ⟨before, after, hsplit, -⟩ := List.lookup_eq_some_iff.mp hv
  exact h (language, v) (by simp [hsplit])

/-- The package of a document is one that it names, or the default one. -/
theorem Document.targetNamespace_isText {d : Document} (hp : d.HasTextPackages)
    (hs : d.defaultNamespace.IsText) : d.targetNamespace.IsText := by
  have hfor : ∀ language v, (d.namespaceFor language).filter (·.truthy) = some v → v.IsText :=
    fun language v h => hp.namespaceFor (Option.filter_eq_some_iff.mp h).1
  unfold Document.targetNamespace
  cases hscala : (d.namespaceFor "scala").filter (·.truthy) with
  | some v => simpa [hscala] using hfor _ _ hscala
  | none =>
    cases hjava : (d.namespaceFor "java").filter (·.truthy) with
    | some v => simpa [hscala, hjava] using hfor _ _ hjava
    | none => simpa [hscala, hjava] using hs

/-- The packages of a document and of what it includes are texts. -/
structure Document.HasTextTargets (d : Document) : Prop where
  own : d.targetNamespace.IsText
  includes : ∀ i ∈ d.includes, i.2.targetNamespace.IsText

/-- **Packages are texts** in a document that was read with a text as its default package. -/
theorem Document.HasTextNames.targets {standard : String} {v : Json} {d : Document}
    (hd : d.HasTextNames) (h : Document.ofJson (.str standard) v = .ok d) : d.HasTextTargets where
  own := targetNamespace_isText hd.packages ⟨standard, defaultNamespace_ofJson h⟩
  includes i hi := by
    obtain ⟨w, hw⟩ := exists_ofJson_of_include h i hi
    exact targetNamespace_isText (hd.includes i hi) ⟨standard, defaultNamespace_ofJson hw⟩

theorem Document.HasTextTargets.normalize {case : NamingCase} {d d' : Document}
    (hd : d.HasTextTargets) (h : d.normalize case = .ok d') : d'.HasTextTargets := by
  obtain ⟨structs, services, -, -, rfl⟩ := Document.normalize_eq_ok.mp h
  exact ⟨hd.own, hd.includes⟩

end ThriftScala
