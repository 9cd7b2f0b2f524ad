/-
  What the conversion of names keeps.

  `onWire` shows a document as it is seen on the wire: every field and every function is called by
  its wire name, and no spelling is kept beside it.  Two documents with the same view have the same
  wire names, and differ in nothing but the names and kept spellings of fields and functions.

  A conversion keeps the view (`Document.onWire_normalize`), and so does any sequence of them
  (`Document.onWire_normalizeAll`).  The step that needs care is a name that is empty or that a
  case makes empty: an empty spelling does not count as kept, so the converted name must be the
  empty one too (`convert_empty`).
-/
import ThriftScala.Proofs.Outcome
import ThriftScala.Schema.Document

namespace ThriftScala

open Outcome

/-- Is a value a text? -/
def Json.IsText (v : Json) : Prop := ∃ s, v = .str s

/-! ## The view on the wire -/

/-- The field under its wire name. -/
def Field.onWire (f : Field) : Field := { f with name := f.wireName, spelling? := none }

/-- The struct with its fields under their wire names. -/
def Struct.onWire (s : Struct) : Struct := { s with fields := s.fields.map (·.onWire) }

/-- The function, its arguments and its exceptions under their wire names. -/
def ServiceFunction.onWire (f : ServiceFunction) : ServiceFunction :=
  { f with
    name := f.wireName, spelling? := none
    args := f.args.map (·.onWire), throws := f.throws.map (·.onWire) }

/-- The service with its functions under their wire names. -/
def Service.onWire (s : Service) : Service := { s with functions := s.functions.map (·.onWire) }

/-- The document with its fields and functions under their wire names. -/
def Document.onWire (d : Document) : Document :=
  { d with structs := d.structs.map (·.onWire), services := d.services.map (·.onWire) }

/-- Fields that look alike on the wire differ in nothing but their name and kept spelling. -/
theorem Field.onWire_eq_iff {f f' : Field} :
    f'.onWire = f.onWire ↔ f'.id = f.id ∧ f'.wireName = f.wireName ∧ f'.type = f.type ∧
      f'.requiredness = f.requiredness ∧ f'.default? = f.default? := by
  simp [onWire]

/-- Structs are the same on the wire if their fields are, in order. -/
theorem Struct.onWire_eq_iff {s s' : Struct} :
    s'.onWire = s.onWire ↔
      s'.name = s.name ∧ s'.fields.map (·.onWire) = s.fields.map (·.onWire) ∧ s'.kind = s.kind := by
  simp [onWire]

/-- Functions are the same on the wire if their arguments and exceptions are. -/
theorem ServiceFunction.onWire_eq_iff {f f' : ServiceFunction} :
    f'.onWire = f.onWire ↔ f'.wireName = f.wireName ∧ f'.returnType = f.returnType ∧
      f'.args.map (·.onWire) = f.args.map (·.onWire) ∧
      f'.throws.map (·.onWire) = f.throws.map (·.onWire) ∧ f'.oneway = f.oneway := by
  simp [onWire]

/-- Services are the same on the wire if their functions are. -/
theorem Service.onWire_eq_iff {s s' : Service} :
    s'.onWire = s.onWire ↔ s'.name = s.name ∧
      s'.functions.map (·.onWire) = s.functions.map (·.onWire) ∧ s'.parent = s.parent := by
  simp [onWire]

/-- Documents are the same on the wire if their structs and services are, and all else is the same.
    -/
theorem Document.onWire_eq_iff {d d' : Document} :
    d'.onWire = d.onWire ↔ d'.namespaces = d.namespaces ∧ d'.includes = d.includes ∧
      d'.consts = d.consts ∧ d'.enums = d.enums ∧
      d'.structs.map (·.onWire) = d.structs.map (·.onWire) ∧
      d'.services.map (·.onWire) = d.services.map (·.onWire) ∧
      d'.defaultNamespace = d.defaultNamespace := by
  simp [onWire]

/-! ## Texts for names -/

/-- The name of a field is a text. -/
def Field.IsNamed (f : Field) : Prop := f.name.IsText

/-- The names of all fields are texts. -/
def Struct.IsNamed (s : Struct) : Prop := ∀ f ∈ s.fields, f.IsNamed

/-- The names of a function, its arguments and its exceptions are texts. -/
structure ServiceFunction.IsNamed (f : ServiceFunction) : Prop where
  name : f.name.IsText
  args : ∀ a ∈ f.args, a.IsNamed
  throws : ∀ t ∈ f.throws, t.IsNamed

/-- The names of all functions are texts. -/
def Service.IsNamed (s : Service) : Prop := ∀ f ∈ s.functions, f.IsNamed

/-- The names of all fields and functions of a document are texts. -/
structure Document.IsNamed (d : Document) : Prop where
  structs : ∀ s ∈ d.structs, s.IsNamed
  services : ∀ s ∈ d.services, s.IsNamed

/-! ## One name -/

/-- A name that is empty stays so in every case. -/
theorem NamingCase.convert_empty (case : NamingCase) : case.convert "" = "" := by
  cases case <;> decide

/-- Only a text can be converted. -/
theorem NamingCase.convertName_eq_ok {case : NamingCase} {v : Json} {t : String} :
    case.convertName v = .ok t ↔ ∃ s, v = .str s ∧ t = case.convert s := by
  cases v with
  | str s =>
    constructor
    · intro h
      cases h
      exact ⟨s, rfl, rfl⟩
    · rintro ⟨s', hs, rfl⟩
      cases hs
      rfl
  | _ => simp [convertName]

/-- The wire name is a text if the name is. -/
theorem wireNameOf_isText (spelling : Option String) {name : Json} (h : name.IsText) :
    (wireNameOf spelling name).IsText := by
  unfold wireNameOf
  split
  · split
    · exact h
    · exact ⟨_, rfl⟩
  · exact h

/-- The wire name is the same after a conversion. -/
theorem wireNameOf_keptSpelling (case : NamingCase) (spelling : Option String) (s : String) :
    wireNameOf (keptSpelling spelling (.str s)) (.str (case.convert s)) =
      wireNameOf spelling (.str s) := by
  -- a name without a spelling is kept as the spelling, unless it is empty
  have hbare : wireNameOf (some s) (.str (case.convert s)) = .str s := by
    by_cases hs : s = ""
    · subst hs
      simp [wireNameOf, case.convert_empty]
    · simp [wireNameOf, hs]
  cases spelling with
  | none => exact hbare
  | some t =>
    by_cases ht : t = ""
    · have hkept : keptSpelling (some t) (.str s) = some s := by simp [keptSpelling, wireNameOf, ht]
      rw [hkept, hbare]
      simp [wireNameOf, ht]
    · simp [keptSpelling, wireNameOf, ht]

/-! ## The parts of a document -/

/-- A field gets a new name and keeps the first spelling of the old one. -/
theorem Field.normalize_eq_ok {case : NamingCase} {f f' : Field} :
    f.normalize case = .ok f' ↔ ∃ s, f.name = .str s ∧
      f' = { f with
        name := .str (case.convert s), spelling? := keptSpelling f.spelling? f.name } := by
  constructor
  · intro h
    obtain ⟨t, ht, h⟩ := bind_eq_ok.mp h
    obtain ⟨s, hs, rfl⟩ := NamingCase.convertName_eq_ok.mp ht
    cases h
    exact ⟨s, hs, rfl⟩
  · rintro ⟨s, hs, rfl⟩
    exact bind_eq_ok.mpr ⟨_, NamingCase.convertName_eq_ok.mpr ⟨s, hs, rfl⟩, rfl⟩

/-- A field can be renamed exactly if its name is a text. -/
theorem Field.exists_normalize (case : NamingCase) (f : Field) :
    (∃ f', f.normalize case = .ok f') ↔ f.IsNamed := by
  simp [Field.normalize_eq_ok, Field.IsNamed, Json.IsText]

/-- A field that was renamed is named by a text. -/
theorem Field.isNamed_normalize {case : NamingCase} {f f' : Field}
    (h : f.normalize case = .ok f') : f'.IsNamed := by
  obtain ⟨s, -, rfl⟩ := Field.normalize_eq_ok.mp h
  exact ⟨_, rfl⟩

/-- **Renaming a field changes nothing on the wire.** -/
theorem Field.onWire_normalize {case : NamingCase} (f f' : Field)
    (h : f.normalize case = .ok f') : f'.onWire = f.onWire := by
  obtain ⟨s, hs, rfl⟩ := Field.normalize_eq_ok.mp h
  have hwire := wireNameOf_keptSpelling case f.spelling? s
  simp only [Field.onWire, Field.wireName, hs, hwire]

/-- A struct can be renamed exactly if all its fields can. -/
theorem Struct.exists_normalize (case : NamingCase) (s : Struct) :
    (∃ s', s.normalize case = .ok s') ↔ s.IsNamed := by
  rw [Struct.IsNamed, ← exists_mapM_iff_forall (Field.exists_normalize case)]
  simp [Struct.normalize, bind_eq_ok]

/-- A struct that was renamed has fields named by texts. -/
theorem Struct.isNamed_normalize {case : NamingCase} {s s' : Struct}
    (h : s.normalize case = .ok s') : s'.IsNamed := by
  obtain ⟨fields, hfields, h⟩ := bind_eq_ok.mp h
  cases h
  exact forall_of_mapM_eq_ok hfields fun _ _ _ hmade => Field.isNamed_normalize hmade

/-- Renaming the fields of a struct changes nothing on the wire. -/
theorem Struct.onWire_normalize {case : NamingCase} (s s' : Struct)
    (h : s.normalize case = .ok s') : s'.onWire = s.onWire := by
  obtain ⟨fields, hfields, h⟩ := bind_eq_ok.mp h
  cases h
  rw [Struct.onWire, Struct.onWire, map_eq_of_mapM Field.onWire_normalize hfields]

/-- A function is renamed with its arguments and exceptions. -/
theorem ServiceFunction.normalize_eq_ok {case : NamingCase} {f f' : ServiceFunction} :
    f.normalize case = .ok f' ↔ ∃ s args throws, f.name = .str s ∧
      f.args.mapM (·.normalize case) = .ok args ∧ f.throws.mapM (·.normalize case) = .ok throws ∧
      f' = { f with
        name := .str (case.convert s), spelling? := keptSpelling f.spelling? f.name
        args := args, throws := throws } := by
  constructor
  · intro h
    obtain ⟨t, ht, h⟩ := bind_eq_ok.mp h
    obtain ⟨args, hargs, h⟩ := bind_eq_ok.mp h
    obtain ⟨throws, hthrows, h⟩ := bind_eq_ok.mp h
    obtain ⟨s, hs, rfl⟩ := NamingCase.convertName_eq_ok.mp ht
    cases h
    exact ⟨s, args, throws, hs, hargs, hthrows, rfl⟩
  · rintro ⟨s, args, throws, hs, hargs, hthrows, rfl⟩
    have ht : case.convertName f.name = .ok (case.convert s) :=
      NamingCase.convertName_eq_ok.mpr ⟨s, hs, rfl⟩
    exact bind_eq_ok.mpr ⟨_, ht, bind_eq_ok.mpr ⟨_, hargs, bind_eq_ok.mpr ⟨_, hthrows, rfl⟩⟩⟩

/-- A function can be renamed exactly if it and its fields are named by texts. -/
theorem ServiceFunction.exists_normalize (case : NamingCase) (f : ServiceFunction) :
    (∃ f', f.normalize case = .ok f') ↔ f.IsNamed := by
  have hfields : ∀ l : List Field,
      (∃ l', l.mapM (·.normalize case) = .ok l') ↔ ∀ g ∈ l, g.IsNamed :=
    exists_mapM_iff_forall (Field.exists_normalize case)
  constructor
  · rintro ⟨f', h⟩
    obtain ⟨s, args, throws, hs, hargs, hthrows, -⟩ := normalize_eq_ok.mp h
    exact ⟨⟨s, hs⟩, (hfields _).mp ⟨args, hargs⟩, (hfields _).mp ⟨throws, hthrows⟩⟩
  · rintro ⟨⟨s, hs⟩, hargs, hthrows⟩
    obtain ⟨args, hargs⟩ := (hfields _).mpr hargs
    obtain ⟨throws, hthrows⟩ := (hfields _).mpr hthrows
    exact ⟨_, normalize_eq_ok.mpr ⟨s, args, throws, hs, hargs, hthrows, rfl⟩⟩

/-- A function that was renamed is named by texts throughout. -/
theorem ServiceFunction.isNamed_normalize {case : NamingCase} {f f' : ServiceFunction}
    (h : f.normalize case = .ok f') : f'.IsNamed := by
  obtain ⟨s, args, throws, -, hargs, hthrows, rfl⟩ := normalize_eq_ok.mp h
  have hfields : ∀ {l l' : List Field}, l.mapM (·.normalize case) = .ok l' →
      ∀ g ∈ l', g.IsNamed :=
    fun hl => forall_of_mapM_eq_ok hl fun _ _ _ hmade => Field.isNamed_normalize hmade
  exact ⟨⟨_, rfl⟩, hfields hargs, hfields hthrows⟩

/-- Renaming a function changes nothing on the wire. -/
theorem ServiceFunction.onWire_normalize {case : NamingCase} (f f' : ServiceFunction)
    (h : f.normalize case = .ok f') : f'.onWire = f.onWire := by
  obtain ⟨s, args, throws, hs, hargs, hthrows, rfl⟩ := normalize_eq_ok.mp h
  have hwire := wireNameOf_keptSpelling case f.spelling? s
  simp only [onWire, wireName, hs, hwire, map_eq_of_mapM Field.onWire_normalize hargs,
    map_eq_of_mapM Field.onWire_normalize hthrows]

/-- A service can be renamed exactly if all its functions can. -/
theorem Service.exists_normalize (case : NamingCase) (s : Service) :
    (∃ s', s.normalize case = .ok s') ↔ s.IsNamed := by
  rw [Service.IsNamed, ← exists_mapM_iff_forall (ServiceFunction.exists_normalize case)]
  simp [Service.normalize, bind_eq_ok]

/-- A service that was renamed has functions named by texts. -/
theorem Service.isNamed_normalize {case : NamingCase} {s s' : Service}
    (h : s.normalize case = .ok s') : s'.IsNamed := by
  obtain ⟨functions, hfunctions, h⟩ := bind_eq_ok.mp h
  cases h
  exact forall_of_mapM_eq_ok hfunctions fun _ _ _ hmade => ServiceFunction.isNamed_normalize hmade

/-- Renaming the functions of a service changes nothing on the wire. -/
theorem Service.onWire_normalize {case : NamingCase} (s s' : Service)
    (h : s.normalize case = .ok s') : s'.onWire = s.onWire := by
  obtain ⟨functions, hfunctions, h⟩ := bind_eq_ok.mp h
  cases h
  rw [Service.onWire, Service.onWire, map_eq_of_mapM ServiceFunction.onWire_normalize hfunctions]

/-! ## Whole documents -/

/-- A document is renamed in its structs and services and nowhere else. -/
theorem Document.normalize_eq_ok {case : NamingCase} {d d' : Document} :
    d.normalize case = .ok d' ↔ ∃ structs services,
      d.structs.mapM (·.normalize case) = .ok structs ∧
      d.services.mapM (·.normalize case) = .ok services ∧
      d' = { d with structs := structs, services := services } := by
  constructor
  · intro h
    obtain ⟨structs, hstructs, h⟩ := bind_eq_ok.mp h
    obtain ⟨services, hservices, h⟩ := bind_eq_ok.mp h
    cases h
    exact ⟨structs, services, hstructs, hservices, rfl⟩
  · rintro ⟨structs, services, hstructs, hservices, rfl⟩
    exact bind_eq_ok.mpr ⟨_, hstructs, bind_eq_ok.mpr ⟨_, hservices, rfl⟩⟩

/-- Names can be converted exactly if they are texts. -/
theorem Document.exists_normalize (case : NamingCase) (d : Document) :
    (∃ d', d.normalize case = .ok d') ↔ d.IsNamed := by
  have hstructs : (∃ l, d.structs.mapM (·.normalize case) = .ok l) ↔ ∀ s ∈ d.structs, s.IsNamed :=
    exists_mapM_iff_forall (Struct.exists_normalize case) _
  have hservices : (∃ l, d.services.mapM (·.normalize case) = .ok l) ↔
      ∀ s ∈ d.services, s.IsNamed :=
    exists_mapM_iff_forall (Service.exists_normalize case) _
  constructor
  · rintro ⟨d', h⟩
    obtain ⟨structs, services, hs, ht, -⟩ := normalize_eq_ok.mp h
    exact ⟨hstructs.mp ⟨structs, hs⟩, hservices.mp ⟨services, ht⟩⟩
  · rintro ⟨hs, ht⟩
    obtain ⟨structs, hs⟩ := hstructs.mpr hs
    obtain ⟨services, ht⟩ := hservices.mpr ht
    exact ⟨_, normalize_eq_ok.mpr ⟨structs, services, hs, ht, rfl⟩⟩

/-- Converted names are texts. -/
theorem Document.isNamed_normalize {case : NamingCase} {d d' : Document}
    (h : d.normalize case = .ok d') : d'.IsNamed := by
  obtain ⟨structs, services, hstructs, hservices, rfl⟩ := normalize_eq_ok.mp h
  constructor
  · exact forall_of_mapM_eq_ok hstructs fun _ _ _ hmade => Struct.isNamed_normalize hmade
  · exact forall_of_mapM_eq_ok hservices fun _ _ _ hmade => Service.isNamed_normalize hmade

/-- A conversion of names keeps what is seen on the wire. -/
theorem Document.onWire_normalize {case : NamingCase} {d d' : Document}
    (h : d.normalize case = .ok d') : d'.onWire = d.onWire := by
  obtain ⟨structs, services, hstructs, hservices, rfl⟩ := normalize_eq_ok.mp h
  rw [onWire, onWire, map_eq_of_mapM Struct.onWire_normalize hstructs,
    map_eq_of_mapM Service.onWire_normalize hservices]

/-- The document after one conversion for each of the cases, each applied to the one before. -/
def Document.normalizeAll (cases : List NamingCase) (d : Document) : Except Misuse Document :=
  cases.foldlM (fun d case => d.normalize case) d

/-- A sequence of conversions keeps texts for names, and what is seen on the wire. -/
theorem Document.normalizeAll_keeps : ∀ {cases : List NamingCase} {d d' : Document},
    d.normalizeAll cases = .ok d' → (d.IsNamed → d'.IsNamed) ∧ d'.onWire = d.onWire
  | [], d, d', h => by
    cases h
    exact ⟨id, rfl⟩
  | case :: cases, d, d', h => by
    rw [normalizeAll, List.foldlM_cons] at h
    obtain ⟨d₁, h₁, h⟩ := bind_eq_ok.mp h
    obtain ⟨hnamed, hwire⟩ := normalizeAll_keeps h
    exact ⟨fun _ => hnamed (isNamed_normalize h₁), hwire.trans (onWire_normalize h₁)⟩

/-- A sequence of conversions goes through if the names are texts. -/
theorem Document.exists_normalizeAll : ∀ (cases : List NamingCase) {d : Document}, d.IsNamed →
    ∃ d', d.normalizeAll cases = .ok d'
  | [], d, _ => ⟨d, rfl⟩
  | case :: cases, d, h => by
    obtain ⟨d₁, h₁⟩ := (exists_normalize case d).mpr h
    obtain ⟨d', h'⟩ := exists_normalizeAll cases (isNamed_normalize h₁)
    refine ⟨d', ?_⟩
    rw [normalizeAll, List.foldlM_cons, h₁]
    exact h'

end ThriftScala
