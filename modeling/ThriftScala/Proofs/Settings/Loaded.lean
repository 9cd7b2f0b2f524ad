/-
  Settings that were loaded.

  Loading gives only settings in which nothing is wrong, so their naming case is one of those there
  are and their service options are known.  It does not look at the types of the other settings;
  `Settings.HasDeclaredTypes` says that every setting has the type that it is declared with, and
  then the names of Scala types are texts.
-/
import ThriftScala.Proofs.Schema.Normalize
import ThriftScala.Scala.Generator
import ThriftScala.Settings.Check

namespace ThriftScala

open Outcome

/-! ## Declared types -/

/-- The keys of the custom settings that name Scala types. -/
def typeNameKeys : List String :=
  ["list_type", "set_type", "map_type", "option_type", "binary_type"]

/-- Every setting has the type that it is declared with. -/
structure Settings.HasDeclaredTypes (s : Settings) : Prop where
  outputFile : s.outputFile = .null ∨ s.outputFile.IsText
  packageName : s.packageName.IsText
  lineEnding : s.lineEnding.IsText
  fieldCase : s.fieldCase.IsText
  addComments : ∃ b, s.addComments = .bool b
  serviceOptions : ∃ words : List String, s.serviceOptions = .arr (words.map .str)
  custom : ∃ members, s.custom.toJson = .obj members ∧
    ∀ key ∈ typeNameKeys, ∀ v, members.lookup key = some v → v.IsText

/-- The name of the type for binary data is a text, whether it is set or not. -/
theorem Settings.HasDeclaredTypes.exists_typeNames {s : Settings} (h : s.HasDeclaredTypes) :
    ∃ names binary, Scala.TypeNames.ofCustom s.custom.toJson = .ok names ∧
      names.binary = .str binary := by
  obtain ⟨members, hmembers, htexts⟩ := h.custom
  rw [hmembers, Scala.TypeNames.ofCustom]
  split
  · cases hbinary : members.lookup "binary_type" with
    | none => exact ⟨_, "ByteBuffer", rfl, by simp [Scala.TypeNames.ofMembers, hbinary]⟩
    | some v =>
      obtain ⟨binary, rfl⟩ := htexts "binary_type" (by decide) v hbinary
      exact ⟨_, binary, rfl, by simp [Scala.TypeNames.ofMembers, hbinary]⟩
  · exact ⟨_, "ByteBuffer", rfl, rfl⟩

/-! ## What loading sees to -/

namespace Settings

/-- Nothing is wrong with settings that were loaded. -/
theorem problems_of_load {files : Files} {language path : String} {overrides : Json} {s : Settings}
    (h : load files language path overrides = .ok s) : s.problems = .ok [] := by
  obtain ⟨s', -, h⟩ := bind_eq_ok.mp h
  obtain ⟨ps, hps, h⟩ := bind_eq_ok.mp h
  cases ps with
  | cons p ps => cases h
  | nil =>
    cases h
    cases hp : s.problems with
    | error m => rw [hp] at hps; cases hps
    | ok qs =>
      rw [hp] at hps
      cases hps
      rfl

/-- Where nothing is wrong, none of the three checks found something. -/
theorem checks_of_problems {s : Settings} (h : s.problems = .ok []) :
    s.fieldCaseProblems = .ok [] ∧ s.serviceOptionProblems = .ok [] ∧
      s.packageProblems = .ok [] := by
  obtain ⟨cases, hcases, h⟩ := bind_eq_ok.mp h
  obtain ⟨options, hoptions, h⟩ := bind_eq_ok.mp h
  obtain ⟨packages, hpackages, h⟩ := bind_eq_ok.mp h
  have hnone : cases ++ options ++ packages = [] := by simpa using h
  simp only [List.append_eq_nil_iff] at hnone
  obtain ⟨⟨rfl, rfl⟩, rfl⟩ := hnone
  exact ⟨hcases, hoptions, hpackages⟩

theorem exists_namingCase {s : Settings} (h : s.problems = .ok []) :
    ∃ case, s.namingCase = .ok case := by
  have hcase := (checks_of_problems h).1
  unfold fieldCaseProblems at hcase
  rcases ok_or_error s.namingCase with hok | ⟨m, herror⟩
  · exact hok
  · rw [herror] at hcase
    split at hcase <;> cases hcase

/-- A word that the check knows is the word for an option. -/
theorem exists_serviceOption {word : String} (h : serviceOptionWords.contains word = true) :
    ∃ o, Scala.ServiceOption.ofJson (.str word) = .ok o := by
  simp only [serviceOptionWords, List.contains_cons, List.contains_nil, Bool.or_false,
    Bool.or_eq_true, beq_iff_eq] at h
  rcases h with rfl | rfl | rfl
  · exact ⟨.finagleClient, rfl⟩
  · exact ⟨.finagleService, rfl⟩
  · exact ⟨.ostrichServer, rfl⟩

theorem exists_serviceOptions {s : Settings} (h : s.problems = .ok []) :
    ∃ options, Scala.ServiceOption.ofSetting s.serviceOptions = .ok options := by
  obtain ⟨elems, helems, hknown⟩ := bind_eq_ok.mp (checks_of_problems h).2.1
  have hnone := List.map_eq_nil_iff.mp (Except.ok.inj hknown)
  have hall : ∀ v ∈ elems, ∃ o, Scala.ServiceOption.ofJson v = .ok o := by
    intro v hv
    have hkept := List.filter_eq_nil_iff.mp hnone v hv
    cases v with
    | str word => exact exists_serviceOption (by simpa using hkept)
    | _ => simp at hkept
  obtain ⟨options, hoptions⟩ := exists_mapM_eq_ok hall
  refine ⟨Scala.ServiceOption.close options, ?_⟩
  simp [Scala.ServiceOption.ofSetting, Scala.ServiceOption.resolve, helems, hoptions, Scala.used]

end Settings

end ThriftScala
