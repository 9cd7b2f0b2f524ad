/-
  Documents whose names are ASCII names.

  An ASCII name is a text of letters, digits, low lines and dots of ASCII.  `Document.HasAsciiNames`
  says that the names in a document are such: those that it declares, those that its types and
  constants refer to, and the packages that it and its includes go by.  Of the texts of constants,
  and of the spelling that goes to the wire, it says nothing.

  Letters of ASCII stay among themselves in every letter case, so a conversion of names keeps all
  this (`Document.HasAsciiNames.normalize`).
-/
import ThriftScala.Proofs.Naming.Kinds
import ThriftScala.Proofs.Schema.Normalize

namespace ThriftScala

open Outcome

namespace Text

/-! ## Characters of names -/

/-- An ASCII letter or digit, the low line or a dot. -/
def isNameChar (c : Char) : Bool := c.isAlphanum || c == '_' || c == '.'

theorem nameChar_lt {c : Char} (h : isNameChar c = true) : c.toNat < 128 := by
  unfold isNameChar Char.isAlphanum Char.isAlpha Char.isUpper Char.isLower Char.isDigit at h
  simp only [Bool.or_eq_true, Bool.and_eq_true, decide_eq_true_eq, beq_iff_eq,
    UInt32.le_iff_toNat_le, ge_iff_le] at h
  rcases h with (h | rfl) | rfl
  · have hcode : c.toNat = c.val.toNat := rfl
    have hcapital : 'Z'.val.toNat = 90 := rfl
    have hsmall : 'z'.val.toNat = 122 := rfl
    have hdigit : '9'.val.toNat = 57 := rfl
    omega
  · decide
  · decide

/-- What holds of all such characters can be checked one by one. -/
theorem forall_nameChar {p : Char → Prop}
    (h : ∀ n < 128, isNameChar (Char.ofNat n) = true → p (Char.ofNat n)) {c : Char}
    (hc : isNameChar c = true) : p c := by
  have hnumber := h c.toNat (nameChar_lt hc)
  rw [Char.ofNat_toNat] at hnumber
  exact hnumber hc

/-- All characters are characters of names. -/
def IsAsciiName (cs : List Char) : Prop := ∀ c ∈ cs, isNameChar c = true

instance (cs : List Char) : Decidable (IsAsciiName cs) := List.decidableBAll _ _

theorem IsAsciiName.append {cs ds : List Char} (hc : IsAsciiName cs) (hd : IsAsciiName ds) :
    IsAsciiName (cs ++ ds) := List.forall_mem_append.mpr ⟨hc, hd⟩

theorem keptByCase_isNameChar : KeptByCase (isNameChar · = true) :=
  .of_ascii (fun _ => nameChar_lt) rfl (by decide)

end Text

end ThriftScala

/-- Is the text an ASCII name? -/
def String.IsAsciiName (s : String) : Prop := ThriftScala.Text.IsAsciiName s.toList

instance (s : String) : Decidable s.IsAsciiName :=
  inferInstanceAs (Decidable (ThriftScala.Text.IsAsciiName _))

namespace ThriftScala

open Outcome

/-! ## Names of a document -/

/-- Is the value an ASCII name? -/
def Json.IsAsciiName (v : Json) : Prop := ∃ s : String, v = .str s ∧ s.IsAsciiName

/-- The names in the type are ASCII names. -/
def FieldType.HasAsciiNames : FieldType → Prop
  | .base _ => True
  | .list t => t.HasAsciiNames
  | .set t => t.HasAsciiNames
  | .map k v => k.HasAsciiNames ∧ v.HasAsciiNames
  | .enum name => name.IsAsciiName
  | .struct name => name.IsAsciiName
  | .reference name => name.IsAsciiName

mutual

/-- The names in the constant are ASCII names; its texts may be any. -/
def Constant.HasAsciiNames : Constant → Prop
  | .list elems => Constant.HaveAsciiNames elems
  | .map pairs => Constant.PairsHaveAsciiNames pairs
  | .enumValue enum value => enum.IsAsciiName ∧ value.IsAsciiName
  | .identifier name => name.IsAsciiName
  | _ => True

/-- The names in all constants of a list are ASCII names. -/
def Constant.HaveAsciiNames : List Constant → Prop
  | [] => True
  | c :: cs => c.HasAsciiNames ∧ Constant.HaveAsciiNames cs

/-- The names in all pairs of constants are ASCII names. -/
def Constant.PairsHaveAsciiNames : List (Constant × Constant) → Prop
  | [] => True
  | (k, v) :: ps => k.HasAsciiNames ∧ v.HasAsciiNames ∧ Constant.PairsHaveAsciiNames ps

end

/-- The names of the field, in its type and in its default are ASCII names. -/
structure Field.HasAsciiNames (f : Field) : Prop where
  name : f.name.IsAsciiName
  type : f.type.HasAsciiNames
  default : ∀ c, f.default? = some c → c.HasAsciiNames

/-- The names of the constant, in its type and in its value are ASCII names. -/
structure Const.HasAsciiNames (c : Const) : Prop where
  name : c.name.IsAsciiName
  type : c.type.HasAsciiNames
  value : c.value.HasAsciiNames

/-- The names of the enum and of its values are ASCII names. -/
structure EnumDef.HasAsciiNames (e : EnumDef) : Prop where
  name : e.name.IsAsciiName
  values : ∀ v ∈ e.values, v.name.IsAsciiName

/-- The names of the struct and in its fields are ASCII names. -/
structure Struct.HasAsciiNames (s : Struct) : Prop where
  name : s.name.IsAsciiName
  fields : ∀ f ∈ s.fields, f.HasAsciiNames

/-- The names of the function, in its result, its arguments and its exceptions are ASCII names. -/
structure ServiceFunction.HasAsciiNames (f : ServiceFunction) : Prop where
  name : f.name.IsAsciiName
  returnType : f.returnType.HasAsciiNames
  args : ∀ a ∈ f.args, a.HasAsciiNames
  throws : ∀ t ∈ f.throws, t.HasAsciiNames

/-- The names of the service, of the one that it may extend and in its functions are ASCII names. -/
structure Service.HasAsciiNames (s : Service) : Prop where
  name : s.name.IsAsciiName
  parent : s.parent = .null ∨ s.parent.IsAsciiName
  functions : ∀ f ∈ s.functions, f.HasAsciiNames

/-- The names in the document, its package and those of its includes are ASCII names. -/
structure Document.HasAsciiNames (d : Document) : Prop where
  package : d.targetNamespace.IsAsciiName
  includes : ∀ i ∈ d.includes, i.2.targetNamespace.IsAsciiName
  consts : ∀ c ∈ d.consts, c.HasAsciiNames
  enums : ∀ e ∈ d.enums, e.HasAsciiNames
  structs : ∀ s ∈ d.structs, s.HasAsciiNames
  services : ∀ s ∈ d.services, s.HasAsciiNames

/-! ## Conversion of names -/

/-- A converted name is an ASCII name if the name is. -/
theorem NamingCase.isAsciiName_convert (case : NamingCase) {v : Json} {s : String}
    (hv : v.IsAsciiName) (h : v = .str s) : (case.convert s).IsAsciiName := by
  obtain ⟨name, rfl, hname⟩ := hv
  cases h
  unfold String.IsAsciiName convert
  rw [String.toList_ofList]
  exact kept_convertChars Text.keptByCase_isNameChar case hname

theorem Field.HasAsciiNames.normalize {case : NamingCase} {f f' : Field} (hf : f.HasAsciiNames)
    (h : f.normalize case = .ok f') : f'.HasAsciiNames := by
  obtain ⟨s, hs, rfl⟩ := Field.normalize_eq_ok.mp h
  exact ⟨⟨_, rfl, case.isAsciiName_convert hf.name hs⟩, hf.type, hf.default⟩

/-- The fields of a list keep ASCII names. -/
theorem Field.hasAsciiNames_of_mapM {case : NamingCase} {fields fields' : List Field}
    (hf : ∀ f ∈ fields, f.HasAsciiNames)
    (h : fields.mapM (·.normalize case) = .ok fields') : ∀ f ∈ fields', f.HasAsciiNames :=
  forall_of_mapM_eq_ok h fun f hmem _ hmade => (hf f hmem).normalize hmade

theorem Struct.HasAsciiNames.normalize {case : NamingCase} {s s' : Struct} (hs : s.HasAsciiNames)
    (h : s.normalize case = .ok s') : s'.HasAsciiNames := by
  obtain ⟨fields, hfields, h⟩ := bind_eq_ok.mp h
  cases h
  exact ⟨hs.name, Field.hasAsciiNames_of_mapM hs.fields hfields⟩

theorem ServiceFunction.HasAsciiNames.normalize {case : NamingCase} {f f' : ServiceFunction}
    (hf : f.HasAsciiNames) (h : f.normalize case = .ok f') : f'.HasAsciiNames := by
  obtain ⟨s, args, throws, hs, hargs, hthrows, rfl⟩ := ServiceFunction.normalize_eq_ok.mp h
  exact ⟨⟨_, rfl, case.isAsciiName_convert hf.name hs⟩, hf.returnType,
    Field.hasAsciiNames_of_mapM hf.args hargs, Field.hasAsciiNames_of_mapM hf.throws hthrows⟩

theorem Service.HasAsciiNames.normalize {case : NamingCase} {s s' : Service}
    (hs : s.HasAsciiNames) (h : s.normalize case = .ok s') : s'.HasAsciiNames := by
  obtain ⟨functions, hfunctions, h⟩ := bind_eq_ok.mp h
  cases h
  refine ⟨hs.name, hs.parent, ?_⟩
  exact forall_of_mapM_eq_ok hfunctions fun f hmem _ hmade => (hs.functions f hmem).normalize hmade

theorem Document.HasAsciiNames.normalize {case : NamingCase} {d d' : Document}
    (hd : d.HasAsciiNames) (h : d.normalize case = .ok d') : d'.HasAsciiNames := by
  obtain ⟨structs, services, hstructs, hservices, rfl⟩ := Document.normalize_eq_ok.mp h
  refine ⟨hd.package, hd.includes, hd.consts, hd.enums, ?_, ?_⟩
  · exact forall_of_mapM_eq_ok hstructs fun s hmem _ hmade => (hd.structs s hmem).normalize hmade
  · exact forall_of_mapM_eq_ok hservices fun s hmem _ hmade => (hd.services s hmem).normalize hmade

end ThriftScala
