/-
  The constants that hold the descriptors of fields.

  The name of a constant is made from the upper case of the name of its field.  So in the text of a
  struct whose fields have different names, constants are different exactly if the names have
  different upper cases; where two names have the same one, the text declares one constant twice,
  and what writes either of the fields names it (`constants_apart_iff`).

  Names in snake case in capitals are their own upper case (`upper_upper`), and those in snake case
  are found again when they are raised and lowered if they are ASCII names (`lowerChars_upper`).
  So after these conversions different names have different constants.  In the other cases, and for
  letters whose upper case is that of other letters, they need not.
-/
import ThriftScala.Proofs.Scala.MemberNames
import ThriftScala.Proofs.Scala.StructText
import ThriftScala.Proofs.Scala.Totality

namespace ThriftScala

/-! ## Upper case -/

namespace Text

/-- What stands in an upper case is its own upper case. -/
theorem upperChar_of_mem_upperChar {c d : Char} (hd : d ∈ upperChar c) : upperChar d = [d] := by
  rcases isHigh_of_mem_upperChar hd with hhigh | hsame
  · by_cases hmoved : upperChar d = [d]
    · exact hmoved
    · have hall : ∀ e ∈ upperChar d, IsHigh e := fun e he =>
        (isHigh_of_mem_upperChar he).resolve_right hmoved
      rw [← foldCase_of_isHigh hall, foldCase_upperChar, foldChar, hhigh.back]
  · obtain rfl : d = c := by rwa [hsame, List.mem_singleton] at hd
    exact hsame

/-- **A text in upper case is its own upper case.** -/
theorem upper_upper (cs : List Char) : upper (upper cs) = upper cs := by
  have hall : ∀ d ∈ upper cs, upperChar d = [d] := by
    intro d hd
    obtain ⟨c, -, hd⟩ := List.mem_flatMap.mp hd
    exact upperChar_of_mem_upperChar hd
  rw [upper, List.flatMap_congr hall, List.flatMap_singleton']

/-- A small letter of ASCII is found again when it is raised and lowered. -/
theorem lowerChars_upperChar {c : Char} (hname : isNameChar c = true) (hlow : IsLow c) :
    (upperChar c).flatMap lowerChar = [c] := by
  revert hlow
  exact forall_nameChar (p := fun c => IsLow c → (upperChar c).flatMap lowerChar = [c])
    (by decide) hname

theorem lowerChars_upper {cs : List Char} (hname : IsAsciiName cs) (hlow : AreLow cs) :
    (upper cs).flatMap lowerChar = cs := by
  have hall : ∀ c ∈ cs, (upperChar c).flatMap lowerChar = [c] := fun c hc =>
    lowerChars_upperChar (hname c hc) (hlow c hc)
  rw [upper, List.flatMap_assoc, List.flatMap_congr hall, List.flatMap_singleton']

end Text

open Text in
/-- Names in snake case in capitals are told apart by their upper cases, and so are ASCII names in
    snake case. -/
theorem NamingCase.convert_inj_of_raised {case : NamingCase} {a b : String}
    (h : case = .screamingSnake ∨
      case = .snake ∧ (case.convert a).IsAsciiName ∧ (case.convert b).IsAsciiName)
    (hraised : (case.convert a).raised = (case.convert b).raised) :
    case.convert a = case.convert b := by
  unfold String.raised String.IsAsciiName convert at *
  simp only [String.toList_ofList] at *
  have hupper := String.ofList_injective hraised
  refine congrArg String.ofList ?_
  rcases h with rfl | ⟨rfl, ha, hb⟩
  · rwa [convertChars, upper_upper, upper_upper] at hupper
  · have hlow (cs : List Char) : AreLow (convertChars .snake cs) := (toSnake_spec cs).2.2
    rw [← lowerChars_upper ha (hlow _), hupper, lowerChars_upper hb (hlow _)]

namespace Scala

open Text Outcome

/-! ## Constants -/

theorem CodedField.constant_eq_iff {e f : CodedField} :
    e.constant = f.constant ↔ e.name.raised = f.name.raised := by
  simp [CodedField.constant, fieldConstName]

/-- The fields whose descriptors are declared under a constant. -/
def declaredAs (fields : List CodedField) (constant : String) : List CodedField :=
  fields.filter (·.constant = constant)

variable {fields : List CodedField}

/-- Fields with one name are one field. -/
theorem eq_of_name_eq (h : (fields.map CodedField.name).Nodup) {e f : CodedField} (he : e ∈ fields)
    (hf : f ∈ fields) (hname : e.name = f.name) : e = f :=
  List.inj_on_of_nodup_map h he hf hname

theorem constants_nodup_iff (h : (fields.map CodedField.name).Nodup) :
    (fields.map CodedField.constant).Nodup ↔
      ∀ e ∈ fields, ∀ f ∈ fields, e.name.raised = f.name.raised → e.name = f.name := by
  rw [List.nodup_map_iff_inj_on h.of_map]
  refine forall₂_congr fun e he => forall₂_congr fun f hf => ?_
  rw [CodedField.constant_eq_iff]
  exact imp_congr_right fun _ => ⟨congrArg _, eq_of_name_eq h he hf⟩

/-- A constant stands for the descriptor of one field exactly if no other name has the upper case
    of its name. -/
theorem declaredAs_constant_iff (h : (fields.map CodedField.name).Nodup) {f : CodedField}
    (hf : f ∈ fields) :
    declaredAs fields f.constant = [f] ↔
      ∀ e ∈ fields, e.name.raised = f.name.raised → e.name = f.name := by
  have hmem (e : CodedField) :
      e ∈ declaredAs fields f.constant ↔ e ∈ fields ∧ e.name.raised = f.name.raised := by
    simp [declaredAs, CodedField.constant_eq_iff]
  constructor
  · intro hone e he hraised
    have hin := (hmem e).mpr ⟨he, hraised⟩
    rw [hone, List.mem_singleton] at hin
    rw [hin]
  · intro hall
    have hnodup : (declaredAs fields f.constant).Nodup := h.of_map.filter _
    rw [← List.perm_singleton, List.perm_ext_iff_of_nodup hnodup (List.nodup_singleton f)]
    intro e
    rw [hmem, List.mem_singleton]
    constructor
    · rintro ⟨he, hraised⟩
      exact eq_of_name_eq h he hf (hall e he hraised)
    · rintro rfl
      exact ⟨hf, rfl⟩

/-- The names of converted fields are conversions. -/
theorem exists_converted {case : NamingCase} {s₀ s : Struct} (h : s₀.normalize case = .ok s)
    (hfields : fields.map CodedField.field = s.fields) {f : CodedField} (hf : f ∈ fields) :
    ∃ name, f.name = case.convert name := by
  obtain ⟨converted, hconverted, h⟩ := bind_eq_ok.mp h
  cases h
  have hin : Json.str f.name ∈ (fields.map CodedField.name).map Json.str :=
    List.mem_map_of_mem (List.mem_map_of_mem hf)
  rw [← names_coded hfields, fieldNames_normalize hconverted] at hin
  obtain ⟨v, -, hv⟩ := List.mem_map.mp hin
  cases v with
  | str name => exact ⟨name, (Json.str.inj hv).symm⟩
  | _ => cases hv

/-- **Constants are told apart by the upper cases of names.**  If the fields of a struct have
    different names, its text declares different constants exactly if the names have different upper
    cases, and the constant that the writing of a field names stands for the descriptor of this
    field alone exactly if no other name has the upper case of its name.  After a conversion to
    snake case in capitals this is always so, and after one to snake case it is if the names are
    ASCII names. -/
theorem constants_apart_iff {g : Generator} {s : Struct} {text : String}
    (h : g.structText s = .ok text) (hd : (s.fields.map (·.name)).Nodup) :
    ∃ (struct args : String) (fields : List CodedField),
      fields.map CodedField.field = s.fields ∧
      text = structSource struct (parentType s) args fields ∧
      ((fields.map CodedField.constant).Nodup ↔
        ∀ e ∈ fields, ∀ f ∈ fields, e.name.raised = f.name.raised → e.name = f.name) ∧
      (∀ f ∈ fields, (declaredAs fields f.constant = [f] ↔
        ∀ e ∈ fields, e.name.raised = f.name.raised → e.name = f.name)) ∧
      ∀ (case : NamingCase) (s₀ : Struct), s₀.normalize case = .ok s →
        (case = .screamingSnake ∨ case = .snake ∧ ∀ f ∈ fields, f.name.IsAsciiName) →
        (fields.map CodedField.constant).Nodup := by
  obtain ⟨struct, args, fields, hfields, rfl⟩ := structText_eq_ok h
  have hnodup := names_nodup hfields hd
  refine ⟨struct, args, fields, hfields, rfl, constants_nodup_iff hnodup,
    fun f hf => declaredAs_constant_iff hnodup hf, fun case s₀ hs hcase => ?_⟩
  rw [constants_nodup_iff hnodup]
  intro e he f hf hraised
  obtain ⟨a, ha⟩ := exists_converted hs hfields he
  obtain ⟨b, hb⟩ := exists_converted hs hfields hf
  rw [ha, hb] at hraised ⊢
  refine NamingCase.convert_inj_of_raised (hcase.imp_right fun ⟨hsnake, hascii⟩ => ?_) hraised
  exact ⟨hsnake, ha ▸ hascii e he, hb ▸ hascii f hf⟩

/-- Two fields whose names differ in the case of one letter share a constant. -/
theorem userId_and_userid_share_a_constant :
    let s : Struct :=
      { name := .str "User"
        fields := [{ id := 1, name := .str "userId", type := .base .i32 },
                   { id := 2, name := .str "userid", type := .base .i32 }] }
    let g : Generator := ⟨{}, {}⟩
    (s.fields.map (·.name)).Nodup ∧
    ∃ text, g.structText s = .ok text ∧
      ∃ (struct args : String) (fields : List CodedField),
        fields.map CodedField.field = s.fields ∧
        text = structSource struct (parentType s) args fields ∧
        ¬ (fields.map CodedField.constant).Nodup ∧
        ∀ f ∈ fields, declaredAs fields f.constant ≠ [f] := by
  intro s g
  have hd : (s.fields.map (·.name)).Nodup := by simp [s]
  have hs : s.HasTextNames :=
    ⟨⟨_, rfl⟩, by simpa [s] using ⟨⟨⟨_, rfl⟩, nofun⟩, ⟨⟨_, rfl⟩, nofun⟩⟩⟩
  have hcodable : s.Codable := by simp [s, Struct.Codable]
  obtain ⟨text, htext⟩ := (g.structText_decides ⟨_, rfl⟩ hs).1 hcodable
  obtain ⟨struct, args, fields, hfields, hsource, hapart, hdeclared, -⟩ :=
    constants_apart_iff htext hd
  have hraised : "userId".raised = "userid".raised := by decide
  have hnames : fields.map CodedField.name = ["userId", "userid"] := by
    have hmap : (fields.map CodedField.name).map Json.str = ["userId", "userid"].map Json.str :=
      (names_coded hfields).symm
    exact List.map_injective_iff.mpr (fun _ _ => Json.str.inj) hmap
  have hfield {name : String} (hin : name ∈ ["userId", "userid"]) :
      ∃ f ∈ fields, f.name = name := by
    rw [← hnames] at hin
    exact List.mem_map.mp hin
  obtain ⟨e, he, hename⟩ := hfield List.mem_cons_self
  obtain ⟨f, hf, hfname⟩ := hfield (List.mem_cons_of_mem _ List.mem_cons_self)
  have hne : e.name ≠ f.name := by
    rw [hename, hfname]
    decide
  refine ⟨hd, text, htext, struct, args, fields, hfields, hsource, fun hnodup => ?_, ?_⟩
  · exact hne (hapart.mp hnodup e he f hf (by rw [hename, hfname, hraised]))
  · intro c hc hone
    have hall := (hdeclared c hc).mp hone
    have hcname : c.name ∈ ["userId", "userid"] := hnames ▸ List.mem_map_of_mem hc
    have hc : "userid".raised = c.name.raised := by
      rcases List.mem_pair.mp hcname with hcname | hcname <;> rw [hcname]
      exact hraised.symm
    have hesame := hall e he (by rw [hename, hraised, hc])
    have hfsame := hall f hf (by rw [hfname, hc])
    exact hne (hesame.trans hfsame.symm)

end Scala

end ThriftScala
