/-
  The text of an enum, written out.

  1. **An enum as code.**  `EnumCode` holds what the text of an enum says: the objects of its
     members, three look-ups, each of which compares a subject with the patterns of its arms, and
     the list of all members line by line.  `EnumCode.spelled` is how this is written; look-ups
     differ in their heads, and in the words around what they answer (`Wording`).

  2. **The code of members.**  `EnumCode.ofMembers` makes all five parts from the same members.
     Only the last of the members is told from the others, and only in the list (`markLast`).

  3. **What the fragment writes** is the spelling of that code (`evalNodes_enum`): each block goes
     over the same models, and its body is evaluated in them once.  So an enum has a text exactly
     if its name and those of its values are texts, and it is known which (`enumText_eq_ok`).
-/
import ThriftScala.Proofs.Scala.Assembly

namespace ThriftScala.Scala

open Outcome

/-! ## An enum as code -/

/-- What an arm of a match compares the subject with. -/
inductive Pattern where
  | number (n : Int)
  | text (s : String)
  /-- Anything goes. -/
  | any
  deriving DecidableEq, Repr

/-- What an arm answers with. -/
inductive Answer where
  /-- A word.  What it means depends on where it stands. -/
  | word (name : String)
  /-- There is no such member. -/
  | failure
  deriving DecidableEq, Repr

/-- An arm of a match. -/
structure Arm where
  pattern : Pattern
  answer : Answer
  deriving DecidableEq, Repr

/-- What a match looks at: the argument, or the lower case of the argument. -/
inductive Subject where
  | argument
  | lowered
  deriving DecidableEq, Repr

/-- A method that looks its argument up. -/
structure Lookup where
  subject : Subject
  arms : List Arm
  deriving DecidableEq, Repr

/-- The object of a member, with what it says of itself. -/
structure CaseObject where
  name : String
  number : Int
  label : String
  deriving DecidableEq, Repr

/-- A line of the list of members: one of them, and whether a comma follows. -/
structure ListLine where
  name : String
  comma : Bool
  deriving DecidableEq, Repr

/-- What the text of an enum says. -/
structure EnumCode where
  objects : List CaseObject
  apply : Lookup
  get : Lookup
  valueOf : Lookup
  list : List ListLine
  deriving DecidableEq, Repr

/-! ## How it is spelled -/

/-- How a pattern is written. -/
def Pattern.spelled : Pattern → String
  | .number n => toString n
  | .text s => "\"" ++ s ++ "\""
  | .any => "_"

/-- The words of a look-up for its answers: those around the name of a member, and those where
    there is none. -/
structure Wording where
  opening : String
  closing : String
  failing : String

/-- An answer in these words. -/
def Wording.spelled (w : Wording) : Answer → String
  | .word name => w.opening ++ name ++ w.closing
  | .failure => w.failing

/-- How a line of a match is written. -/
def Arm.spelled (w : Wording) (a : Arm) : String :=
  "      case " ++ a.pattern.spelled ++ " => " ++ w.spelled a.answer ++ "\n"

/-- How the beginning of a match is written. -/
def Subject.spelled : Subject → String
  | .argument => "    value match \x7b\n"
  | .lowered => "    name.toLowerCase match \x7b\n"

/-- How a method that looks a member up is written. -/
def Lookup.spelled (head : String) (w : Wording) (l : Lookup) : String :=
  head ++ l.subject.spelled
    ++ String.join (l.arms.map (Arm.spelled w))
    ++ "    \x7d\n"
    ++ "  \x7d\n"

/-- How the object of a member is written. -/
def CaseObject.spelled (owner : String) (o : CaseObject) : String :=
  "  case object " ++ o.name ++ " extends " ++ owner ++ "(" ++ toString o.number ++ ", \""
    ++ o.label ++ "\")\n"

/-- How a line of the list of all members is written. -/
def ListLine.spelled (l : ListLine) : String :=
  "    " ++ l.name ++ (if l.comma then "," else "") ++ "\n"

namespace EnumCode

/-- The look-up by number gives the member itself, or throws. -/
def applyHead (owner : String) : String := "  def apply(value: Int): " ++ owner ++ " = \x7b\n"

/-- The method that throws where there is no member. -/
def applyWording : Wording :=
  ⟨"", "", "throw new NoSuchElementException(String.valueOf(value))"⟩

/-- The others give an option. -/
def getHead (owner : String) : String :=
  "  def get(value: Int): scala.Option[" ++ owner ++ "] = \x7b\n"

/-- The first line of the method that looks names up. -/
def valueOfHead (owner : String) : String :=
  "  def valueOf(name: String): scala.Option[" ++ owner ++ "] = \x7b\n"

/-- A method that answers with an option. -/
def optionWording (qualifier : String) : Wording := ⟨"scala.Some(" ++ qualifier, ")", "scala.None"⟩

/-- The comment in front of the look-up by number. -/
def numberNote : String :=
  "  /**\n"
    ++ "   * Find the enum by its integer value, as defined in the Thrift IDL.\n"
    ++ "   * @throws NoSuchElementException if the value is not found.\n"
    ++ "   */\n"

/-- The comment in front of the look-up by name. -/
def nameNote : String :=
  "  /**\n"
    ++ "   * Find the enum by its name, ignoring case.\n"
    ++ "   */\n"

/-- The first line of an enum. -/
def opening (owner : String) : String := "object " ++ owner ++ " \x7b\n"

/-- The first lines of the list of all members. -/
def listHead (owner : String) : String :=
  "  lazy val list: List[" ++ owner ++ "] = List[" ++ owner ++ "](\n"

/-- The end of the object, and the class of its members. -/
def closing (owner : String) : String :=
  "\x7d\n"
    ++ "\n"
    ++ "abstract class " ++ owner ++ "(val value: Int, val name: String) extends ThriftEnum\n"

/-- The text of an enum called `owner`. -/
def spelled (owner : String) (c : EnumCode) : String :=
  opening owner
    ++ String.join (c.objects.map (CaseObject.spelled owner))
    ++ "\n"
    ++ numberNote
    ++ c.apply.spelled (applyHead owner) applyWording
    ++ "\n"
    ++ c.get.spelled (getHead owner) (optionWording "")
    ++ "\n"
    ++ nameNote
    ++ c.valueOf.spelled (valueOfHead owner) (optionWording (owner ++ "."))
    ++ "\n"
    ++ listHead owner
    ++ String.join (c.list.map ListLine.spelled)
    ++ "  )\n"
    ++ closing owner

end EnumCode

/-! ## The code of members -/

/-- A member of an enum. -/
structure Member where
  name : String
  number : Int
  deriving DecidableEq, Repr

/-- The value that declares a member. -/
def Member.value (m : Member) : EnumValue := ⟨.str m.name, m.number⟩

/-- The elements of a list, each with whether it is the last. -/
def markLast {α : Type} : List α → List (α × Bool)
  | [] => []
  | [a] => [(a, true)]
  | a :: b :: l => (a, false) :: markLast (b :: l)

/-- Marking the last member of a list leaves the members as they are. -/
theorem map_markLast {α β : Type} (f : α → β) : ∀ l : List α,
    (markLast l).map (fun p => f p.1) = l.map f
  | [] => rfl
  | [_] => rfl
  | a :: b :: l => by
    have ih := map_markLast f (b :: l)
    rw [markLast, List.map_cons, ih]
    rfl

/-- The last member stays the last when a list is mapped. -/
theorem markLast_map {α β : Type} (f : α → β) : ∀ l : List α,
    markLast (l.map f) = (markLast l).map fun p => (f p.1, p.2)
  | [] => rfl
  | [_] => rfl
  | a :: b :: l => by
    have ih := markLast_map f (b :: l)
    rw [List.map_cons] at ih
    rw [List.map_cons, List.map_cons, markLast, markLast, List.map_cons, ih]

/-- What is marked is a member of the list. -/
theorem mem_of_mem_markLast {α : Type} {l : List α} {p : α × Bool} (h : p ∈ markLast l) :
    p.1 ∈ l := by
  have hmem := List.mem_map_of_mem (f := fun p => id p.1) h
  rwa [map_markLast, List.map_id] at hmem

/-- Marking adds no member. -/
theorem length_markLast {α : Type} (l : List α) : (markLast l).length = l.length := by
  have hmap := congrArg List.length (map_markLast id l)
  rwa [List.length_map, List.length_map] at hmap

/-- Only the last element is marked. -/
theorem markLast_getElem {α : Type} : ∀ (l : List α) (i : Nat) (h : i < (markLast l).length),
    (markLast l)[i].2 = true ↔ i + 1 = l.length
  | [], i, h => by cases h
  | [_], i, h => by
    obtain rfl : i = 0 := Nat.lt_one_iff.mp h
    simp [markLast]
  | a :: b :: l, 0, h => by simp [markLast]
  | a :: b :: l, i + 1, h => by
    have ih := markLast_getElem (b :: l) i (Nat.lt_of_succ_lt_succ h)
    rw [List.length_cons, Nat.add_right_cancel_iff]
    exact ih

/-- An arm for each member, and one for everything else. -/
def armsOf (pattern : Member → Pattern) (members : List Member) : List Arm :=
  members.map (fun m => ⟨pattern m, .word m.name⟩) ++ [⟨.any, .failure⟩]

/-- The object of a member. -/
def Member.object (m : Member) : CaseObject := ⟨m.name, m.number, m.name⟩

/-- Different members are different values of the enum. -/
theorem Member.value_injective : Function.Injective Member.value := by
  rintro ⟨name, number⟩ ⟨other, otherNumber⟩ h
  cases h
  rfl

/-- The code of an enum with these members. -/
def EnumCode.ofMembers (members : List Member) : EnumCode where
  objects := members.map Member.object
  apply := ⟨.argument, armsOf (.number ·.number) members⟩
  get := ⟨.argument, armsOf (.number ·.number) members⟩
  valueOf := ⟨.lowered, armsOf (.text ·.name.lowered) members⟩
  list := (markLast members).map fun p => ⟨p.1.name, !p.2⟩

/-! ## What the fragment writes -/

section Evaluation

open Fragment

variable {splice : List Node → Scope → Except RenderError String}

/-- The model of an enum. -/
def enumEntries (owner : String) (members : List Member) : Model :=
  [("enum_name", .text owner),
   ("values", .sequence ((markLast members).map fun p => enumValueModel p.1.value p.1.name p.2))]

/-- The models of members are made one by one, and the last of them is marked. -/
theorem enumValueModels_eq : ∀ vs : List (EnumValue × String),
    enumValueModels vs = (markLast vs).map fun p => enumValueModel p.1.1 p.1.2 p.2
  | [] => rfl
  | [_] => rfl
  | v :: w :: vs => by
    have ih := enumValueModels_eq (w :: vs)
    rw [enumValueModels, ih, markLast, List.map_cons]
    exact nofun

variable (owner : String) (members : List Member)

/-- The scope of the fragment of an enum. -/
def enumScope : Scope := ⟨"enum", [enumEntries owner members]⟩

/-- The scope in a block for the values of an enum. -/
def memberScope (p : Member × Bool) : Scope :=
  (enumScope owner members).push (enumValueModel p.1.value p.1.name p.2)

variable {owner members}

/-- A block for the values. -/
theorem evalNodes_values (body ns : List Node) :
    evalNodes splice (.block "values" body :: ns) (enumScope owner members) =
      ((markLast members).mapM fun p => evalNodes splice body (memberScope owner members p)).bind
        fun texts => (evalNodes splice ns (enumScope owner members)).map
          (String.join texts ++ ·) := by
  refine evalNodes_block ?_ body ns
  have hpush : ((markLast members).map fun p => enumValueModel p.1.value p.1.name p.2).map
      (enumScope owner members).push = (markLast members).map (memberScope owner members) :=
    List.map_map
  rw [← hpush]
  rfl

/-- Two words that stand next to each other. -/
theorem append_append_eq {a b c : String} (h : a ++ b = c) (x : String) :
    a ++ (b ++ x) = c ++ x := by
  rw [← h, String.append_assoc]

/-- What the fragment of an enum writes. -/
theorem evalNodes_enum :
    evalNodes splice Fragments.enum.body (enumScope owner members) =
      .ok ((EnumCode.ofMembers members).spelled owner) := by
  have howner : (enumScope owner members).text "enum_name" = .ok owner := rfl
  generalize hscope : memberScope owner members = scope
  have hinner (p) : (scope p).text "enum_name" = .ok owner := hscope ▸ rfl
  have hname (p) : (scope p).text "name" = .ok p.1.name := hscope ▸ rfl
  have hlower (p) : (scope p).text "nameLowerCase" = .ok p.1.name.lowered := hscope ▸ rfl
  have hnumber (p) : (scope p).text "value" = .ok (toString p.1.number) := hscope ▸ rfl
  have hcomma (p) : evalNodes splice [.inverse "last" [.text ","], .text "\n"] (scope p) =
      .ok ((if p.2 = true then "" else ",") ++ ("\n" ++ "")) := by
    have hlast : (scope p).resolve "last" = .ok (.flag p.2) := hscope ▸ rfl
    have hbody : evalNodes splice [.text ","] (scope p) = .ok "," := rfl
    rw [evalNodes_inverse_flag hlast hbody]
    rfl
  simp only [Fragments.enum, evalNodes_text, evalNodes_scalar howner, evalNodes_values,
    evalNodes_nil, hscope, evalNodes_scalar (hinner _), evalNodes_scalar (hname _),
    evalNodes_scalar (hlower _), evalNodes_scalar (hnumber _), hcomma, map_ok, mapM_ok, Except.bind]
  refine congrArg Except.ok ?_
  -- what is written for every member alike is written for the members without their marks
  have hmarks {β : Type} (f : Member → β) :
    members.map f = (markLast members).map fun p => f p.1 := (map_markLast f members).symm
  have hnot (p : Member × Bool) : (if (!p.2) = true then "," else "") =
      if p.2 = true then "" else "," := by
    cases p.2 <;> rfl
  -- the words of an arm stand apart in the code and together in the fragment
  have hthrow : Arm.spelled EnumCode.applyWording ⟨.any, .failure⟩ =
    "      case _ => throw new NoSuchElementException(String.valueOf(value))\n" := rfl
  have hnone (qualifier : String) :
    Arm.spelled (EnumCode.optionWording qualifier) ⟨.any, .failure⟩ =
      "      case _ => scala.None\n" := rfl
  have hcase (x : String) : "      case " ++ ("\"" ++ x) = "      case \"" ++ x :=
    append_append_eq rfl x
  have hsome (x : String) : " => " ++ ("scala.Some(" ++ x) = " => scala.Some(" ++ x :=
    append_append_eq rfl x
  have htext (x : String) : "\"" ++ (" => scala.Some(" ++ x) = "\" => scala.Some(" ++ x :=
    append_append_eq rfl x
  have hclose : ")" ++ "\n" = ")\n" := rfl
  unfold EnumCode.spelled Lookup.spelled
  simp only [EnumCode.ofMembers, armsOf, hmarks, List.map_append, List.map_map, List.map_cons,
    List.map_nil, String.join_append, String.join_cons, String.join_nil, Function.comp_def, hthrow,
    hnone]
  unfold EnumCode.opening EnumCode.applyHead EnumCode.getHead EnumCode.valueOfHead
    EnumCode.listHead EnumCode.closing EnumCode.applyWording EnumCode.optionWording
    EnumCode.numberNote EnumCode.nameNote Arm.spelled CaseObject.spelled ListLine.spelled
    Member.object
  simp only [Pattern.spelled, Wording.spelled, Subject.spelled, hcase, hsome, htext, hclose, hnot,
    String.append_assoc, String.append_empty, String.empty_append]

end Evaluation

/-! ## Enums that have a text -/

/-- Values whose names are texts are the values of members. -/
theorem exists_members {values : List EnumValue} {names : List String}
    (h : values.mapM (fun v => used (v.name.textOr .noOperation)) = .ok names) :
    ∃ members : List Member,
      values = members.map Member.value ∧ names = members.map Member.name := by
  induction mapM_eq_ok.mp h with
  | nil => exact ⟨[], rfl, rfl⟩
  | @cons v name values names hname hrest ih =>
    obtain ⟨members, rfl, rfl⟩ := ih (mapM_eq_ok.mpr hrest)
    refine ⟨⟨name, v.number⟩ :: members, ?_, rfl⟩
    rw [used_eq_ok] at hname
    obtain ⟨json, number⟩ := v
    cases json <;> cases hname
    rfl

/-- The values of members, with their names. -/
theorem enumValueModels_members (members : List Member) :
    enumValueModels ((members.map Member.value).zip (members.map Member.name)) =
      (markLast members).map fun p => enumValueModel p.1.value p.1.name p.2 := by
  rw [List.zip_map', enumValueModels_eq, markLast_map, List.map_map]
  rfl

/-- **The text of an enum, written out.**  It has one exactly if its name and the names of its
    values are texts. -/
theorem enumText_eq_ok {e : EnumDef} {text : String} :
    Generator.enumText e = .ok text ↔ ∃ owner members, e.name = .str owner ∧
      e.values = members.map Member.value ∧ text = (EnumCode.ofMembers members).spelled owner := by
  have hrender (owner : String) (members : List Member) :
      Fragments.enum.render (enumEntries owner members) =
        .ok ((EnumCode.ofMembers members).spelled owner) := by
    rw [Fragment.render, Fragment.evalWithin_eq]
    exact evalNodes_enum
  constructor
  · intro h
    obtain ⟨entries, hentries, h⟩ := bind_eq_ok.mp h
    obtain ⟨names, hnames, hentries⟩ := bind_eq_ok.mp hentries
    obtain ⟨name, hname, hentries⟩ := bind_eq_ok.mp hentries
    cases hentries
    obtain ⟨members, hvalues, rfl⟩ := exists_members hnames
    rw [hvalues, enumValueModels_members] at h
    rw [filled_eq_ok] at h
    -- the first tag is the name of the enum
    have hfirst := h
    rw [Fragment.render, Fragment.evalWithin_eq] at hfirst
    obtain ⟨first, hfirst⟩ := Fragment.exists_of_mem_nodes hfirst (.scalar "enum_name")
      (List.mem_of_getElem? (i := 1) rfl)
    obtain ⟨hbound⟩ | ⟨hbound, -⟩ := Fragment.text_eq_ok.mp hfirst
    swap
    · cases hbound
    cases hbound
    exact ⟨first, members, offered_eq_text.mp hname, hvalues,
      Except.ok.inj (h.symm.trans (hrender first members))⟩
  · rintro ⟨owner, members, hname, hvalues, rfl⟩
    have hnames : (members.map Member.value).mapM (fun v => used (v.name.textOr .noOperation)) =
        .ok (members.map Member.name) := by
      rw [List.mapM_map]
      exact mapM_ok Member.name members
    have hmodel : enumModel e = .ok (enumEntries owner members) := by
      rw [enumModel, hvalues, hnames, ok_bind, enumValueModels_members, hname, offered_str, ok_bind]
      rfl
    rw [Generator.enumText, hmodel, ok_bind, filled_eq_ok]
    exact hrender owner members

end ThriftScala.Scala
