/-
  The text of an enum, read.

  1. **The readers** take the text of an enum apart into the code that it says, one reader for each
     part.  All they are told is the name of the enum.  An arm is read by what it looks like: the
     patterns begin differently, and a name is told from a failure by the words around it.  What a
     name means is not asked here: that depends on the method in which it stands (`EnumScope`).

  2. **What is spelled is read** (`read_spelled`), as long as names are identifiers and nothing in a
     literal ends it (`EnumCode.Legible`).  Part by part, each reader takes what its part writes.
     Where there is a choice, what is not meant is refused at the first character that differs; how
     far that is can be computed, up to the name of an enum, which stands further behind.
-/
import ThriftScala.Proofs.Scala.EnumText
import ThriftScala.Proofs.Text.Reading

namespace ThriftScala.Scala

open Text

/-! ## The readers -/

/-- Does the character stand for itself in a literal? -/
def isPlain (c : Char) : Bool := c != '"' && c != '\\' && c != '\n'

/-- A pattern, with the arrow behind it. -/
def Pattern.reader : Reader Pattern :=
  (expect "_ => " >>= fun _ => pure .any)
    <|> (expect "\"" >>= fun _ => Pattern.text <$> upTo isPlain "\" => ")
    <|> (Pattern.number <$> Text.number " => ")

/-- A word between those of the look-up, up to the end of the line. -/
def Wording.wordReader (w : Wording) : Reader Answer :=
  expect w.opening >>= fun _ => Answer.word <$> Text.word (w.closing ++ "\n")

/-- An answer, up to the end of the line. -/
def Wording.reader (w : Wording) : Reader Answer :=
  w.wordReader <|> (expect (w.failing ++ "\n") >>= fun _ => pure .failure)

/-- Reads a line of a match. -/
def Arm.reader (w : Wording) : Reader Arm := do
  expect "      case "
  let pattern ← Pattern.reader
  let answer ← w.reader
  pure ⟨pattern, answer⟩

/-- Reads the beginning of a match. -/
def Subject.reader : Reader Subject :=
  (expect "    value match \x7b\n" >>= fun _ => pure .argument)
    <|> (expect "    name.toLowerCase match \x7b\n" >>= fun _ => pure .lowered)

/-- Reads a method that looks a member up. -/
def Lookup.reader (head : String) (w : Wording) : Reader Lookup := do
  expect head
  let subject ← Subject.reader
  let arms ← itemsUntil "    \x7d\n" (Arm.reader w)
  expect "  \x7d\n"
  pure ⟨subject, arms⟩

/-- Reads the object of a member. -/
def CaseObject.reader (owner : String) : Reader CaseObject := do
  expect "  case object "
  let name ← Text.word " extends "
  expect (owner ++ "(")
  let number ← Text.number ", \""
  let label ← upTo isPlain "\")\n"
  pure ⟨name, number, label⟩

/-- Reads a line of the list of all members. -/
def ListLine.reader : Reader ListLine :=
  expect "    " >>= fun _ =>
    ((⟨·, true⟩) <$> Text.word ",\n") <|> ((⟨·, false⟩) <$> Text.word "\n")

namespace EnumCode

/-- Reads an enum. -/
def reader (owner : String) : Reader EnumCode := do
  expect (opening owner)
  let objects ← itemsUntil "\n" (CaseObject.reader owner)
  expect numberNote
  let apply ← Lookup.reader (applyHead owner) applyWording
  expect "\n"
  let get ← Lookup.reader (getHead owner) (optionWording "")
  expect "\n"
  expect nameNote
  let valueOf ← Lookup.reader (valueOfHead owner) (optionWording (owner ++ "."))
  expect "\n"
  expect (listHead owner)
  let list ← itemsUntil "  )\n" ListLine.reader
  expect (closing owner)
  pure ⟨objects, apply, get, valueOf, list⟩

/-- What the text of an enum with this name says, if it is one. -/
def read (owner text : String) : Option EnumCode :=
  match reader owner text.toList with
  | some (code, []) => some code
  | _ => none

end EnumCode

/-! ## What is spelled is read -/

/-- What is compared with a text can stand in a literal. -/
def Pattern.Legible : Pattern → Prop
  | .text s => ∀ c ∈ s.toList, isPlain c = true
  | _ => True

/-- What is answered has a name. -/
def Answer.Legible : Answer → Prop
  | .word name => isWord name.toList = true
  | .failure => True

/-- Can the line be read back? -/
structure Arm.Legible (a : Arm) : Prop where
  pattern : a.pattern.Legible
  answer : a.answer.Legible

/-- Can the object be read back? -/
structure CaseObject.Legible (o : CaseObject) : Prop where
  name : isWord o.name.toList = true
  label : ∀ c ∈ o.label.toList, isPlain c = true

/-- Names are identifiers, and nothing in a literal ends it. -/
structure EnumCode.Legible (c : EnumCode) : Prop where
  objects : ∀ o ∈ c.objects, o.Legible
  apply : ∀ a ∈ c.apply.arms, a.Legible
  get : ∀ a ∈ c.get.arms, a.Legible
  valueOf : ∀ a ∈ c.valueOf.arms, a.Legible
  list : ∀ l ∈ c.list, isWord l.name.toList = true

/-- A pattern is read up to its arrow. -/
theorem Pattern.reader_consumes {p : Pattern} (h : p.Legible) :
    Consumes Pattern.reader (p.spelled ++ " => ") p := by
  cases p with
  | any => exact ((consumes_expect "_ => ").last fun _ => Pattern.any).first _
  | text s =>
    have hstop : Ends isPlain "\" => " := ⟨_, _, rfl, rfl⟩
    have hother : Refuses (expect "_ => ") "\"" := fun _ => rfl
    rw [Pattern.spelled, String.append_assoc, String.append_assoc]
    refine .or ((hother.append _).bind _) (.first ?_ _)
    exact (consumes_expect "\"").bind ((consumes_upTo h hstop).map Pattern.text)
  | number n =>
    rw [Pattern.spelled]
    -- a digit or a minus sign is neither a low line nor a quote
    refine .or (((refuses_toString n ⟨_, _, rfl, rfl⟩).append _).bind _) ?_
    refine .or (((refuses_toString n ⟨_, _, rfl, rfl⟩).append _).bind _) ?_
    exact (consumes_number n ⟨_, _, rfl, rfl⟩).map Pattern.number

/-- The words of a look-up tell a failure from a name: where it fails, no name is read. -/
def Wording.Apart (w : Wording) : Prop := Refuses w.wordReader (w.failing ++ "\n")

/-- What the method throws is not taken for an answer. -/
theorem applyWording_apart : EnumCode.applyWording.Apart := fun _ => rfl

/-- No option is not taken for some option. -/
theorem optionWording_apart (qualifier : String) : (EnumCode.optionWording qualifier).Apart := by
  -- the qualifier is not known, but the texts differ in front of it
  have hsome : Refuses (expect "scala.Some(") ("scala.None" ++ "\n") := fun _ => rfl
  exact (refuses_expect_append hsome qualifier).bind _

/-- An answer is read up to the end of its line. -/
theorem Wording.reader_consumes {w : Wording} (hw : w.Apart)
    (hstop : Ends isWordChar (w.closing ++ "\n")) {a : Answer} (h : a.Legible) :
    Consumes w.reader (w.spelled a ++ "\n") a := by
  cases a with
  | word name =>
    have hname := (consumes_word h hstop).map Answer.word
    rw [Wording.spelled, String.append_assoc, String.append_assoc]
    exact ((consumes_expect w.opening).bind hname).first _
  | failure =>
    exact .or hw ((consumes_expect (w.failing ++ "\n")).last fun _ => Answer.failure)

/-- A line of a match is read back. -/
theorem Arm.reader_consumes {w : Wording} (hw : w.Apart)
    (hstop : Ends isWordChar (w.closing ++ "\n")) {a : Arm} (h : a.Legible) :
    Consumes (Arm.reader w) (a.spelled w) a := by
  have hpattern := Pattern.reader_consumes h.pattern
  have hanswer := Wording.reader_consumes hw hstop h.answer
  have hchain : Consumes (Arm.reader w)
      ("      case " ++ (a.pattern.spelled ++ " => " ++ (w.spelled a.answer ++ "\n"))) a :=
    (consumes_expect "      case ").bind (hpattern.bind (hanswer.last _))
  simpa only [Arm.spelled, String.append_assoc] using hchain

/-- The beginning of a match is read back. -/
theorem Subject.reader_consumes : ∀ s : Subject, Consumes Subject.reader s.spelled s
  | .argument => ((consumes_expect "    value match \x7b\n").last fun _ => Subject.argument).first _
  | .lowered =>
    .or (Refuses.bind (fun _ => rfl) _)
      ((consumes_expect "    name.toLowerCase match \x7b\n").last fun _ => Subject.lowered)

/-- A method is read back, line by line. -/
theorem Lookup.reader_consumes (head : String) {w : Wording} (hw : w.Apart)
    (hstop : Ends isWordChar (w.closing ++ "\n")) {l : Lookup} (h : ∀ a ∈ l.arms, a.Legible) :
    Consumes (Lookup.reader head w) (l.spelled head w) l := by
  have hcase : Refuses (expect "    \x7d\n") "      case " := fun _ => rfl
  have harms : Consumes (itemsUntil "    \x7d\n" (Arm.reader w))
      (String.join (l.arms.map (Arm.spelled w)) ++ "    \x7d\n") l.arms := by
    refine consumes_itemsUntil (fun a ha => Arm.reader_consumes hw hstop (h a ha)) fun a _ => ?_
    simpa only [Arm.spelled, String.append_assoc] using hcase.append _
  have hsubject := l.subject.reader_consumes
  have hchain : Consumes (Lookup.reader head w) (head ++ (l.subject.spelled ++
      (String.join (l.arms.map (Arm.spelled w)) ++ "    \x7d\n" ++ "  \x7d\n"))) l :=
    (consumes_expect head).bind (hsubject.bind (harms.bind ((consumes_expect _).last _)))
  simpa only [Lookup.spelled, String.append_assoc] using hchain

/-- The object of a member is read back. -/
theorem CaseObject.reader_consumes (owner : String) {o : CaseObject} (h : o.Legible) :
    Consumes (CaseObject.reader owner) (o.spelled owner) o := by
  have hname : Consumes (Text.word " extends ") (o.name ++ " extends ") o.name :=
    consumes_word h.name ⟨_, _, rfl, rfl⟩
  have hnumber : Consumes (Text.number ", \"") (toString o.number ++ ", \"") o.number :=
    consumes_number o.number ⟨_, _, rfl, rfl⟩
  have hlabel : Consumes (upTo isPlain "\")\n") (o.label ++ "\")\n") o.label :=
    consumes_upTo h.label ⟨_, _, rfl, rfl⟩
  have hchain : Consumes (CaseObject.reader owner) ("  case object " ++ (o.name ++ " extends " ++
      (owner ++ "(" ++ (toString o.number ++ ", \"" ++ (o.label ++ "\")\n"))))) o :=
    (consumes_expect _).bind (hname.bind ((consumes_expect _).bind (hnumber.bind (hlabel.last _))))
  unfold CaseObject.spelled
  simpa only [String.append_assoc] using hchain

/-- A line of the list is read back, with or without a comma. -/
theorem ListLine.reader_consumes {l : ListLine} (h : isWord l.name.toList = true) :
    Consumes ListLine.reader l.spelled l := by
  obtain ⟨name, comma⟩ := l
  have hplain := isWordChar_of_isWord h
  unfold ListLine.spelled
  rw [String.append_assoc, String.append_assoc]
  refine (consumes_expect "    ").bind ?_
  cases comma with
  | true => exact ((consumes_word h ⟨_, _, rfl, rfl⟩).map (ListLine.mk · true)).first _
  | false =>
    -- behind the name the line ends, and no comma stands there
    have hcomma : Refuses (Text.word ",\n") (name ++ "\n") :=
      (refuses_upTo hplain ⟨_, _, rfl, rfl⟩ fun _ => rfl).bind _
    exact .or (hcomma.map _) ((consumes_word h ⟨_, _, rfl, rfl⟩).map (ListLine.mk · false))

/-- Two commas are no line of the list. -/
example : ListLine.reader "    RED,,\n".toList = none := rfl

namespace EnumCode

/-- **What is spelled is read.** -/
theorem reader_consumes (owner : String) {c : EnumCode} (h : c.Legible) :
    Consumes (reader owner) (c.spelled owner) c := by
  have hplain : Ends isWordChar (")" ++ "\n") := ⟨_, _, rfl, rfl⟩
  have hobjects : Consumes (itemsUntil "\n" (CaseObject.reader owner))
      (String.join (c.objects.map (CaseObject.spelled owner)) ++ "\n") c.objects := by
    have hitem : ∀ o ∈ c.objects, Consumes (CaseObject.reader owner) (o.spelled owner) o :=
      fun o ho => CaseObject.reader_consumes owner (h.objects o ho)
    refine consumes_itemsUntil hitem fun o _ => ?_
    have hcase : Refuses (expect "\n") "  case object " := fun _ => rfl
    unfold CaseObject.spelled
    simpa only [String.append_assoc] using hcase.append _
  have happly := Lookup.reader_consumes (applyHead owner) applyWording_apart ⟨_, _, rfl, rfl⟩
    h.apply
  have hget := Lookup.reader_consumes (getHead owner) (optionWording_apart "") hplain h.get
  have hvalueOf := Lookup.reader_consumes (valueOfHead owner) (optionWording_apart (owner ++ "."))
    hplain h.valueOf
  have hlist : Consumes (itemsUntil "  )\n" ListLine.reader)
      (String.join (c.list.map ListLine.spelled) ++ "  )\n") c.list := by
    refine consumes_itemsUntil (fun l hl => ListLine.reader_consumes (h.list l hl)) fun l _ => ?_
    have hblank : Refuses (expect "  )\n") "    " := fun _ => rfl
    unfold ListLine.spelled
    simpa only [String.append_assoc] using hblank.append _
  have hchain : Consumes (reader owner) (opening owner ++
      (String.join (c.objects.map (CaseObject.spelled owner)) ++ "\n" ++
      (numberNote ++ (c.apply.spelled (applyHead owner) applyWording ++ ("\n" ++
      (c.get.spelled (getHead owner) (optionWording "") ++ ("\n" ++ (nameNote ++
      (c.valueOf.spelled (valueOfHead owner) (optionWording (owner ++ ".")) ++ ("\n" ++
      (listHead owner ++ (String.join (c.list.map ListLine.spelled) ++ "  )\n" ++
      closing owner)))))))))))) c :=
    (consumes_expect _).bind <| hobjects.bind <|
      (consumes_expect _).bind <| happly.bind <|
      (consumes_expect _).bind <| hget.bind <|
      (consumes_expect _).bind <| (consumes_expect _).bind <| hvalueOf.bind <|
      (consumes_expect _).bind <| (consumes_expect _).bind <| hlist.bind <|
      (consumes_expect _).last _
  unfold spelled
  simpa only [String.append_assoc] using hchain

/-- The text of an enum is read as the code that it spells. -/
theorem read_spelled (owner : String) {c : EnumCode} (h : c.Legible) :
    read owner (c.spelled owner) = some c := by
  have hread := reader_consumes owner h []
  rw [List.append_nil] at hread
  rw [read, hread]

end EnumCode

end ThriftScala.Scala
