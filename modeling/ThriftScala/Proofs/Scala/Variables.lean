/-
  The variables of a codec, and code that knows which of them it means.

  1. **Variables.**  The methods of a codec introduce variables of a few kinds, each with a text
     that is made from the name of a field or from a level (`Variable.text`).  What a text ends with
     tells the kinds apart, and a text gives its variable back (`ofText_text`); so different
     variables have different texts.

  2. **Code** is a text in which the occurrences of variables and the scopes of their declarations
     are marked, and the words that stand for something else, such as the name of a type.  It is
     hygienic if two things hold.  Along every path of scopes no text is declared twice, and the
     text of every occurrence stands for the variable that is meant (`Code.Apart`).  No variable in
     scope has the text of a word that stands for something else (`Code.Uncaptured`).

  3. **Values.**  The expression that reads a value is code (`Code.print_read`), and so are the
     statements that write one (`Code.print_write`).  A level introduces variables of that level
     only; where all variables around it are of lower levels they are new (`IsAround.declare`).  So
     by induction on the type the variables of both are apart, at any level.  Writing names no
     types.  Reading does, and a name in a type is captured exactly if a variable around it has its
     text, those of the containers on the way included (`read_uncaptured_iff`).
-/
import Mathlib.Data.List.Nodup
import Mathlib.Data.List.SplitBy
import ThriftScala.Proofs.Json.Tokens
import ThriftScala.Proofs.Outcome
import ThriftScala.Scala.Codec
import ThriftScala.Text.Ident

namespace ThriftScala.Scala

open Outcome

/-! ## Variables -/

/-- The containers that are read and written element by element. -/
inductive Container where
  | list
  | set
  | map
  deriving DecidableEq, Repr

namespace Container

/-- What the methods of the protocol call it. -/
def kind : Container → String
  | .list => "List"
  | .set => "Set"
  | .map => "Map"

/-- What the variable for its head is called. -/
def header : Container → String
  | .list => "_list"
  | .set => "_set"
  | .map => "_map"

/-- The conversion that makes it. -/
def convert : Container → String
  | .list => "toList"
  | .set => "toSet"
  | .map => "toMap"

end Container

/-- A variable that a method of a codec introduces. -/
inductive Variable where
  /-- The protocol that is read from. -/
  | input
  /-- The protocol that is written to. -/
  | output
  /-- Has the end of the struct been read? -/
  | done
  /-- The head of the field that is being read. -/
  | field
  /-- The value of a field, as far as it was read. -/
  | value (name : String)
  /-- Was a value of the field read? -/
  | flag (name : String)
  /-- The value of a field that is being written. -/
  | item (name : String)
  /-- The head of a container that is being read. -/
  | header (c : Container) (level : Nat)
  /-- The container that was read. -/
  | result (level : Nat)
  /-- An element of a list or a set that is being written. -/
  | element (level : Nat)
  /-- A key of a map that is being written. -/
  | key (level : Nat)
  /-- What belongs to the key. -/
  | entry (level : Nat)
  deriving DecidableEq, Repr

namespace Variable

/-- The text of a variable. -/
def text : Variable → String
  | input => "_iprot"
  | output => "_oprot"
  | done => "_done"
  | field => "_field"
  | value name => name ++ "_"
  | flag name => name ++ "_isSet"
  | item name => name ++ "_item"
  | header c level => c.header ++ toString level
  | result level => "_rv" ++ toString level
  | element level => "_e" ++ toString level
  | key level => "_k" ++ toString level
  | entry level => "_v" ++ toString level

/-- The level of a variable, if it is one of a container. -/
def level? : Variable → Option Nat
  | header _ level | result level | element level | key level | entry level => some level
  | _ => none

/-- The variable of a level whose text begins so. -/
def numbered (begin : String) (level : Nat) : Variable :=
  if begin = "_list" then header .list level
  else if begin = "_set" then header .set level
  else if begin = "_map" then header .map level
  else if begin = "_rv" then result level
  else if begin = "_e" then element level
  else if begin = "_k" then key level
  else entry level

/-- The variable of no level that has the text, which is given from its end. -/
def ofReversed : List Char → Variable
  | '_' :: r => value (.ofList r.reverse)
  | 't' :: 'e' :: 'S' :: 's' :: 'i' :: '_' :: r => flag (.ofList r.reverse)
  | 'm' :: 'e' :: 't' :: 'i' :: '_' :: r => item (.ofList r.reverse)
  | r =>
    if r = "_iprot".toList.reverse then input
    else if r = "_oprot".toList.reverse then output
    else if r = "_done".toList.reverse then done
    else field

/-- The variable that has the text.  It is one of a level if the text ends with digits. -/
def ofText (s : String) : Variable :=
  let r := s.toList.reverse
  let digits := r.takeWhile Char.isDigit
  if digits = [] then ofReversed r
  else numbered (.ofList (r.dropWhile Char.isDigit).reverse) (Json.digitsValue digits.reverse)

/-- The level is read back from the digits at the end. -/
theorem ofText_numbered {begin : String} {c : Char} {cs : List Char}
    (hbegin : begin.toList.reverse = c :: cs) (hc : c.isDigit = false) (level : Nat) :
    ofText (begin ++ toString level) = numbered begin level := by
  have hall : ∀ d ∈ (Nat.toDigits 10 level).reverse, d.isDigit := fun d hd =>
    Json.isDigit_of_mem_toDigits (List.mem_reverse.mp hd)
  have hback : (c :: cs).reverse = begin.toList := by rw [← hbegin, List.reverse_reverse]
  have htake : (c :: cs).takeWhile Char.isDigit = [] := by simp [hc]
  have hdrop : (c :: cs).dropWhile Char.isDigit = c :: cs := by simp [hc]
  have hne : (Nat.toDigits 10 level).reverse ≠ [] := by simp [Nat.toDigits_ne_nil]
  simp only [ofText, String.toList_append, Nat.toString_eq_ofList_toDigits, String.toList_ofList,
    List.reverse_append, hbegin, List.takeWhile_append_of_pos hall,
    List.dropWhile_append_of_pos hall, htake, hdrop, List.append_nil, if_neg hne, hback,
    String.ofList_toList, List.reverse_reverse, Json.digitsValue_toDigits]

/-- **A text gives its variable back.** -/
theorem ofText_text (x : Variable) : ofText x.text = x := by
  cases x with
  | value name => simp [ofText, ofReversed, text]
  | flag name => simp [ofText, ofReversed, text]
  | item name => simp [ofText, ofReversed, text]
  | header c level => cases c <;> exact ofText_numbered rfl rfl level
  | result level => exact ofText_numbered rfl rfl level
  | element level => exact ofText_numbered rfl rfl level
  | key level => exact ofText_numbered rfl rfl level
  | entry level => exact ofText_numbered rfl rfl level
  | _ => rfl

/-- Different variables have different texts. -/
theorem text_injective : Function.Injective text :=
  Function.LeftInverse.injective ofText_text

end Variable

/-! ## Code -/

/-- A text in which occurrences of variables, other words and scopes of declarations are marked. -/
inductive Code where
  /-- A text that may hold only words that are the text of no variable at all. -/
  | text (s : String)
  /-- An occurrence of a variable, also where it is declared. -/
  | name (x : Variable)
  /-- A word that stands for something else than a variable: the companion of a type, or a member of
      the class around the method. -/
  | free (word : String)
  | append (a b : Code)
  /-- A piece of code in which variables are declared; nothing outside can mean them. -/
  | scope (declared : List Variable) (body : Code)
  deriving Repr

namespace Code

instance : Coe String Code := ⟨text⟩

instance : Append Code := ⟨append⟩

/-- Pieces of code one after the other. -/
def join : List Code → Code
  | [] => ""
  | c :: cs => c ++ join cs

/-- Pieces of code with a text between neighbours. -/
def joinedBy (sep : String) : List Code → Code
  | [] => ""
  | [c] => c
  | c :: d :: cs => c ++ sep ++ joinedBy sep (d :: cs)

/-- The text of a piece of code. -/
def print : Code → String
  | text s => s
  | name x => x.text
  | free word => word
  | append a b => a.print ++ b.print
  | scope _ body => body.print

/-! These equations hold by definition, but they are not proved by `rfl`.  So simp keeps a proof of
each step, and a long text is not unfolded a second time when the whole is checked. -/

@[simp] theorem print_text (s : String) : (text s).print = s := by rw [print]

@[simp] theorem print_name (x : Variable) : (name x).print = x.text := by rw [print]

@[simp] theorem print_free (word : String) : (free word).print = word := by rw [print]

@[simp] theorem print_append (a b : Code) : (a ++ b).print = a.print ++ b.print := by
  change (append a b).print = _
  rw [print]

@[simp] theorem print_scope (declared : List Variable) (body : Code) :
    (scope declared body).print = body.print := by rw [print]

/-- Pieces are printed one after the other. -/
@[simp] theorem print_join (cs : List Code) : (join cs).print = String.join (cs.map print) := by
  induction cs with
  | nil => rfl
  | cons c cs ih => simp [join, ih, String.join_cons]

/-- Pieces are printed with the text between them. -/
@[simp] theorem print_joinedBy (sep : String) (cs : List Code) :
    (joinedBy sep cs).print = String.joinedBy sep (cs.map print) := by
  induction cs with
  | nil => rfl
  | cons c cs ih =>
    cases cs with
    | nil => rfl
    | cons d cs => simp [joinedBy, String.joinedBy, ih]

/-- The variable that a text stands for, if those in scope are given from the innermost out. -/
def resolve (scope : List Variable) (s : String) : Option Variable := scope.find? (·.text = s)

/-- Among the variables around it, the variables of the code are apart: where it declares some, all
    that are then in scope have different texts, so that none hides another; and the text of each
    occurrence stands for the variable that is meant. -/
def Apart (outer : List Variable) : Code → Prop
  | text _ => True
  | name x => resolve outer x.text = some x
  | free _ => True
  | append a b => a.Apart outer ∧ b.Apart outer
  | scope declared body =>
    ((declared ++ outer).map Variable.text).Nodup ∧ body.Apart (declared ++ outer)

/-- No variable in scope has the text of a word that stands for something else. -/
def Uncaptured (outer : List Variable) : Code → Prop
  | text _ => True
  | name _ => True
  | free word => resolve outer word = none
  | append a b => a.Uncaptured outer ∧ b.Uncaptured outer
  | scope declared body => body.Uncaptured (declared ++ outer)

/-- Every word of the code stands for what is meant. -/
structure Hygienic (outer : List Variable) (c : Code) : Prop where
  apart : c.Apart outer
  uncaptured : c.Uncaptured outer

section Hygiene

variable {outer : List Variable}

@[simp] theorem apart_text (s : String) : (text s).Apart outer := trivial

/-- Since different variables have different texts, all that are in scope can be meant. -/
@[simp] theorem apart_name {x : Variable} : (name x).Apart outer ↔ x ∈ outer := by
  simp only [Apart, resolve, Variable.text_injective.eq_iff]
  constructor
  · exact List.mem_of_find?_eq_some
  · intro hx
    cases hfind : outer.find? (· = x) with
    | none =>
      have hall := List.find?_eq_none.mp hfind x hx
      simp at hall
    | some y =>
      have hy := List.find?_some hfind
      rw [of_decide_eq_true hy]

@[simp] theorem apart_free (word : String) : (free word).Apart outer := trivial

/-- Variables are apart in a piece of code if they are in both parts. -/
@[simp] theorem apart_append {a b : Code} :
    (a ++ b).Apart outer ↔ a.Apart outer ∧ b.Apart outer := Iff.rfl

/-- What a scope declares has to be new, and its body may use it. -/
@[simp] theorem apart_scope {declared : List Variable} {body : Code} :
    (scope declared body).Apart outer ↔
      (declared ++ outer).Nodup ∧ body.Apart (declared ++ outer) := by
  simp only [Apart, List.nodup_map_iff Variable.text_injective]

/-- Variables are apart in pieces in a row if they are in each of them. -/
@[simp] theorem apart_join {cs : List Code} :
    (join cs).Apart outer ↔ ∀ c ∈ cs, c.Apart outer := by
  induction cs with
  | nil => simp [join]
  | cons c cs ih => simp [join, ih]

/-- Texts between the pieces use no variables. -/
@[simp] theorem apart_joinedBy {sep : String} {cs : List Code} :
    (joinedBy sep cs).Apart outer ↔ ∀ c ∈ cs, c.Apart outer := by
  induction cs with
  | nil => simp [joinedBy]
  | cons c cs ih =>
    cases cs with
    | nil => simp [joinedBy]
    | cons d cs => simp [joinedBy, ih]

@[simp] theorem uncaptured_text (s : String) : (text s).Uncaptured outer := trivial

@[simp] theorem uncaptured_name (x : Variable) : (name x).Uncaptured outer := trivial

/-- A free word is captured by a variable around it with the same text. -/
@[simp] theorem uncaptured_free {word : String} :
    (free word).Uncaptured outer ↔ ∀ x ∈ outer, x.text ≠ word := by
  simp [Uncaptured, resolve]

/-- A piece of code is not captured if neither part is. -/
@[simp] theorem uncaptured_append {a b : Code} :
    (a ++ b).Uncaptured outer ↔ a.Uncaptured outer ∧ b.Uncaptured outer := Iff.rfl

/-- What a scope declares may capture words of its body. -/
@[simp] theorem uncaptured_scope {declared : List Variable} {body : Code} :
    (scope declared body).Uncaptured outer ↔ body.Uncaptured (declared ++ outer) := Iff.rfl

/-- Pieces in a row are not captured if none of them is. -/
@[simp] theorem uncaptured_join {cs : List Code} :
    (join cs).Uncaptured outer ↔ ∀ c ∈ cs, c.Uncaptured outer := by
  induction cs with
  | nil => simp [join]
  | cons c cs ih => simp [join, ih]

/-- Texts between the pieces have no words to be captured. -/
@[simp] theorem uncaptured_joinedBy {sep : String} {cs : List Code} :
    (joinedBy sep cs).Uncaptured outer ↔ ∀ c ∈ cs, c.Uncaptured outer := by
  induction cs with
  | nil => simp [joinedBy]
  | cons c cs ih =>
    cases cs with
    | nil => simp [joinedBy]
    | cons d cs => simp [joinedBy, ih]

end Hygiene

/-! ## Paths -/

/-- The first word of a path such as `a.b`. -/
def headWord (path : String) : String := .ofList (path.toList.takeWhile (· != '.'))

/-- A path.  Only its first word is looked up; what follows a dot is a member of what is in front. -/
def path (s : String) : Code := free (headWord s) ++ text (.ofList (s.toList.dropWhile (· != '.')))

/-- Marking its first word leaves a path as it is. -/
@[simp] theorem print_path (s : String) : (path s).print = s := by
  rw [path, print_append, print_free, print_text, headWord, ← String.ofList_append,
    List.takeWhile_append_dropWhile, String.ofList_toList]

/-- The first word of a text is no longer than the text. -/
theorem length_headWord_le (s : String) : (headWord s).length ≤ s.length := by
  rw [headWord, String.length_ofList, ← String.length_toList]
  exact (List.takeWhile_prefix _).length_le

section Path

variable {outer : List Variable} {s : String}

@[simp] theorem apart_path : (path s).Apart outer := ⟨trivial, trivial⟩

/-- Only the first word of a path can be captured. -/
@[simp] theorem uncaptured_path :
    (path s).Uncaptured outer ↔ ∀ x ∈ outer, x.text ≠ headWord s := by
  simp [path]

end Path

/-! ## Fixed texts -/

/-- The variable of a method itself, of no field and no level, that a word stands for. -/
def methodVariable? (word : List Char) : Option Variable :=
  [Variable.input, .output, .done, .field].find? (·.text.toList = word)

/-- A text cut where words begin and where they end. -/
def words (s : String) : List (List Char) :=
  s.toList.splitBy fun c d => Text.isWordChar c == Text.isWordChar d

/-- A fixed text, in which every word that is a variable of the method is marked. -/
def marked (s : String) : Code :=
  join ((words s).map fun w =>
    match methodVariable? w with
    | some x => name x
    | none => text (.ofList w))

/-- The variables that are marked in a fixed text. -/
def mentions (s : String) : List Variable := (words s).filterMap methodVariable?

/-- Marking the variables of a text leaves the text as it is. -/
@[simp] theorem print_marked (s : String) : (marked s).print = s := by
  have hword (w : List Char) : (match methodVariable? w with
      | some x => name x
      | none => text (.ofList w)).print = .ofList w := by
    cases hw : methodVariable? w with
    | none => rfl
    | some x =>
      have hx := List.find?_some hw
      rw [print_name, ← of_decide_eq_true hx, String.ofList_toList]
  have hjoin (ws : List (List Char)) : String.join (ws.map .ofList) = .ofList ws.flatten := by
    induction ws with
    | nil => rfl
    | cons w ws ih =>
      rw [List.map_cons, String.join_cons, ih, List.flatten_cons, String.ofList_append]
  rw [marked, print_join, List.map_map]
  simp only [Function.comp_def, hword]
  rw [hjoin, words, List.flatten_splitBy, String.ofList_toList]

/-- A text may stand where every variable that it mentions is in scope. -/
theorem apart_marked {s : String} {outer : List Variable} :
    (marked s).Apart outer ↔ mentions s ⊆ outer := by
  simp only [marked, apart_join, List.forall_mem_map, mentions]
  constructor
  · intro h x hx
    obtain ⟨w, hw, hwx⟩ := List.mem_filterMap.mp hx
    simpa [hwx] using h w hw
  · intro h w hw
    cases hwx : methodVariable? w with
    | none => simp
    | some x => simpa using h (List.mem_filterMap.mpr ⟨w, hw, hwx⟩)

/-- In a marked text only variables are marked, and those are no free words. -/
@[simp] theorem uncaptured_marked (s : String) (outer : List Variable) :
    (marked s).Uncaptured outer := by
  simp only [marked, uncaptured_join, List.forall_mem_map]
  intro w _
  cases methodVariable? w <;> simp

/-! ## Values that are read -/

/-- The expression that reads a container, of which one element is read so. -/
def readContainer (c : Container) (level : Nat) (element : Code) : Code :=
  scope [.header c level, .result level]
    ("\x7b val " ++ name (.header c level) ++ " = " ++ name .input ++ (".read" ++ c.kind)
      ++ "Begin(); val " ++ name (.result level) ++ " = (0 until " ++ name (.header c level)
      ++ ".size).map \x7b _ => " ++ element ++ (" \x7d." ++ c.convert) ++ "; " ++ name .input
      ++ (".read" ++ c.kind) ++ "End(); " ++ name (.result level) ++ " \x7d")

/-- The expression that reads a value, if there is one. -/
def read (level : Nat) : FieldType → Code
  | .base b => name .input ++ (".read" ++ (methodSuffix? (.base b)).getD "") ++ "()"
  | .enum n => path n ++ "(" ++ name .input ++ ".readI32())"
  | .struct n => path n ++ ".decode(" ++ name .input ++ ")"
  | .list t => readContainer .list level (read (level + 1) t)
  | .set t => readContainer .set level (read (level + 1) t)
  | .map k v =>
    readContainer .map level ("(" ++ read (level + 1) k ++ ", " ++ read (level + 1) v ++ ")")
  | .reference _ => ""

/-- The marked code that reads a container is printed as the code that is written. -/
theorem print_readContainer (c : Container) (level : Nat) (element : Code) :
    (readContainer c level element).print = Scala.readContainer inputProtocol c.kind c.header
      c.convert (toString level) element.print := by
  unfold Scala.readContainer
  rw [← String.toList_inj]
  simp [readContainer, Variable.text, inputProtocol]

/-- **The expression that reads a value is the text of its code.** -/
theorem print_read {t : FieldType} {level : Nat} {s : String}
    (h : readValue inputProtocol toString level t = .ok s) : (read level t).print = s := by
  induction t generalizing level s with
  | base b =>
    simp only [readValue, readMethod, bind_eq_ok, pure_eq_ok, Except.ok.injEq] at h
    obtain ⟨method, hmethod, rfl⟩ := h
    cases hsuffix : methodSuffix? (.base b) with
    | none =>
      rw [hsuffix] at hmethod
      cases hmethod
    | some suffix =>
      simp only [hsuffix, Except.ok.injEq] at hmethod
      simp [read, hsuffix, ← hmethod, Variable.text, inputProtocol, ← String.toList_inj]
  | enum n | struct n =>
    simp only [readValue, Except.ok.injEq] at h
    simp [read, ← h, Variable.text, inputProtocol]
  | list t ih | set t ih =>
    simp only [readValue, bind_eq_ok, pure_eq_ok, Except.ok.injEq] at h
    obtain ⟨element, helement, rfl⟩ := h
    rw [read, print_readContainer, ih helement]
    rfl
  | map k v ihk ihv =>
    simp only [readValue, bind_eq_ok, pure_eq_ok, Except.ok.injEq] at h
    obtain ⟨key, hkey, value, hvalue, rfl⟩ := h
    rw [read, print_readContainer]
    simp only [print_append, print_text, ihk hkey, ihv hvalue]
    rfl
  | reference n => cases h

/-! ## Values that are written -/

/-- The name of the tag of a type, if there is one. -/
def tagName (t : FieldType) : String :=
  match wireTag t with
  | .ok tag => tag.name
  | .error _ => ""

/-- The name of the tag is that of the tag on the wire, where there is one. -/
theorem tagName_eq {t : FieldType} {tag : WireTag} (h : wireTag t = .ok tag) :
    tagName t = tag.name := by
  rw [tagName, h]

/-- The statements that write the list or the set in a variable, of which one element is written
    so. -/
def writeSequence (c : Container) (level : Nat) (x : Variable) (tag : String) (element : Code) :
    Code :=
  name .output ++ (".write" ++ c.kind ++ "Begin(new T" ++ c.kind ++ "(TType." ++ tag) ++ ", "
    ++ name x ++ ".size)); " ++ name x ++ ".foreach \x7b "
    ++ scope [.element level] (name (.element level) ++ " => " ++ element ++ " \x7d")
    ++ "; " ++ name .output ++ (".write" ++ c.kind) ++ "End()"

/-- The statements that write the map in a variable, of which a key and what belongs to it are
    written so. -/
def writeMap (level : Nat) (x : Variable) (keyTag valueTag : String) (key value : Code) : Code :=
  name .output ++ (".writeMapBegin(new TMap(TType." ++ keyTag ++ ", TType." ++ valueTag) ++ ", "
    ++ name x ++ ".size)); " ++ name x ++ ".foreach \x7b case ("
    ++ scope [.key level, .entry level]
        (name (.key level) ++ ", " ++ name (.entry level) ++ ") => " ++ key ++ "; " ++ value
          ++ " \x7d")
    ++ "; " ++ name .output ++ ".writeMapEnd()"

/-- The statements that write the value in a variable, if there are any. -/
def write (level : Nat) (x : Variable) : FieldType → Code
  | .base b =>
    name .output ++ (".write" ++ (methodSuffix? (.base b)).getD "") ++ "(" ++ name x ++ ")"
  | .enum _ => name .output ++ ".writeI32(" ++ name x ++ ".value)"
  | .struct _ => name x ++ ".write(" ++ name .output ++ ")"
  | .list t =>
    writeSequence .list level x (tagName t) (write (level + 1) (.element level) t)
  | .set t => writeSequence .set level x (tagName t) (write (level + 1) (.element level) t)
  | .map k v =>
    writeMap level x (tagName k) (tagName v) (write (level + 1) (.key level) k)
      (write (level + 1) (.entry level) v)
  | .reference _ => ""

/-- The marked code that writes a container is printed as the code that is written. -/
theorem print_writeSequence (c : Container) (level : Nat) (x : Variable) (tag : WireTag)
    (element : Code) : (writeSequence c level x tag.name element).print =
      Scala.writeSequence outputProtocol c.kind x.text (Variable.element level).text tag
        element.print := by
  unfold Scala.writeSequence
  rw [← String.toList_inj]
  simp [writeSequence, Variable.text, outputProtocol]

/-- **The statements that write a value are the text of their code.** -/
theorem print_write {t : FieldType} {level : Nat} {x : Variable} {s : String}
    (h : writeValue outputProtocol toString level x.text t = .ok s) :
    (write level x t).print = s := by
  induction t generalizing level x s with
  | base b =>
    simp only [writeValue, writeMethod, bind_eq_ok, pure_eq_ok, Except.ok.injEq] at h
    obtain ⟨method, hmethod, rfl⟩ := h
    cases hsuffix : methodSuffix? (.base b) with
    | none =>
      rw [hsuffix] at hmethod
      cases hmethod
    | some suffix =>
      simp only [hsuffix, Except.ok.injEq] at hmethod
      simp [write, hsuffix, ← hmethod, Variable.text, outputProtocol, ← String.toList_inj]
  | enum n | struct n =>
    simp only [writeValue, Except.ok.injEq] at h
    rw [← h, write]
    rfl
  | list t ih | set t ih =>
    simp only [writeValue, bind_eq_ok, pure_eq_ok, Except.ok.injEq] at h
    obtain ⟨tag, htag, element, helement, rfl⟩ := h
    rw [write, tagName_eq htag, print_writeSequence, ih helement]
    rfl
  -- keys and values are written under names of their own, one level further in
  | map k v ihk ihv =>
    simp only [writeValue, bind_eq_ok, pure_eq_ok, Except.ok.injEq] at h
    obtain ⟨keyTag, hkeyTag, valueTag, hvalueTag, key, hkey, value, hvalue, rfl⟩ := h
    have hk : (write (level + 1) (.key level) k).print = key := ihk hkey
    have hv : (write (level + 1) (.entry level) v).print = value := ihv hvalue
    rw [write, tagName_eq hkeyTag, tagName_eq hvalueTag, ← String.toList_inj]
    simp [writeMap, hk, hv, Variable.text, outputProtocol]
  | reference n => cases h

/-! ## Levels -/

/-- The variables are different, and those of containers are of lower levels than the given one. -/
structure IsAround (level : Nat) (outer : List Variable) : Prop where
  nodup : outer.Nodup
  below : ∀ x ∈ outer, ∀ n, x.level? = some n → n < level

variable {outer : List Variable} {level : Nat}

/-- **Variables of a level are new** where all others are of lower levels. -/
theorem IsAround.declare (h : IsAround level outer) (declared : List Variable)
    (hd : declared.Nodup) (hlevel : ∀ x ∈ declared, x.level? = some level) :
    IsAround (level + 1) (declared ++ outer) where
  nodup := hd.append h.nodup fun x hx hx' => by
    have hlt := h.below x hx' level (hlevel x hx)
    omega
  below x hx n hn := by
    rcases List.mem_append.mp hx with hx | hx
    · rw [hlevel x hx, Option.some.injEq] at hn
      omega
    · have hlt := h.below x hx n hn
      omega

/-- Reading a container declares its own variables and leaves the next level to its elements. -/
theorem readContainer_apart {c : Container} {element : Code} (h : IsAround level outer)
    (hinput : .input ∈ outer)
    (he : ∀ inner : List Variable, IsAround (level + 1) inner → .input ∈ inner →
      element.Apart inner) : (readContainer c level element).Apart outer := by
  have hdeclared : [Variable.header c level, .result level].Nodup := by simp
  have hinner := h.declare _ hdeclared (by simp [Variable.level?])
  have helement := he _ hinner (List.mem_append_right _ hinput)
  rw [readContainer, apart_scope]
  refine ⟨hinner.nodup, ?_⟩
  simpa [hinput] using helement

/-- **The variables of the expression that reads a value are apart** where the protocol is in scope and all
    variables in scope are of lower levels. -/
theorem read_apart (t : FieldType) (h : IsAround level outer) (hinput : .input ∈ outer) :
    (read level t).Apart outer := by
  induction t generalizing level outer with
  | base b => simp [read, hinput]
  | enum n | struct n => simp [read, hinput]
  | reference n => simp [read]
  | list t ih | set t ih =>
    exact readContainer_apart h hinput fun inner hinner hin => ih hinner hin
  | map k v ihk ihv =>
    refine readContainer_apart h hinput fun inner hinner hin => ?_
    simp [ihk hinner hin, ihv hinner hin]

/-- Writing a container declares the variable of its elements, which they are written from. -/
theorem writeSequence_apart {c : Container} {x : Variable} {tag : String} {element : Code}
    (h : IsAround level outer) (houtput : .output ∈ outer) (hx : x ∈ outer)
    (he : ∀ inner : List Variable, IsAround (level + 1) inner → .output ∈ inner →
      .element level ∈ inner → element.Apart inner) :
    (writeSequence c level x tag element).Apart outer := by
  have hinner := h.declare [.element level] (by simp) (by simp [Variable.level?])
  have hname : Variable.element level ∈ [.element level] ++ outer := by simp
  have helement := he _ hinner (List.mem_append_right _ houtput) hname
  simp only [writeSequence, apart_append, apart_text, apart_name, apart_scope, houtput,
    hx, hinner.nodup, hname, helement, and_self]

/-- **The variables of the statements that write a value are apart** where the protocol and the value are in scope
    and all variables in scope are of lower levels. -/
theorem write_apart (t : FieldType) {x : Variable} (h : IsAround level outer)
    (houtput : .output ∈ outer) (hx : x ∈ outer) : (write level x t).Apart outer := by
  induction t generalizing level x outer with
  | base b => simp [write, houtput, hx]
  | enum n | struct n => simp [write, houtput, hx]
  | reference n => simp [write]
  | list t ih | set t ih =>
    exact writeSequence_apart h houtput hx fun inner hinner hout he => ih hinner hout he
  | map k v ihk ihv =>
    have hinner := h.declare [.key level, .entry level] (by simp)
      (by simp [Variable.level?])
    have hkey : Variable.key level ∈ [.key level, .entry level] ++ outer := by simp
    have hentry : Variable.entry level ∈ [.key level, .entry level] ++ outer := by simp
    have hk := ihk hinner (List.mem_append_right _ houtput) hkey
    have hv := ihv hinner (List.mem_append_right _ houtput) hentry
    simp only [write, writeMap, apart_append, apart_text, apart_name, apart_scope,
      houtput, hx, hinner.nodup, hkey, hentry, hk, hv, and_self]

/-! ## Names in types -/

/-- The names in a type that can be read, each with the containers around it, from the outside in. -/
def namesWithin : FieldType → List (List Container × String)
  | .base _ | .reference _ => []
  | .enum n | .struct n => [([], n)]
  | .list t => (namesWithin t).map fun p => (.list :: p.1, p.2)
  | .set t => (namesWithin t).map fun p => (.set :: p.1, p.2)
  | .map k v => (namesWithin k ++ namesWithin v).map fun p => (.map :: p.1, p.2)

/-- The variables that containers inside one another introduce when they are read. -/
def containerVariables (level : Nat) : List Container → List Variable
  | [] => []
  | c :: cs => .header c level :: .result level :: containerVariables (level + 1) cs

/-- What is asked of the names in an element, asked of the container. -/
theorem forall_names_cons {c : Container} {names : List (List Container × String)} :
    (∀ p ∈ names.map fun p => (c :: p.1, p.2),
      ∀ x ∈ containerVariables level p.1 ++ outer, x.text ≠ headWord p.2) ↔
    ∀ p ∈ names, ∀ x ∈ containerVariables (level + 1) p.1 ++ (.header c level :: .result level :: outer),
      x.text ≠ headWord p.2 := by
  rw [List.forall_mem_map]
  refine forall₂_congr fun p _ => ?_
  simp only [containerVariables, List.cons_append, List.forall_mem_cons, List.forall_mem_append]
  tauto

/-- **When a name in a type is captured.**  All other words of the expression that reads a value are
    variables or fixed. -/
theorem read_uncaptured_iff (t : FieldType) :
    (read level t).Uncaptured outer ↔
      ∀ p ∈ namesWithin t, ∀ x ∈ containerVariables level p.1 ++ outer, x.text ≠ headWord p.2 := by
  induction t generalizing level outer with
  | base b => simp [read, namesWithin]
  | enum n | struct n => simp [read, namesWithin, containerVariables]
  | reference n => simp [read, namesWithin]
  | list t ih | set t ih =>
    rw [namesWithin, forall_names_cons, ← ih]
    simp [read, readContainer]
  | map k v ihk ihv =>
    rw [namesWithin, forall_names_cons, List.forall_mem_append, ← ihk, ← ihv]
    simp [read, readContainer]

/-- The statements that write a value name no types. -/
theorem write_uncaptured (t : FieldType) {x : Variable} : (write level x t).Uncaptured outer := by
  induction t generalizing level x outer with
  | base b => simp [write]
  | enum n | struct n => simp [write]
  | reference n => simp [write]
  | list t ih | set t ih => simp [write, writeSequence, ih]
  | map k v ihk ihv => simp [write, writeMap, ihk, ihv]

end Code

end ThriftScala.Scala
