/-
  JSON values.

  Integers and doubles are different kinds of number, and the members of an object keep their
  order.  Three views of a value are given here, because names and settings may be any value:

  * `literal`, the value as a message shows it, with texts in quotes;
  * `display`, the same but for a text, which is shown bare;
  * `truthy`, whether the value counts as present where "nothing" falls back to something else.

  An operation that a value does not support is a `Misuse`.
-/
import ThriftScala.Decimal.Shortest
import ThriftScala.Entries
import ThriftScala.Text.Quoted
import ThriftScala.Text.Split

namespace ThriftScala

/-- A JSON value. -/
inductive Json where
  | null
  | bool (b : Bool)
  | int (n : Int)
  | double (x : Double)
  | str (s : String)
  | arr (elems : List Json)
  | obj (members : List (String × Json))
  deriving Inhabited

/-- A value was used as what it is not. -/
inductive Misuse where
  /-- A value of this kind cannot stand there: it has no elements, no length, or is not a text
      among texts to be joined. -/
  | wrongKind
  /-- A value of this kind has no such operation: a number has no letter case. -/
  | noOperation
  /-- The kind is right, but the value is none of those allowed. -/
  | badValue
  /-- A text is too long for the name of a file. -/
  | nameTooLong
  /-- A text with half of a surrogate pair in it is to be encoded. -/
  | notEncodable
  deriving DecidableEq, Repr

namespace Json

/-! ## Views -/

mutual

/-- The value as a message shows it. -/
def literal : Json → String
  | .null => "None"
  | .bool true => "True"
  | .bool false => "False"
  | .int n => toString n
  | .double x => x.write plainLayout
  | .str s => s.inQuotes
  | .arr elems => "[" ++ String.joinedBy ", " (literals elems) ++ "]"
  | .obj members => "\x7b" ++ String.joinedBy ", " (memberLiterals members) ++ "\x7d"

/-- The elements of a list as a message shows them. -/
def literals : List Json → List String
  | [] => []
  | v :: vs => v.literal :: literals vs

/-- The members of an object as a message shows them. -/
def memberLiterals : List (String × Json) → List String
  | [] => []
  | (k, v) :: ms => (k.inQuotes ++ ": " ++ v.literal) :: memberLiterals ms

end

/-- The value as text: a text itself, anything else as a message shows it. -/
def display : Json → String
  | .str s => s
  | v => v.literal

/-- Does the value count as present? -/
def truthy : Json → Bool
  | .null => false
  | .bool b => b
  | .int n => n ≠ 0
  | .double x => !x.isZero
  | .str s => s ≠ ""
  | .arr elems => !elems.isEmpty
  | .obj members => !members.isEmpty

/-- The word for the kind of value in messages. -/
def kind : Json → String
  | .null => "NoneType"
  | .bool _ => "bool"
  | .int _ => "int"
  | .double _ => "float"
  | .str _ => "str"
  | .arr _ => "list"
  | .obj _ => "dict"

/-! ## Use of a value as a text, a list or a mapping -/

/-- The text that the value is, or the given misuse. -/
def textOr (misuse : Misuse) : Json → Except Misuse String
  | .str s => .ok s
  | _ => .error misuse

/-- The elements of a value: those of a list, the characters of a text, the keys of an object. -/
def elements : Json → Except Misuse (List Json)
  | .arr elems => .ok elems
  | .str s => .ok (s.toList.map fun c => .str (String.singleton c))
  | .obj members => .ok (members.map fun m => .str m.1)
  | _ => .error .wrongKind

/-- Can the value be looked up in a set?  Lists and objects cannot. -/
def isAtomic : Json → Bool
  | .arr _ => false
  | .obj _ => false
  | _ => true

/-! ## Equality -/

mutual

/-- Equality of values: numbers and truth values by their number, lists in order, objects whatever
    the order of their keys. -/
def same : Json → Json → Bool
  | .null, .null => true
  | .str s, .str t => s == t
  | .arr xs, .arr ys => sameElems xs ys
  | .obj ms, .obj ns => ms.length == ns.length && sameMembers ms ns
  | .bool a, w => sameInt (if a then 1 else 0) w
  | .int n, w => sameInt n w
  | .double x, .double y => x.eqNumber y
  | .double x, .int n => x.eqInt n
  | .double x, .bool b => x.eqInt (if b then 1 else 0)
  | _, _ => false

/-- Is a value the number `n`? -/
def sameInt (n : Int) : Json → Bool
  | .bool b => n == (if b then 1 else 0)
  | .int m => n == m
  | .double x => x.eqInt n
  | _ => false

def sameElems : List Json → List Json → Bool
  | [], [] => true
  | x :: xs, y :: ys => x.same y && sameElems xs ys
  | _, _ => false

/-- Has every member a member of equal key and value among the others? -/
def sameMembers : List (String × Json) → List (String × Json) → Bool
  | [], _ => true
  | (k, v) :: ms, ns =>
    (match ns.lookup k with
      | some w => v.same w
      | none => false) && sameMembers ms ns

end

end Json

end ThriftScala
