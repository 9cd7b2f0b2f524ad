/-
  Expressions that read a value from a protocol and statements that write one.

  Containers nest: the temporaries of a level end with its label, so that with different labels no
  name hides another.  Levels count from the outermost container, and the labels are up to the
  caller; generated code takes the number of the level (`toString`).
-/
import ThriftScala.Scala.TypeExpr

namespace ThriftScala.Scala

/-- Reading a container: begin, read as many elements as announced, end.  `kind` names the
    protocol's methods, `header` the temporary for what was announced, `convert` the conversion. -/
def readContainer (protocol kind header convert label element : String) : String :=
  "\x7b val " ++ header ++ label ++ " = " ++ protocol ++ ".read" ++ kind ++ "Begin(); "
    ++ "val _rv" ++ label ++ " = (0 until " ++ header ++ label ++ ".size).map \x7b _ => "
    ++ element ++ " \x7d." ++ convert ++ "; "
    ++ protocol ++ ".read" ++ kind ++ "End(); _rv" ++ label ++ " \x7d"

/-- The expression that reads a value of a type. -/
def readValue (protocol : String) (label : Nat → String) (level : Nat) :
    FieldType → Except Unmapped String
  | .base b => do pure (protocol ++ "." ++ (← readMethod (.base b)) ++ "()")
  | .enum n => .ok (n ++ "(" ++ protocol ++ ".readI32())")
  | .struct n => .ok (n ++ ".decode(" ++ protocol ++ ")")
  | .list t => do
    let element ← readValue protocol label (level + 1) t
    pure (readContainer protocol "List" "_list" "toList" (label level) element)
  | .set t => do
    let element ← readValue protocol label (level + 1) t
    pure (readContainer protocol "Set" "_set" "toSet" (label level) element)
  | .map k v => do
    let key ← readValue protocol label (level + 1) k
    let value ← readValue protocol label (level + 1) v
    pure (readContainer protocol "Map" "_map" "toMap" (label level)
      ("(" ++ key ++ ", " ++ value ++ ")"))
  | .reference n => Mapping.readValue.refuse (.reference n)

/-- Writing a list or a set: begin with tag and size, write each element, end. -/
def writeSequence (protocol kind name item : String) (tag : WireTag) (element : String) : String :=
  protocol ++ ".write" ++ kind ++ "Begin(new T" ++ kind ++ "(TType." ++ tag.name ++ ", " ++ name
    ++ ".size)); " ++ name ++ ".foreach \x7b " ++ item ++ " => " ++ element ++ " \x7d; "
    ++ protocol ++ ".write" ++ kind ++ "End()"

/-- The statements that write the value held in `name`. -/
def writeValue (protocol : String) (label : Nat → String) (level : Nat) (name : String) :
    FieldType → Except Unmapped String
  | .base b => do pure (protocol ++ "." ++ (← writeMethod (.base b)) ++ "(" ++ name ++ ")")
  | .enum _ => .ok (protocol ++ ".writeI32(" ++ name ++ ".value)")
  | .struct _ => .ok (name ++ ".write(" ++ protocol ++ ")")
  | .list t => do
    let tag ← wireTag t
    let item := "_e" ++ label level
    let element ← writeValue protocol label (level + 1) item t
    pure (writeSequence protocol "List" name item tag element)
  | .set t => do
    let tag ← wireTag t
    let item := "_e" ++ label level
    let element ← writeValue protocol label (level + 1) item t
    pure (writeSequence protocol "Set" name item tag element)
  | .map k v => do
    let keyTag ← wireTag k
    let valueTag ← wireTag v
    let key := "_k" ++ label level
    let value := "_v" ++ label level
    let keyWrite ← writeValue protocol label (level + 1) key k
    let valueWrite ← writeValue protocol label (level + 1) value v
    pure (protocol ++ ".writeMapBegin(new TMap(TType." ++ keyTag.name ++ ", TType."
      ++ valueTag.name ++ ", " ++ name ++ ".size)); " ++ name ++ ".foreach \x7b case (" ++ key
      ++ ", " ++ value ++ ") => " ++ keyWrite ++ "; " ++ valueWrite ++ " \x7d; " ++ protocol
      ++ ".writeMapEnd()")
  | .reference n => Mapping.writeValue.refuse (.reference n)

/-- The protocol that decoders read from. -/
def inputProtocol : String := "_iprot"

/-- The protocol that encoders write to. -/
def outputProtocol : String := "_oprot"

end ThriftScala.Scala
