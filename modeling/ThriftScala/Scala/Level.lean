/-
  Labels of levels that count up from a start.

  A caller may start at any value.  From a number the labels count up one by one; from anything
  else they cannot, so only types without levels can be read and written then.
-/
import ThriftScala.Scala.Codec
import ThriftScala.Scala.GenerationError

namespace ThriftScala.Scala

/-- The labels that count up from a number; there are none for anything else. -/
def labelsFrom? : Json → Option (Nat → String)
  | .int n => some fun level => toString (n + level)
  | .bool b => some fun level =>
    if level = 0 then (Json.bool b).display else toString (b.toNat + level)
  | .double x => some fun level => (Json.double (Nat.repeat Double.succ level x)).display
  | _ => none

/-- The expression that reads a value of a type, with labels from a start. -/
def readFrom (start : Json) (protocol : String) (t : FieldType) : Generated String :=
  match labelsFrom? start, t with
  | some label, t => mapped (readValue protocol label 0 t)
  | none, .list _ | none, .set _ | none, .map _ _ => .error (.misuse .wrongKind)
  | none, t => mapped (readValue protocol toString 0 t)

/-- The statements that write the value held in `name`, with labels from a start.  The wire tags
    of a container are looked at before its labels. -/
def writeFrom (start : Json) (protocol name : String) (t : FieldType) : Generated String :=
  match labelsFrom? start, t with
  | some label, t => mapped (writeValue protocol label 0 name t)
  | none, .list e | none, .set e => do
    let _ ← mapped (wireTag e)
    .error (.misuse .wrongKind)
  | none, .map k v => do
    let _ ← mapped (wireTag k)
    let _ ← mapped (wireTag v)
    .error (.misuse .wrongKind)
  | none, t => mapped (writeValue protocol toString 0 name t)

end ThriftScala.Scala
