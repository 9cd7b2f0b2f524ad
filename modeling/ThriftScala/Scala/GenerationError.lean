/-
  Why no code is generated.
-/
import ThriftScala.Fragment.Library
import ThriftScala.Scala.Unmapped

namespace ThriftScala.Scala

/-- Why no code is generated. -/
inductive GenerationError where
  | unmapped (u : Unmapped)
  | unknownServiceOption (got : Json)
  | fragment (e : FragmentError)
  | misuse (m : Misuse)

namespace GenerationError

/-- What an error says; a misuse has no words of its own. -/
def message : GenerationError → String
  | .unmapped u => u.message
  | .unknownServiceOption got => "Unknown service option: " ++ got.literal
  | .fragment e => e.message
  | .misuse _ => ""

/-- Is the error one of the schema or the settings, and not a misuse?  Only such an error makes a
    failed result; a misuse ends the whole run. -/
def isReported : GenerationError → Bool
  | .misuse _ => false
  | .fragment (.misuse _) => false
  | .fragment (.render .tooDeep) => false
  | _ => true

end GenerationError

/-- What a step of generation gives. -/
abbrev Generated (α : Type) := Except GenerationError α

/-- A type without a rule as an error of generation. -/
def mapped {α : Type} : Except Unmapped α → Generated α
  | .ok a => .ok a
  | .error u => .error (.unmapped u)

/-- A misuse as an error of generation. -/
def used {α : Type} : Except Misuse α → Generated α
  | .ok a => .ok a
  | .error m => .error (.misuse m)

/-- A value of a setting or a schema, put under a key of a model. -/
def offered (key : String) (v : Json) : Generated Value :=
  match Value.ofJson key v with
  | .ok value => .ok value
  | .error e => .error (.fragment (.model e))

/-- The text of a fragment for a model. -/
def filled (f : Fragment) (m : Model) : Generated String :=
  match f.fill m with
  | .ok s => .ok s
  | .error e => .error (.fragment e)

end ThriftScala.Scala
