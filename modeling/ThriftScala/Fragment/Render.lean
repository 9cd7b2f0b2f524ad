/-
  Rendering: the text that a fragment gives for a model.

  Keys are looked up in a chain of models, the innermost first; a block puts the model of each
  item in front of the chain.  A splice evaluates another fragment in the chain as it stands, and
  a key that fails is reported with the name of the fragment whose own tag asked for it.

  `evalNodes` follows the tree and leaves splices to a function it is given; `evalWithin` ties the
  knot and allows a bounded nesting of splices, because a fragment may splice itself for ever.
-/
import ThriftScala.Fragment.Model

namespace ThriftScala

/-- The models in which keys are looked up, and the fragment whose tags are evaluated. -/
structure Scope where
  fragment : String
  /-- The innermost model is in front. -/
  models : List Model

/-- What a tag asks of the value under its key. -/
inductive Expectation where
  | scalar
  | sectionValue
  | fragment
  deriving DecidableEq, Repr

/-- Why the value under a key does not do. -/
inductive BindingFault where
  | undefined
  /-- The value has another shape than the tag asks for. -/
  | shape (found : String) (expected : Expectation)
  deriving DecidableEq, Repr

/-- A model does not have what a fragment asks of it. -/
structure BindingError where
  key : String
  fragment : String
  fault : BindingFault
  deriving DecidableEq, Repr

/-- Why a fragment gives no text. -/
inductive RenderError where
  | binding (e : BindingError)
  /-- Splices are nested too deeply. -/
  | tooDeep
  deriving DecidableEq, Repr

/-- What is asked for, in words. -/
def Expectation.words : Expectation → String
  | .scalar => "a scalar"
  | .sectionValue => "a section value"
  | .fragment => "a fragment"

/-- What a fault says. -/
def BindingFault.message : BindingFault → String
  | .undefined => "is not defined"
  | .shape found expected => "is a " ++ found ++ ", expected " ++ expected.words

/-- What an error says. -/
def BindingError.message (e : BindingError) : String :=
  "Fragment '" ++ e.fragment ++ "': key '" ++ e.key ++ "' " ++ e.fault.message

/-- The word for the shape of a value. -/
def Value.shape : Value → String
  | .text _ => "scalar"
  | .flag _ => "boolean"
  | .model _ => "dictionary"
  | .sequence _ => "sequence"
  | .fragment _ => "fragment"

namespace Scope

/-- The error of a key that a tag of the current fragment asks for. -/
def fail {α : Type} (scope : Scope) (key : String) (fault : BindingFault) : Except RenderError α :=
  .error (.binding ⟨key, scope.fragment, fault⟩)

/-- The value under a key in the innermost model that has it. -/
def lookup? (scope : Scope) (key : String) : Option Value :=
  scope.models.findSome? (·.lookup key)

/-- The value under a key. -/
def resolve (scope : Scope) (key : String) : Except RenderError Value :=
  match scope.lookup? key with
  | some v => .ok v
  | none => scope.fail key .undefined

/-- The scope inside an item of a block. -/
def push (scope : Scope) (m : Model) : Scope := { scope with models := m :: scope.models }

/-- The text under a key. -/
def text (scope : Scope) (key : String) : Except RenderError String := do
  match ← scope.resolve key with
  | .text s => pure s
  | v => scope.fail key (.shape v.shape .scalar)

/-- The scopes in which a block under a key is written, one after the other. -/
def items (scope : Scope) (key : String) : Except RenderError (List Scope) := do
  match ← scope.resolve key with
  | .flag b => pure (if b then [scope] else [])
  | .model m => pure [scope.push m]
  | .sequence ms => pure (ms.map scope.push)
  | v => scope.fail key (.shape v.shape .sectionValue)

/-- Is there no item under a key? -/
def isEmpty (scope : Scope) (key : String) : Except RenderError Bool := do
  match ← scope.resolve key with
  | .flag b => pure !b
  | .model _ => pure false
  | .sequence ms => pure ms.isEmpty
  | v => scope.fail key (.shape v.shape .sectionValue)

/-- The fragment under a key. -/
def fragmentAt (scope : Scope) (key : String) : Except RenderError Fragment := do
  match ← scope.resolve key with
  | .fragment f => pure f
  | v => scope.fail key (.shape v.shape .fragment)

end Scope

namespace Fragment

mutual

/-- The text of a node; `splice` evaluates the nodes of another fragment. -/
def evalNode (splice : List Node → Scope → Except RenderError String) :
    Node → Scope → Except RenderError String
  | .text s, _ => .ok s
  | .scalar key, scope => scope.text key
  | .block key body, scope => do
    let scopes ← scope.items key
    let texts ← scopes.mapM (evalNodes splice body)
    pure (String.join texts)
  | .inverse key body, scope => do
    if ← scope.isEmpty key then evalNodes splice body scope else pure ""
  | .splice key, scope => do
    let f ← scope.fragmentAt key
    splice f.body { scope with fragment := f.name }

/-- The text of nodes, one after the other. -/
def evalNodes (splice : List Node → Scope → Except RenderError String) :
    List Node → Scope → Except RenderError String
  | [], _ => .ok ""
  | node :: nodes, scope => do
    let first ← evalNode splice node scope
    let rest ← evalNodes splice nodes scope
    pure (first ++ rest)

end

/-- The text of nodes with at most the given number of splices inside one another. -/
def evalWithin : Nat → List Node → Scope → Except RenderError String
  | 0 => evalNodes fun _ _ => .error .tooDeep
  | depth + 1 => evalNodes (evalWithin depth)

/-- How many splices may stand inside one another in `render`.

    The number stands for no number of the program.  There the nesting ends with the call stack,
    after some hundred and ninety splices under the default recursion limit, and what was rendered
    up to then is lost with a `RecursionError`.  Statements on rendering therefore speak of the
    outcome with enough room, or assume that this bound was not met. -/
def spliceLimit : Nat := 1000

/-- The text of a fragment for a model. -/
def render (f : Fragment) (m : Model) : Except RenderError String :=
  evalWithin spliceLimit f.body ⟨f.name, [m]⟩

end Fragment

end ThriftScala
