/-
  Fragments as trees.

  A fragment is a list of nodes: texts, scalars, blocks and splices.  `build` nests the tokens of
  a source; its stack holds the blocks that are open.  Line ends in texts of a source become line
  feeds, after comments were taken out.
-/
import ThriftScala.Fragment.Source
import ThriftScala.Text.Quoted

namespace ThriftScala.Fragment

/-- A part of a fragment. -/
inductive Node where
  | text (s : String)
  /-- The text under a key. -/
  | scalar (key : String)
  /-- The body, once for each item under a key. -/
  | block (key : String) (body : List Node)
  /-- The body, if there is no item under a key. -/
  | inverse (key : String) (body : List Node)
  /-- The fragment under a key. -/
  | splice (key : String)
  deriving Inhabited

/-- Why a source is no fragment. -/
inductive SourceError where
  | malformedTag (line : String)
  | malformedName (key : String)
  /-- A block is closed where none is open. -/
  | strayClose (key : String)
  /-- A block is closed by the key of another. -/
  | crossedClose (opened key : String)
  | unclosed (key : String)
  deriving DecidableEq, Repr

/-- A block that is open: its key, its kind and what stood before it, the last in front. -/
structure OpenBlock where
  key : String
  isInverse : Bool
  before : List Node

/-- The node of a block that is closed. -/
def OpenBlock.node (b : OpenBlock) (body : List Node) : Node :=
  if b.isInverse then .inverse b.key body else .block b.key body

/-- Nests tokens.  `opened` are the open blocks, the innermost in front, and `done` the nodes of
    the innermost so far, the last in front. -/
def build (opened : List OpenBlock) (done : List Node) :
    List Token → Except SourceError (List Node)
  | [] =>
    match opened with
    | [] => .ok done.reverse
    | b :: _ => .error (.unclosed b.key)
  | .malformed line :: _ => .error (.malformedTag (.ofList line))
  | .text cs :: ts => build opened (.text (.ofList (Text.unifyLineEnds cs)) :: done) ts
  | .tag .comment _ :: ts => build opened done ts
  | .tag sign key :: ts =>
    if !Text.isWord key then .error (.malformedName (.ofList key))
    else
      match sign with
      | .scalar => build opened (.scalar (.ofList key) :: done) ts
      | .splice => build opened (.splice (.ofList key) :: done) ts
      | .block => build (⟨.ofList key, false, done⟩ :: opened) [] ts
      | .inverse => build (⟨.ofList key, true, done⟩ :: opened) [] ts
      | .comment => build opened done ts
      | .close =>
        match opened with
        | [] => .error (.strayClose (.ofList key))
        | b :: bs =>
          if b.key = .ofList key then build bs (b.node done.reverse :: b.before) ts
          else .error (.crossedClose b.key (.ofList key))

/-- The nodes of a source. -/
def parse (source : List Char) : Except SourceError (List Node) :=
  build [] [] (settle (tokens source))

/-- What an error says of the fragment called `name`. -/
def SourceError.message (name : String) (e : SourceError) : String :=
  "Fragment '" ++ name ++ "': " ++
  match e with
  | .malformedTag line => "malformed tag in " ++ line.inQuotes
  | .malformedName key => "malformed tag name " ++ key.inQuotes
  | .strayClose key => "closing tag '" ++ key ++ "' without an open section"
  | .crossedClose opened key => "section '" ++ opened ++ "' closed by '" ++ key ++ "'"
  | .unclosed key => "unclosed section '" ++ key ++ "'"

end ThriftScala.Fragment

namespace ThriftScala

/-- A fragment: its name and its nodes. -/
structure Fragment where
  name : String
  body : List Fragment.Node
  deriving Inhabited

/-- Reads a fragment from its source. -/
def Fragment.ofSource (name source : String) : Except Fragment.SourceError Fragment :=
  (Fragment.parse source.toList).map (⟨name, ·⟩)

end ThriftScala
