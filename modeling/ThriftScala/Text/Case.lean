/-
  Upper and lower case of a text, by the full case mappings of Unicode.

  One character may become several (`ß` is `SS` in capitals), and a capital sigma that ends a
  word is lowered to the final form.  A character alone has no neighbours, so `lowerChar` never
  gives the final form; `lower` does.
-/
import ThriftScala.Text.CaseTable

namespace ThriftScala.Text

/-- The code point that a run moves `n` to, if `n` belongs to the run. -/
def CaseRun.image? (r : CaseRun) (n : Nat) : Option Nat :=
  if r.first ≤ n && n ≤ r.last && (n - r.first) % r.step == 0 then some (n + r.shift).toNat
  else none

/-- The other case of a character by a table of runs and a table of special cases; a character
    that neither table knows is its own. -/
def recase (runs : List CaseRun) (specials : List (Nat × List Nat)) (c : Char) : List Char :=
  match specials.lookup c.toNat with
  | some ns => ns.map Char.ofNat
  | none =>
    match runs.findSome? (·.image? c.toNat) with
    | some n => [Char.ofNat n]
    | none => [c]

/-- The lower case of a character that stands alone. -/
def lowerChar (c : Char) : List Char :=
  if c.toNat < 128 then [if 'A' ≤ c ∧ c ≤ 'Z' then Char.ofNat (c.toNat + 32) else c]
  else recase lowerRuns lowerSpecials c

/-- The upper case of a character. -/
def upperChar (c : Char) : List Char :=
  if c.toNat < 128 then [if 'a' ≤ c ∧ c ≤ 'z' then Char.ofNat (c.toNat - 32) else c]
  else recase upperRuns upperSpecials c

/-- The upper case of a text. -/
def upper (cs : List Char) : List Char := cs.flatMap upperChar

/-- Does a cased character come next, when those that do not count are skipped? -/
def casedNext (cs : List Char) : Bool :=
  match cs.dropWhile caseIgnorable.holds with
  | [] => false
  | c :: _ => casedRanges.holds c

/-- Lowers a text of which `afterCased` says whether a cased character stands before it. -/
def lowerFrom (afterCased : Bool) : List Char → List Char
  | [] => []
  | c :: r =>
    let here :=
      if c = 'Σ' then [if afterCased && !casedNext r then 'ς' else 'σ'] else lowerChar c
    here ++ lowerFrom (if caseIgnorable.holds c then afterCased else casedRanges.holds c) r

/-- The lower case of a text. -/
def lower (cs : List Char) : List Char := lowerFrom false cs

end ThriftScala.Text

/-- The lower case of a string. -/
def String.lowered (s : String) : String := .ofList (ThriftScala.Text.lower s.toList)

/-- The upper case of a string. -/
def String.raised (s : String) : String := .ofList (ThriftScala.Text.upper s.toList)
