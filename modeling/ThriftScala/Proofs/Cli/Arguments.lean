/-
  A language that is asked for first.

  The arguments are read from left to right, and what was read only becomes part of the request.  So
  two readings that begin with requests that differ only in the language go the same way: they are
  refused together, and end with requests that differ in nothing else (`use_alike`).
-/
import Mathlib.Tactic.SplitIfs
import ThriftScala.Cli.Arguments
import ThriftScala.Proofs.Text.Case

namespace ThriftScala.Cli

variable {name name' : String}

/-- Requests that are the same, or differ only in that one asks for `name` and the other for
    `name'`. -/
def Request.Alike (name name' : String) (r r' : Request) : Prop :=
  r' = r ∨ r.language = some name ∧ r' = { r with language := some name' }

/-- Readings that come to the same, but for such a difference. -/
def Parsed.Alike (name name' : String) (p p' : Parsed) : Prop :=
  p' = p ∨ ∃ r r', p = .request r ∧ p' = .request r' ∧ r.Alike name name' r'

theorem Request.Alike.parsed {r r' : Request} (h : r.Alike name name' r') :
    (Parsed.request r).Alike name name' (.request r') :=
  .inr ⟨r, r', rfl, rfl, h⟩

/-! ## Steps -/

/-- An option sets the same in requests that are alike; setting the language makes them the same. -/
theorem set?_alike {r r' : Request} (h : r.Alike name name' r') (o : Flag) (value : String) :
    Option.Rel (Request.Alike name name') (r.set? o value) (r'.set? o value) := by
  have hrefl : ∀ x : Option Request, Option.Rel (Request.Alike name name') x x := by
    rintro (_ | r)
    · exact .none
    · exact .some (.inl rfl)
  rcases h with rfl | ⟨hr, rfl⟩
  · exact hrefl _
  · cases o with
    | language => exact hrefl _
    | fieldCase =>
      simp only [Request.set?]
      split_ifs
      all_goals first | exact .none | exact .some (.inr ⟨hr, rfl⟩)
    | _ => exact .some (.inr ⟨hr, rfl⟩)

theorem setAll_alike {next : Option String} {os : Chain} {r r' : Request}
    (h : r.Alike name name' r') :
    (setAll r next os).Alike name name' (setAll r' next os) := by
  induction os generalizing r r' with
  | nil => exact h.parsed
  | cons e os ih =>
    obtain ⟨o, value⟩ := e
    rw [setAll, setAll]
    split_ifs
    · exact .inl rfl
    · have hset := set?_alike h o ((value <|> next).getD "")
      revert hset
      cases r.set? o ((value <|> next).getD "") with
      | none =>
        cases r'.set? o ((value <|> next).getD "") with
        | none => exact fun _ => .inl rfl
        | some s' => rintro ⟨⟩
      | some s =>
        cases r'.set? o ((value <|> next).getD "") with
        | none => rintro ⟨⟩
        | some s' =>
          rintro ⟨hs⟩
          exact ih hs

/-! ## Readings -/

/-- Readings that are alike stay so if both go on in the same way. -/
theorem andThen_alike {p p' : Parsed} {go : Request → Parsed}
    (hgo : ∀ {r r' : Request}, r.Alike name name' r' → (go r).Alike name name' (go r')) :
    p.Alike name name' p' →
    Parsed.Alike name name' (match p with | .request r => go r | other => other)
      (match p' with | .request r => go r | other => other) := by
  rintro (rfl | ⟨r, r', rfl, rfl, h⟩)
  · exact .inl rfl
  · exact hgo h

theorem Request.Alike.withFile {r r' : Request} (h : r.Alike name name' r') (file : String) :
    Request.Alike name name' { r with file := some file } { r' with file := some file } := by
  rcases h with rfl | ⟨hr, rfl⟩
  · exact .inl rfl
  · exact .inr ⟨hr, rfl⟩

/-- **Readings that begin alike go on alike.** -/
theorem use_alike : ∀ (ws : List Word) {r r' : Request} {fileRead leftOver : Bool},
    r.Alike name name' r' →
    (use r fileRead leftOver ws).Alike name name' (use r' fileRead leftOver ws)
  | [], r, r', fileRead, leftOver, h => by
    simp only [use]
    split_ifs
    · exact .inl rfl
    · exact h.parsed
  | .option none isShort attached :: ws, r, r', fileRead, leftOver, h => by
    simp only [use]
    exact use_alike ws h
  | .option (some o) isShort attached :: ws, r, r', fileRead, leftOver, h => by
    simp only [use]
    cases optionsOf? o isShort attached with
    | none => exact .inl rfl
    | some os =>
      simp only
      split_ifs
      -- the option takes the next word as its value, if that is a plain one
      · match ws with
        | .plain s :: ws => exact andThen_alike (fun h => use_alike ws h) (setAll_alike h)
        | [] | .dashes :: _ | .option _ _ _ :: _ => exact .inl rfl
      · exact andThen_alike (fun h => use_alike ws h) (setAll_alike h)
  | .plain s :: ws, r, r', fileRead, leftOver, h => by
    unfold use
    split_ifs
    · exact use_alike ws h
    · match ws with
      | .dashes :: ws => exact use_alike ws (h.withFile s)
      | [] => exact use_alike [] (h.withFile s)
      | .plain t :: ws => exact use_alike (.plain t :: ws) (h.withFile s)
      | .option known isShort attached :: ws =>
        exact use_alike (.option known isShort attached :: ws) (h.withFile s)
  | .dashes :: ws, r, r', fileRead, leftOver, h => by
    unfold use
    split_ifs
    · exact use_alike ws h
    · match ws with
      | .plain s :: ws => exact use_alike ws (h.withFile s)
      | [] => exact use_alike [] h
      | .dashes :: ws => exact use_alike (.dashes :: ws) h
      | .option known isShort attached :: ws =>
        exact use_alike (.option known isShort attached :: ws) h

/-! ## A language in front -/

/-- A text that does not begin with a dash is a plain argument. -/
theorem ofText?_plain {s : String} (h : s.toList.head? ≠ some '-') :
    Word.ofText? s = some (.plain s) := by
  unfold Word.ofText?
  split
  · rename_i heq
    rw [heq] at h
    exact absurd rfl h
  · rfl

/-- A dash in front stays in front in lower case. -/
theorem head?_lowered {s : String} (h : s.toList.head? = some '-') :
    s.lowered.toList.head? = some '-' := by
  obtain ⟨cs, hcs⟩ : ∃ cs, s.toList = '-' :: cs := List.head?_eq_some_iff.mp h
  have hchar : Text.lowerChar '-' = ['-'] := by decide
  have hsigma : '-' ≠ 'Σ' := by decide
  rw [String.lowered, String.toList_ofList, hcs, Text.lower, Text.lowerFrom, if_neg hsigma, hchar]
  rfl

/-- **A language that is asked for in front**: whatever stands behind, the readings are alike. -/
theorem parse_alike (hname : name.toList.head? ≠ some '-') (hname' : name'.toList.head? ≠ some '-')
    (rest : List String) :
    (parse ("-l" :: name :: rest)).Alike name name' (parse ("-l" :: name' :: rest)) := by
  have hdashes : ∀ {n : String}, n.toList.head? ≠ some '-' → n ≠ "--" := by
    rintro n hn rfl
    exact hn rfl
  have hwords : ∀ {n : String}, n.toList.head? ≠ some '-' →
      words? ("-l" :: n :: rest) =
        (words? rest).map fun ws => .option (some .language) true none :: .plain n :: ws := by
    intro n hn
    have hoption : Word.ofText? "-l" = some (.option (some .language) true none) := by decide
    rw [words?, if_neg (by decide), hoption, words?, if_neg (hdashes hn), ofText?_plain hn]
    cases words? rest <;> rfl
  have huse : ∀ {n : String} (ws : List Word), n.toList.head? ≠ some '-' →
      use {} false false (.option (some .language) true none :: .plain n :: ws) =
        use { language := some n } false false ws := by
    intro n ws hn
    have hset : setAll {} (some n) [(.language, none)] = .request { language := some n } := by
      simp [setAll, Request.set?, hdashes hn]
    rw [use]
    simp [optionsOf?, waits, Flag.takesValue, hset]
  rw [parse, parse, hwords hname, hwords hname']
  cases words? rest with
  | none => exact .inl rfl
  | some ws =>
    simp only [Option.map_some]
    rw [huse ws hname, huse ws hname']
    exact use_alike ws (.inr ⟨rfl, rfl⟩)

end ThriftScala.Cli
