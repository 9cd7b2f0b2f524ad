/-
  Literals and lists of parameters, and the structs that a function is sent as.

  Names that are texts are all that a literal, a list of parameters or a constructor asks for; none
  of them asks whether a type can be coded.  The struct of the arguments of a function and the one
  of its result take the names over, so what is asked of the names of a function is asked of these.
-/
import ThriftScala.Proofs.Scala.Shapes
import ThriftScala.Proofs.Schema.TextNames

namespace ThriftScala.Scala

open Outcome

/-! ## Constants -/

mutual

/-- The literal of a constant whose names are texts is a text. -/
theorem exists_literal (names : LiteralNames) :
    ∀ {c : Constant}, c.HasTextNames → ∃ s, literal names c = .ok (.str s)
  | .null, _ => ⟨_, rfl⟩
  | .bool _, _ => ⟨_, rfl⟩
  | .int _, _ => ⟨_, rfl⟩
  | .double _, _ => ⟨_, rfl⟩
  | .str _, _ => ⟨_, rfl⟩
  | .list elems, h => by
    obtain ⟨texts, htexts⟩ := exists_literalTexts names h
    simp [literal, htexts]
  | .map pairs, h => by
    obtain ⟨texts, htexts⟩ := exists_pairTexts names h
    simp [literal, htexts]
  | .enumValue _ _, _ => ⟨_, rfl⟩
  | .identifier name, h => by
    obtain ⟨s, rfl⟩ := h
    exact ⟨s, rfl⟩

theorem exists_literalTexts (names : LiteralNames) :
    ∀ {cs : List Constant}, Constant.HaveTextNames cs → ∃ texts, literalTexts names cs = .ok texts
  | [], _ => ⟨_, rfl⟩
  | c :: cs, h => by
    obtain ⟨s, hs⟩ := exists_literal names h.1
    obtain ⟨texts, htexts⟩ := exists_literalTexts names h.2
    simp [literalTexts, hs, htexts, Json.textOr]

theorem exists_pairTexts (names : LiteralNames) :
    ∀ {ps : List (Constant × Constant)}, Constant.PairsHaveTextNames ps →
      ∃ texts, pairTexts names ps = .ok texts
  | [], _ => ⟨_, rfl⟩
  | (k, v) :: ps, h => by
    obtain ⟨s, hs⟩ := exists_literal names h.1
    obtain ⟨t, ht⟩ := exists_literal names h.2.1
    obtain ⟨texts, htexts⟩ := exists_pairTexts names h.2.2
    simp [pairTexts, hs, ht, htexts]

end

/-! ## Parameters -/

/-- A text is a text, wherever one is asked for. -/
theorem exists_used_textOr {v : Json} (h : v.IsText) (misuse : Misuse) :
    ∃ s, used (v.textOr misuse) = .ok s := by
  obtain ⟨s, rfl⟩ := h
  exact ⟨s, rfl⟩

theorem exists_fieldParam (names : TypeNames) {f : Field} (h : f.HasTextNames) :
    ∃ s, fieldParam names f = .ok s := by
  have hvalue : ∃ v, defaultFieldValue f = .ok v := by
    unfold defaultFieldValue
    cases hd : f.default? with
    | none => exact ⟨_, rfl⟩
    | some c =>
      obtain ⟨s, hs⟩ := exists_literal {} (h.default c hd)
      simp [hs]
  obtain ⟨v, hv⟩ := hvalue
  cases v <;> simp [fieldParam, hv]

/-- Fields whose names are texts make a list of parameters. -/
theorem exists_fieldArgs (names : TypeNames) {fields : List Field}
    (h : ∀ f ∈ fields, f.HasTextNames) : ∃ s, used (fieldArgs names fields) = .ok s := by
  obtain ⟨params, hparams⟩ := exists_mapM_eq_ok fun f hf => exists_fieldParam names (h f hf)
  simp [fieldArgs, hparams]

theorem exists_constructorArgs {fields : List Field} (h : ∀ f ∈ fields, f.IsNamed) :
    ∃ s, constructorArgs fields = .ok s := by
  have hlocal : ∀ f ∈ fields, ∃ s, localName f = .ok s := by
    intro f hf
    obtain ⟨name, hname⟩ := h f hf
    simp [localName, hname, Json.textOr]
  obtain ⟨locals, hlocals⟩ := exists_mapM_eq_ok hlocal
  simp [constructorArgs, hlocals]

/-! ## The structs of a function -/

/-- The fields of a result are the field of what is given back and those of the exceptions. -/
theorem mem_resultStruct {f : ServiceFunction} {g : Field} (h : g ∈ (resultStruct f).fields) :
    successField? f = some g ∨ ∃ t ∈ f.throws, thrownField t = g := by
  rcases List.mem_append.mp h with h | h
  · exact .inl (Option.mem_toList.mp h)
  · exact .inr (List.mem_map.mp h)

theorem successField_eq {f : ServiceFunction} {g : Field} (h : successField? f = some g) :
    g.name = .str "success" ∧ g.default? = none := by
  unfold successField? at h
  split at h
  · cases h
  · cases h
    exact ⟨rfl, rfl⟩

theorem argsStruct_isNamed {f : ServiceFunction} (hf : f.IsNamed) : (argsStruct f).IsNamed := hf.args

theorem resultStruct_isNamed {f : ServiceFunction} (hf : f.IsNamed) : (resultStruct f).IsNamed := by
  intro g hg
  rcases mem_resultStruct hg with hsuccess | ⟨t, ht, rfl⟩
  · exact ⟨_, (successField_eq hsuccess).1⟩
  · exact hf.throws t ht

theorem argsStruct_hasTextNames {f : ServiceFunction} (hf : f.HasTextNames) :
    (argsStruct f).HasTextNames := ⟨⟨_, rfl⟩, hf.args⟩

theorem resultStruct_hasTextNames {f : ServiceFunction} (hf : f.HasTextNames) :
    (resultStruct f).HasTextNames := by
  refine ⟨⟨_, rfl⟩, fun g hg => ?_⟩
  rcases mem_resultStruct hg with hsuccess | ⟨t, ht, rfl⟩
  · obtain ⟨hname, hdefault⟩ := successField_eq hsuccess
    exact ⟨⟨_, hname⟩, fun c hc => by rw [hdefault] at hc; cases hc⟩
  · exact ⟨(hf.throws t ht).name, fun c hc => by cases hc⟩

theorem exists_throwNames {f : ServiceFunction} (hf : f.IsNamed) :
    ∃ ts, (f.throws.mapM fun t => used (t.name.textOr .wrongKind)) = .ok ts :=
  exists_mapM_eq_ok fun t ht => exists_used_textOr (hf.throws t ht) .wrongKind

end ThriftScala.Scala
