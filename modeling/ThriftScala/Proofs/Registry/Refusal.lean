/-
  What a refused registration leaves behind.

  A registration is refused for one of two reasons.  If there is no class of generators, nothing has
  been done yet and the registry is as it was.  If an alias is refused, the class is set already, and
  so are the aliases in front of the refused one: the language stays behind with those of them that
  were free (`addAliases_refused`).  Everything else is as before: a name that stood for a language
  other than the new one still stands for it (`resolve_enlarged`, `classOf_enlarged`).

  So the registry is unchanged exactly if the class was refused (`register_refused`).
-/
import ThriftScala.Proofs.Entries
import ThriftScala.Proofs.Outcome
import ThriftScala.Registry

namespace ThriftScala.Registry

/-- The registry with a new language and new aliases for it behind those that are there. -/
def enlarged (r : Registry) (language : String) (c : GeneratorClass) (taken : List String) :
    Registry :=
  { generators := r.generators ++ [(language, c)]
    aliases := r.aliases ++ taken.map fun k => (k, language) }

/-- The name is neither a language nor an alias. -/
def IsFree (r : Registry) (key : String) : Prop := key ∉ r.generators.keys ∧ key ∉ r.aliases.keys

/-! ## Aliases one by one -/

/-- An alias that is not refused is free, or stands for the language already. -/
theorem free_or_bound {r : Registry} {language name : String}
    (h : r.aliasConflict? language name = none) :
    r.IsFree name.lowered ∨ r.aliases.get? name.lowered = some language := by
  unfold aliasConflict? at h
  by_cases hlanguage : r.generators.has name.lowered = true
  · simp [hlanguage] at h
  · have hnew := Entries.has_eq_false_iff.mp (Bool.not_eq_true _ ▸ hlanguage)
    cases htarget : r.aliases.get? name.lowered with
    | none => exact .inl ⟨hnew, Entries.get?_eq_none_iff.mp htarget⟩
    | some target =>
      by_cases hsame : target = language
      · exact .inr (by rw [hsame])
      · simp [hlanguage, htarget, hsame] at h

/-- Where an alias is refused, the free ones in front of it have been added, and nothing else has
    changed.  With replacement no alias is refused. -/
theorem addAliases_refused {language : String} {replacing : Bool} {after : Registry}
    {e : RegistryError} : ∀ {names : List String} {r : Registry},
    addAliases r language replacing names = (after, .error e) →
    replacing = false ∧
    (∃ taken : List String, (∀ k ∈ taken, r.IsFree k) ∧
      after = { r with aliases := r.aliases ++ taken.map fun k => (k, language) }) ∧
    ∃ name ∈ names, after.aliasConflict? language name = some e
  | [], r, h => by simp [addAliases] at h
  | name :: names, r, h => by
    rw [addAliases] at h
    -- what is found for the names behind this one holds of all names
    have later : ∀ {p : String → Prop}, (∃ n ∈ names, p n) → ∃ n ∈ name :: names, p n :=
      fun ⟨n, hn, hp⟩ => ⟨n, List.mem_cons_of_mem name hn, hp⟩
    by_cases hself : name.lowered = language
    · rw [if_pos hself] at h
      obtain ⟨hreplacing, htaken, hconflict⟩ := addAliases_refused h
      exact ⟨hreplacing, htaken, later hconflict⟩
    · rw [if_neg hself] at h
      cases hr : replacing with
      | true =>
        subst hr
        simp only [if_pos] at h
        obtain ⟨hreplacing, -⟩ := addAliases_refused h
        exact absurd hreplacing (by decide)
      | false =>
        subst hr
        simp only [Bool.false_eq_true, if_false] at h
        cases hconflict : r.aliasConflict? language name with
        | some e' =>
          rw [hconflict] at h
          cases h
          exact ⟨rfl, ⟨[], by simp, by simp⟩, name, List.mem_cons_self, hconflict⟩
        | none =>
          rw [hconflict] at h
          obtain ⟨-, ⟨taken, hfree, hafter⟩, hrefused⟩ := addAliases_refused h
          rcases free_or_bound hconflict with hnew | hbound
          · rw [Entries.set_of_absent hnew.2] at hafter hfree
            refine ⟨rfl, ⟨name.lowered :: taken, ?_, ?_⟩, later hrefused⟩
            · intro k hk
              rcases List.mem_cons.mp hk with rfl | hk
              · exact hnew
              · obtain ⟨hgenerator, halias⟩ := hfree k hk
                refine ⟨hgenerator, fun hmem => halias ?_⟩
                rw [Entries.keys_append]
                exact List.mem_append_left _ hmem
            · rw [hafter]
              simp
          · rw [Entries.set_of_bound hbound] at hafter hfree
            exact ⟨rfl, ⟨taken, hfree, hafter⟩, later hrefused⟩

/-! ## Names that were there -/

variable {r : Registry} {language : String} {c : GeneratorClass} {taken : List String}

/-- A name that stood for a language still stands for it, unless it is the new language itself. -/
theorem resolve_enlarged {name target : String} (hname : name.lowered ≠ language)
    (h : r.resolve name = .ok target) : (r.enlarged language c taken).resolve name = .ok target := by
  have hsame : (r.enlarged language c taken).generators.has name.lowered =
      r.generators.has name.lowered := by
    simp [enlarged, Entries.has, Entries.get?_append, Entries.get?_cons, Ne.symm hname]
  simp only [resolve, hsame] at h ⊢
  split at h
  case isTrue hlanguage => rwa [if_pos hlanguage]
  case isFalse hlanguage =>
    rw [if_neg hlanguage]
    cases halias : r.aliases.get? name.lowered with
    | none =>
      rw [halias] at h
      cases h
    | some l =>
      have halias' : (r.enlarged language c taken).aliases.get? name.lowered = some l := by
        simp [enlarged, Entries.get?_append, halias]
      rw [halias] at h
      rw [halias']
      exact h

/-- A name that had a class still has it, unless it is the new language itself. -/
theorem classOf_enlarged {name : String} {c' : GeneratorClass} (hname : name.lowered ≠ language)
    (h : r.classOf name = .ok c') : (r.enlarged language c taken).classOf name = .ok c' := by
  obtain ⟨target, htarget, hclass⟩ := Outcome.bind_eq_ok.mp h
  refine Outcome.bind_eq_ok.mpr ⟨target, resolve_enlarged hname htarget, ?_⟩
  cases hget : r.generators.get? target with
  | none =>
    rw [hget] at hclass
    cases hclass
  | some c₀ =>
    have hget' : (r.enlarged language c taken).generators.get? target = some c₀ := by
      simp [enlarged, Entries.get?_append, hget]
    rw [hget] at hclass
    rw [hget']
    exact hclass

/-! ## Registrations -/

/-- A registration that is refused when its aliases are any value is refused for a list of texts. -/
theorem register_of_registerWith {class? : Option GeneratorClass} {aliases : Json}
    {replacing : Bool} {after : Registry} {e : RegistryError}
    (h : r.registerWith language class? aliases replacing = (after, .error e))
    (he : ∀ m, e ≠ .misuse m) :
    ∃ names, r.register language class? names replacing = (after, .error e) := by
  simp only [registerWith] at h
  split at h
  · exact ⟨[], h⟩
  · split at h
    · cases h
      exact absurd rfl (he _)
    · rename_i elems _
      split at h
      · split at h
        · cases h
        · cases h
          exact absurd rfl (he _)
      · exact ⟨_, h⟩

/-- **A refused registration keeps the registry only if the class is refused.**  If an alias is
    refused, the language stays behind with its class and with free names as aliases, and nothing
    else is changed: every other name stands for the language and for the class that it stood for. -/
theorem register_refused {r : Registry} {language : String} {class? : Option GeneratorClass}
    {aliases : Json} {replacing : Bool} {after : Registry} {e : RegistryError}
    (h : r.registerWith language class? aliases replacing = (after, .error e))
    (he : ∀ m, e ≠ .misuse m) :
    (after = r ↔ class? = none) ∧
    ∀ c, class? = some c →
      replacing = false ∧ language.lowered ∉ r.generators.keys ∧
      (∃ taken : List String, (∀ k ∈ taken, r.IsFree k ∧ k ≠ language.lowered) ∧
        after = r.enlarged language.lowered c taken) ∧
      (∃ name, after.aliasConflict? language.lowered name = some e) ∧
      ∀ name, name.lowered ≠ language.lowered →
        (∀ target, r.resolve name = .ok target → after.resolve name = .ok target) ∧
        ∀ c', r.classOf name = .ok c' → after.classOf name = .ok c' := by
  obtain ⟨names, h⟩ := register_of_registerWith h he
  cases class? with
  | none =>
    cases h
    exact ⟨⟨fun _ => rfl, fun _ => rfl⟩, fun c hc => by cases hc⟩
  | some c =>
    rw [register] at h
    split at h
    case isTrue => cases h
    case isFalse hnew =>
      -- the aliases before the one refused are taken already
      obtain ⟨rfl, ⟨taken, hfree, hafter⟩, name, -, hconflict⟩ := addAliases_refused h
      have habsent : language.lowered ∉ r.generators.keys := by
        rw [← Entries.has_iff]
        simpa using hnew
      rw [Entries.set_of_absent habsent] at hafter hfree
      have hafter : after = r.enlarged language.lowered c taken := hafter
      refine ⟨⟨fun hsame => ?_, fun hnone => by cases hnone⟩, fun c₀ hc => ?_⟩
      · -- one language more than before
        have hlength := congrArg (·.generators.length) (hafter.symm.trans hsame)
        simp [enlarged] at hlength
      · cases hc
        refine ⟨rfl, habsent, ⟨taken, fun k hk => ?_, hafter⟩, ⟨name, hconflict⟩, ?_⟩
        · obtain ⟨hgenerators, haliases⟩ := hfree k hk
          simp only [Entries.keys_append, List.mem_append, not_or] at hgenerators
          exact ⟨⟨hgenerators.1, haliases⟩, by simpa [Entries.keys] using hgenerators.2⟩
        · subst hafter
          exact fun name hname =>
            ⟨fun target => resolve_enlarged hname, fun c' => classOf_enlarged hname⟩

/-- A second language that wants an alias of the first is refused, and is there all the same. -/
theorem scrooge_is_refused_to_other :
    let other : GeneratorClass := ⟨"OtherGenerator"⟩
    let after : Registry :=
      { generators := [("scala", scalaClass), ("other", other)]
        aliases := [("scrooge", "scala")] }
    builtIn.registerWith "other" (some other) (.arr [.str "scrooge"]) false =
      (after, .error (.aliasTaken "scrooge" "scala")) ∧
    builtIn.supports "other" = false ∧ after.supports "other" = true ∧ after ≠ builtIn := by
  intro other after
  have h : builtIn.registerWith "other" (some other) (.arr [.str "scrooge"]) false =
      (after, .error (.aliasTaken "scrooge" "scala")) := rfl
  refine ⟨h, rfl, rfl, fun hsame => ?_⟩
  have hkept := (register_refused h (by simp)).1.mp hsame
  cases hkept

end ThriftScala.Registry
