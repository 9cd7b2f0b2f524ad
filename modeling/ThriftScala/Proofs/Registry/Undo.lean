/-
  Unregistering undoes registering.

  A registration without replacement writes its language and aliases for it, and nothing else: an
  alias that it sets was free, or stood for the language already (`free_or_bound`).  So the aliases
  of all other languages are what they were (`filter_aliases_addAliases`), also where an alias is
  refused in the end.

  Unregistering takes out every alias of the language.  If the language was not there before, none
  of them was either, for in a registry that arises from calls every alias stands for a language
  that is there (`WellFormed.unregister_absent`).
-/
import ThriftScala.Proofs.Registry.Reachable
import ThriftScala.Proofs.Registry.Refusal

namespace ThriftScala.Registry

variable {r : Registry} {language : String}

/-! ## What a registration leaves alone -/

/-- Aliases that are added, with or without replacement, change no language. -/
theorem generators_addAliases (language : String) (replacing : Bool) :
    ∀ (names : List String) (r : Registry),
    (addAliases r language replacing names).1.generators = r.generators
  | [], _ => rfl
  | name :: names, r => by
    rw [addAliases]
    split
    · exact generators_addAliases language replacing names r
    · split
      · rfl
      · exact generators_addAliases language replacing names _

/-- An alias that is not refused goes to the language, and takes nothing from another one. -/
theorem filter_aliases_set {name : String} (h : r.aliasConflict? language name = none) :
    (r.aliases.set name.lowered language).filter (·.2 ≠ language) =
      r.aliases.filter (·.2 ≠ language) := by
  rcases free_or_bound h with hfree | hbound
  · rw [Entries.set_of_absent hfree.2, List.filter_append]
    simp
  · rw [Entries.set_of_bound hbound]

/-- Aliases that are added without replacement take nothing from another language, however far
    they come. -/
theorem filter_aliases_addAliases (language : String) : ∀ (names : List String) (r : Registry),
    (addAliases r language false names).1.aliases.filter (·.2 ≠ language) =
      r.aliases.filter (·.2 ≠ language)
  | [], _ => rfl
  | name :: names, r => by
    rw [addAliases]
    split
    · exact filter_aliases_addAliases language names r
    · split
      · rfl
      · rename_i hconflict
        rw [filter_aliases_addAliases language names]
        exact filter_aliases_set hconflict

/-! ## Languages that are not there -/

/-- A language that is not there has no aliases. -/
theorem WellFormed.filter_aliases_absent (h : r.WellFormed) (hnew : language ∉ r.generators.keys) :
    r.aliases.filter (·.2 ≠ language) = r.aliases := by
  rw [List.filter_eq_self]
  intro e he
  have hne : e.2 ≠ language := fun heq => hnew (heq ▸ h.targets e he)
  simpa using hne

/-- To take a language out that is not there changes nothing. -/
theorem WellFormed.unregister_absent (h : r.WellFormed)
    (hnew : language.lowered ∉ r.generators.keys) : r.unregister language = r := by
  rw [Registry.unregister, Entries.erase_of_absent hnew, h.filter_aliases_absent hnew]

/-- A new language goes with all that its registration wrote. -/
theorem WellFormed.unregister_register (h : r.WellFormed)
    (hnew : language.lowered ∉ r.generators.keys) (class? : Option GeneratorClass)
    (names : List String) : (r.register language class? names false).1.unregister language = r := by
  cases class? with
  | none => exact h.unregister_absent hnew
  | some c =>
    have habsent : r.generators.has language.lowered = false := Entries.has_eq_false_iff.mpr hnew
    simp only [Registry.register, habsent, Bool.false_and, Bool.false_eq_true, if_false]
    rw [Registry.unregister, generators_addAliases, filter_aliases_addAliases,
      Entries.erase_set hnew, h.filter_aliases_absent hnew]

/-- **Unregistering a new language undoes its registration.**  In a registry that arises from any
    calls, let a language that is not there be registered without replacement, with any class and
    any aliases; whether that goes through or not, to take the language out gives the registry as
    it was, with its languages, classes and aliases in their order. -/
theorem unregister_undoes_register (h : Reachable anyCall r)
    (hnew : language.lowered ∉ r.generators.keys) (class? : Option GeneratorClass)
    (aliases : Json) :
    ((r.perform (.register language class? aliases false)).1.perform (.unregister language)).1 =
      r := by
  obtain ⟨names, hafter, -⟩ := exists_register r language class? aliases false
  simp only [perform, hafter]
  exact h.wellFormed.unregister_register hnew class? names

/-- A language is registered whose name is an alias of another one, with an alias given twice and
    its own name among the aliases, and is taken out again. -/
theorem scrooge_comes_and_goes :
    let other : GeneratorClass := ⟨"OtherGenerator"⟩
    let r : Registry :=
      { generators := [("scala", scalaClass)], aliases := [("scrooge", "scala")] }
    let aliases : Json := .arr [.str "sc", .str "SCROOGE", .str "SC"]
    let after : Registry :=
      { generators := [("scala", scalaClass), ("scrooge", other)]
        aliases := [("scrooge", "scala"), ("sc", "scrooge")] }
    Reachable anyCall r ∧ r.perform (.register "Scrooge" (some other) aliases false) =
      (after, .ok ()) ∧ (after.perform (.unregister "Scrooge")).1 = r := by
  intro other r aliases after
  have h : Reachable anyCall r :=
    Reachable.empty
      |>.call (.register "scala" (some scalaClass) (.arr [.str "scrooge"]) false) trivial
  have hafter : r.perform (.register "Scrooge" (some other) aliases false) = (after, .ok ()) := rfl
  have hnew : "Scrooge".lowered ∉ r.generators.keys := by decide
  have hundone := unregister_undoes_register h hnew (some other) aliases
  rw [hafter] at hundone
  exact ⟨h, hafter, hundone⟩

end ThriftScala.Registry
