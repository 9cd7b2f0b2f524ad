/-
  Names that belong to two languages.

  A registration that does not replace looks at every new alias, whether it is a language or stands
  for another one.  It does not look whether the new language itself is an alias already.  So a
  name can become a language while it stands for another one (`Clash`), and it is then listed under
  both, although only the language is found by it.

  `clash_register` and `clash_unregister` say what one call does to such names: they come about in
  no other way, and they go with either of the two languages.  `names_of_reachable` puts this
  together with the lists: a name belongs to one language exactly if it is no such name.
-/
import ThriftScala.Proofs.Registry.Reachable
import ThriftScala.Proofs.Text.Case

namespace ThriftScala.Registry

/-- The call is an unregistration, or a registration that does not replace and goes through. -/
def Adds (r : Registry) : Call → Prop
  | .register language class? aliases replacing =>
    replacing = false ∧ (r.registerWith language class? aliases replacing).2 = .ok ()
  | .unregister _ => True

/-- The name is a language and at the same time an alias. -/
def Clash (r : Registry) (name : String) : Prop :=
  name ∈ r.generators.keys ∧ name ∈ r.aliases.keys

/-- The name is listed under the language. -/
def Lists (r : Registry) (language name : String) : Prop :=
  ∃ names, (language, names) ∈ r.allNames ∧ name ∈ names

/-! ## What is listed -/

/-- A language is listed under itself and an alias under the language that it stands for. -/
theorem lists_iff {r : Registry} (hr : r.WellFormed) {language name : String} :
    r.Lists language name ↔
      language ∈ r.generators.keys ∧
        (name = language ∨ r.aliases.get? name = some language) := by
  have hlisted : language ∈ r.generators.keys →
      (name ∈ r.aliasesOf language ↔ r.aliases.get? name = some language) := by
    intro hl
    -- a language is in lower case, so its aliases are looked up under its own name
    obtain ⟨spelling, rfl⟩ := hr.lowered language (.inl hl)
    simp only [aliasesOf, sorted, List.mem_mergeSort, List.mem_map, List.mem_filter,
      decide_eq_true_eq, String.lowered_lowered]
    constructor
    · rintro ⟨e, ⟨he, heq⟩, rfl⟩
      exact Entries.get?_of_mem hr.aliases (heq ▸ he)
    · intro h
      exact ⟨(name, spelling.lowered), ⟨Entries.mem_of_get? h, rfl⟩, rfl⟩
  constructor
  · rintro ⟨names, hmem, hname⟩
    obtain ⟨l, hl, heq⟩ := List.mem_map.mp hmem
    cases heq
    exact ⟨hl, (List.mem_cons.mp hname).imp_right (hlisted hl).mp⟩
  · rintro ⟨hl, hname⟩
    exact ⟨_, List.mem_map_of_mem hl, List.mem_cons.mpr (hname.imp_right (hlisted hl).mpr)⟩

/-- What is listed is in lower case. -/
theorem Lists.lowered_eq {r : Registry} (hr : r.WellFormed) {language name : String}
    (h : r.Lists language name) : name.lowered = name := by
  have hname : name ∈ r.generators.keys ∨ name ∈ r.aliases.keys := by
    rcases (lists_iff hr).mp h with ⟨hl, rfl | halias⟩
    · exact .inl hl
    · exact .inr (Entries.get?_isSome_iff.mp (by rw [halias]; rfl))
  obtain ⟨spelling, rfl⟩ := hr.lowered name hname
  exact String.lowered_lowered spelling

/-- A listed name is found under another language exactly if it is a language of its own. -/
theorem listed_once_iff {r : Registry} (hr : r.WellFormed) {language name : String}
    (h : r.Lists language name) :
    (∀ other, r.Lists other name → other = language) ↔ ¬ r.Clash name := by
  obtain ⟨hl, hname⟩ := (lists_iff hr).mp h
  constructor
  · rintro honce ⟨hown, halias⟩
    obtain ⟨target, htarget⟩ :=
      Option.isSome_iff_exists.mp (Entries.get?_isSome_iff.mpr halias)
    have hself := honce name ((lists_iff hr).mpr ⟨hown, .inl rfl⟩)
    have hother := honce target ((lists_iff hr).mpr ⟨hr.target_mem htarget, .inr htarget⟩)
    exact hr.others (name, target) (Entries.mem_of_get? htarget) (hself.trans hother.symm)
  · intro hclash other hother
    obtain ⟨ho, hother⟩ := (lists_iff hr).mp hother
    have hnoAlias : name ∈ r.generators.keys → r.aliases.get? name = none := fun hown =>
      Entries.get?_eq_none_iff.mpr fun halias => hclash ⟨hown, halias⟩
    rcases hname with rfl | hname <;> rcases hother with rfl | hother
    · rfl
    · rw [hnoAlias hl] at hother
      cases hother
    · rw [hnoAlias ho] at hname
      cases hname
    · exact Option.some.inj (hother.symm.trans hname)

/-- A listed name resolves to the language that it is listed under, unless it is an alias there and
    a language of its own. -/
theorem resolve_listed_iff {r : Registry} (hr : r.WellFormed) {language name : String}
    (h : r.Lists language name) :
    r.resolve name = .ok language ↔ name = language ∨ ¬ r.Clash name := by
  obtain ⟨hl, hname⟩ := (lists_iff hr).mp h
  rw [resolve_eq_ok, h.lowered_eq hr]
  constructor
  · rintro (⟨-, heq⟩ | ⟨hown, -⟩)
    · exact .inl heq.symm
    · exact .inr fun hclash => hown hclash.1
  · rintro (rfl | hclash)
    · exact .inl ⟨hl, rfl⟩
    · rcases hname with rfl | hname
      · exact .inl ⟨hl, rfl⟩
      · have halias := Entries.get?_isSome_iff.mp (by rw [hname]; rfl : (r.aliases.get? name).isSome)
        exact .inr ⟨fun hown => hclash ⟨hown, halias⟩, hname⟩

/-! ## What a call does to clashes -/

/-- A language is refused as an alias. -/
theorem not_language_of_no_conflict {r : Registry} {language name : String}
    (h : r.aliasConflict? language name = none) : name.lowered ∉ r.generators.keys := by
  intro hmem
  rw [aliasConflict?, if_pos (Entries.has_iff.mpr hmem)] at h
  cases h

/-- Aliases that are added without replacement make no language an alias. -/
theorem addAliases_added {language : String} {after : Registry} :
    ∀ {names : List String} {r : Registry},
    addAliases r language false names = (after, .ok ()) →
    after.generators = r.generators ∧
      ∀ k ∈ r.generators.keys, (k ∈ after.aliases.keys ↔ k ∈ r.aliases.keys)
  | [], r, h => by
    cases h
    exact ⟨rfl, fun _ _ => Iff.rfl⟩
  | name :: names, r, h => by
    rw [addAliases] at h
    split at h
    · exact addAliases_added h
    · split at h
      · cases h
      · rename_i hconflict
        have hfree : name.lowered ∉ r.generators.keys := not_language_of_no_conflict hconflict
        obtain ⟨hgenerators, haliases⟩ := addAliases_added h
        refine ⟨hgenerators, fun k hk => (haliases k hk).trans ?_⟩
        have hne : k ≠ name.lowered := fun heq => hfree (heq ▸ hk)
        simp [Entries.mem_keys_set, hne]

/-- **A clash comes about only where a language is registered whose name is an alias already.** -/
theorem clash_register {r after : Registry} {language : String} {class? : Option GeneratorClass}
    {aliases : Json} (h : r.registerWith language class? aliases false = (after, .ok ()))
    (name : String) :
    after.Clash name ↔
      r.Clash name ∨ (name = language.lowered ∧ name ∈ r.aliases.keys) := by
  obtain ⟨names, hafter, hok⟩ := exists_register r language class? aliases false
  rw [h] at hafter hok
  have hregister : r.register language class? names false = (after, .ok ()) :=
    Prod.ext hafter.symm (hok rfl)
  cases class? with
  | none => cases hregister
  | some c =>
    rw [register] at hregister
    split at hregister
    · rename_i hthere
      cases hregister
      -- the language was there and nothing was changed, so the new clash is an old one
      have hmem : language.lowered ∈ r.generators.keys := Entries.has_iff.mp (by simpa using hthere)
      constructor
      · exact .inl
      · rintro (hclash | ⟨rfl, halias⟩)
        · exact hclash
        · exact ⟨hmem, halias⟩
    · obtain ⟨hgenerators, haliases⟩ := addAliases_added hregister
      -- the language is new: only its own name can become a language and stay an alias
      have hlanguage : name ∈ after.generators.keys ↔
          name = language.lowered ∨ name ∈ r.generators.keys := by
        rw [hgenerators, Entries.mem_keys_set]
      constructor
      · rintro ⟨hown, halias⟩
        have halias := (haliases name (hgenerators ▸ hown)).mp halias
        rcases hlanguage.mp hown with heq | hown
        · exact .inr ⟨heq, halias⟩
        · exact .inl ⟨hown, halias⟩
      · intro hclash
        have hown : name ∈ after.generators.keys := hlanguage.mpr (by
          rcases hclash with hclash | ⟨heq, -⟩
          · exact .inr hclash.1
          · exact .inl heq)
        have halias : name ∈ r.aliases.keys := by
          rcases hclash with hclash | ⟨-, halias⟩
          · exact hclash.2
          · exact halias
        exact ⟨hown, (haliases name (hgenerators ▸ hown)).mpr halias⟩

/-- A clash goes with the language of the name and with the language that the name stands for. -/
theorem clash_unregister {r : Registry} (hr : r.WellFormed) (language name : String) :
    (r.unregister language).Clash name ↔
      r.Clash name ∧ name ≠ language.lowered ∧ r.aliases.get? name ≠ some language.lowered := by
  -- the aliases left are those of other languages; a key has one target
  have halias : name ∈ (r.unregister language).aliases.keys ↔
      name ∈ r.aliases.keys ∧ r.aliases.get? name ≠ some language.lowered := by
    simp only [unregister, Entries.mem_keys, List.mem_filter, decide_eq_true_eq]
    constructor
    · rintro ⟨target, hmem, hother⟩
      refine ⟨⟨target, hmem⟩, fun h => hother ?_⟩
      rw [Entries.get?_of_mem hr.aliases hmem] at h
      exact Option.some.inj h
    · rintro ⟨⟨target, hmem⟩, hother⟩
      refine ⟨target, hmem, fun heq => hother ?_⟩
      rw [Entries.get?_of_mem hr.aliases hmem]
      exact congrArg some heq
  unfold Clash
  rw [halias, show (r.unregister language).generators = r.generators.erase language.lowered from rfl,
    Entries.mem_keys_erase]
  constructor
  · rintro ⟨⟨hown, hne⟩, halias, hother⟩
    exact ⟨⟨hown, halias⟩, hne, hother⟩
  · rintro ⟨⟨hown, halias⟩, hne, hother⟩
    exact ⟨⟨hown, hne⟩, halias, hother⟩

/-! ## Names of registries that arise -/

/-- **A name belongs to one language unless it is a language and an alias at once.**  In a registry
    that arises from registrations without replacement that go through, and from unregistrations, a
    listed name is listed under one language exactly if it is no clash, and it resolves to the
    language that it is listed under unless it is a clash listed as an alias.  Of the calls, only
    the registration of a language that is an alias at this moment makes a clash. -/
theorem names_of_reachable {r : Registry} (h : Reachable Adds r) :
    (∀ language name, r.Lists language name →
      ((∀ other, r.Lists other name → other = language) ↔ ¬ r.Clash name) ∧
      (r.resolve name = .ok language ↔ name = language ∨ ¬ r.Clash name)) ∧
    (∀ language class? aliases after,
      r.registerWith language class? aliases false = (after, .ok ()) → ∀ name,
      (after.Clash name ↔ r.Clash name ∨ (name = language.lowered ∧ name ∈ r.aliases.keys))) ∧
    ∀ language name, ((r.unregister language).Clash name ↔
      r.Clash name ∧ name ≠ language.lowered ∧
        r.aliases.get? name ≠ some language.lowered) := by
  have hr := h.wellFormed
  refine ⟨fun language name hlists => ?_, fun language class? aliases after hregister => ?_, ?_⟩
  · exact ⟨listed_once_iff hr hlists, resolve_listed_iff hr hlists⟩
  · exact clash_register hregister
  · exact clash_unregister hr

/-- After an alias is registered as a language it is listed under both languages. -/
theorem scrooge_is_listed_twice :
    let other : GeneratorClass := ⟨"OtherGenerator"⟩
    let r : Registry :=
      { generators := [("scala", scalaClass), ("scrooge", other)]
        aliases := [("scrooge", "scala")] }
    Reachable Adds r ∧ r.Clash "scrooge" ∧ r.Lists "scala" "scrooge" ∧ r.Lists "scrooge" "scrooge" ∧
      r.resolve "scrooge" = .ok "scrooge" ∧ r.resolve "scrooge" ≠ .ok "scala" := by
  intro other r
  have h : Reachable Adds r :=
    Reachable.empty
      |>.call (.register "scala" (some scalaClass) (.arr [.str "scrooge"]) false) ⟨rfl, rfl⟩
      |>.call (.register "scrooge" (some other) .null false) ⟨rfl, rfl⟩
  have hclash : r.Clash "scrooge" := ⟨by decide, by decide⟩
  have hscala : r.Lists "scala" "scrooge" :=
    (lists_iff h.wellFormed).mpr ⟨by decide, .inr rfl⟩
  have hown : r.Lists "scrooge" "scrooge" := (lists_iff h.wellFormed).mpr ⟨by decide, .inl rfl⟩
  obtain ⟨hlisted, -⟩ := names_of_reachable h
  refine ⟨h, hclash, hscala, hown, (hlisted _ _ hown).2.mpr (.inl rfl), fun hresolve => ?_⟩
  rcases (hlisted _ _ hscala).2.mp hresolve with heq | hno
  · exact absurd heq (by decide)
  · exact hno hclash

end ThriftScala.Registry
