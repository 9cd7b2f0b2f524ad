/-
  Registries that arise from calls.

  A registry starts empty and changes by calls: registrations, with or without replacement, that go
  through or stop half way, and unregistrations (`Reachable`).  Whatever was called, the registry is
  in order (`WellFormed`): no name comes twice, and every alias stands for a language that is there
  and is another name.

  One step is enough for that, and the step of a registration is that of one alias
  (`WellFormed.setAlias`): the language of the new alias was entered just before, so even a
  registration that stops in the middle leaves no alias without its language.
-/
import ThriftScala.Proofs.Entries
import ThriftScala.Proofs.Outcome
import ThriftScala.Registry

namespace ThriftScala.Registry

/-! ## Calls -/

/-- What can be asked of a registry to change it. -/
inductive Call where
  | register (language : String) (class? : Option GeneratorClass) (aliases : Json)
      (replacing : Bool)
  | unregister (language : String)

/-- The registry after a call, and what went wrong in it. -/
def perform (r : Registry) : Call → Registry × Except RegistryError Unit
  | .register language class? aliases replacing =>
    r.registerWith language class? aliases replacing
  | .unregister language => (r.unregister language, .ok ())

/-- The registries that arise from the empty one by calls of the allowed kind. -/
inductive Reachable (allowed : Registry → Call → Prop) : Registry → Prop
  | empty : Reachable allowed {}
  | call {r : Registry} (c : Call) : Reachable allowed r → allowed r c →
      Reachable allowed (r.perform c).1

/-- Every call is allowed. -/
def anyCall (_ : Registry) (_ : Call) : Prop := True

/-! ## Registries in order -/

/-- No name comes twice, all names are in lower case, and every alias stands for a language that is
    there and has another name. -/
structure WellFormed (r : Registry) : Prop where
  languages : r.generators.keys.Nodup
  aliases : r.aliases.keys.Nodup
  lowered : ∀ k, k ∈ r.generators.keys ∨ k ∈ r.aliases.keys → ∃ name : String, k = name.lowered
  targets : ∀ e ∈ r.aliases, e.2 ∈ r.generators.keys
  others : ∀ e ∈ r.aliases, e.1 ≠ e.2

namespace WellFormed

variable {r : Registry}

theorem empty : WellFormed {} where
  languages := List.nodup_nil
  aliases := List.nodup_nil
  lowered k hk := by simp [Entries.keys] at hk
  targets e he := by cases he
  others e he := by cases he

/-- The language that an alias stands for is there. -/
theorem target_mem (h : r.WellFormed) {k language : String}
    (hk : r.aliases.get? k = some language) : language ∈ r.generators.keys :=
  h.targets (k, language) (Entries.mem_of_get? hk)

/-- A class may be set for any language. -/
theorem setClass (h : r.WellFormed) (language : String) (c : GeneratorClass) :
    WellFormed { r with generators := r.generators.set language.lowered c } where
  languages := Entries.nodup_keys_set h.languages _ _
  aliases := h.aliases
  lowered k hk := by
    rw [Entries.mem_keys_set] at hk
    rcases hk with (rfl | hk) | hk
    · exact ⟨language, rfl⟩
    · exact h.lowered k (.inl hk)
    · exact h.lowered k (.inr hk)
  targets e he := Entries.mem_keys_set.mpr (.inr (h.targets e he))
  others := h.others

/-- An alias may be set for a language that is there and has another name. -/
theorem setAlias (h : r.WellFormed) {language name : String} (hl : language ∈ r.generators.keys)
    (hname : name.lowered ≠ language) :
    WellFormed { r with aliases := r.aliases.set name.lowered language } where
  languages := h.languages
  aliases := Entries.nodup_keys_set h.aliases _ _
  lowered k hk := by
    rw [Entries.mem_keys_set] at hk
    rcases hk with hk | rfl | hk
    · exact h.lowered k (.inl hk)
    · exact ⟨name, rfl⟩
    · exact h.lowered k (.inr hk)
  targets e he := by
    rcases Entries.mem_of_mem_set he with rfl | he
    · exact hl
    · exact h.targets e he
  others e he := by
    rcases Entries.mem_of_mem_set he with rfl | he
    · exact hname
    · exact h.others e he

/-- Aliases one by one keep the order, however far they come. -/
theorem addAliases {language : String} {replacing : Bool} : ∀ {names : List String} {r : Registry},
    r.WellFormed → language ∈ r.generators.keys →
    (Registry.addAliases r language replacing names).1.WellFormed
  | [], _, h, _ => h
  | name :: names, r, h, hl => by
    rw [Registry.addAliases]
    split
    · exact addAliases h hl
    · rename_i hname
      split
      · exact h
      · exact addAliases (h.setAlias hl hname) hl

theorem register (h : r.WellFormed) (language : String) (class? : Option GeneratorClass)
    (names : List String) (replacing : Bool) :
    (r.register language class? names replacing).1.WellFormed := by
  cases class? with
  | none => exact h
  | some c =>
    rw [Registry.register]
    split
    · exact h
    · exact addAliases (h.setClass language c) (Entries.mem_keys_set.mpr (.inl rfl))

/-- The aliases of a language go with it, so no other alias loses its language. -/
theorem unregister (h : r.WellFormed) (language : String) :
    (r.unregister language).WellFormed where
  languages := Entries.nodup_keys_filter h.languages _
  aliases := Entries.nodup_keys_filter h.aliases _
  lowered k hk := by
    refine h.lowered k (hk.imp (fun hk => (Entries.mem_keys_erase.mp hk).1) fun hk => ?_)
    obtain ⟨v, hv⟩ := Entries.mem_keys.mp hk
    exact Entries.mem_keys.mpr ⟨v, (List.mem_filter.mp hv).1⟩
  targets e he := by
    obtain ⟨hmem, hother⟩ := List.mem_filter.mp he
    exact Entries.mem_keys_erase.mpr ⟨h.targets e hmem, by simpa using hother⟩
  others e he := h.others e (List.mem_filter.mp he).1

end WellFormed

/-! ## Registrations with aliases of any kind -/

/-- A registration with aliases that may be any value leaves what one with a list of texts leaves,
    and goes through only if that does. -/
theorem exists_register (r : Registry) (language : String) (class? : Option GeneratorClass)
    (aliases : Json) (replacing : Bool) :
    ∃ names, (r.registerWith language class? aliases replacing).1 =
        (r.register language class? names replacing).1 ∧
      ((r.registerWith language class? aliases replacing).2 = .ok () →
        (r.register language class? names replacing).2 = .ok ()) := by
  simp only [registerWith]
  split
  · exact ⟨[], rfl, id⟩
  · split
    · exact ⟨[], rfl, fun h => by cases h⟩
    · split
      · rename_i after heq
        exact ⟨_, (congrArg Prod.fst heq).symm, fun _ => congrArg Prod.snd heq⟩
      · exact ⟨_, rfl, id⟩

theorem WellFormed.perform {r : Registry} (h : r.WellFormed) (c : Call) :
    (r.perform c).1.WellFormed := by
  cases c with
  | register language class? aliases replacing =>
    obtain ⟨names, hafter, -⟩ := exists_register r language class? aliases replacing
    rw [Registry.perform, hafter]
    exact h.register language class? names replacing
  | unregister language => exact h.unregister language

/-- **Every registry that arises is in order.** -/
theorem Reachable.wellFormed {allowed : Registry → Call → Prop} {r : Registry}
    (h : Reachable allowed r) : r.WellFormed := by
  induction h with
  | empty => exact .empty
  | call c _ _ ih => exact ih.perform c

/-! ## Names and languages -/

/-- A name is known if it is a language or an alias. -/
theorem supports_iff {r : Registry} {name : String} :
    r.supports name = true ↔ name.lowered ∈ r.generators.keys ∨ name.lowered ∈ r.aliases.keys := by
  rw [supports, Bool.or_eq_true, Entries.has_iff, Entries.has_iff]

/-- A language stands for itself, and another name for what it is an alias of. -/
theorem resolve_eq_ok {r : Registry} {name language : String} :
    r.resolve name = .ok language ↔
      (name.lowered ∈ r.generators.keys ∧ language = name.lowered) ∨
        (name.lowered ∉ r.generators.keys ∧ r.aliases.get? name.lowered = some language) := by
  simp only [resolve]
  split
  · rename_i hlanguage
    rw [Entries.has_iff] at hlanguage
    simp [hlanguage, eq_comm]
  · rename_i hlanguage
    rw [Entries.has_iff] at hlanguage
    cases r.aliases.get? name.lowered with
    | none => simp [hlanguage]
    | some target => simp [hlanguage]

/-- **Every known name stands for a language that is there.**  In every registry that arises from
    any calls, each alias stands for a language that is registered; so a name is supported exactly
    if it resolves, what it resolves to is registered, and the class of this language is found. -/
theorem names_stand_for_languages {r : Registry} (h : Reachable anyCall r) :
    (∀ e ∈ r.aliases, e.2 ∈ r.generators.keys) ∧
    ∀ name, (r.supports name = true ↔ ∃ language, r.resolve name = .ok language) ∧
      ∀ language, r.resolve name = .ok language →
        ∃ c, r.generators.get? language = some c ∧ r.classOf name = .ok c := by
  have hr := h.wellFormed
  refine ⟨hr.targets, fun name => ⟨?_, fun language hlanguage => ?_⟩⟩
  · rw [supports_iff]
    constructor
    · intro hknown
      -- a language's own name goes before an alias of the same name
      by_cases hname : name.lowered ∈ r.generators.keys
      · exact ⟨name.lowered, resolve_eq_ok.mpr (.inl ⟨hname, rfl⟩)⟩
      · have halias := Entries.get?_isSome_iff.mpr (hknown.resolve_left hname)
        obtain ⟨language, hlanguage⟩ := Option.isSome_iff_exists.mp halias
        exact ⟨language, resolve_eq_ok.mpr (.inr ⟨hname, hlanguage⟩)⟩
    · rintro ⟨language, hlanguage⟩
      rcases resolve_eq_ok.mp hlanguage with ⟨hname, -⟩ | ⟨-, halias⟩
      · exact .inl hname
      · exact .inr (Entries.get?_isSome_iff.mp (by rw [halias]; rfl))
  · have hmem : language ∈ r.generators.keys := by
      rcases resolve_eq_ok.mp hlanguage with ⟨hname, rfl⟩ | ⟨-, halias⟩
      · exact hname
      · exact hr.target_mem halias
    obtain ⟨c, hc⟩ := Option.isSome_iff_exists.mp (Entries.get?_isSome_iff.mpr hmem)
    refine ⟨c, hc, ?_⟩
    rw [classOf, hlanguage, Outcome.ok_bind, hc]
    rfl

/-- An alias that a replacing registration takes over from another language stands for the new one,
    also after a third language was refused it and the first one was taken out. -/
theorem stolen_alias_stands_for_thief :
    let thief : GeneratorClass := ⟨"ThiefGenerator"⟩
    let r : Registry :=
      { generators := [("thief", thief), ("late", scalaClass)]
        aliases := [("scrooge", "thief")] }
    Reachable anyCall r ∧ r.supports "Scrooge" = true ∧ r.resolve "Scrooge" = .ok "thief" ∧
      r.classOf "Scrooge" = .ok thief := by
  intro thief r
  have h : Reachable anyCall r :=
    Reachable.empty
      |>.call (.register "Scala" (some scalaClass) (.arr [.str "scrooge"]) false) trivial
      |>.call (.register "thief" (some thief) (.arr [.str "Scrooge"]) true) trivial
      |>.call (.register "late" (some scalaClass) (.arr [.str "scrooge", .str "never"]) false) trivial
      |>.call (.unregister "SCALA") trivial
  obtain ⟨-, hnames⟩ := names_stand_for_languages h
  obtain ⟨hsupports, hclass⟩ := hnames "Scrooge"
  have hresolve : r.resolve "Scrooge" = .ok "thief" := rfl
  obtain ⟨c, hc, hclassOf⟩ := hclass "thief" hresolve
  obtain rfl : thief = c := Option.some.inj hc
  exact ⟨h, hsupports.mpr ⟨"thief", hresolve⟩, hresolve, hclassOf⟩

end ThriftScala.Registry
