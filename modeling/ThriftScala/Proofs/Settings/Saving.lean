/-
  Settings that are saved and read again.

  Saving writes the settings with names, and over them the custom settings, all beside each other
  (`toEntries_eq_ok`).  The file holds these entries and they are read from it again
  (`readFile_of_save`), unless its name is only `.json`, which is no name with a suffix.

  Reading sorts the entries by their keys: those with the name of a setting are settings, and the
  others custom settings.  So the settings come back if no custom setting has the name of a setting
  (`reload_of_distinct`).  One that has such a name takes the place of the setting in the file, and
  is no custom setting when it comes back (`distinct_of_reload`).

  What is saved was made of overrides and the defaults of a language (`Layered`).  The defaults lie
  below what is read from the file, and change nothing: the custom settings begin with the keys that
  the defaults set.
-/
import ThriftScala.Proofs.Files
import ThriftScala.Proofs.Json.RoundTrip
import ThriftScala.Proofs.Settings.Layering

namespace ThriftScala

open Outcome

/-! ## Custom settings that are no object -/

namespace KeyedEntries

/-- Entries by text are told apart as entries by any key. -/
theorem ofEntries_injective {es fs : Entries Json} (h : ofEntries es = ofEntries fs) : es = fs := by
  rw [← texts_ofEntries es, h, texts_ofEntries]

/-- An entry that is there after setting one was there before or is the new one. -/
theorem mem_set {es : KeyedEntries} {k v : Json} {e : Json × Json} (h : e ∈ es.set k v) :
    e ∈ es ∨ e.2 = v ∧ (e.1 = k ∨ e.1.sameKey k = true) := by
  induction es with
  | nil =>
    obtain rfl := List.mem_singleton.mp h
    exact .inr ⟨rfl, .inl rfl⟩
  | cons f es ih =>
    obtain ⟨j, w⟩ := f
    rw [set] at h
    split at h
    · rename_i hsame
      rcases List.mem_cons.mp h with rfl | h
      · exact .inr ⟨rfl, .inr hsame⟩
      · exact .inl (List.mem_cons_of_mem _ h)
    · rcases List.mem_cons.mp h with rfl | h
      · exact .inl List.mem_cons_self
      · exact (ih h).imp_left (List.mem_cons_of_mem _)

/-- Every value among entries that are laid over others is one of theirs or of the others. -/
theorem mem_update {es new : KeyedEntries} {e : Json × Json} (h : e ∈ es.update new) :
    e ∈ es ∨ ∃ f ∈ new, f.2 = e.2 := by
  induction new generalizing es with
  | nil => exact .inl h
  | cons f new ih =>
    rcases ih h with h | ⟨g, hg, heq⟩
    · rcases mem_set h with h | ⟨heq, -⟩
      · exact .inl h
      · exact .inr ⟨f, List.mem_cons_self, heq.symm⟩
    · exact .inr ⟨g, List.mem_cons_of_mem f hg, heq⟩

/-- Entries by text do not touch the text of another key. -/
theorem mem_of_mem_update {es : KeyedEntries} {new : Entries Json} {k : String} (hk : k ∉ new.keys)
    {v : Json} (h : (.str k, v) ∈ es.update (.ofEntries new)) : (.str k, v) ∈ es := by
  induction new generalizing es with
  | nil => exact h
  | cons e new ih =>
    obtain ⟨j, w⟩ := e
    rw [Entries.keys_cons, List.mem_cons, not_or] at hk
    rcases mem_set (ih hk.2 h) with h | ⟨-, heq | hsame⟩
    · exact h
    · exact absurd (Json.str.inj heq) hk.1
    · exact absurd (by simpa [Json.sameKey, Json.same] using hsame) hk.1

end KeyedEntries

namespace Json

/-- The elements of a value are texts, unless it is a list. -/
theorem mem_elements {v w : Json} {vs : List Json} (h : v.elements = .ok vs) (hw : w ∈ vs) :
    (∃ s, w = .str s) ∨ v = .arr vs := by
  cases v with
  | str s =>
    cases h
    obtain ⟨c, -, rfl⟩ := List.mem_map.mp hw
    exact .inl ⟨_, rfl⟩
  | arr elems =>
    cases h
    exact .inr rfl
  | obj members =>
    cases h
    obtain ⟨m, -, rfl⟩ := List.mem_map.mp hw
    exact .inl ⟨_, rfl⟩
  | _ => cases h

/-- What stands for an entry has two elements, of which the second is the value. -/
theorem elements_of_entry {x : Json} {e : Json × Json} (h : x.entry = .ok e) :
    x.elements = .ok [e.1, e.2] := by
  obtain ⟨vs, hvs, h⟩ := bind_eq_ok.mp h
  split at h
  · split at h <;> cases h
    exact hvs
  · cases h

/-- An element that stands for an entry does not have the whole value as the value of the entry. -/
theorem snd_ne_of_entry {v x : Json} {vs : List Json} {e : Json × Json}
    (hvs : v.elements = .ok vs) (hx : x ∈ vs) (he : x.entry = .ok e) : e.2 ≠ v := by
  have helems := elements_of_entry he
  rintro rfl
  rcases mem_elements helems (show e.2 ∈ [e.1, e.2] by simp) with ⟨s, hs⟩ | hlist
  · -- the elements of a text are single characters, which stand for no entry
    rw [hs] at hvs
    cases hvs
    obtain ⟨c, -, rfl⟩ := List.mem_map.mp hx
    simp [elements] at helems
  · rcases mem_elements hvs hx with ⟨s, rfl⟩ | houter
    · cases hlist
    · have hinner : sizeOf e.2 < sizeOf x := hlist ▸ sizeOf_lt_arr (by simp)
      have hlt : sizeOf x < sizeOf e.2 := houter ▸ sizeOf_lt_arr hx
      omega

end Json

/-- No entry of a value has the value itself. -/
theorem Custom.snd_ne_of_toEntries {v : Json} {es : KeyedEntries}
    (h : (Custom.value v).toEntries = .ok es) {e : Json × Json} (he : e ∈ es) : e.2 ≠ v := by
  obtain ⟨vs, hvs, h⟩ := bind_eq_ok.mp h
  obtain ⟨pairs, hpairs, h⟩ := bind_eq_ok.mp h
  cases h
  rcases KeyedEntries.mem_update he with h | ⟨f, hf, heq⟩
  · cases h
  · obtain ⟨x, hx, hentry⟩ := mem_of_mapM_eq_ok hpairs hf
    exact heq ▸ Json.snd_ne_of_entry hvs hx hentry

namespace Settings

/-! ## The entries that are saved -/

/-- The settings with names, as they are saved. -/
def named (s : Settings) : Entries Json :=
  [("output_file", s.outputFile), ("package_name", s.packageName), ("line_ending", s.lineEnding),
   ("field_case", s.fieldCase), ("add_comments", s.addComments),
   ("service_options", s.serviceOptions)]

/-- The settings with names, and over them the custom ones. -/
def saved (s : Settings) (custom : Entries Json) : Entries Json := Entries.update s.named custom

theorem keys_named (s : Settings) : s.named.keys = names.dropLast := rfl

theorem nodup_keys_named (s : Settings) : s.named.keys.Nodup := by
  rw [keys_named]
  decide

/-- The names of settings are those that are saved by name, and that of the custom ones. -/
theorem mem_names_iff (s : Settings) {k : String} :
    k ∈ names ↔ k ∈ s.named.keys ∨ k = "custom" := by
  have hkeys : names = s.named.keys ++ ["custom"] := rfl
  rw [hkeys, List.mem_append, List.mem_singleton]

/-- The custom settings are not saved under their own name. -/
theorem custom_not_mem_named (s : Settings) : "custom" ∉ s.named.keys := by
  rw [keys_named]
  decide

/-- Settings with a list of options and custom entries can be saved. -/
theorem toEntries_eq_ok {s : Settings} {options : List Json} {custom : Entries Json}
    (hoptions : s.serviceOptions = .arr options)
    (hcustom : s.custom = .entries (.ofEntries custom)) :
    s.toEntries = .ok (.ofEntries (s.saved custom)) := by
  simp [toEntries, hoptions, hcustom, Json.elements, Custom.toEntries,
    KeyedEntries.update_ofEntries, saved, named]

/-! ## The file -/

section File

variable {files files' : Files} {s : Settings} {F : Entries Json}

/-- Settings are saved exactly if their entries can be written as JSON. -/
theorem save_eq_ok {path : String} (hF : s.toEntries = .ok (.ofEntries F)) :
    save files s path = .ok files' ↔
      files.write (.ofText path) (Json.obj F).write = .ok files' := by
  have hsave : save files s path = (files.write (.ofText path) (Json.obj F).write).mapError
      fun fault => (fault.misuse?.map .misuse).getD
        (.fileUnwritable (Path.ofText path).toText fault) := by
    rw [← KeyedEntries.texts_ofEntries F, save, hF]
    rfl
  rw [hsave, mapError_eq_ok]

/-- **What was saved is read from the file**, if the file is named as JSON. -/
theorem readFile_of_save {stem : String} (hF : s.toEntries = .ok (.ofEntries F))
    (hplain : (Json.obj F).IsPlain) (hsave : save files s (stem ++ ".json") = .ok files')
    {source : Entries Json} : readFile files' (stem ++ ".json") = .ok source ↔
      (Path.ofText (stem ++ ".json")).name ≠ ".json" ∧ source = F := by
  have hwrite := (save_eq_ok hF).mp hsave
  have hnormal := Path.isNormal_ofText (stem ++ ".json")
  have hread := Files.read_of_write hnormal hwrite (Json.not_mem_write hplain.noDouble)
  have hback := Json.read_write hplain
  have hsuffix : (Path.ofText (stem ++ ".json")).suffix.lowered = ".json" ↔
      (Path.ofText (stem ++ ".json")).name ≠ ".json" := by
    rw [Path.suffix_json]
    split
    · rename_i hname
      exact ⟨fun hlowered => absurd hlowered (by decide), fun hne => absurd hname hne⟩
    · rename_i hname
      exact ⟨fun _ => hname, fun _ => by decide⟩
  rw [readFile_eq_ok, hsuffix]
  constructor
  · rintro ⟨-, hname, text, htext, hsource⟩
    rw [hread] at htext
    cases htext
    rw [hback] at hsource
    cases hsource
    exact ⟨hname, rfl⟩
  · rintro ⟨hname, rfl⟩
    exact ⟨Files.has_of_write hnormal hwrite, hname, _, hread, hback⟩

end File

/-! ## Overrides over the defaults -/

/-- The entries that overrides and the defaults of a language give together. -/
structure Layered (language : String) (O es : Entries Json) : Prop where
  source : IsSource es
  beside : ∀ k, k ≠ "custom" → es.get? k = (O.get? k).or ((defaultsOf language).get? k)
  nested : nested es = Entries.update (nested (defaultsOf language)) (nested O)

/-- Overrides alone always give settings. -/
theorem exists_layered (language : String) {O : Entries Json} (hO : IsSource O) :
    ∃ es, Layered language O es ∧
      ∀ files, get files language "" (.obj O) = .ok (settingsOf es) := by
  obtain ⟨es, hes, hsource, hbeside, hnested⟩ :=
    ofSources_eq_ok language (Option.getD_none : Option.getD none [] = []) isSource_nil hO
  refine ⟨es, ⟨hsource, fun k hk => ?_, hnested⟩, fun files => ?_⟩
  · rw [hbeside k hk, Entries.get?_nil, Option.none_or]
  · rw [get, if_pos rfl]
    simp [hes, Except.mapError]

/-- The defaults set no custom setting that has the name of a setting. -/
theorem nested_defaultsOf (language : String) :
    ∀ k ∈ (nested (defaultsOf language)).keys, k ∉ names := by
  rcases defaultsOf_cases language with rfl | hnone
  · decide
  · simp [hnone, nested, Entries.keys]

/-! ## Plain values -/

/-- The defaults of every language are plain. -/
theorem isPlain_defaultsOf (language : String) : (Json.obj (defaultsOf language)).IsPlain := by
  rcases defaultsOf_cases language with rfl | hnone
  · simp [defaultsOf, defaults, Json.isPlain_obj, Json.isPlain_arr, Json.isPlain_str,
      Json.isPlain_bool, Entries.keys, Entries.get?_cons]
  · simp [hnone, Json.isPlain_obj, Entries.keys]

/-- The standard settings are plain. -/
theorem isPlain_standard : ∀ e ∈ ({} : Settings).named, e.2.IsPlain := by
  simp [named, Json.isPlain_null, Json.isPlain_arr, Json.isPlain_str, Json.isPlain_bool]

/-- The custom settings in a plain source are plain. -/
theorem isPlain_nested {source : Entries Json} (h : (Json.obj source).IsPlain) :
    ∀ e ∈ nested source, e.2.IsPlain := by
  unfold nested
  split
  · rename_i members hget
    exact (Json.isPlain_obj.mp ((Json.isPlain_obj.mp h).2 _ (Entries.mem_of_get? hget))).2
  · simp

/-- The value of a setting is the one that is saved under its name. -/
theorem valueOf_eq_get? (s : Settings) (name : String) : s.valueOf name = s.named.get? name := by
  unfold valueOf
  split
  all_goals first | rfl | skip
  rename_i h₁ h₂ h₃ h₄ h₅ h₆
  simp [named, Entries.get?_cons, Ne.symm h₁, Ne.symm h₂, Ne.symm h₃, Ne.symm h₄, Ne.symm h₅,
    Ne.symm h₆]

namespace Layered

variable {language : String} {O es : Entries Json}

/-- Custom settings that come from layers have distinct names. -/
theorem nodup_customOf (h : Layered language O es) : (customOf es).keys.Nodup :=
  Entries.nodup_keys_update h.source.nested _

/-- The custom settings begin with the keys that the defaults set. -/
theorem defaults_prefix (h : Layered language O es) :
    (Settings.nested (defaultsOf language)).keys <+: (customOf es).keys := by
  have hbelow := Entries.keys_prefix_update (Settings.nested (defaultsOf language))
    (Settings.nested O)
  rw [← h.nested] at hbelow
  exact hbelow.trans (Entries.keys_prefix_update _ _)

/-- A custom setting with the name of a setting comes from what the overrides set under `custom`. -/
theorem mem_customOf_iff (h : Layered language O es) (hO : IsSource O) {k : String}
    (hk : k ∈ names) : k ∈ (customOf es).keys ↔ k ∈ (Settings.nested O).keys := by
  have hbeside := Entries.get?_filter es (fun j => !names.contains j) k
  rw [if_neg (by simpa using hk)] at hbeside
  have hdefault : (Settings.nested (defaultsOf language)).get? k = none :=
    Entries.get?_eq_none_iff.mpr fun hmem => nested_defaultsOf language k hmem hk
  rw [← Entries.get?_isSome_iff, ← Entries.get?_isSome_iff, customOf,
    Entries.get?_update (Entries.nodup_keys_filter h.source.keys _), hbeside, Option.none_or, h.nested,
    Entries.get?_update hO.nested, hdefault, Option.or_none]

/-- A value beside `custom` is one of the overrides or of the defaults. -/
theorem isPlain_get? (h : Layered language O es) (hO : (Json.obj O).IsPlain) {k : String}
    (hk : k ≠ "custom") {v : Json} (hv : es.get? k = some v) : v.IsPlain := by
  rw [h.beside k hk, Option.or_eq_some_iff] at hv
  rcases hv with hv | ⟨-, hv⟩
  · exact (Json.isPlain_obj.mp hO).2 _ (Entries.mem_of_get? hv)
  · exact (Json.isPlain_obj.mp (isPlain_defaultsOf language)).2 _ (Entries.mem_of_get? hv)

/-- Custom settings that come from plain layers are plain. -/
theorem isPlain_customOf (h : Layered language O es) (hO : (Json.obj O).IsPlain) :
    ∀ e ∈ customOf es, e.2.IsPlain := by
  have hnested : ∀ e ∈ Settings.nested es, e.2.IsPlain := by
    rw [h.nested]
    exact Entries.forall_update (isPlain_nested (isPlain_defaultsOf language)) (isPlain_nested hO)
  refine Entries.forall_update hnested fun e he => ?_
  rw [List.mem_filter] at he
  have hname : e.1 ≠ "custom" := fun heq => by simp [heq, names] at he
  exact h.isPlain_get? hO hname (Entries.get?_of_mem h.source.keys he.1)

/-- Named settings that come from plain layers are plain. -/
theorem isPlain_named (h : Layered language O es) (hO : (Json.obj O).IsPlain) :
    ∀ e ∈ (settingsOf es).named, e.2.IsPlain := by
  rintro ⟨name, v⟩ hmem
  have hkey : name ∈ (settingsOf es).named.keys := Entries.mem_keys.mpr ⟨v, hmem⟩
  have hcustom : name ≠ "custom" := fun heq => custom_not_mem_named _ (heq ▸ hkey)
  have hvalue := Entries.get?_of_mem (nodup_keys_named _) hmem
  rw [← valueOf_eq_get?, valueOf_settingsOf es ((mem_names_iff _).mpr (.inl hkey)) hcustom,
    Option.or_eq_some_iff] at hvalue
  rcases hvalue with hvalue | ⟨-, hvalue⟩
  · exact h.isPlain_get? hO hcustom hvalue
  · rw [valueOf_eq_get?] at hvalue
    exact isPlain_standard _ (Entries.mem_of_get? hvalue)

/-- What is saved can be read again. -/
theorem isPlain_saved (h : Layered language O es) (hO : (Json.obj O).IsPlain) :
    (Json.obj ((settingsOf es).saved (customOf es))).IsPlain :=
  Json.isPlain_obj.mpr ⟨Entries.nodup_keys_update (nodup_keys_named _) _,
    Entries.forall_update (h.isPlain_named hO) (h.isPlain_customOf hO)⟩

/-- The options of services are a list if the overrides set them to one. -/
theorem exists_serviceOptions (h : Layered language O es)
    (hO : ∀ v, O.get? "service_options" = some v → ∃ options, v = .arr options) :
    ∃ options, (settingsOf es).serviceOptions = .arr options := by
  have hvalue := valueOf_settingsOf es (show "service_options" ∈ names by decide) (by decide)
  rw [h.beside "service_options" (by decide)] at hvalue
  cases hget : O.get? "service_options" with
  | some v =>
    obtain ⟨options, rfl⟩ := hO v hget
    rw [hget] at hvalue
    exact ⟨options, Option.some.inj hvalue⟩
  | none =>
    rw [hget, Option.none_or] at hvalue
    rcases defaultsOf_cases language with rfl | hnone
    · exact ⟨[], Option.some.inj hvalue⟩
    · rw [hnone] at hvalue
      exact ⟨[], Option.some.inj hvalue⟩

end Layered

/-! ## Settings that come back -/

/-- Entries in which no object stands under `custom` are laid over others as they are. -/
theorem lay_eq_update {base layer : Entries Json}
    (h : ∀ members, ("custom", .obj members) ∉ layer) :
    lay base layer = .ok (base.update layer) := by
  induction layer generalizing base with
  | nil => rfl
  | cons e layer ih =>
    obtain ⟨key, value⟩ := e
    have hentry : layEntry base key value = .ok (base.set key value) := by
      unfold layEntry
      split
      · exact absurd List.mem_cons_self (h _)
      · rfl
    rw [lay, List.foldlM_cons, hentry, ok_bind, Entries.update_cons]
    exact ih fun members hmem => h members (List.mem_cons_of_mem _ hmem)

theorem ofSources_null (language : String) (F : Entries Json) :
    ofSources language (some F) .null = lay (defaultsOf language) F >>= ofLayers := rfl

/-- Settings are the same if their values and their custom settings are. -/
theorem eq_of_values {s t : Settings}
    (hvalues : ∀ name ∈ s.named.keys, s.valueOf name = t.valueOf name)
    (hcustom : s.custom = t.custom) : s = t := by
  cases s
  cases t
  simp only [named, Entries.keys, List.map_cons, List.map_nil, List.forall_mem_cons, valueOf,
    Option.some.injEq] at hvalues hcustom
  obtain ⟨rfl, rfl, rfl, rfl, rfl, rfl, -⟩ := hvalues
  rw [hcustom]

section NoCustom

variable {language : String} {F : Entries Json}

/-- Entries without `custom` leave what the defaults have there. -/
theorem get?_custom_of_absent (habsent : "custom" ∉ F.keys) (hF : F.keys.Nodup) :
    ((defaultsOf language).update F).get? "custom" = (defaultsOf language).get? "custom" := by
  rw [Entries.get?_update hF, Entries.get?_eq_none_iff.mpr habsent, Option.none_or]

/-- A file without custom settings of its own is laid over the defaults as it is. -/
theorem ofSources_of_absent (habsent : "custom" ∉ F.keys) (hF : F.keys.Nodup) :
    ofSources language (some F) .null = .ok (settingsOf ((defaultsOf language).update F)) := by
  have hlay : lay (defaultsOf language) F = .ok ((defaultsOf language).update F) :=
    lay_eq_update fun members hmem => habsent (Entries.mem_keys.mpr ⟨_, hmem⟩)
  rw [ofSources_null, hlay, ok_bind, ofLayers_eq]
  intro v hv
  rw [get?_custom_of_absent habsent hF] at hv
  exact (isSource_defaultsOf language).custom v hv

/-- The custom settings are then those entries that name no setting, over those of the defaults. -/
theorem customOf_of_absent (language : String) (habsent : "custom" ∉ F.keys) (hF : F.keys.Nodup) :
    customOf ((defaultsOf language).update F) =
      Entries.update (nested (defaultsOf language)) (F.filter fun e => !names.contains e.1) := by
  have hdefaults : (defaultsOf language).filter (fun e => !names.contains e.1) = [] := by
    refine List.filter_eq_nil_iff.mpr fun e he => ?_
    have hname := keys_defaultsOf language e.1 (Entries.mem_keys.mpr ⟨e.2, he⟩)
    simp [hname]
  have hbelow : nested ((defaultsOf language).update F) = nested (defaultsOf language) := by
    rw [nested, nested, get?_custom_of_absent habsent hF]
  rw [customOf, hbelow, Entries.filter_update (fun k => !names.contains k), hdefaults,
    Entries.nil_update (Entries.nodup_keys_filter hF _)]

end NoCustom

/-- **Settings come back** if no custom setting has the name of a setting. -/
theorem reload_of_distinct {language : String} {O es : Entries Json} (h : Layered language O es)
    (hdistinct : ∀ k ∈ (customOf es).keys, k ∉ names) :
    ofSources language (some ((settingsOf es).saved (customOf es))) .null =
      .ok (settingsOf es) := by
  have hkeys : ((settingsOf es).named.keys ++ (customOf es).keys).Nodup :=
    List.nodup_append.mpr ⟨nodup_keys_named _, h.nodup_customOf, fun a ha b hb hab =>
      hdistinct b hb (hab ▸ (mem_names_iff _).mpr (.inl ha))⟩
  have hsaved : (settingsOf es).saved (customOf es) = (settingsOf es).named ++ customOf es :=
    Entries.update_eq_append hkeys
  rw [← Entries.keys_append, ← hsaved] at hkeys
  -- so the file has no `custom`, and beside the settings with names just the custom ones
  have habsent : "custom" ∉ ((settingsOf es).saved (customOf es)).keys := by
    rw [saved, Entries.mem_keys_update, not_or]
    exact ⟨custom_not_mem_named _, fun hmem => hdistinct _ hmem (by decide)⟩
  have hextra : ((settingsOf es).saved (customOf es)).filter (fun e => !names.contains e.1) =
      customOf es := by
    have hcustom : (customOf es).filter (fun e => !names.contains e.1) = customOf es :=
      List.filter_eq_self.mpr fun e he => by
        simpa using hdistinct e.1 (Entries.mem_keys.mpr ⟨e.2, he⟩)
    rw [hsaved, List.filter_append, hcustom]
    rfl
  rw [ofSources_of_absent habsent hkeys]
  congr 1
  refine eq_of_values (fun name hname => ?_) ?_
  · have hcustom : name ≠ "custom" := fun heq => custom_not_mem_named _ (heq ▸ hname)
    obtain ⟨v, hv⟩ : ∃ v, (settingsOf es).named.get? name = some v :=
      Option.isSome_iff_exists.mp (Entries.get?_isSome_iff.mpr hname)
    rw [valueOf_settingsOf _ ((mem_names_iff _).mpr (.inl hname)) hcustom,
      Entries.get?_update hkeys, hsaved, Entries.get?_append, hv, valueOf_eq_get? (settingsOf es),
      hv]
    rfl
  · -- these begin with the keys that the defaults set, and replace what is set there
    have hcustom := customOf_of_absent language habsent hkeys
    rw [hextra, Entries.update_of_prefix h.defaults_prefix h.nodup_customOf] at hcustom
    exact congrArg (fun c => Custom.entries (.ofEntries c)) hcustom

/-! ## Settings that do not come back -/

section Custom

variable {language : String} {F custom : Entries Json} {s : Settings}

/-- Entries that stand under `custom` are laid over those of the defaults.  What is read under
    `custom` among them lies inside of the object that they are the members of. -/
theorem get?_custom_of_object (hwell : (Json.obj F).WellFormed)
    (hcustom : s.custom = .entries (.ofEntries custom))
    (h : ofSources language (some F) .null = .ok s) {members : Entries Json}
    (hget : F.get? "custom" = some (.obj members)) :
    custom.get? "custom" ≠ some (.obj members) := by
  have hF : IsSource F := isSource_of_wellFormed hwell fun w hw =>
    ⟨members, by rw [hget, Option.some.injEq] at hw; exact hw.symm⟩
  obtain ⟨base, hbase, hsource, -, hnested⟩ := lay_eq_ok (isSource_defaultsOf language) hF
  rw [ofSources_null, hbase, ok_bind, ofLayers_eq hsource.custom, Except.ok.injEq] at h
  rw [← h] at hcustom
  have hback : custom = customOf base :=
    (KeyedEntries.ofEntries_injective (Custom.entries.inj hcustom)).symm
  have hbeside : Entries.get? (base.filter fun e => !names.contains e.1) "custom" = none := by
    rw [Entries.get?_filter base fun k => !names.contains k, if_neg (by decide)]
  have hdefault : (nested (defaultsOf language)).get? "custom" = none :=
    Entries.get?_eq_none_iff.mpr fun hmem => nested_defaultsOf language _ hmem (by decide)
  intro hinside
  rw [hback, customOf, Entries.get?_update (Entries.nodup_keys_filter hsource.keys _), hbeside,
    Option.none_or, hnested, Entries.get?_update hF.nested, nested_of_get? hget, hdefault,
    Option.or_none] at hinside
  exact absurd (Json.sizeOf_lt_obj (Entries.mem_of_get? hinside)) (Nat.lt_irrefl _)

/-- Any other value that stands under `custom` gives the entries that its elements stand for, and
    none of them has the value itself. -/
theorem get?_custom_of_value (hkeys : F.keys.Nodup)
    (hcustom : s.custom = .entries (.ofEntries custom))
    (h : ofSources language (some F) .null = .ok s) {v : Json} (hv : ∀ members, v ≠ .obj members)
    (hget : F.get? "custom" = some v) : custom.get? "custom" ≠ some v := by
  have hplain : ∀ members, ("custom", .obj members) ∉ F := fun members hmem => by
    rw [Entries.get?_of_mem hkeys hmem, Option.some.injEq] at hget
    exact hv members hget.symm
  rw [ofSources_null, lay_eq_update hplain, ok_bind] at h
  have hbase : ((defaultsOf language).update F).get? "custom" = some v := by
    rw [Entries.get?_update hkeys, hget, Option.some_or]
  have hvalue : (ofEntries ((defaultsOf language).update F)).custom = .value v := by
    cases v with
    | obj members => exact absurd rfl (hv members)
    | _ => simp [ofEntries, hbase, Custom.ofJson]
  simp only [ofLayers, hvalue] at h
  split at h
  · -- nothing else is custom: the value stays a value
    cases h
    rw [hvalue] at hcustom
    cases hcustom
  · obtain ⟨es, hes, heq⟩ := bind_eq_ok.mp h
    cases heq
    intro hinside
    have hmem : (Json.str "custom", v) ∈ KeyedEntries.ofEntries custom :=
      List.mem_map.mpr ⟨_, Entries.mem_of_get? hinside, rfl⟩
    rw [← Custom.entries.inj hcustom] at hmem
    have hbeside : "custom" ∉ Entries.keys
        (((defaultsOf language).update F).filter fun e => !names.contains e.1) := by
      rw [← Entries.get?_eq_none_iff,
        Entries.get?_filter _ fun k => !names.contains k, if_neg (by decide)]
    exact Custom.snd_ne_of_toEntries hes (KeyedEntries.mem_of_mem_update hbeside hmem) rfl

end Custom

/-- **Settings do not come back** if a custom setting has the name of a setting. -/
theorem distinct_of_reload {language : String} {custom : Entries Json} {s : Settings}
    (hplain : (Json.obj (s.saved custom)).IsPlain) (hkeys : custom.keys.Nodup)
    (hcustom : s.custom = .entries (.ofEntries custom))
    (h : ofSources language (some (s.saved custom)) .null = .ok s) :
    ∀ k ∈ custom.keys, k ∉ names := by
  have hno : "custom" ∉ custom.keys := by
    intro hmem
    obtain ⟨v, hv⟩ := Option.isSome_iff_exists.mp (Entries.get?_isSome_iff.mpr hmem)
    have hsaved : (s.saved custom).get? "custom" = some v := by
      rw [saved, Entries.get?_update hkeys, hv, Option.some_or]
    by_cases hobject : ∃ members, v = .obj members
    · obtain ⟨members, rfl⟩ := hobject
      exact get?_custom_of_object hplain.wellFormed hcustom h hsaved hv
    · have hvalue : ∀ members, v ≠ .obj members := fun members heq => hobject ⟨members, heq⟩
      exact get?_custom_of_value (Json.isPlain_obj.mp hplain).1 hcustom h hvalue hsaved hv
  have habsent : "custom" ∉ (s.saved custom).keys := by
    rw [saved, Entries.mem_keys_update, not_or]
    exact ⟨custom_not_mem_named s, hno⟩
  have hF := (Json.isPlain_obj.mp hplain).1
  rw [ofSources_of_absent habsent hF, Except.ok.injEq] at h
  -- what comes back are custom settings of the defaults, and entries that name no setting
  have hback : custom = customOf ((defaultsOf language).update (s.saved custom)) := by
    rw [← h] at hcustom
    exact (KeyedEntries.ofEntries_injective (Custom.entries.inj hcustom)).symm
  intro k hk hname
  rw [hback, customOf_of_absent language habsent hF, Entries.mem_keys_update] at hk
  rcases hk with hk | hk
  · exact nested_defaultsOf language k hk hname
  · obtain ⟨w, hw⟩ := Entries.mem_keys.mp hk
    simp [hname] at hw

/-- Where settings come from a file, the file was read. -/
theorem exists_readFile_of_get {files : Files} {language path : String} {overrides : Json}
    {s : Settings} (hpath : path ≠ "") (h : get files language path overrides = .ok s) :
    ∃ F, readFile files path = .ok F ∧ ofSources language (some F) overrides = .ok s := by
  rw [get, if_neg hpath] at h
  obtain ⟨file?, hfile, h⟩ := bind_eq_ok.mp h
  obtain ⟨F, hF, rfl⟩ := map_eq_ok.mp hfile
  exact ⟨F, hF, mapError_eq_ok.mp h⟩

/-- **Which settings come back.**  Overrides without doubles, in which the options of services are a
    list and the custom settings an object, give settings for every language.  When these are saved
    under a name that ends in `.json` and read from there, they come back exactly if the file has
    something in front of its suffix, and no custom setting of the overrides has the name of a
    setting. -/
theorem reload_iff (language : String) {O : Entries Json} (hplain : (Json.obj O).IsPlain)
    (hoptions : ∀ v, O.get? "service_options" = some v → ∃ options, v = .arr options)
    (hcustom : HasCustomObject O) :
    ∃ s, (∀ files, get files language "" (.obj O) = .ok s) ∧
      ∀ files files' stem, save files s (stem ++ ".json") = .ok files' →
        (get files' language (stem ++ ".json") .null = .ok s ↔
          (Path.ofText (stem ++ ".json")).name ≠ ".json" ∧
            ∀ k ∈ (nested O).keys, k ∉ names) := by
  have hO := isSource_of_wellFormed hplain.wellFormed hcustom
  obtain ⟨es, hes, hget⟩ := exists_layered language hO
  obtain ⟨options, hlist⟩ := hes.exists_serviceOptions hoptions
  refine ⟨settingsOf es, hget, fun files files' stem hsave => ?_⟩
  have hentries : (settingsOf es).toEntries =
      .ok (.ofEntries ((settingsOf es).saved (customOf es))) := toEntries_eq_ok hlist rfl
  have hsaved := hes.isPlain_saved hplain
  have hpath : stem ++ ".json" ≠ "" := fun heq => by simpa using congrArg String.toList heq
  -- a custom setting named like a setting can only come from `custom` among the overrides
  have hclash : (∀ k ∈ (nested O).keys, k ∉ names) ↔ ∀ k ∈ (customOf es).keys, k ∉ names := by
    constructor
    · exact fun hall k hk hname => hall k ((hes.mem_customOf_iff hO hname).mp hk) hname
    · exact fun hall k hk hname => hall k ((hes.mem_customOf_iff hO hname).mpr hk) hname
  rw [hclash]
  constructor
  · intro hback
    obtain ⟨F, hF, hsources⟩ := exists_readFile_of_get hpath hback
    obtain ⟨hname, rfl⟩ := (readFile_of_save hentries hsaved hsave).mp hF
    exact ⟨hname, distinct_of_reload hsaved hes.nodup_customOf rfl hsources⟩
  · rintro ⟨hname, hdistinct⟩
    have hfile := (readFile_of_save hentries hsaved hsave).mpr ⟨hname, rfl⟩
    rw [get_of_readFile hpath hfile, reload_of_distinct hes hdistinct]
    rfl

/-- What is saved of the standard settings with a custom setting named as the package is. -/
def fileOfLostPackage : Entries Json :=
  [("output_file", .null), ("package_name", .str "x"), ("line_ending", .str "\n"),
    ("field_case", .str "camel"), ("add_comments", .bool true), ("service_options", .arr []),
    ("list_type", .str "Seq"), ("set_type", .str "Set"), ("map_type", .str "Map"),
    ("option_type", .str "Option"), ("binary_type", .str "ByteBuffer")]

/-- The file can be encoded: its texts are in ASCII. -/
theorem isEncodable_fileOfLostPackage : (Json.obj fileOfLostPackage).write.isEncodable = true := by
  refine Json.isEncodable_write ?_ (Json.everywhere_obj.mpr ⟨?_, ?_⟩)
  · simp [fileOfLostPackage, Json.HasNoDouble, Json.Everywhere, Json.EverywhereUnder,
      Json.EverywhereAmong, Json.IsNoDouble]
  · change ∀ k ∈ fileOfLostPackage.keys, Json.TextIn _ k
    decide
  · rw [← Json.everywhereUnder_iff]
    simp only [fileOfLostPackage, Json.Everywhere, Json.EverywhereUnder, Json.EverywhereAmong,
      Json.HasTextsIn]
    decide

/-- A custom setting with the name of the package: it does not come back. -/
theorem package_is_lost :
    let O : Entries Json := [("custom", .obj [("package_name", .str "x")])]
    ∃ s files', get [] "scala" "" (.obj O) = .ok s ∧ save [] s "c.json" = .ok files' ∧
      get files' "scala" "c.json" .null ≠ .ok s := by
  intro O
  have hplain : (Json.obj O).IsPlain := by
    simp [O, Json.isPlain_obj, Json.isPlain_str, Entries.keys]
  have hoptions : ∀ v, O.get? "service_options" = some v → ∃ options, v = .arr options :=
    fun v hv => by cases hv
  have hcustom : HasCustomObject O := fun v hv => ⟨_, (Option.some.inj hv).symm⟩
  obtain ⟨s, hs, hiff⟩ := reload_iff "scala" hplain hoptions hcustom
  obtain ⟨files', hsave⟩ : ∃ files', save [] s "c.json" = .ok files' := by
    have hentries : s.toEntries = .ok (.ofEntries fileOfLostPackage) := by
      cases hs []
      rfl
    have hpath : Path.ofText "c.json" = ⟨"", ["c.json"]⟩ := by decide +kernel
    have hplace : Files.place [] ⟨"", ["c.json"]⟩ = .ok ⟨"", ["c.json"]⟩ := by decide +kernel
    exact ⟨_, (save_eq_ok hentries).mpr <| Files.write_eq_ok.mpr
      ⟨isEncodable_fileOfLostPackage, _, hpath ▸ hplace, rfl⟩⟩
  refine ⟨s, files', hs [], hsave, fun hback => ?_⟩
  have hclash := ((hiff [] files' "c" hsave).mp hback).2 "package_name" (by decide)
  exact hclash (by decide)

end Settings

end ThriftScala
