/-
  Which source a setting is taken from.

  Settings come from the defaults of a language, a file and overrides, and each may set a custom
  setting in two ways: under `custom`, or beside the settings with names.  The sources are laid over
  each other first, where those under `custom` stay apart from the others (`lay_eq_ok`); only then
  the others go into the custom settings, over what is there (`ofLayers_eq`).

  So a setting with a name is taken from the overrides, else from the file, else from the defaults.
  A custom setting is taken in this order from what stands beside the names, and only if none of the
  sources sets it there, in this order from what stands under `custom`.  The file wins over the
  overrides if it sets the key beside the names and the overrides only under `custom`
  (`get_layers`).
-/
import ThriftScala.Proofs.Json.Shape
import ThriftScala.Settings.Check

namespace ThriftScala

open Outcome

namespace KeyedEntries

/-- Entries by text laid over others are so as entries by keys. -/
theorem update_ofEntries (es new : Entries Json) :
    (ofEntries es).update (ofEntries new) = ofEntries (es.update new) := by
  induction new generalizing es with
  | nil => rfl
  | cons e new ih =>
    obtain ⟨k, v⟩ := e
    rw [Entries.update_cons, ← ih, ← set_ofEntries]
    rfl

end KeyedEntries

namespace Settings

/-! ## Sources -/

/-- What a source sets under `custom`. -/
def nested (source : Entries Json) : Entries Json :=
  match source.get? "custom" with
  | some (.obj members) => members
  | _ => []

/-- What a source sets a custom setting to, beside the names or under `custom`. -/
def customIn (source : Entries Json) (k : String) : Option Json :=
  (source.get? k).or ((nested source).get? k)

/-- What is under `custom`, if anything is, is an object. -/
def HasCustomObject (source : Entries Json) : Prop :=
  ∀ v, source.get? "custom" = some v → ∃ members, v = .obj members

/-- A source in which no key comes twice, and none under `custom`. -/
structure IsSource (source : Entries Json) : Prop where
  custom : HasCustomObject source
  keys : source.keys.Nodup
  nested : (nested source).keys.Nodup

theorem isSource_nil : IsSource [] := ⟨by simp [HasCustomObject], List.nodup_nil, List.nodup_nil⟩

/-- The custom settings of a source are the object under their key. -/
theorem nested_of_get? {source members : Entries Json}
    (h : source.get? "custom" = some (.obj members)) : nested source = members := by
  rw [nested, h]

/-- A source without the key has no custom settings. -/
theorem nested_of_absent {source : Entries Json} (h : "custom" ∉ source.keys) :
    nested source = [] := by
  rw [nested, Entries.get?_eq_none_iff.mpr h]

/-- A well-formed object is a source if its custom settings are an object. -/
theorem isSource_of_wellFormed {source : Entries Json} (h : (Json.obj source).WellFormed)
    (hcustom : HasCustomObject source) : IsSource source := by
  obtain ⟨hkeys, hvalues⟩ := Json.wellFormed_obj.mp h
  refine ⟨hcustom, hkeys, ?_⟩
  cases hget : source.get? "custom" with
  | none => simp [nested, hget, Entries.keys]
  | some v =>
    obtain ⟨members, rfl⟩ := hcustom v hget
    rw [nested_of_get? hget]
    exact (Json.wellFormed_obj.mp (hvalues _ (Entries.mem_of_get? hget))).1

/-! ## Files -/

/-- A file gives a source if it is there, is named as JSON, and its text is that of an object. -/
theorem readFile_eq_ok {files : Files} {path : String} {source : Entries Json} :
    readFile files path = .ok source ↔
      files.has (.ofText path) = .ok true ∧ (Path.ofText path).suffix.lowered = ".json" ∧
      ∃ text, files.read (.ofText path) = .ok text ∧ Json.read text = .ok (.obj source) := by
  constructor
  · intro h
    obtain ⟨there, hthere, h⟩ := bind_eq_ok.mp h
    rw [mapError_eq_ok] at hthere
    cases there with
    | false => cases h
    | true =>
      by_cases hsuffix : (Path.ofText path).suffix.lowered = ".json"
      · simp only [Bool.not_true, Bool.false_eq_true, if_false, hsuffix, ne_eq, not_true] at h
        obtain ⟨text, htext, h⟩ := bind_eq_ok.mp h
        obtain ⟨v, hv, h⟩ := bind_eq_ok.mp h
        rw [mapError_eq_ok] at htext hv
        cases v with
        | obj members =>
          cases h
          exact ⟨hthere, hsuffix, text, htext, hv⟩
        | _ => cases h
      · simp [hsuffix] at h
  · rintro ⟨hthere, hsuffix, text, htext, hv⟩
    simp [readFile, hthere, hsuffix, htext, hv, Except.mapError]

/-- What was read from a file is well formed. -/
theorem wellFormed_of_readFile {files : Files} {path : String} {source : Entries Json}
    (h : readFile files path = .ok source) : (Json.obj source).WellFormed := by
  obtain ⟨-, -, text, -, hread⟩ := readFile_eq_ok.mp h
  exact Json.wellFormed_of_read hread

/-! ## Laying one source over another -/

/-- An entry under `custom` is laid over what is under `custom`. -/
theorem layEntry_custom {base : Entries Json} (h : HasCustomObject base) (members : Entries Json) :
    layEntry base "custom" (.obj members) =
      .ok (base.set "custom" (.obj (Entries.update (nested base) members))) := by
  rw [layEntry]
  cases hget : base.get? "custom" with
  | none => simp [nested, hget]
  | some v =>
    obtain ⟨there, rfl⟩ := h v hget
    simp [nested_of_get? hget]

/-- A value under another key is set. -/
theorem layEntry_other {key : String} (h : key ≠ "custom") (base : Entries Json) (value : Json) :
    layEntry base key value = .ok (base.set key value) := by
  unfold layEntry
  split
  · exact absurd rfl h
  · rfl

/-- Setting another key leaves the custom settings alone. -/
theorem nested_set_other {key : String} (h : key ≠ "custom") (base : Entries Json) (value : Json) :
    nested (base.set key value) = nested base := by
  rw [nested, nested, Entries.get?_set, if_neg h]

/-- Setting another key leaves a source a source. -/
theorem IsSource.set_other {base : Entries Json} (hb : IsSource base) {key : String}
    (h : key ≠ "custom") (value : Json) : IsSource (base.set key value) := by
  refine ⟨fun v hv => hb.custom v ?_, Entries.nodup_keys_set hb.keys key value, ?_⟩
  · rwa [Entries.get?_set, if_neg h] at hv
  · rw [nested_set_other h]
    exact hb.nested

/-- Setting the custom settings to an object with distinct keys leaves a source a source. -/
theorem IsSource.set_custom {base : Entries Json} (hb : IsSource base) {members : Entries Json}
    (h : members.keys.Nodup) : IsSource (base.set "custom" (.obj members)) := by
  have hget : (base.set "custom" (.obj members)).get? "custom" = some (.obj members) := by
    rw [Entries.get?_set, if_pos rfl]
  refine ⟨fun v hv => ?_, Entries.nodup_keys_set hb.keys _ _, ?_⟩
  · rw [hget, Option.some.injEq] at hv
    exact ⟨members, hv.symm⟩
  · rw [nested_of_get? hget]
    exact h

/-- The rest of a source is a source. -/
theorem IsSource.tail {key : String} {value : Json} {layer : Entries Json}
    (h : IsSource ((key, value) :: layer)) : IsSource layer := by
  have hkeys := h.keys
  rw [Entries.keys_cons, List.nodup_cons] at hkeys
  by_cases hkey : key = "custom"
  · subst hkey
    refine ⟨fun v hv => ?_, hkeys.2, ?_⟩
    · rw [Entries.get?_eq_none_iff.mpr hkeys.1] at hv
      cases hv
    · rw [nested_of_absent hkeys.1]
      exact List.nodup_nil
  · have hget : Entries.get? ((key, value) :: layer) "custom" = layer.get? "custom" := by
      rw [Entries.get?_cons, if_neg hkey]
    refine ⟨fun v hv => h.custom v (hget.trans hv), hkeys.2, ?_⟩
    have hnested := h.nested
    rwa [Settings.nested, hget] at hnested

/-- **One source over another.**  Beside `custom` the upper source is found first; what is under
    `custom` is laid over what is there. -/
theorem lay_eq_ok {base layer : Entries Json} (hb : IsSource base) (hl : IsSource layer) :
    ∃ merged, lay base layer = .ok merged ∧ IsSource merged ∧
      (∀ k, k ≠ "custom" → merged.get? k = (layer.get? k).or (base.get? k)) ∧
      nested merged = Entries.update (nested base) (nested layer) := by
  induction layer generalizing base with
  | nil => exact ⟨base, rfl, hb, fun _ _ => rfl, rfl⟩
  | cons e layer ih =>
    obtain ⟨key, value⟩ := e
    have hkeys := hl.keys
    rw [Entries.keys_cons, List.nodup_cons] at hkeys
    have hcons : ∀ base', layEntry base key value = .ok base' →
        lay base ((key, value) :: layer) = lay base' layer := by
      intro base' hbase'
      rw [lay, List.foldlM_cons, hbase']
      rfl
    by_cases hkey : key = "custom"
    · subst hkey
      obtain ⟨members, rfl⟩ := hl.custom value (by rw [Entries.get?_cons, if_pos rfl])
      have hnested : nested (("custom", .obj members) :: layer) = members :=
        nested_of_get? (by rw [Entries.get?_cons, if_pos rfl])
      have hb' := hb.set_custom (Entries.nodup_keys_update hb.nested members)
      obtain ⟨merged, hmerged, hsource, hother, hmergedNested⟩ := ih hb' hl.tail
      refine ⟨merged, (hcons _ (layEntry_custom hb.custom members)).trans hmerged, hsource, ?_, ?_⟩
      · intro k hk
        rw [hother k hk, Entries.get?_cons, Entries.get?_set, if_neg (Ne.symm hk),
          if_neg (Ne.symm hk)]
      · -- `custom` comes once, so the rest of the layer sets nothing under it
        rw [hmergedNested, hnested, nested_of_absent hkeys.1, Entries.update_nil]
        exact nested_of_get? (by rw [Entries.get?_set, if_pos rfl])
    · obtain ⟨merged, hmerged, hsource, hother, hmergedNested⟩ :=
        ih (hb.set_other hkey value) hl.tail
      refine ⟨merged, (hcons _ (layEntry_other hkey base value)).trans hmerged, hsource, ?_, ?_⟩
      · intro k hk
        rw [hother k hk, Entries.get?_cons, Entries.get?_set]
        by_cases hsame : key = k
        · subst hsame
          simp [Entries.get?_eq_none_iff.mpr hkeys.1]
        · simp [hsame]
      · rw [hmergedNested, nested_set_other hkey]
        congr 1
        rw [nested, nested, Entries.get?_cons, if_neg hkey]

/-! ## Settings of entries -/

/-- The custom settings of entries: those under `custom`, and over them those that name no
    setting. -/
def customOf (es : Entries Json) : Entries Json :=
  Entries.update (nested es) (es.filter fun e => !names.contains e.1)

/-- The custom settings are those nested in the entries. -/
theorem custom_ofEntries {es : Entries Json} (h : HasCustomObject es) :
    (ofEntries es).custom = .entries (.ofEntries (nested es)) := by
  cases hget : es.get? "custom" with
  | none => simp [ofEntries, nested, hget, KeyedEntries.ofEntries]
  | some v =>
    obtain ⟨members, rfl⟩ := h v hget
    simp [ofEntries, nested, hget, Custom.ofJson]

/-- The settings of entries, with all that name no setting among the custom ones. -/
def settingsOf (es : Entries Json) : Settings :=
  { ofEntries es with custom := .entries (.ofEntries (customOf es)) }

/-- Settings can be made of entries whose custom settings are an object. -/
theorem ofLayers_eq {es : Entries Json} (h : HasCustomObject es) :
    ofLayers es = .ok (settingsOf es) := by
  have hcustom := custom_ofEntries h
  rw [settingsOf]
  simp only [ofLayers]
  split
  · rename_i hnone
    rw [customOf, List.isEmpty_iff.mp hnone, Entries.update_nil, ← hcustom]
  · simp [hcustom, Custom.toEntries, KeyedEntries.update_ofEntries, customOf]

/-- A custom setting is taken from beside the names, else from under `custom`. -/
theorem get?_customOf {es : Entries Json} (h : IsSource es) {k : String} (hk : k ∉ names) :
    (customOf es).get? k = customIn es k := by
  have hfilter := Entries.get?_filter es (fun j => !names.contains j) k
  rw [if_pos (by simpa using hk)] at hfilter
  rw [customOf, Entries.get?_update (Entries.nodup_keys_filter h.keys _), hfilter, customIn]

/-- The value of the setting with a name; custom settings have no single value. -/
def valueOf (s : Settings) : String → Option Json
  | "output_file" => some s.outputFile
  | "package_name" => some s.packageName
  | "line_ending" => some s.lineEnding
  | "field_case" => some s.fieldCase
  | "add_comments" => some s.addComments
  | "service_options" => some s.serviceOptions
  | _ => none

/-- The value of a setting is the one that the entries give, else the standard one. -/
theorem valueOf_settingsOf (es : Entries Json) {name : String} (hname : name ∈ names)
    (hcustom : name ≠ "custom") :
    (settingsOf es).valueOf name = (es.get? name).or (({} : Settings).valueOf name) := by
  rw [settingsOf]
  simp only [names, List.mem_cons, List.not_mem_nil, or_false] at hname
  rcases hname with rfl | rfl | rfl | rfl | rfl | rfl | rfl
  · cases h : es.get? "output_file" <;> simp [valueOf, ofEntries, h]
  · cases h : es.get? "package_name" <;> simp [valueOf, ofEntries, h]
  · cases h : es.get? "line_ending" <;> simp [valueOf, ofEntries, h]
  · cases h : es.get? "field_case" <;> simp [valueOf, ofEntries, h]
  · cases h : es.get? "add_comments" <;> simp [valueOf, ofEntries, h]
  · cases h : es.get? "service_options" <;> simp [valueOf, ofEntries, h]
  · exact absurd rfl hcustom

/-! ## Settings of sources -/

/-- The defaults of a language; none for a language that has none. -/
def defaultsOf (language : String) : Entries Json := (defaults.get? language).getD []

/-- There are defaults for one language only. -/
theorem defaultsOf_cases (language : String) :
    language = "scala" ∨ defaultsOf language = [] := by
  by_cases h : language = "scala"
  · exact .inl h
  · exact .inr (by simp [defaultsOf, defaults, Entries.get?_cons, Ne.symm h])

/-- The defaults of every language are a source. -/
theorem isSource_defaultsOf (language : String) : IsSource (defaultsOf language) := by
  rcases defaultsOf_cases language with rfl | hnone
  · exact ⟨fun v hv => ⟨_, (Option.some.inj hv).symm⟩, by decide, by decide⟩
  · rw [hnone]
    exact isSource_nil

/-- The defaults set nothing but settings with names, and custom ones under `custom`. -/
theorem keys_defaultsOf (language : String) : ∀ k ∈ (defaultsOf language).keys, k ∈ names := by
  rcases defaultsOf_cases language with rfl | hnone
  · decide
  · simp [hnone, Entries.keys]

theorem layValue_obj (base layer : Entries Json) : layValue base (.obj layer) = lay base layer := by
  cases layer <;> rfl

/-- **Settings of sources.**  They are those of the defaults, the file and the overrides laid over
    each other. -/
theorem ofSources_eq_ok (language : String) {file? : Option (Entries Json)}
    {file layer : Entries Json} (hfile : file?.getD [] = file) (hf : IsSource file)
    (hl : IsSource layer) :
    ∃ es, ofSources language file? (.obj layer) = .ok (settingsOf es) ∧
      IsSource es ∧
      (∀ k, k ≠ "custom" → es.get? k =
        (layer.get? k).or ((file.get? k).or ((defaultsOf language).get? k))) ∧
      nested es = Entries.update
        (Entries.update (nested (defaultsOf language)) (nested file)) (nested layer) := by
  subst hfile
  obtain ⟨below, hbelow, hsource, hother, hnested⟩ := lay_eq_ok (isSource_defaultsOf language) hf
  obtain ⟨es, hes, hsource', hother', hnested'⟩ := lay_eq_ok hsource hl
  refine ⟨es, ?_, hsource', fun k hk => ?_, ?_⟩
  · refine bind_eq_ok.mpr ⟨below, hbelow, bind_eq_ok.mpr ⟨es, ?_, ofLayers_eq hsource'.custom⟩⟩
    rw [layValue_obj, hes]
  · rw [hother' k hk, hother k hk]
  · rw [hnested', hnested]

/-- With a file that is read, settings come from the file and the overrides. -/
theorem get_of_readFile {files : Files} {path : String} {file : Entries Json} (hpath : path ≠ "")
    (h : readFile files path = .ok file) (language : String) (overrides : Json) :
    get files language path overrides =
      (ofSources language (some file) overrides).mapError .misuse := by
  simp [get, hpath, h]

/-- **Which source a setting is taken from.**  Of a file `F`, overrides `O` and the defaults of the
    language, a setting with a name is taken from the overrides if they set it, else from the file,
    else from the defaults, else it has its standard value.

    For a custom setting those sources come first that set it beside the names, and after them those
    that set it under `custom`.  This is the order of the sources unless the file sets it beside the
    names and the overrides do so only under `custom`, to something else. -/
theorem get_layers {files : Files} {path language : String} {F O : Entries Json}
    (hpath : path ≠ "") (hfile : readFile files path = .ok F) (hF : HasCustomObject F)
    (hwell : (Json.obj O).WellFormed) (hO : HasCustomObject O) :
    ∃ s custom, get files language path (.obj O) = .ok s ∧
      s.custom = .entries (.ofEntries custom) ∧
      (∀ name ∈ names, name ≠ "custom" → s.valueOf name =
        (O.get? name).or ((F.get? name).or
          (((defaultsOf language).get? name).or (({} : Settings).valueOf name)))) ∧
      ∀ k ∉ names,
        custom.get? k = (O.get? k).or ((F.get? k).or (((nested O).get? k).or
          (((nested F).get? k).or ((nested (defaultsOf language)).get? k)))) ∧
        (custom.get? k = (customIn O k).or ((customIn F k).or (customIn (defaultsOf language) k)) ↔
          ¬ (O.get? k = none ∧ ∃ v w, F.get? k = some v ∧ (nested O).get? k = some w ∧ v ≠ w)) := by
  have hsourceF := isSource_of_wellFormed (wellFormed_of_readFile hfile) hF
  have hsourceO := isSource_of_wellFormed hwell hO
  obtain ⟨es, hes, hsource, hother, hnested⟩ :=
    ofSources_eq_ok language (Option.getD_some : (some F).getD [] = F) hsourceF hsourceO
  refine ⟨settingsOf es, customOf es, ?_, rfl, fun name hname hne => ?_, fun k hk => ?_⟩
  · rw [get_of_readFile hpath hfile, hes]
    rfl
  · rw [valueOf_settingsOf es hname hne, hother name hne]
    simp [Option.or_assoc]
  · have hcustom : k ≠ "custom" := fun h => hk (by rw [h]; decide)
    have hdefault : (defaultsOf language).get? k = none :=
      Entries.get?_eq_none_iff.mpr fun h => hk (keys_defaultsOf language k h)
    have hvalue : (customOf es).get? k = (O.get? k).or ((F.get? k).or (((nested O).get? k).or
        (((nested F).get? k).or ((nested (defaultsOf language)).get? k)))) := by
      rw [get?_customOf hsource hk, customIn, hother k hcustom, hnested,
        Entries.get?_update hsourceO.nested, Entries.get?_update hsourceF.nested, hdefault]
      simp [Option.or_assoc]
    refine ⟨hvalue, ?_⟩
    rw [hvalue]
    simp only [customIn, hdefault, Option.none_or]
    -- the two orders differ only in whether `F` beside the names or `O` under `custom` comes first
    cases O.get? k <;> cases F.get? k <;> cases (nested O).get? k <;> simp

/-- A file that sets the type of lists beside the names, and overrides that set it under `custom`:
    the file wins. -/
theorem file_wins_over_overrides :
    let files : Files := [("f.json", some "\x7b\"list_type\": \"List\"\x7d")]
    let O : Entries Json := [("custom", .obj [("list_type", .str "Vector")])]
    ∃ s custom, get files "scala" "f.json" (.obj O) = .ok s ∧
      s.custom = .entries (.ofEntries custom) ∧ customIn O "list_type" = some (.str "Vector") ∧
      custom.get? "list_type" = some (.str "List") := by
  intro files O
  have hread : Json.read "\x7b\"list_type\": \"List\"\x7d" =
      .ok (.obj [("list_type", .str "List")]) := by
    cbv
  have hfile : readFile files "f.json" = .ok [("list_type", .str "List")] :=
    readFile_eq_ok.mpr ⟨rfl, rfl, _, rfl, hread⟩
  have hF : HasCustomObject [("list_type", .str "List")] := fun v hv => by cases hv
  have hO : HasCustomObject O := fun v hv => ⟨_, (Option.some.inj hv).symm⟩
  have hwell : (Json.obj O).WellFormed := by
    simp [O, Json.wellFormed_obj, Json.wellFormed_str, Entries.keys]
  obtain ⟨s, custom, hs, hcustom, -, hkeys⟩ := get_layers (by decide) hfile hF hwell hO
  exact ⟨s, custom, hs, hcustom, rfl, (hkeys "list_type" (by decide)).1⟩

end Settings

end ThriftScala
