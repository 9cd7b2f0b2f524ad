/-
  Settings under any name of a language.

  Only one name of the language has defaults, so under another name the same sources are laid over
  nothing.  To a generator this makes no difference.  Every default of a setting with a name is also
  the standard value of this setting (`default_is_standard`), and every default of the name of a
  Scala type is the one that stands in for it (`ofMembers_eq`).

  What may stand under `custom` is any value, so the layers are followed here for all files
  (`exists_lay`): an object is laid over what is there, and any other value takes its place.  Then
  either the custom settings are the same value under both names, or they are entries that differ
  at most in defaults, and stay so when other entries are laid over them (`SameOverDefaults`).

  The file for the code is no default, so it is the one of the overrides, else of the file
  (`outputFile_of_load`).
-/
import ThriftScala.Proofs.Settings.Loaded
import ThriftScala.Proofs.Settings.Layering

namespace ThriftScala

open Outcome

namespace Settings

/-! ## One source over another -/

/-- The entries that name no setting. -/
def extras (es : Entries Json) : Entries Json := es.filter fun e => !names.contains e.1

/-- The extras are the entries that are no setting by name. -/
theorem extras_cons (key : String) (value : Json) (es : Entries Json) :
    extras ((key, value) :: es) =
      if names.contains key then extras es else (key, value) :: extras es := by
  rw [extras, List.filter_cons]
  cases names.contains key <;> rfl

/-- Setting a key changes the extras only if it is no setting by name. -/
theorem extras_set (es : Entries Json) (key : String) (value : Json) :
    extras (es.set key value) =
      if names.contains key then extras es else (extras es).set key value := by
  rw [extras, Entries.filter_set fun k => !names.contains k]
  cases names.contains key <;> rfl

/-- What is found under a key after a value was put there: an object under `custom` goes over what
    is there, any other value is found as it is. -/
def laid (base : Entries Json) (key : String) (value : Json) : Json :=
  match key, value with
  | "custom", .obj members => .obj (Entries.update (nested base) members)
  | _, v => v

/-- A value under another key is laid as it is. -/
theorem laid_other {key : String} (h : key ≠ "custom") (base : Entries Json) (value : Json) :
    laid base key value = value := by
  unfold laid
  split
  · exact absurd rfl h
  · rfl

/-- An entry is set, unless it is an object that meets something else under `custom`. -/
theorem layEntry_eq {base : Entries Json} {key : String}
    (h : key = "custom" → HasCustomObject base) (value : Json) :
    layEntry base key value = .ok (base.set key (laid base key value)) := by
  by_cases hkey : key = "custom"
  · subst hkey
    cases value with
    | obj members => exact layEntry_custom (h rfl) members
    | _ => rfl
  · rw [layEntry_other hkey, laid_other hkey]

/-- What is set under one key does not matter to another. -/
theorem laid_set {base : Entries Json} {key k : String} (h : key ≠ k) (v : Json) :
    laid (base.set key v) k = laid base k := by
  funext w
  by_cases hk : k = "custom"
  · subst hk
    cases w with
    | obj members => rw [laid, laid, nested_set_other h]
    | _ => rfl
  · rw [laid_other hk, laid_other hk]

/-- **One source over another.**  Every key is found in the upper source first, and the entries
    that name no setting are laid over each other. -/
theorem exists_lay {base layer : Entries Json} (hkeys : layer.keys.Nodup)
    (hcustom : "custom" ∈ layer.keys → HasCustomObject base) :
    ∃ merged, lay base layer = .ok merged ∧
      (∀ k, merged.get? k = ((layer.get? k).map (laid base k)).or (base.get? k)) ∧
      extras merged = (extras base).update (extras layer) := by
  induction layer generalizing base with
  | nil => exact ⟨base, rfl, fun _ => rfl, rfl⟩
  | cons e layer ih =>
    obtain ⟨key, value⟩ := e
    rw [Entries.keys_cons, List.nodup_cons] at hkeys
    rw [Entries.keys_cons, List.mem_cons] at hcustom
    -- the custom settings come once: a later layer that has them leaves those of the base alone
    have hcustom' : "custom" ∈ Entries.keys layer →
        HasCustomObject (base.set key (laid base key value)) := by
      intro hmem v hv
      have hne : key ≠ "custom" := fun heq => hkeys.1 (heq ▸ hmem)
      rw [Entries.get?_set, if_neg hne] at hv
      exact hcustom (.inr hmem) v hv
    obtain ⟨merged, hmerged, hfound, hextras⟩ := ih hkeys.2 hcustom'
    refine ⟨merged, ?_, fun k => ?_, ?_⟩
    · rw [lay, List.foldlM_cons, layEntry_eq fun heq => hcustom (.inl heq.symm)]
      exact hmerged
    · rw [hfound, Entries.get?_cons, Entries.get?_set]
      by_cases hk : key = k
      · -- no later entry has this key, so what was set here is found
        subst hk
        simp [Entries.get?_eq_none_iff.mpr hkeys.1]
      · simp [hk, laid_set hk]
    · rw [hextras, extras_set, extras_cons]
      split_ifs with hname
      · rfl
      · have hne : key ≠ "custom" := fun heq => hname (by rw [heq]; decide)
        rw [laid_other hne, Entries.update_cons]

/-! ## Sources in order -/

/-- The object in a file, and nothing if no file is given. -/
def sourceAt (files : Files) (path : String) : Except SettingsError (Entries Json) :=
  if path = "" then .ok [] else readFile files path

/-- Settings are the file, if there is one, laid under the overrides. -/
theorem get_eq (files : Files) (language path : String) (overrides : Json) :
    get files language path overrides = (do
      let file ← sourceAt files path
      (ofSources language (some file) overrides).mapError .misuse) := by
  rw [get, sourceAt]
  split
  · rfl
  · cases readFile files path <;> rfl

/-- No key comes twice in a file that was read. -/
theorem nodup_of_sourceAt {files : Files} {path : String} {file : Entries Json}
    (h : sourceAt files path = .ok file) : file.keys.Nodup := by
  unfold sourceAt at h
  split at h
  · cases h
    exact List.nodup_nil
  · exact (Json.wellFormed_obj.mp (wellFormed_of_readFile h)).1

/-- The defaults have no extras. -/
theorem extras_defaultsOf (language : String) : extras (defaultsOf language) = [] :=
  List.filter_eq_nil_iff.mpr fun e he => by
    simpa using keys_defaultsOf language e.1 (List.mem_map_of_mem he)

/-- Overrides in which no key comes twice, and that set nothing under `custom`. -/
structure IsPlainLayer (layer : Entries Json) : Prop where
  keys : layer.keys.Nodup
  custom : "custom" ∉ layer.keys

/-- The entries that a file and overrides give together, over the defaults of a language. -/
structure Merged (language : String) (file layer es : Entries Json) : Prop where
  found : ∀ k, es.get? k = (layer.get? k).or
    (((file.get? k).map (laid (defaultsOf language) k)).or ((defaultsOf language).get? k))
  rest : extras es = (Entries.update [] (extras file)).update (extras layer)

/-- A file and such overrides can be laid over the defaults. -/
theorem exists_merged (language : String) {file layer : Entries Json} (hf : file.keys.Nodup)
    (hl : IsPlainLayer layer) :
    ∃ es, Merged language file layer es ∧
      ofSources language (some file) (.obj layer) = ofLayers es := by
  obtain ⟨below, hbelow, hfoundBelow, hextrasBelow⟩ :=
    exists_lay hf fun _ => (isSource_defaultsOf language).custom
  obtain ⟨es, hes, hfound, hextras⟩ := @exists_lay below layer hl.keys fun h => absurd h hl.custom
  refine ⟨es, ⟨fun k => ?_, ?_⟩, ?_⟩
  · rw [hfound, hfoundBelow]
    by_cases hk : k = "custom"
    · rw [hk, Entries.get?_eq_none_iff.mpr hl.custom]
      rfl
    · have hsame : laid below k = id := funext (laid_other hk below)
      rw [hsame, Option.map_id_fun, id]
  · rw [hextras, hextrasBelow, extras_defaultsOf]
  · have hdefaults : (defaults.get? language).getD [] = defaultsOf language := rfl
    rw [ofSources, hdefaults, Option.getD_some, hbelow, ok_bind, layValue_obj, hes, ok_bind]

/-! ## The file for the code -/

/-- The file for the code is the one that the layers name. -/
theorem outputFile_of_ofLayers {es : Entries Json} {s : Settings} (h : ofLayers es = .ok s) :
    s.outputFile = (es.get? "output_file").getD .null := by
  simp only [ofLayers] at h
  split at h
  · cases h
    rfl
  · obtain ⟨custom, -, h⟩ := bind_eq_ok.mp h
    cases h
    rfl

/-- Settings that were loaded are those that were found. -/
theorem get_of_load {files : Files} {language path : String} {overrides : Json} {s : Settings}
    (h : load files language path overrides = .ok s) :
    get files language path overrides = .ok s := by
  obtain ⟨s', hs', h⟩ := bind_eq_ok.mp h
  obtain ⟨ps, -, h⟩ := bind_eq_ok.mp h
  cases ps with
  | nil =>
    cases h
    exact hs'
  | cons p ps => cases h

/-- **The file for the code** is the one of the overrides, else of the file with settings. -/
theorem outputFile_of_load {files : Files} {language path : String} {layer : Entries Json}
    {s : Settings} (hl : IsPlainLayer layer)
    (h : load files language path (.obj layer) = .ok s) :
    ∃ file, sourceAt files path = .ok file ∧
      s.outputFile = ((layer.get? "output_file").or (file.get? "output_file")).getD .null := by
  have hget := get_of_load h
  rw [get_eq] at hget
  obtain ⟨file, hfile, hsources⟩ := bind_eq_ok.mp hget
  obtain ⟨es, hes, hlayers⟩ := exists_merged language (nodup_of_sourceAt hfile) hl
  rw [mapError_eq_ok, hlayers] at hsources
  refine ⟨file, hfile, ?_⟩
  have hdefault : (defaultsOf language).get? "output_file" = none := by
    rcases defaultsOf_cases language with rfl | hnone
    · rfl
    · rw [hnone, Entries.get?_nil]
  have hsame : laid (defaultsOf language) "output_file" = id :=
    funext (laid_other (by decide) _)
  rw [outputFile_of_ofLayers hsources, hes.found, hdefault, hsame, Option.map_id_fun, id,
    Option.or_none]

/-! ## Names of Scala types -/

/-- The custom settings that are defaults. -/
def customDefaults : Entries Json := nested (defaultsOf "scala")

/-- Are entries the same where those that are missing are taken from the defaults? -/
def SameOverDefaults (members others : Entries Json) : Prop :=
  ∀ k, (members.get? k).or (customDefaults.get? k) = (others.get? k).or (customDefaults.get? k)

/-- The custom settings of two languages are the same over the defaults. -/
theorem sameOverDefaults_nested (language language' : String) :
    SameOverDefaults (nested (defaultsOf language)) (nested (defaultsOf language')) := by
  have hself : ∀ l k, ((nested (defaultsOf l)).get? k).or (customDefaults.get? k) =
      customDefaults.get? k := by
    intro l k
    rcases defaultsOf_cases l with rfl | hnone
    · exact Option.or_self
    · rw [hnone]
      rfl
  intro k
  rw [hself, hself]

/-- Entries that are laid over both do not make a difference. -/
theorem SameOverDefaults.update {members others : Entries Json}
    (h : SameOverDefaults members others) (new : Entries Json) :
    SameOverDefaults (members.update new) (others.update new) := by
  induction new generalizing members others with
  | nil => exact h
  | cons e new ih =>
    refine ih fun k => ?_
    rw [Entries.get?_set, Entries.get?_set]
    split
    · rfl
    · exact h k

/-- **The defaults stand in for the names that are not given.** -/
theorem ofMembers_eq (members : Entries Json) :
    let pick (k : String) : Json := ((members.get? k).or (customDefaults.get? k)).getD .null
    Scala.TypeNames.ofMembers members =
      ⟨pick "list_type", pick "set_type", pick "map_type", pick "option_type",
        pick "binary_type"⟩ := by
  have hpick : ∀ k standard, customDefaults.get? k = some standard →
      ((members.get? k).or (customDefaults.get? k)).getD .null =
        (members.lookup k).getD standard := by
    intro k standard hstandard
    rw [hstandard, ← Entries.get?]
    cases members.get? k <;> rfl
  intro pick
  simp only [pick, Scala.TypeNames.ofMembers]
  rw [hpick "list_type" _ rfl, hpick "set_type" _ rfl, hpick "map_type" _ rfl,
    hpick "option_type" _ rfl, hpick "binary_type" _ rfl]

/-- What is the same over the defaults gives the same names of types. -/
theorem SameOverDefaults.ofMembers {members others : Entries Json}
    (h : SameOverDefaults members others) :
    Scala.TypeNames.ofMembers members = Scala.TypeNames.ofMembers others := by
  simp only [ofMembers_eq, h _]

theorem ofCustom_obj (members : Entries Json) :
    Scala.TypeNames.ofCustom (.obj members) = .ok (.ofMembers members) := by
  cases members <;> rfl

/-! ## What a generator sees -/

/-- Settings without the file for the code and the custom ones. -/
def bare (s : Settings) : Settings := { s with outputFile := .null, custom := .entries [] }

/-- What a generator sees of settings: all but the file for the code, and of the custom settings
    the names of Scala types. -/
def seen (s : Settings) : Settings × Except Misuse Scala.TypeNames :=
  (s.bare, Scala.TypeNames.ofCustom s.custom.toJson)

/-- The custom settings that entries give, those that name no setting among them. -/
def customFrom (es : Entries Json) : Except Misuse Custom :=
  if (extras es).isEmpty then .ok (ofEntries es).custom
  else (ofEntries es).custom.toEntries.map fun custom =>
    .entries (custom.update (.ofEntries (extras es)))

/-- What is seen of settings are the named ones and the names of types. -/
theorem seen_ofLayers (es : Entries Json) :
    (ofLayers es).map seen = (customFrom es).map fun custom =>
      ((ofEntries es).bare, Scala.TypeNames.ofCustom custom.toJson) := by
  have hlayers : ofLayers es =
      if (extras es).isEmpty then .ok (ofEntries es)
      else (ofEntries es).custom.toEntries >>= fun custom =>
        .ok { ofEntries es with custom := .entries (custom.update (.ofEntries (extras es))) } :=
    rfl
  rw [hlayers, customFrom]
  split
  · rfl
  · cases (ofEntries es).custom.toEntries <;> rfl

/-- The names of Scala types in custom settings that are entries. -/
theorem seen_entries {members : Entries Json} (h : members.keys.Nodup) :
    Scala.TypeNames.ofCustom (Custom.entries (.ofEntries members)).toJson =
      .ok (.ofMembers members) := by
  rw [Custom.toJson, KeyedEntries.texts_ofEntries, Entries.nil_update h, ofCustom_obj]

/-- The custom settings are the nested ones, updated by the extras. -/
theorem customFrom_eq {es : Entries Json} (h : HasCustomObject es) :
    customFrom es = .ok (.entries (.ofEntries ((nested es).update (extras es)))) := by
  rw [customFrom, custom_ofEntries h]
  split
  · rename_i hnone
    rw [List.isEmpty_iff.mp hnone, Entries.update_nil]
  · simp [Custom.toEntries, KeyedEntries.update_ofEntries]

/-- A default of a setting with a name is its standard value. -/
theorem default_is_standard (language : String) {name : String} (h : name ≠ "custom") :
    ((defaultsOf language).get? name).or (({} : Settings).valueOf name) =
      ({} : Settings).valueOf name := by
  rcases defaultsOf_cases language with rfl | hnone
  · have hdefaults : ∀ e ∈ defaultsOf "scala", e.1 ≠ "custom" →
        ({} : Settings).valueOf e.1 = some e.2 := by
      simp [defaultsOf, defaults, Entries.get?_cons, valueOf]
    cases hget : (defaultsOf "scala").get? name with
    | none => rfl
    | some v =>
      rw [hdefaults (name, v) (Entries.mem_of_get? hget) h]
      rfl
  · rw [hnone]
    rfl

/-- Settings with names are the same if they are found in the same places, but for the file for the
    code. -/
theorem bare_ofEntries {es es' : Entries Json}
    (h : ∀ name, name ≠ "custom" → name ≠ "output_file" →
      (es.get? name).or (({} : Settings).valueOf name) =
        (es'.get? name).or (({} : Settings).valueOf name)) :
    (ofEntries es).bare = (ofEntries es').bare := by
  have hvalue : ∀ {name : String} {standard : Json}, name ≠ "custom" → name ≠ "output_file" →
      ({} : Settings).valueOf name = some standard →
      (es.get? name).getD standard = (es'.get? name).getD standard := by
    intro name standard hcustom houtput hstandard
    have hfound := h name hcustom houtput
    rw [hstandard] at hfound
    cases hes : es.get? name <;> cases hes' : es'.get? name <;> simp_all
  simp only [bare, ofEntries, Settings.mk.injEq, true_and, and_true]
  exact ⟨hvalue (by decide) (by decide) rfl, hvalue (by decide) (by decide) rfl,
    hvalue (by decide) (by decide) rfl, hvalue (by decide) (by decide) rfl,
    hvalue (by decide) (by decide) rfl⟩

/-! ## The same sources under two names -/

/-- What is found under `custom`: a value that is no object, or entries laid over the defaults. -/
theorem Merged.custom {language : String} {file layer es : Entries Json}
    (h : Merged language file layer es) (hl : IsPlainLayer layer) :
    (¬ HasCustomObject file ∧ es.get? "custom" = file.get? "custom") ∨
      HasCustomObject file ∧ HasCustomObject es ∧
        nested es = (nested (defaultsOf language)).update (nested file) := by
  have hfound := h.found "custom"
  rw [Entries.get?_eq_none_iff.mpr hl.custom, Option.none_or] at hfound
  have hobject := (isSource_defaultsOf language).custom
  cases hget : file.get? "custom" with
  | none =>
    rw [hget, Option.map_none, Option.none_or] at hfound
    refine .inr ⟨fun v hv => by simp [hget] at hv, fun v hv => hobject v (hfound ▸ hv), ?_⟩
    rw [nested, hfound, nested, nested, hget]
    rfl
  | some v =>
    rw [hget, Option.map_some, Option.some_or] at hfound
    cases v with
    | obj members =>
      refine .inr ⟨fun v hv => ⟨members, by simpa [hget] using hv.symm⟩,
        fun v hv => ⟨_, by simpa [hfound, laid] using hv.symm⟩, ?_⟩
      rw [nested_of_get? hfound, nested_of_get? hget]
    | _ =>
      refine .inl ⟨fun hfile => ?_, hfound⟩
      obtain ⟨members, hmembers⟩ := hfile _ hget
      cases hmembers

/-- The same sources give the same to a generator, whatever the defaults are. -/
theorem Merged.seen_eq {language language' : String} {file layer layer' es es' : Entries Json}
    (h : Merged language file layer es) (h' : Merged language' file layer' es')
    (hl : IsPlainLayer layer) (hl' : IsPlainLayer layer')
    (hsame : ∀ k, k ≠ "output_file" → layer'.get? k = layer.get? k)
    (hextras : extras layer' = extras layer) :
    (ofLayers es').map seen = (ofLayers es).map seen := by
  have hbare : (ofEntries es').bare = (ofEntries es).bare := by
    refine bare_ofEntries fun name hcustom houtput => ?_
    have hlaid : ∀ l, laid (defaultsOf l) name = id := fun l => funext (laid_other hcustom _)
    rw [h.found, h'.found, hsame name houtput, hlaid, hlaid]
    simp only [Option.map_id_fun, id, Option.or_assoc, default_is_standard _ hcustom]
  have hextras' : extras es' = extras es := by rw [h.rest, h'.rest, hextras]
  have hnames : (customFrom es').map (fun c => Scala.TypeNames.ofCustom c.toJson) =
      (customFrom es).map fun c => Scala.TypeNames.ofCustom c.toJson := by
    -- whether custom settings are an object is decided by the file, which both ways read
    rcases h.custom hl, h'.custom hl' with
      ⟨⟨hfile, hget⟩ | ⟨hfile, hobject, hnested⟩, ⟨hfile', hget'⟩ | ⟨hfile', hobject', hnested'⟩⟩
    · have hcustom : (ofEntries es').custom = (ofEntries es).custom := by
        rw [ofEntries, ofEntries, hget, hget']
      rw [customFrom, customFrom, hcustom, hextras']
    · exact absurd hfile' hfile
    · exact absurd hfile hfile'
    -- the defaults of the languages differ, but not in the names of types that they give
    · have hdistinct : ∀ l, ((nested (defaultsOf l)).update (nested file)).keys.Nodup := fun l =>
        Entries.nodup_keys_update (isSource_defaultsOf l).nested _
      have hover := ((sameOverDefaults_nested language' language).update (nested file)).update
        (extras es)
      rw [customFrom_eq hobject, customFrom_eq hobject', hextras', hnested, hnested', map_ok,
        map_ok, seen_entries (Entries.nodup_keys_update (hdistinct _) _),
        seen_entries (Entries.nodup_keys_update (hdistinct _) _), hover.ofMembers]
  rw [seen_ofLayers, seen_ofLayers, hbare]
  rcases alike_cases hnames with ⟨m, hm, hm'⟩ | ⟨custom, custom', hok, hok', hsame⟩
  · rw [hm, hm']
  · rw [hok, hok', map_ok, map_ok, hsame]

/-- What is wrong with settings does not depend on what a generator does not see. -/
theorem problems_bare (s : Settings) : s.bare.problems = s.problems := rfl

/-- **Settings are the same to a generator under all names of a language**, and the file for the
    code does not matter to it. -/
theorem seen_load (files : Files) (language language' path : String) {layer layer' : Entries Json}
    (hl : IsPlainLayer layer) (hl' : IsPlainLayer layer')
    (hsame : ∀ k, k ≠ "output_file" → layer'.get? k = layer.get? k)
    (hextras : extras layer' = extras layer) :
    (load files language' path (.obj layer')).map seen =
      (load files language path (.obj layer)).map seen := by
  have hget : (get files language' path (.obj layer')).map seen =
      (get files language path (.obj layer)).map seen := by
    rw [get_eq, get_eq]
    refine bind_map_congr (rfl : (sourceAt files path).map id = _) ?_
    intro file file' hfile hfile' hsource
    obtain rfl : file' = file := hsource
    have hnodup := nodup_of_sourceAt hfile
    obtain ⟨es, hes, hlayers⟩ := exists_merged language hnodup hl
    obtain ⟨es', hes', hlayers'⟩ := exists_merged language' hnodup hl'
    rw [hlayers, hlayers']
    rcases alike_cases (hes.seen_eq hes' hl hl' hsame hextras) with
      ⟨m, hm, hm'⟩ | ⟨s, s', hs, hs', hseen⟩
    · rw [hm, hm']
    · simp [hs, hs', hseen, Except.mapError]
  refine bind_map_congr hget fun s s' _ _ hs => ?_
  -- problems are looked for in what is seen only
  have hproblems : s'.problems = s.problems := by
    rw [← problems_bare s', ← problems_bare s, (Prod.mk.inj hs).1]
  rw [hproblems]
  cases s.problems with
  | error m => rfl
  | ok ps =>
    cases ps with
    | nil => exact congrArg Except.ok hs
    | cons p ps => rfl

end Settings

end ThriftScala
