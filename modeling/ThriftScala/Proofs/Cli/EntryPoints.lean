/-
  The ways to the code of a document.

  A run of the command lays the settings over the defaults of the name that was typed; making code in
  one step looks up the language first, and uses its defaults.  A generator sees no difference
  between such settings (`seen_load`), and makes the same of the same document
  (`run_bare`, `prepare_alike`).  So a run under one name of the language does what a run under the
  other does, whatever it comes to (`make_names`), and makes a text exactly if the text is made in
  one step (`makes_iff`, `quickGenerate_eq_ok`).  What is made can fail to be written: a text with
  half of a surrogate pair in it cannot be encoded.
-/
import ThriftScala.Proofs.Cli.Arguments
import ThriftScala.Proofs.Cli.Output

namespace ThriftScala

open Outcome

/-- Does the name stand for the language, in any spelling? -/
def StandsForScala (name : String) : Prop := name.lowered = "scala" ∨ name.lowered = "scrooge"

/-! ## Generators that see the same -/

namespace Scala.Generator

/-- A generator without what it does not see of its settings. -/
def bare (g : Generator) : Generator := ⟨g.settings.bare, g.names⟩

/-- What a generator makes does not depend on what it does not see. -/
theorem run_bare (g : Generator) (d : Document) : g.bare.run d = g.run d := rfl

/-- Generators of settings that are the same to them. -/
theorem ofSettings_alike {s s' : Settings} (h : s'.seen = s.seen) :
    (ofSettings s').map bare = (ofSettings s).map bare := by
  obtain ⟨hbare, hnames⟩ := Prod.mk.inj h
  refine bind_map_congr (congrArg (Except.map id) hnames) fun names names' _ _ hsame => ?_
  obtain rfl : names' = names := hsame
  simp [bare, hbare]

end Scala.Generator

/-! ## The built-in language -/

theorem resolve_of_stands {name : String} (h : StandsForScala name) :
    Registry.builtIn.resolve name = .ok "scala" := by
  rcases h with h | h <;> simp only [Registry.resolve, h] <;> rfl

theorem classOf_of_stands {name : String} (h : StandsForScala name) :
    Registry.builtIn.classOf name = .ok Registry.scalaClass := by
  rw [Registry.classOf, resolve_of_stands h]
  rfl

/-- A generator with settings that were made before. -/
theorem generatorFor_settings {name : String} (h : StandsForScala name) (files : Files)
    (s : Settings) :
    generatorFor files name (.settings s) =
      (Scala.Generator.ofSettings s).mapError fun m => .registry (.misuse m) := by
  rw [generatorFor, Registry.create, classOf_of_stands h, resolve_of_stands h]
  cases h : Scala.Generator.ofSettings s <;> simp [Registry.settingsFor, h, Except.mapError]

/-- A generator with options for settings. -/
theorem generatorFor_options {name : String} (h : StandsForScala name) {files : Files}
    {options : Entries Json} {g : Scala.Generator} :
    generatorFor files name (.value (.obj options)) = .ok g ↔
      ∃ s, Settings.load files "scala" "" (.obj options) = .ok s ∧
        Scala.Generator.ofSettings s = .ok g := by
  rw [generatorFor, Registry.create, classOf_of_stands h, resolve_of_stands h]
  simp only [Registry.settingsFor, ok_bind]
  cases Settings.load files "scala" "" (.obj options) with
  | error e => cases e <;> simp [Except.mapError]
  | ok s => cases h : Scala.Generator.ofSettings s <;> simp [h, Except.mapError]

namespace Cli

/-! ## Two names of the language -/

/-- The document and the generator of settings that are the same to a generator. -/
theorem prepare_alike {name name' : String} (hname : StandsForScala name)
    (hname' : StandsForScala name') (files : Files) {s s' : Settings} (h : s'.seen = s.seen)
    (path : String) :
    (prepare files name' s' path).map (fun p => (p.1.bare, p.2)) =
      (prepare files name s path).map fun p => (p.1.bare, p.2) := by
  have hbare : s'.bare.packageName = s.bare.packageName := by rw [(Prod.mk.inj h).1]
  have hpackage : s'.packageName = s.packageName := hbare
  have hgenerator : (generatorFor files name' (.settings s')).map Scala.Generator.bare =
      (generatorFor files name (.settings s)).map Scala.Generator.bare := by
    rw [generatorFor_settings hname, generatorFor_settings hname']
    rcases alike_cases (Scala.Generator.ofSettings_alike h) with
      ⟨m, hs, hs'⟩ | ⟨g, g', hs, hs', hg⟩
    · rw [hs, hs']
    · simp [hs, hs', hg, Except.mapError]
  refine bind_map_congr hgenerator fun g g' _ _ hg => ?_
  rw [hpackage]
  cases Document.ofFile files path s.packageName with
  | error e => rfl
  | ok d => simp [Except.mapError, hg]

/-- The settings of a request under two names are the same to a generator, and code goes to the same
    file. -/
theorem settings_names (r : Request) (files : Files) (language language' : String) :
    (r.settings files language').map (fun s => (s.seen, s.outputFile)) =
      (r.settings files language).map fun s => (s.seen, s.outputFile) := by
  have hseen : (r.settings files language').map Settings.seen =
      (r.settings files language).map Settings.seen :=
    Settings.seen_load files language.lowered language'.lowered _ r.isPlainLayer r.isPlainLayer
      (fun _ _ => rfl) rfl
  rcases alike_cases hseen with ⟨e, hs, hs'⟩ | ⟨s, s', hs, hs', hsame⟩
  · rw [hs, hs']
  · obtain ⟨config, hconfig, houtput⟩ := outputFile_of_settings hs
    obtain ⟨config', hconfig', houtput'⟩ := outputFile_of_settings hs'
    rw [hconfig] at hconfig'
    cases hconfig'
    simp [hs, hs', hsame, houtput, houtput']

/-- **Two names of the language make the same**, whatever it comes to. -/
theorem make_names {name name' : String} (hname : StandsForScala name)
    (hname' : StandsForScala name') (r : Request) (disk : Disk) (files : Files) (path : String) :
    r.make disk files name' path = r.make disk files name path := by
  unfold Request.make
  rcases alike_cases (settings_names r files name name') with
    ⟨e, hs, hs'⟩ | ⟨s, s', hs, hs', hsame⟩
  · rw [hs, hs']
  · obtain ⟨hseen, houtput⟩ := Prod.mk.inj hsame
    rw [hs, hs']
    simp only
    rcases alike_cases (prepare_alike hname hname' files hseen path) with
      ⟨f, hp, hp'⟩ | ⟨p, p', hp, hp', hsame⟩
    · rw [hp, hp']
    · obtain ⟨hg, hd⟩ := Prod.mk.inj hsame
      have hrun : p'.1.run p'.2 = p.1.run p.2 := by
        rw [← Scala.Generator.run_bare, hg, hd, Scala.Generator.run_bare]
      rw [hp, hp']
      simp only [hrun, houtput]

/-- Requests that differ only in the name of the language come to the same. -/
theorem run_names {name name' : String} (hname : StandsForScala name)
    (hname' : StandsForScala name') {r r' : Request} (h : r.Alike name name' r') (disk : Disk)
    (files : Files) : r'.run disk files = r.run disk files := by
  rcases h with rfl | ⟨hr, rfl⟩
  · rfl
  · unfold Request.run
    split
    · rfl
    · rw [hr]
      cases r.file with
      | none => rfl
      | some path =>
        by_cases hpath : path = ""
        · subst hpath
          rfl
        · simp only
          exact make_names hname hname' r disk files path

/-- Arguments that are read alike come to the same. -/
theorem run_of_parsed {name name' : String} (hname : StandsForScala name)
    (hname' : StandsForScala name') {args args' : List String}
    (h : (parse args).Alike name name' (parse args')) (disk : Disk) (files : Files) :
    run disk files args' = run disk files args := by
  unfold run
  rcases h with heq | ⟨r, r', hr, hr', halike⟩
  · rw [heq]
  · rw [hr, hr']
    exact run_names hname hname' halike disk files

end Cli

/-! ## Code in one step -/

/-- With such settings, the code for a document. -/
def MakesCode (loaded : Except SettingsError Settings) (v : Json) (code : String) : Prop :=
  ∃ s g d warnings summary, loaded = .ok s ∧ Scala.Generator.ofSettings s = .ok g ∧
    Document.ofJson s.packageName v = .ok d ∧ g.run d = .ok (.code code warnings summary)

/-- Settings that are the same to a generator make the same code. -/
theorem MakesCode.congr {loaded loaded' : Except SettingsError Settings} {v : Json} {code : String}
    (h : loaded'.map Settings.seen = loaded.map Settings.seen) (hcode : MakesCode loaded v code) :
    MakesCode loaded' v code := by
  obtain ⟨s, g, d, warnings, summary, rfl, hg, hd, hrun⟩ := hcode
  rcases alike_cases h with ⟨e, he, -⟩ | ⟨_, s', hs, rfl, hseen⟩
  · cases he
  · cases hs
    have hbare : s'.bare.packageName = s.bare.packageName := by rw [(Prod.mk.inj hseen).1]
    have hpackage : s'.packageName = s.packageName := hbare
    rcases alike_cases (Scala.Generator.ofSettings_alike hseen) with
      ⟨m, hm, -⟩ | ⟨_, g', hg', hs', hsame⟩
    · rw [hg] at hm
      cases hm
    · rw [hg] at hg'
      cases hg'
      refine ⟨s', g', d, warnings, summary, rfl, hs', by rw [hpackage, hd], ?_⟩
      rw [← Scala.Generator.run_bare, hsame, Scala.Generator.run_bare, hrun]

theorem settings_of_ofSettings {s : Settings} {g : Scala.Generator}
    (h : Scala.Generator.ofSettings s = .ok g) : g.settings = s := by
  obtain ⟨names, -, h⟩ := bind_eq_ok.mp h
  cases h
  rfl

/-- **Code in one step** is made with the options for settings, over the defaults of the
    language. -/
theorem quickGenerate_eq_ok {name : String} (hname : StandsForScala name) {options : Entries Json}
    (hoptions : options.keys.any takenOptions.contains = false) {v : Json} {code : String} :
    quickGenerate name options v = .ok code ↔
      MakesCode (Settings.load [] "scala" "" (.obj options)) v code := by
  simp only [quickGenerate, hoptions, Bool.false_eq_true, if_false]
  constructor
  · intro h
    obtain ⟨g, hg, h⟩ := bind_eq_ok.mp h
    obtain ⟨result, hresult, h⟩ := bind_eq_ok.mp h
    obtain ⟨s, hs, hofSettings⟩ := (generatorFor_options hname).mp hg
    obtain ⟨d, hd, hrun⟩ := bind_eq_ok.mp hresult
    rw [mapError_eq_ok] at hd hrun
    cases result with
    | failed e => cases h
    | code text warnings summary =>
      cases h
      rw [settings_of_ofSettings hofSettings] at hd
      exact ⟨s, g, d, warnings, summary, hs, hofSettings, hd, hrun⟩
  · rintro ⟨s, g, d, warnings, summary, hs, hg, hd, hrun⟩
    have hgenerator := (generatorFor_options hname).mpr ⟨s, hs, hg⟩
    rw [hgenerator, ok_bind, settings_of_ofSettings hg]
    simp [resultFor, hd, hrun, Except.mapError]

namespace Cli

/-- A request for code, without a file with settings, from a document that holds JSON. -/
structure Request.Reads (r : Request) (files : Files) (v : Json) : Prop where
  code : r.listLanguages = false
  config : r.config.getD "" = ""
  document : ∃ path text, r.file = some path ∧ files.has (.ofText path) = .ok true ∧
    files.read (.ofText path) = .ok text ∧ Json.read text = .ok v

/-- The overrides of a request, with the file for the code or without it. -/
def Request.options (r : Request) : List (Entries Json) :=
  [r.overrides, Request.overrides { r with output := none }]

/-- The options of a request are settings like its overrides, up to the file for the code. -/
theorem Request.options_alike {r : Request} {options : Entries Json} (h : options ∈ r.options) :
    Settings.IsPlainLayer options ∧ Settings.extras options = Settings.extras r.overrides ∧
      (∀ k, k ≠ "output_file" → options.get? k = r.overrides.get? k) ∧
      options.keys.any takenOptions.contains = false := by
  have hplain : ∀ r : Request, Settings.extras r.overrides = [] ∧
      r.overrides.keys.any takenOptions.contains = false := by
    intro r
    have hkey := r.keys_overrides.subset
    have hfar : ∀ k ∈ ["package_name", "field_case", "add_comments", "output_file",
        "service_options"], Settings.names.contains k = true ∧ takenOptions.contains k = false := by
      decide
    refine ⟨List.filter_eq_nil_iff.mpr fun e he => ?_, List.any_eq_false.mpr fun k hk => ?_⟩
    · simpa using (hfar e.1 (hkey (List.mem_map_of_mem he))).1
    · simpa using (hfar k (hkey hk)).2
  simp only [Request.options, List.mem_cons, List.not_mem_nil, or_false] at h
  rcases h with rfl | rfl
  · exact ⟨r.isPlainLayer, rfl, fun _ _ => rfl, (hplain r).2⟩
  · refine ⟨Request.isPlainLayer _, by rw [(hplain _).1, (hplain r).1], fun k hk => ?_,
      (hplain _).2⟩
    obtain ⟨front, back, heq, hnone, -, -⟩ := r.overrides_eq
    have houtput : (textOverride "output_file" r.output).get? k = none :=
      Entries.get?_eq_none_iff.mpr fun hmem =>
        hk (List.mem_singleton.mp ((keys_textOverride _ _).subset hmem))
    rw [heq, hnone, Entries.get?_append, Entries.get?_append, Entries.get?_append, houtput,
      Option.or_none]

/-- **A request makes the code that is made in one step with its options.** -/
theorem makes_iff {name name' : String} (hname : StandsForScala name)
    (hname' : StandsForScala name') {r : Request} {files : Files} {v : Json}
    (hlanguage : r.language = some name) (hreads : r.Reads files v) {options : Entries Json}
    (hoptions : options ∈ r.options) {output : Json} {code : String} :
    r.Makes files output code ↔
      output = r.outputFile [] ∧ quickGenerate name' options v = .ok code := by
  obtain ⟨-, hconfig, path, text, hfile, hthere, htext, hv⟩ := hreads
  obtain ⟨hplain, hextras, hsame, htaken⟩ := Request.options_alike hoptions
  have hsource : Settings.sourceAt files (r.config.getD "") = .ok [] := by
    rw [hconfig]
    rfl
  have hdocument : ∀ package, Document.ofFile files path package = Document.ofJson package v := by
    intro package
    simp [Document.ofFile, hthere, htext, hv, Except.mapError]
  -- both ways lay the same options over the defaults, and what is seen of them is the same
  have hseen : (r.settings files name).map Settings.seen =
      (Settings.load [] "scala" "" (.obj options)).map Settings.seen := by
    rw [Request.settings, hconfig]
    exact Settings.seen_load [] "scala" name.lowered "" hplain r.isPlainLayer
      (fun k hk => (hsame k hk).symm) hextras.symm
  rw [quickGenerate_eq_ok hname' htaken]
  constructor
  · rintro ⟨path', language, config, s, g, d, warnings, summary, hfile', hlanguage', hsource',
      houtput, hs, hprepare, hrun⟩
    rw [hfile] at hfile'
    rw [hlanguage] at hlanguage'
    rw [hsource] at hsource'
    cases hfile'
    cases hlanguage'
    cases hsource'
    obtain ⟨g', hg, hprepare⟩ := bind_eq_ok.mp hprepare
    obtain ⟨d', hd, hprepare⟩ := bind_eq_ok.mp hprepare
    cases hprepare
    rw [generatorFor_settings hname, mapError_eq_ok] at hg
    rw [mapError_eq_ok, hdocument] at hd
    exact ⟨houtput, MakesCode.congr hseen.symm ⟨s, g, d, warnings, summary, hs, hg, hd, hrun⟩⟩
  · rintro ⟨houtput, hcode⟩
    obtain ⟨s, g, d, warnings, summary, hs, hg, hd, hrun⟩ := hcode.congr hseen
    refine ⟨path, name, [], s, g, d, warnings, summary, hfile, hlanguage, hsource, houtput, hs, ?_,
      hrun⟩
    rw [prepare, generatorFor_settings hname, hg, hdocument, hd]
    rfl

/-- A name of the language does not begin with a dash. -/
theorem head?_of_stands {name : String} (h : StandsForScala name) :
    name.toList.head? ≠ some '-' := by
  intro hdash
  have hlowered := head?_lowered hdash
  rcases h with h | h <;> rw [h] at hlowered <;> revert hlowered <;> decide

/-- A run that succeeds makes the text that it leaves where the code was to go. -/
theorem makes_of_success {disk : Disk} {files : Files} {args : List String} {r : Request}
    {output text : String} {place : Path} (hrequest : codeRequest? args = some r)
    (houtput : r.output = some output) (hne : output ≠ "")
    (hplace : files.place (.ofText output) = .ok place)
    (hsuccess : Succeeds (run disk files args).ending)
    (hfiles : (run disk files args).files = files.set place.toText (some text)) :
    r.Makes files (.str output) text ∧ text.isEncodable = true := by
  rcases run_cases disk files args with ⟨ending, hrun, hnone⟩ | hcode
  · rw [hrun] at hsuccess
    rw [hnone hsuccess] at hrequest
    cases hrequest
  · obtain ⟨r', out, code, warnings, summary, hr', hcode, hrun⟩ := hcode
    rw [hrequest] at hr'
    cases hr'
    obtain ⟨path, language, config, -, -, -, -, -, -, -, -, hout, -⟩ := id hcode
    obtain rfl : out = .str output := hout.trans (outputFile_of_output houtput hne config)
    rcases deliver_cases hrun.symm with ⟨-, hnothing⟩ | ⟨path, place', hpath, -, hplace', hput⟩
    · have htruthy := hnothing hsuccess
      exact absurd (by simpa [Json.truthy] using htruthy) hne
    · cases hpath
      rw [hplace] at hplace'
      cases hplace'
      rcases hput with ⟨htakes, hwritten, -⟩ | ⟨-, -, -, hfails⟩
      · rw [hfiles] at hwritten
        have hget := congrArg (Entries.get? · place.toText) hwritten
        obtain rfl : text = code := by simpa [Entries.get?_set] using hget
        exact ⟨hcode, htakes.encodable⟩
      · exact absurd hsuccess hfails

/-- A document is not read from a path without a name. -/
theorem Request.Reads.file_ne {r : Request} {files : Files} {v : Json} (h : r.Reads files v) :
    r.file ≠ some "" := by
  obtain ⟨path, text, hfile, -, htext, -⟩ := h.document
  intro hempty
  rw [hfile] at hempty
  cases hempty
  cases htext

/-- **Entry points and language names agree**, up to what cannot be encoded.  Two names of the
    language are interchangeable: a run under one comes to what the run under the other comes to,
    with the same output, exit code and files.  Without a file with settings, for a document that
    holds JSON, and where the file for the code can be opened, the disk takes the text and printing
    does not break, a run succeeds and leaves the text there exactly if this text is the code that
    is made in one step with the same settings for options, and can be encoded.  If it cannot, the
    run does not succeed and leaves the file empty. -/
theorem entry_points_agree (disk : Disk) (files : Files) {name name' : String}
    (hname : StandsForScala name) (hname' : StandsForScala name') :
    (∀ rest, run disk files ("-l" :: name' :: rest) = run disk files ("-l" :: name :: rest)) ∧
    (∀ (r : Request) args args', parse args = .request { r with language := some name } →
      parse args' = .request { r with language := some name' } →
      run disk files args' = run disk files args) ∧
    ∀ (r : Request) args v output place options, parse args = .request r →
      r.language = some name → r.Reads files v → r.output = some output → output ≠ "" →
      files.place (.ofText output) = .ok place →
      (∀ fault, (run disk files args).ending ≠ .error (.markup fault)) → options ∈ r.options →
      (∀ text, disk.failure? text = none →
        (Succeeds (run disk files args).ending ∧
            (run disk files args).files = files.set place.toText (some text) ↔
          quickGenerate name' options v = .ok text ∧ text.isEncodable = true)) ∧
      ∀ text, quickGenerate name' options v = .ok text → text.isEncodable = false →
        ¬ Succeeds (run disk files args).ending ∧
          (run disk files args).files = files.set place.toText (some "") := by
  refine ⟨fun rest => ?_, fun r args args' hparse hparse' => ?_, ?_⟩
  · have halike := parse_alike (head?_of_stands hname) (head?_of_stands hname') rest
    exact run_of_parsed hname hname' halike disk files
  · refine run_of_parsed hname hname' ?_ disk files
    exact .inr ⟨_, _, hparse, hparse', .inr ⟨rfl, rfl⟩⟩
  · intro r args v output place options hparse hlanguage hreads houtput hne hplace hprint hoptions
    have hrequest : codeRequest? args = some r := by
      rw [codeRequest?, hparse]
      simp [hreads.code]
    -- what the request makes is what the function makes, whatever is done with it then
    have hmakes : ∀ code, r.Makes files (.str output) code ↔
        quickGenerate name' options v = .ok code := by
      intro code
      rw [makes_iff hname hname' hlanguage hreads hoptions, outputFile_of_output houtput hne]
      exact and_iff_right rfl
    refine ⟨fun text htaken => ⟨?_, ?_⟩, fun text hmade hencode => ?_⟩
    · rintro ⟨hsuccess, hwritten⟩
      rw [← hmakes]
      exact makes_of_success hrequest houtput hne hplace hsuccess hwritten
    · rintro ⟨hmade, hencode⟩
      obtain ⟨hwritten, hsuccess⟩ := (run_of_place hrequest hreads.file_ne
        ((hmakes text).mpr hmade) hne hplace).1 ⟨hencode, htaken⟩
      obtain hsuccess | ⟨fault, hfault⟩ := hsuccess
      · exact ⟨hsuccess, hwritten⟩
      · exact absurd hfault (hprint fault)
    · exact ((run_of_place hrequest hreads.file_ne ((hmakes text).mpr hmade) hne hplace).2 ""
        (.notEncodable hencode)).symm

/-- An empty document under two names of the language, and in one step; and a document whose package
    is half of a surrogate pair, of which the one step makes code and the run leaves nothing. -/
theorem scrooge_runs_like_scala :
    let files : Files := [("d.json", some "\x7b\x7d"), ("half.json", some halfText)]
    let rest := ["d.json", "-o", "S.scala"]
    let rest' := ["half.json", "-o", "S.scala"]
    run .ample files ("-l" :: "SCROOGE" :: rest) = run .ample files ("-l" :: "scala" :: rest) ∧
      (∃ text, quickGenerate "SCROOGE" [] (.obj []) = .ok text ∧ text.isEncodable = true ∧
        Succeeds (run .ample files ("-l" :: "scala" :: rest)).ending ∧
        (run .ample files ("-l" :: "scala" :: rest)).files =
          files.set "S.scala" (some text)) ∧
      ∃ text, quickGenerate "SCROOGE" []
          (.obj [("namespaces", .obj [("scala", .str half)])]) = .ok text ∧
        ¬ Succeeds (run .ample files ("-l" :: "scala" :: rest')).ending ∧
        (run .ample files ("-l" :: "scala" :: rest')).files = files.set "S.scala" (some "") := by
  intro files rest rest'
  have hscala : StandsForScala "scala" := .inl (by decide +kernel)
  have hscrooge : StandsForScala "SCROOGE" := .inr (by decide +kernel)
  obtain ⟨hsame, -, hquick⟩ := entry_points_agree .ample files hscala hscrooge
  have hplace : files.place (.ofText "S.scala") = .ok (.ofText "S.scala") := by decide +kernel
  have hpath : (Path.ofText "S.scala").toText = "S.scala" := by decide +kernel
  have hoptions (path : String) :
      [] ∈ Request.options { file := path, output := "S.scala" } := by
    simp [Request.options, Request.overrides, textOverride, Request.serviceOptions]
  refine ⟨hsame rest, ?_, ?_⟩
  · have hargs : parse ("-l" :: "scala" :: rest) =
        .request { file := "d.json", output := "S.scala" } := rfl
    have hreads : Request.Reads { file := "d.json", output := "S.scala" } files (.obj []) :=
      ⟨rfl, rfl, "d.json", "\x7b\x7d", rfl, rfl, rfl, rfl⟩
    have hdocument : Document.ofFile files "d.json" (.str standardNamespace) =
        .ok (packagesOnly []) := rfl
    obtain ⟨lines, hrun⟩ := run_plain_eq hargs (by decide) (by decide) hdocument rfl hplace
      (by decide) isOk_savedMessage
    obtain ⟨hiff, -⟩ := hquick _ _ _ "S.scala" _ [] hargs rfl hreads rfl (by decide) hplace
      (by simp [hrun]) (hoptions "d.json")
    obtain ⟨hmade, hencode⟩ := (hiff _ rfl).mp ⟨⟨lines, by rw [hrun]⟩, by rw [hrun]⟩
    exact ⟨_, hmade, hencode, ⟨lines, by rw [hrun]⟩, by rw [hrun, hpath]⟩
  · have hargs : parse ("-l" :: "scala" :: rest') =
        .request { file := "half.json", output := "S.scala" } := rfl
    have hthere : files.has (.ofText "half.json") = .ok true := by decide +kernel
    have htext : files.read (.ofText "half.json") = .ok halfText := by decide +kernel
    have hreads : Request.Reads { file := "half.json", output := "S.scala" } files
        (.obj [("namespaces", .obj [("scala", .str half)])]) :=
      ⟨rfl, rfl, "half.json", halfText, rfl, hthere, htext, read_halfText⟩
    obtain ⟨hmakes, hrun⟩ := run_plain .ample hargs (by decide) (by decide)
      (ofFile_halfText hthere htext) targetNamespace_half
    have hencode : (headCode half).isEncodable = false :=
      (isEncodable_headCode half).trans isEncodable_half
    rw [deliver_of_half .ample (by decide) hplace hencode] at hrun
    have hmade := ((makes_iff hscala hscrooge rfl hreads (hoptions "half.json")).mp hmakes).2
    obtain ⟨-, hcut⟩ := hquick _ _ _ "S.scala" _ [] hargs rfl hreads rfl (by decide) hplace
      (by simp [hrun]) (hoptions "half.json")
    obtain ⟨hfails, hleft⟩ := hcut _ hmade hencode
    exact ⟨_, hmade, hfails, by rw [hleft, hpath]⟩

end Cli

end ThriftScala
