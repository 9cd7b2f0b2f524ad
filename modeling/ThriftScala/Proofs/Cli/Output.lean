/-
  What a run of the command does to files.

  A run fails in many places: at the arguments, the settings, the language, the document, the code
  itself, or the writing.  All of them but the last come before a file is opened (`make_cases`).
  Opening a file empties it, so a text that cannot be encoded then, or that the disk does not take,
  is cut off: the file keeps a beginning of it (`deliver_cases`).  After the writing only printing is
  left, which breaks where the markup of a message is wrong; where it does not, the run ends with
  exit code 0 (`printed_or_broken`).

  What is written goes to the place that the path leads to, and is found there; all other files are
  as they were (`isWritten_of_place`).  The path is the one of the arguments, else of the file with
  settings (`outputFile_of_settings`).
-/
import ThriftScala.Cli.Run
import ThriftScala.Proofs.Files
import ThriftScala.Proofs.Scala.Imports
import ThriftScala.Proofs.Settings.Languages
import ThriftScala.Proofs.Text.Tidy

namespace ThriftScala

open Outcome

namespace Cli

/-! ## Where the code goes -/

/-- Where the code is to go: to the file of the arguments, else to that of the file with
    settings. -/
def Request.outputFile (r : Request) (config : Entries Json) : Json :=
  match r.output with
  | none | some "" => (config.get? "output_file").getD .null
  | some path => .str path

/-- The file for the code is the one of the arguments, if they name one. -/
theorem outputFile_of_output {r : Request} {output : String} (h : r.output = some output)
    (hne : output ≠ "") (config : Entries Json) : r.outputFile config = .str output := by
  rw [Request.outputFile, h]
  split
  · rename_i heq
    cases heq
  · rename_i heq
    cases heq
    exact absurd rfl hne
  · rename_i heq
    cases heq
    rfl

/-- An option that was given overrides its own setting only. -/
theorem keys_textOverride (key : String) (text? : Option String) :
    (textOverride key text?).keys.Sublist [key] := by
  unfold textOverride
  split
  · split_ifs
    · exact List.nil_sublist _
    · exact List.Sublist.refl _
  · exact List.nil_sublist _

/-- The overrides are made of the file for the code and of what stands before and behind it. -/
theorem Request.overrides_eq (r : Request) :
    ∃ front back : Entries Json,
      r.overrides = front ++ textOverride "output_file" r.output ++ back ∧
      Request.overrides { r with output := none } = front ++ back ∧
      front.keys.Sublist ["package_name", "field_case", "add_comments"] ∧
      back.keys.Sublist ["service_options"] := by
  refine ⟨textOverride "package_name" r.packageName ++ textOverride "field_case" r.fieldCase
      ++ (if r.noComments then [("add_comments", .bool false)] else []),
    if r.serviceOptions.isEmpty then [] else [("service_options", .arr r.serviceOptions)],
    rfl, ?_, ?_, ?_⟩
  · simp only [Request.overrides, textOverride, List.append_nil]
    rfl
  · rw [Entries.keys_append, Entries.keys_append]
    refine ((keys_textOverride _ _).append (keys_textOverride _ _)).append ?_
    split
    · exact List.Sublist.refl _
    · exact List.nil_sublist _
  · split
    · exact List.nil_sublist _
    · exact List.Sublist.refl _

/-- Options override settings in this order, each at most once. -/
theorem Request.keys_overrides (r : Request) : r.overrides.keys.Sublist
    ["package_name", "field_case", "add_comments", "output_file", "service_options"] := by
  obtain ⟨front, back, heq, -, hfront, hback⟩ := r.overrides_eq
  rw [heq, Entries.keys_append, Entries.keys_append]
  exact (hfront.append (keys_textOverride _ _)).append hback

/-- The overrides set nothing twice and nothing under `custom`. -/
theorem Request.isPlainLayer (r : Request) : Settings.IsPlainLayer r.overrides :=
  ⟨List.Nodup.sublist r.keys_overrides (by decide),
    fun h => absurd (r.keys_overrides.subset h) (by decide)⟩

/-- The file for the code is an override if it is asked for. -/
theorem Request.get?_output (r : Request) :
    r.overrides.get? "output_file" =
      (textOverride "output_file" r.output).get? "output_file" := by
  obtain ⟨front, back, heq, -, hfront, hback⟩ := r.overrides_eq
  have hnone : ∀ {es : Entries Json} {keys : List String}, es.keys.Sublist keys →
      "output_file" ∉ keys → es.get? "output_file" = none := fun hsub hkeys =>
    Entries.get?_eq_none_iff.mpr fun h => hkeys (hsub.subset h)
  rw [heq, Entries.get?_append, Entries.get?_append, hnone hfront (by decide),
    hnone hback (by decide), Option.none_or, Option.or_none]

/-- **The settings know where the code goes.** -/
theorem outputFile_of_settings {r : Request} {files : Files} {language : String}
    {settings : Settings} (h : r.settings files language = .ok settings) :
    ∃ config, Settings.sourceAt files (r.config.getD "") = .ok config ∧
      settings.outputFile = r.outputFile config := by
  obtain ⟨config, hconfig, houtput⟩ := Settings.outputFile_of_load r.isPlainLayer h
  refine ⟨config, hconfig, ?_⟩
  rw [houtput, r.get?_output, Request.outputFile]
  split
  · rename_i hnone
    rw [hnone]
    rfl
  · rename_i hempty
    rw [hempty]
    rfl
  · rename_i path hne hpath
    rw [hpath, textOverride, if_neg hne]
    rfl

/-! ## Writing one file -/

/-- One file has a text, and all others are as they were. -/
def IsWritten (files after : Files) (path text : String) : Prop :=
  ∃ place : Path, after.find (.ofText path) = .file place text ∧
    ∀ key, key ≠ place.toText → after.get? key = files.get? key

/-- What is set at the place of a path is written to the path. -/
theorem isWritten_of_place {files : Files} {path : String} {place : Path}
    (h : files.place (.ofText path) = .ok place) (text : String) :
    IsWritten files (files.set place.toText (some text)) path text :=
  ⟨place, Files.find_of_place (Path.isNormal_ofText path) h text,
    fun key hkey => by rw [Entries.get?_set, if_neg (Ne.symm hkey)]⟩

/-! ## Endings -/

/-- A run succeeds if it ends with exit code 0. -/
def Succeeds (ending : Except Breakdown Ending) : Prop := ∃ lines, ending = .ok ⟨0, lines⟩

/-- A step that breaks at most at the markup of a message. -/
def OnlyPrints {α : Type} (x : Except Breakdown α) : Prop :=
  ∀ e, x = .error e → ∃ fault, e = .markup fault

theorem OnlyPrints.ok {α : Type} (a : α) : OnlyPrints (.ok a) := fun e h => by cases h

/-- Steps that fail by printing only do so in a row. -/
theorem OnlyPrints.bind {α β : Type} {x : Except Breakdown α} {f : α → Except Breakdown β}
    (hx : OnlyPrints x) (hf : ∀ a, OnlyPrints (f a)) : OnlyPrints (x >>= f) := by
  cases x with
  | error e =>
    intro e' he'
    cases he'
    exact hx e rfl
  | ok a => exact hf a

theorem onlyPrints_mapError {α : Type} (x : Except Markup.Fault α) :
    OnlyPrints (x.mapError .markup) := by
  cases x with
  | error fault => exact fun e h => ⟨fault, by cases h; rfl⟩
  | ok a => exact .ok a

/-- Messages fail only by being printed. -/
theorem onlyPrints_messageLines (messages : List String) : OnlyPrints (messageLines messages) :=
  (onlyPrints_mapError _).bind fun _ => .ok _

/-- What is said about the code fails only by being printed. -/
theorem onlyPrints_deliveryLines (r : Request) (warnings : List String)
    (summary : Scala.Generator.Summary) : OnlyPrints (deliveryLines r warnings summary) := by
  have hrest : ∀ table,
      OnlyPrints (do pure (table ++ (← messageLines (warningMessages warnings)))) := fun _ =>
    (onlyPrints_messageLines _).bind fun _ => .ok _
  unfold deliveryLines
  split
  · exact (onlyPrints_mapError _).bind hrest
  · exact hrest []

/-- A run that breaks down does not succeed. -/
theorem not_succeeds_error {e : Breakdown} : ¬ Succeeds (.error e) := by
  rintro ⟨lines, hlines⟩
  cases hlines

/-- What is printed ends the run with the given exit code. -/
theorem not_succeeds_printing {exitCode : Nat} (h : exitCode ≠ 0) (messages : List String) :
    ¬ Succeeds (printing exitCode messages) := by
  rintro ⟨lines, hlines⟩
  obtain ⟨texts, -, hending⟩ := bind_eq_ok.mp hlines
  cases hending
  exact h rfl

/-- A run that stops with a message does not succeed. -/
theorem not_succeeds_stoppingAt (message : String) (f : Failure) :
    ¬ Succeeds (stoppingAt message f) := by
  unfold stoppingAt
  split
  · rintro ⟨lines, hlines⟩
    cases hlines
  · exact not_succeeds_printing (by decide) _

/-- Where writing failed, the files are what the failure left. -/
theorem notWritten_files (left : Files) (path : String) (fault : FileFault) :
    (notWritten left path fault).files = left := by
  unfold notWritten
  split <;> rfl

/-- Where writing failed, the run does not succeed. -/
theorem not_succeeds_notWritten (left : Files) (path : String) (fault : FileFault) :
    ¬ Succeeds (notWritten left path fault).ending := by
  unfold notWritten
  split
  · exact not_succeeds_error
  · exact not_succeeds_printing (by decide) _

/-- **Once only printing is left**, the run succeeds or breaks at markup. -/
theorem printed_or_broken {x : Except Breakdown (List String)} (hx : OnlyPrints x) (r : Request)
    (warnings : List String) (summary : Scala.Generator.Summary) {ending : Except Breakdown Ending}
    (h : (do pure ⟨0, trimmedLines ((← x) ++ (← deliveryLines r warnings summary))⟩) = ending) :
    Succeeds ending ∨ ∃ fault, ending = .error (.markup fault) := by
  have hprints : OnlyPrints ending := by
    subst h
    exact hx.bind fun _ => (onlyPrints_deliveryLines _ _ _).bind fun _ => .ok _
  cases ending with
  | error e =>
    obtain ⟨fault, rfl⟩ := hprints e rfl
    exact .inr ⟨fault, rfl⟩
  | ok e =>
    obtain ⟨first, -, h⟩ := bind_eq_ok.mp h
    obtain ⟨rest, -, h⟩ := bind_eq_ok.mp h
    cases h
    exact .inl ⟨_, rfl⟩

/-! ## Steps of a run -/

/-- **What becomes of code.**  It is written, and then only printing is left; or it is cut off, and
    the run does not succeed; or no file is opened, and the run does not succeed unless there was no
    file to write. -/
theorem deliver_cases {disk : Disk} {files : Files} {r : Request} {output : Json} {code : String}
    {warnings : List String} {summary : Scala.Generator.Summary} {out : Outcome}
    (h : deliver disk files r output code warnings summary = out) :
    (out.files = files ∧ (Succeeds out.ending → output.truthy = false)) ∨
      ∃ path place, output = .str path ∧ output.truthy = true ∧
        files.place (.ofText path) = .ok place ∧
        ((disk.Takes code ∧ out.files = files.set place.toText (some code) ∧
            (Succeeds out.ending ∨ ∃ fault, out.ending = .error (.markup fault))) ∨
          ∃ beginning, disk.Cuts code beginning ∧
            out.files = files.set place.toText (some beginning) ∧ ¬ Succeeds out.ending) := by
  simp only [deliver] at h
  split at h
  · rename_i htruthy
    split at h
    · rename_i path
      -- nothing is opened, or everything is written, or the writing is cut off
      rcases Files.put_cases disk files (.ofText path) code with
        ⟨fault, -, hput⟩ | ⟨place, hplace, ⟨htakes, hput⟩ | ⟨beginning, fault, hcuts, hput⟩⟩
      · rw [hput] at h
        subst h
        exact .inl ⟨notWritten_files _ _ _, fun hsuccess =>
          absurd hsuccess (not_succeeds_notWritten _ _ _)⟩
      · rw [hput] at h
        subst h
        exact .inr ⟨path, place, rfl, htruthy, hplace, .inl ⟨htakes, rfl,
          printed_or_broken (onlyPrints_messageLines _) r warnings summary rfl⟩⟩
      · rw [hput] at h
        subst h
        exact .inr ⟨path, place, rfl, htruthy, hplace,
          .inr ⟨beginning, hcuts, notWritten_files _ _ _, not_succeeds_notWritten _ _ _⟩⟩
    · subst h
      exact .inl ⟨rfl, fun hsuccess => absurd hsuccess not_succeeds_error⟩
  · rename_i hnothing
    subst h
    exact .inl ⟨rfl, fun _ => by simpa using hnothing⟩

/-- The request makes this code, from the document and the settings that it asks for, and it is to
    go where `output` says. -/
def Request.Makes (r : Request) (files : Files) (output : Json) (code : String) : Prop :=
  ∃ path language config settings g d warnings summary,
    r.file = some path ∧ r.language = some language ∧
    Settings.sourceAt files (r.config.getD "") = .ok config ∧ output = r.outputFile config ∧
    r.settings files language = .ok settings ∧
    prepare files language settings path = .ok (g, d) ∧
    g.run d = .ok (.code code warnings summary)

/-- **What becomes of a request for code**: it fails before anything is written, or it makes code
    that is delivered. -/
theorem make_cases (disk : Disk) (files : Files) {r : Request} {language path : String}
    (hfile : r.file = some path) (hlanguage : r.language = some language) :
    (∃ ending, r.make disk files language path = ⟨files, ending⟩ ∧ ¬ Succeeds ending) ∨
      ∃ output code warnings summary, r.Makes files output code ∧
        r.make disk files language path = deliver disk files r output code warnings summary := by
  generalize hout : r.make disk files language path = out
  unfold Request.make at hout
  split at hout
  · exact .inl ⟨_, hout.symm, not_succeeds_stoppingAt _ _⟩
  · rename_i settings hsettings
    obtain ⟨config, hconfig, houtput⟩ := outputFile_of_settings hsettings
    split at hout
    · exact .inl ⟨_, hout.symm, not_succeeds_stoppingAt _ _⟩
    · rename_i g d hprepare
      split at hout
      · exact .inl ⟨_, hout.symm, not_succeeds_error⟩
      · exact .inl ⟨_, hout.symm, not_succeeds_printing (by decide) _⟩
      · rename_i code warnings summary hrun
        have hmakes : r.Makes files settings.outputFile code :=
          ⟨path, language, config, settings, g, d, warnings, summary, hfile, hlanguage, hconfig,
            houtput, hsettings, hprepare, hrun⟩
        exact .inr ⟨_, code, warnings, summary, hmakes, hout.symm⟩

/-! ## Runs -/

/-- The request of arguments that ask for code. -/
def codeRequest? (args : List String) : Option Request :=
  match parse args with
  | .request r => if r.listLanguages then none else some r
  | _ => none

/-- **What becomes of a run**: it tells something or fails, or it makes code that is delivered. -/
theorem run_cases (disk : Disk) (files : Files) (args : List String) :
    (∃ ending, run disk files args = ⟨files, ending⟩ ∧ (Succeeds ending → codeRequest? args = none)) ∨
      ∃ r output code warnings summary, codeRequest? args = some r ∧ r.Makes files output code ∧
        run disk files args = deliver disk files r output code warnings summary := by
  unfold run codeRequest?
  cases parse args with
  | help => exact .inl ⟨_, rfl, fun _ => rfl⟩
  | rejected => exact .inl ⟨_, rfl, fun _ => rfl⟩
  | request r =>
    simp only [Request.run]
    split_ifs with hlist
    · exact .inl ⟨_, rfl, fun _ => rfl⟩
    · split
      · exact .inl ⟨_, rfl, fun hsuccess => absurd hsuccess (not_succeeds_printing (by decide) _)⟩
      · exact .inl ⟨_, rfl, fun hsuccess => absurd hsuccess (not_succeeds_printing (by decide) _)⟩
      · exact .inl ⟨_, rfl, fun hsuccess => absurd hsuccess not_succeeds_error⟩
      · rename_i path language hne hfile hlanguage
        rcases make_cases disk files hfile hlanguage with ⟨ending, hmake, hfail⟩ | hmakes
        · exact .inl ⟨ending, hmake, fun hsuccess => absurd hsuccess hfail⟩
        · obtain ⟨output, code, warnings, summary, hmakes, hdeliver⟩ := hmakes
          exact .inr ⟨r, output, code, warnings, summary, rfl, hmakes, hdeliver⟩

/-- What a run that makes code does to files: nothing if there is no file to write, else it writes
    this one file. -/
def IsDelivered (files after : Files) (output : Json) (code : String) : Prop :=
  output.truthy = false ∧ after = files ∨
    ∃ path, output = .str path ∧ path ≠ "" ∧ IsWritten files after path code

/-- The request makes code whose text is cut off: the file where it was to go holds a beginning of
    it and nothing else, and all other files are as they were. -/
def Request.IsCutOff (r : Request) (disk : Disk) (files after : Files) : Prop :=
  ∃ path code beginning, r.Makes files (.str path) code ∧ path ≠ "" ∧
    disk.Cuts code beginning ∧ beginning.toList <+: code.toList ∧
    IsWritten files after path beginning

/-- A run that is asked for code that can be made delivers it, if the path of the document is not
    empty. -/
theorem run_of_makes (disk : Disk) {files : Files} {args : List String} {r : Request}
    {output : Json} {code : String} (hargs : codeRequest? args = some r) (hfile : r.file ≠ some "")
    (h : r.Makes files output code) :
    ∃ warnings summary,
      run disk files args = deliver disk files r output code warnings summary := by
  obtain ⟨path, language, config, s, g, d, warnings, summary, hpath, hlanguage, hsource, houtput,
    hs, hprepare, hrun⟩ := h
  obtain ⟨config', hsource', houtput'⟩ := outputFile_of_settings hs
  rw [hsource] at hsource'
  cases hsource'
  -- Only a path that is not empty gets past the check for a document.
  have hne : path ≠ "" := fun heq => hfile (heq ▸ hpath)
  have hmake : r.make disk files language path =
      deliver disk files r output code warnings summary := by
    simp only [Request.make, hs, hprepare, hrun, houtput, houtput']
  refine ⟨warnings, summary, ?_⟩
  rw [← hmake]
  unfold codeRequest? at hargs
  split at hargs
  · rename_i r' hparse
    split_ifs at hargs with hlist
    cases hargs
    simp only [run, hparse, Request.run, hlist, hpath, hlanguage]
    rfl
  · cases hargs

/-- What is told about a file that was written. -/
def savedMessage (path : String) : String :=
  "[green]✓[/green] Generated " ++ Scala.Generator.languageName ++ " code saved to [cyan]"
    ++ (Path.ofText path).toText ++ "[/cyan]"

/-- Code that is taken is written, and then it is told so. -/
theorem deliver_of_takes {disk : Disk} {files : Files} {path code : String} {place : Path}
    (hpath : path ≠ "") (hplace : files.place (.ofText path) = .ok place) (h : disk.Takes code)
    (r : Request) (warnings : List String) (summary : Scala.Generator.Summary) :
    deliver disk files r (.str path) code warnings summary =
      ⟨files.set place.toText (some code), do
        pure ⟨0, trimmedLines ((← messageLines [savedMessage path])
          ++ (← deliveryLines r warnings summary))⟩⟩ := by
  have htruthy : (Json.str path).truthy = true := by simpa [Json.truthy] using hpath
  simp only [deliver, htruthy, if_true, Files.put_of_takes hplace h]
  rfl

/-- **Code with half of a pair in it** empties the file where it was to go, and breaks the run. -/
theorem deliver_of_half {files : Files} {path code : String} {place : Path} (disk : Disk)
    (hpath : path ≠ "") (hplace : files.place (.ofText path) = .ok place)
    (h : code.isEncodable = false) (r : Request) (warnings : List String)
    (summary : Scala.Generator.Summary) :
    deliver disk files r (.str path) code warnings summary =
      ⟨files.set place.toText (some ""),
        .error (.failure (.settings (.misuse .notEncodable)))⟩ := by
  have htruthy : (Json.str path).truthy = true := by simpa [Json.truthy] using hpath
  have hput : files.put disk (.ofText path) code =
      (files.set place.toText (some ""), some .notEncodable) := by
    simp [Files.put, hplace, h]
  simp only [deliver, htruthy, if_true, hput]
  rfl

/-- Where the file can be opened, what the run leaves is told by the disk. -/
theorem run_of_place {disk : Disk} {files : Files} {args : List String} {r : Request}
    {path code : String} {place : Path} (hargs : codeRequest? args = some r)
    (hfile : r.file ≠ some "") (h : r.Makes files (.str path) code) (hpath : path ≠ "")
    (hplace : files.place (.ofText path) = .ok place) :
    (disk.Takes code → (run disk files args).files = files.set place.toText (some code) ∧
      (Succeeds (run disk files args).ending ∨
        ∃ fault, (run disk files args).ending = .error (.markup fault))) ∧
    ∀ beginning, disk.Cuts code beginning →
      (run disk files args).files = files.set place.toText (some beginning) ∧
        ¬ Succeeds (run disk files args).ending := by
  obtain ⟨warnings, summary, hrun⟩ := run_of_makes disk hargs hfile h
  rw [hrun]
  constructor
  · intro htakes
    rw [deliver_of_takes hpath hplace htakes]
    exact ⟨rfl, printed_or_broken (onlyPrints_messageLines _) r warnings summary rfl⟩
  · intro beginning hcuts
    obtain ⟨fault, hput⟩ := Files.put_of_cuts hplace hcuts
    have htruthy : (Json.str path).truthy = true := by simpa [Json.truthy] using hpath
    simp only [deliver, htruthy, if_true, hput]
    exact ⟨notWritten_files _ _ _, not_succeeds_notWritten _ _ _⟩

/-! ## Documents that name a package and nothing else -/

/-- The settings of a run without options that writes to a file. -/
def plainSettings (output : String) : Settings :=
  { outputFile := .str output
    custom := .entries
      [(.str "list_type", .str "Seq"), (.str "set_type", .str "Set"), (.str "map_type", .str "Map"),
       (.str "option_type", .str "Option"), (.str "binary_type", .str "ByteBuffer")] }

/-- The generator of such settings. -/
def plainGenerator (output : String) : Scala.Generator := ⟨plainSettings output, {}⟩

/-- A document with packages and nothing else. -/
def packagesOnly (namespaces : List (String × Json)) : Document :=
  { namespaces, defaultNamespace := .str standardNamespace }

/-- The code of a document that has nothing but a package. -/
def headCode (package : String) : String :=
  formatCode "\n" (Scala.Generator.joinSections (Scala.headLines 1 package []) ++ "\n")

/-- The code of an empty document can be encoded if its package can. -/
theorem isEncodable_headCode (package : String) :
    (headCode package).isEncodable = package.isEncodable := by
  have hnote : Scala.generatedNote.isEncodable = true := by decide +kernel
  have hstandard : Scala.standardImports.all String.isEncodable = true := by decide +kernel
  have hfeed : "\n".isEncodable = true := by decide
  have hword : "package ".isEncodable = true := by decide
  rw [headCode, isEncodable_formatCode hfeed]
  simp [Scala.Generator.joinSections, Scala.headLines, Function.comp_def, hnote, hstandard, hfeed,
    hword]

/-- An empty document gives a header and nothing else. -/
theorem run_plainGenerator (output : String) {namespaces : List (String × Json)} {package : String}
    (hpackage : (packagesOnly namespaces).targetNamespace = .str package) :
    (plainGenerator output).run (packagesOnly namespaces) =
      .ok (.code (headCode package) [] (Scala.Generator.summary (packagesOnly namespaces))) := by
  have hcase : (plainGenerator output).settings.namingCase = .ok .camel := rfl
  exact Scala.Generator.run_head (b := true) hcase rfl rfl rfl hpackage

/-- A file and an output are all that is asked for: the settings are the standard ones. -/
theorem settings_plain (files : Files) (path : String) {output : String} (h : output ≠ "") :
    Request.settings { file := path, output := output } files "scala" =
      .ok (plainSettings output) := by
  have hoverrides : Request.overrides { file := path, output := output } =
      [("output_file", .str output)] := by
    simp [Request.overrides, textOverride, h, Request.serviceOptions]
  rw [Request.settings, hoverrides]
  rfl

/-- **Code of a document that names a package** is made and delivered. -/
theorem run_plain (disk : Disk) {files : Files} {args : List String} {path output package : String}
    {namespaces : List (String × Json)}
    (hargs : parse args = .request { file := path, output := output })
    (hpath : path ≠ "") (houtput : output ≠ "")
    (hdocument : Document.ofFile files path (.str standardNamespace) =
      .ok (packagesOnly namespaces))
    (hpackage : (packagesOnly namespaces).targetNamespace = .str package) :
    Request.Makes { file := path, output := output } files (.str output) (headCode package) ∧
      run disk files args = deliver disk files { file := path, output := output } (.str output)
        (headCode package) [] (Scala.Generator.summary (packagesOnly namespaces)) := by
  have hsettings := settings_plain files path houtput
  have hcode := run_plainGenerator output hpackage
  have hprepare : prepare files "scala" (plainSettings output) path =
      .ok (plainGenerator output, packagesOnly namespaces) := by
    have hgenerator : generatorFor files "scala" (.settings (plainSettings output)) =
        .ok (plainGenerator output) := rfl
    have hstandard : (plainSettings output).packageName = .str standardNamespace := rfl
    simp [prepare, hgenerator, hstandard, hdocument, Except.mapError]
  have htarget : Request.outputFile { file := path, output := output } [] = .str output :=
    outputFile_of_output rfl houtput []
  refine ⟨⟨path, "scala", [], plainSettings output, plainGenerator output, packagesOnly namespaces,
    [], _, rfl, rfl, rfl, htarget.symm, hsettings, hprepare, hcode⟩, ?_⟩
  rw [run, hargs]
  simp only [Request.run, Request.make, hsettings, hprepare, hcode]
  rfl

/-- Such code is written if the package can be encoded and the message about it is printed. -/
theorem run_plain_eq {files : Files} {args : List String} {path output package : String}
    {namespaces : List (String × Json)} {place : Path}
    (hargs : parse args = .request { file := path, output := output })
    (hpath : path ≠ "") (houtput : output ≠ "")
    (hdocument : Document.ofFile files path (.str standardNamespace) =
      .ok (packagesOnly namespaces))
    (hpackage : (packagesOnly namespaces).targetNamespace = .str package)
    (hplace : files.place (.ofText output) = .ok place) (hencode : package.isEncodable = true)
    (hmessage : (messageLines [savedMessage output]).isOk = true) :
    ∃ lines, run .ample files args =
      ⟨files.set place.toText (some (headCode package)), .ok ⟨0, lines⟩⟩ := by
  obtain ⟨-, hrun⟩ := run_plain .ample hargs hpath houtput hdocument hpackage
  have htakes : Disk.ample.Takes (headCode package) :=
    Disk.ample_takes_iff.mpr ((isEncodable_headCode package).trans hencode)
  obtain ⟨lines, hlines⟩ | ⟨fault, hfault⟩ := ok_or_error (messageLines [savedMessage output])
  · refine ⟨trimmedLines (lines ++ []), ?_⟩
    rw [hrun, deliver_of_takes houtput hplace htakes]
    simp only [hlines]
    rfl
  · rw [hfault] at hmessage
    cases hmessage

/-- The message about one file, on a console. -/
theorem isOk_savedMessage : (messageLines [savedMessage "S.scala"]).isOk = true := by
  -- The message is made one literal first, so that it is evaluated once.
  have hmessage : savedMessage "S.scala" =
      "[green]✓[/green] Generated scala code saved to [cyan]S.scala[/cyan]" := by decide +kernel
  rw [hmessage]
  decide +kernel

/-- Half of a surrogate pair. -/
def half : String := .ofList [Text.loneHalf 0xD800]

/-- A document whose package is half of a surrogate pair. -/
def halfText : String := "\x7b\"namespaces\": \x7b\"scala\": \"\\ud800\"\x7d\x7d"

/-- Does JSON name one package, which is half of a pair? -/
def namesHalf : Json → Bool
  | .obj [(key, .obj [(language, .str package)])] =>
    key = "namespaces" && language = "scala" && package = half
  | _ => false

/-- A document that names a half as its package does nothing else. -/
theorem eq_of_namesHalf {v : Json} (h : namesHalf v = true) :
    v = .obj [("namespaces", .obj [("scala", .str half)])] := by
  unfold namesHalf at h
  split at h
  · simp only [Bool.and_eq_true, decide_eq_true_eq] at h
    obtain ⟨⟨rfl, rfl⟩, rfl⟩ := h
    rfl
  · cases h

/-- Half of a pair is read as half of a pair. -/
theorem read_halfText :
    Json.read halfText = .ok (.obj [("namespaces", .obj [("scala", .str half)])]) := by
  have hnames : (Json.read halfText).toOption.any namesHalf = true := by decide +kernel
  cases hread : Json.read halfText with
  | error e =>
    rw [hread] at hnames
    cases hnames
  | ok v =>
    rw [hread] at hnames
    rw [eq_of_namesHalf hnames]

theorem isEncodable_half : half.isEncodable = false := by decide

/-- The package of the document is half of a pair. -/
theorem targetNamespace_half :
    (packagesOnly [("scala", .str half)]).targetNamespace = .str half := by
  have hsome : (Json.str half).truthy = true := by decide
  have hscala : Document.namespaceFor (packagesOnly [("scala", .str half)]) "scala" =
      some (.str half) := rfl
  simp only [Document.targetNamespace, hscala, Option.filter, hsome, if_true]
  rfl

/-- The document of a file with this text. -/
theorem ofFile_halfText {files : Files} {path : String}
    (hthere : files.has (.ofText path) = .ok true)
    (htext : files.read (.ofText path) = .ok halfText) :
    Document.ofFile files path (.str standardNamespace) =
      .ok (packagesOnly [("scala", .str half)]) := by
  simp [Document.ofFile, hthere, htext, read_halfText, Except.mapError]
  rfl

/-! ## What a run leaves -/

/-- **What a run leaves behind.**  Where printing does not break:

    * a run that does not succeed leaves all files as they were, unless it made code whose text is
      cut off, because it cannot be encoded or the disk does not take it;
    * each run that makes such code for a file that can be opened does leave a beginning of it, and
      does not succeed;
    * a run that succeeds leaves all files as they were if it was not asked for code; else it made
      code, and the only file that it changes is the one where the code was to go, which then holds
      this code and nothing else. -/
theorem only_code_is_written (disk : Disk) (files : Files) (args : List String)
    (hprint : ∀ fault, (run disk files args).ending ≠ .error (.markup fault)) :
    (¬ Succeeds (run disk files args).ending → (run disk files args).files = files ∨
      ∃ r, codeRequest? args = some r ∧ r.IsCutOff disk files (run disk files args).files) ∧
    (∀ r path code place beginning, codeRequest? args = some r → r.file ≠ some "" →
      r.Makes files (.str path) code → path ≠ "" → files.place (.ofText path) = .ok place →
      disk.Cuts code beginning →
        ¬ Succeeds (run disk files args).ending ∧
        (run disk files args).files = files.set place.toText (some beginning)) ∧
    (Succeeds (run disk files args).ending →
      codeRequest? args = none ∧ (run disk files args).files = files ∨
      ∃ r output code, codeRequest? args = some r ∧ r.Makes files output code ∧
        IsDelivered files (run disk files args).files output code) := by
  refine and_left_comm.mp ⟨?_, ?_⟩
  · intro r path code place beginning hargs hfile hmakes hpath hplace hcuts
    exact ((run_of_place hargs hfile hmakes hpath hplace).2 beginning hcuts).symm
  rcases run_cases disk files args with ⟨ending, hrun, hnone⟩ | hmakes
  · rw [hrun]
    exact ⟨fun _ => .inl rfl, fun hsuccess => .inl ⟨hnone hsuccess, rfl⟩⟩
  obtain ⟨r, output, code, warnings, summary, hr, hmakes, hrun⟩ := hmakes
  rcases deliver_cases hrun.symm with ⟨hsame, hnothing⟩ | ⟨path, place, rfl, htruthy, hplace, hput⟩
  · exact ⟨fun _ => .inl hsame, fun hsuccess =>
      .inr ⟨r, output, code, hr, hmakes, .inl ⟨hnothing hsuccess, hsame⟩⟩⟩
  have hpath : path ≠ "" := by
    rintro rfl
    cases htruthy
  rcases hput with ⟨-, hwritten, hend⟩ | ⟨beginning, hcuts, hleft, hfails⟩
  · have hsuccess : Succeeds (run disk files args).ending :=
      hend.resolve_right fun ⟨fault, hfault⟩ => hprint fault hfault
    rw [hwritten]
    exact ⟨fun hfail => absurd hsuccess hfail, fun _ => .inr ⟨r, .str path, code, hr, hmakes,
      .inr ⟨path, rfl, hpath, isWritten_of_place hplace code⟩⟩⟩
  · rw [hleft]
    exact ⟨fun _ => .inr ⟨r, hr, path, code, beginning, hmakes, hpath, hcuts, hcuts.isPrefix,
      isWritten_of_place hplace beginning⟩, fun hsuccess => absurd hsuccess hfails⟩

/-- The code of an empty document is written.  A package with half of a surrogate pair in it makes
    code that cannot be encoded: the file where the code was to go loses its text, and the run
    breaks. -/
theorem code_of_empty_document_is_written_but_half_is_cut_off :
    let files : Files := [("d.json", some "\x7b\x7d"), ("half.json", some halfText)]
    let args := ["d.json", "-o", "S.scala"]
    let args' := ["half.json", "-o", "d.json"]
    (Succeeds (run .ample files args).ending ∧
      ∃ code,
        ({ file := "d.json", output := "S.scala" } : Request).Makes files (.str "S.scala") code ∧
        IsWritten files (run .ample files args).files "S.scala" code) ∧
    ¬ Succeeds (run .ample files args').ending ∧
      (run .ample files args').files.get? "d.json" = some (some "") ∧
      ({ file := "half.json", output := "d.json" } : Request).IsCutOff .ample files
        (run .ample files args').files := by
  intro files args args'
  constructor
  · have hargs : parse args = .request { file := "d.json", output := "S.scala" } := rfl
    have hdocument : Document.ofFile files "d.json" (.str standardNamespace) =
        .ok (packagesOnly []) := rfl
    have hplace : files.place (.ofText "S.scala") = .ok (.ofText "S.scala") := by decide +kernel
    obtain ⟨lines, hrun⟩ := run_plain_eq hargs (by decide) (by decide) hdocument rfl hplace
      (by decide) isOk_savedMessage
    have hsuccess : Succeeds (run .ample files args).ending := ⟨lines, by rw [hrun]⟩
    refine ⟨hsuccess, ?_⟩
    rcases (only_code_is_written .ample files args (by simp [hrun])).2.2 hsuccess with
      ⟨hnone, -⟩ | ⟨r, output, code, hr, hmakes, hdelivered⟩
    · simp [codeRequest?, hargs] at hnone
    · rw [codeRequest?, hargs] at hr
      cases hr
      obtain ⟨path, language, config, -, -, -, -, -, -, -, -, houtput, -⟩ := id hmakes
      obtain rfl : output = .str "S.scala" := houtput
      rcases hdelivered with ⟨hnothing, -⟩ | ⟨path', hpath, -, hwritten⟩
      · cases hnothing
      · cases hpath
        exact ⟨code, hmakes, hwritten⟩
  · have hargs : parse args' = .request { file := "half.json", output := "d.json" } := rfl
    have hdocument : Document.ofFile files "half.json" (.str standardNamespace) =
        .ok (packagesOnly [("scala", .str half)]) :=
      ofFile_halfText (by decide +kernel) (by decide +kernel)
    have hplace : files.place (.ofText "d.json") = .ok (.ofText "d.json") := by decide +kernel
    have hencode : (headCode half).isEncodable = false :=
      (isEncodable_headCode half).trans isEncodable_half
    obtain ⟨-, hrun⟩ := run_plain .ample hargs (by decide) (by decide) hdocument targetNamespace_half
    rw [deliver_of_half .ample (by decide) hplace hencode] at hrun
    have hfails : ¬ Succeeds (run .ample files args').ending := by
      rw [hrun]
      exact not_succeeds_error
    have hleft : (run .ample files args').files.get? "d.json" = some (some "") := by
      rw [hrun]
      decide +kernel
    refine ⟨hfails, hleft, ?_⟩
    rcases (only_code_is_written .ample files args' (by simp [hrun])).1 hfails with
      hsame | ⟨r, hr, hcut⟩
    · rw [hsame] at hleft
      exact absurd hleft (by decide)
    · rw [codeRequest?, hargs] at hr
      cases hr
      exact hcut

end Cli

end ThriftScala
