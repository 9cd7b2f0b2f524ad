/-
  Which source a compiled fragment comes from.

  Sources are added to a library and fragments compiled from it, in any order.  The source that
  should count for a name is the one that was added last under it, else the file of the name
  (`currentSource?`).  But what was compiled from a file is kept under its name, and a source that is
  added then does not count any more.

  What a name is compiled from depends only on the calls about this name, and of these only on the
  first: if it is a compilation that finds the file and can read it, the file counts for ever
  (`readFromFile`), else no file ever hides an added source.  One call adds to this what it says
  (`get?_perform`, `mem_kept_perform`), and a run of calls does by induction on the calls, from
  whatever library it starts (`get?_performAll`, `mem_kept_performAll`).
-/
import ThriftScala.Fragment.Library
import ThriftScala.Proofs.Outcome

namespace ThriftScala.Library

open Outcome

/-! ## Calls -/

/-- What can be asked of a library. -/
inductive Call where
  | add (name source : String)
  | compile (name : String)

/-- The library after a call.  A compilation that fails leaves it as it was. -/
def perform (lib : Library) : Call → Library
  | .add name source => lib.add name source
  | .compile name =>
    match lib.compile name with
    | .ok (_, after) => after
    | .error _ => lib

/-- The library after calls, one after the other. -/
def performAll (lib : Library) : List Call → Library
  | [] => lib
  | c :: calls => (lib.perform c).performAll calls

/-! ## Sources -/

/-- The source that calls add last under a name, if they add any. -/
def lastAdded? (name : String) : List Call → Option String
  | [] => none
  | .add n source :: calls =>
    (lastAdded? name calls).or (if n = name then some source else none)
  | .compile _ :: calls => lastAdded? name calls

/-- The source that should count for a name after calls: the one that was added last, else the
    file. -/
def currentSource? (lib : Library) (name : String) (calls : List Call) : Option String :=
  (lastAdded? name calls).or (lib.file? name)

/-- The fragment of a source, if there is a source. -/
def compileSource (name : String) : Option String → Except FragmentError Fragment
  | some source => Fragment.compile name source
  | none => .error (.notFound name)

/-- Is there a file of the name, and is it a fragment? -/
def hasFragmentFile (lib : Library) (name : String) : Bool :=
  (compileSource name (lib.file? name)).isOk

/-- Do calls compile a name from its file before they add a source under it? -/
def readFromFile (lib : Library) (name : String) : List Call → Bool
  | [] => false
  | .add n _ :: calls => if n = name then false else lib.readFromFile name calls
  | .compile n :: calls => (n = name && lib.hasFragmentFile name) || lib.readFromFile name calls

/-- The source that does count for a name after calls. -/
def sourceInForce? (lib : Library) (name : String) (calls : List Call) : Option String :=
  if lib.readFromFile name calls then lib.file? name else lib.currentSource? name calls

/-! ## One call -/

/-- The library that remembers that a name was compiled; only what comes from a file is kept. -/
def remember (lib : Library) (name : String) : Library :=
  if name ∈ lib.kept ∨ (lib.sources.get? name).isSome then lib
  else { lib with kept := name :: lib.kept }

/-- **What a compilation does.**  A name that is kept is compiled from its file; for any other name
    a source in memory goes before the file. -/
theorem compile_eq (lib : Library) (name : String) :
    lib.compile name =
      (compileSource name
        (if name ∈ lib.kept then lib.file? name
         else (lib.sources.get? name).or (lib.file? name))).map (·, lib.remember name) := by
  cases hmemory : lib.sources.get? name with
  | some source =>
    by_cases hkept : name ∈ lib.kept
    · cases hfile : lib.file? name with
      | none => simp [compile, compileSource, hkept, hfile]
      | some text =>
        cases h : Fragment.compile name text <;>
          simp [compile, compileSource, remember, hkept, hfile, h]
    · simp [compile, compileSource, remember, hkept, hmemory]
  | none =>
    cases hfile : lib.file? name with
    | none => simp [compile, compileSource, hmemory, hfile]
    | some text =>
      by_cases hkept : name ∈ lib.kept <;> cases h : Fragment.compile name text <;>
        simp [compile, compileSource, remember, hkept, hmemory, hfile, h]

/-- **What a compilation leaves behind**: its name, if the file counted and was a fragment. -/
theorem perform_compile (lib : Library) (name : String) :
    lib.perform (.compile name) =
      if name ∉ lib.kept ∧ lib.sources.get? name = none ∧ lib.hasFragmentFile name = true then
        { lib with kept := name :: lib.kept }
      else lib := by
  rw [perform, compile_eq]
  by_cases hkept : name ∈ lib.kept
  · cases compileSource name _ <;> simp [remember, hkept]
  · rw [if_neg hkept]
    cases hmemory : lib.sources.get? name with
    | some source => cases compileSource name _ <;> simp [remember, hmemory]
    | none =>
      rw [Option.none_or, hasFragmentFile]
      cases compileSource name (lib.file? name) with
      | error e => simp [Except.isOk, Except.toBool]
      | ok f => simp [remember, hkept, hmemory, Except.isOk, Except.toBool]

theorem file?_perform (lib : Library) (c : Call) (name : String) :
    (lib.perform c).file? name = lib.file? name := by
  have hfiles : (lib.perform c).files = lib.files := by
    cases c with
    | add n source => rfl
    | compile n =>
      rw [perform_compile]
      split_ifs <;> rfl
  rw [file?, hfiles, file?]

/-- Only an addition under a name changes what is in memory under it. -/
theorem get?_perform (lib : Library) (c : Call) (name : String) :
    (lib.perform c).sources.get? name = (lastAdded? name [c]).or (lib.sources.get? name) := by
  cases c with
  | add n source =>
    rw [perform, add, Entries.get?_set, lastAdded?, lastAdded?, Option.none_or]
    split_ifs <;> rfl
  | compile n =>
    rw [perform_compile]
    split_ifs <;> rfl

/-- **A name is kept from the call on that compiles it from its file**, which needs that no source
    is in memory under it. -/
theorem mem_kept_perform (lib : Library) (c : Call) (name : String) :
    name ∈ (lib.perform c).kept ↔
      name ∈ lib.kept ∨ lib.sources.get? name = none ∧ lib.readFromFile name [c] = true := by
  cases c with
  | add n source => simp [perform, add, readFromFile]
  | compile n =>
    have hread : lib.readFromFile name [.compile n] = true ↔
        n = name ∧ lib.hasFragmentFile name = true := by
      simp [readFromFile]
    rw [perform_compile, hread]
    -- only a file read for the first time is kept
    split_ifs with h
    · rw [List.mem_cons]
      constructor
      · rintro (rfl | hname)
        · exact .inr ⟨h.2.1, rfl, h.2.2⟩
        · exact .inl hname
      · rintro (hname | ⟨-, rfl, -⟩)
        · exact .inr hname
        · exact .inl rfl
    · refine ⟨.inl, fun hname => hname.elim id ?_⟩
      rintro ⟨hmemory, rfl, hfile⟩
      by_contra hkept
      exact h ⟨hkept, hmemory, hfile⟩

/-! ## Runs of calls -/

theorem file?_performAll (lib : Library) (calls : List Call) (name : String) :
    (lib.performAll calls).file? name = lib.file? name := by
  induction calls generalizing lib with
  | nil => rfl
  | cons c calls ih => rw [performAll, ih, file?_perform]

theorem lastAdded?_cons (name : String) (c : Call) (calls : List Call) :
    lastAdded? name (c :: calls) = (lastAdded? name calls).or (lastAdded? name [c]) := by
  cases c <;> simp [lastAdded?]

/-- **What is in memory after calls**: what they added last, else what was there. -/
theorem get?_performAll (lib : Library) (calls : List Call) (name : String) :
    (lib.performAll calls).sources.get? name =
      (lastAdded? name calls).or (lib.sources.get? name) := by
  induction calls generalizing lib with
  | nil => rfl
  | cons c calls ih => rw [performAll, ih, get?_perform, ← Option.or_assoc, ← lastAdded?_cons]

theorem readFromFile_perform (lib : Library) (c : Call) (name : String) (calls : List Call) :
    (lib.perform c).readFromFile name calls = lib.readFromFile name calls := by
  induction calls with
  | nil => rfl
  | cons d calls ih =>
    cases d <;> simp [readFromFile, hasFragmentFile, file?_perform, ih]

/-- The first call about a name decides: an addition ends the time in which the file can be
    taken. -/
theorem readFromFile_cons (lib : Library) (name : String) (c : Call) (calls : List Call) :
    lib.readFromFile name (c :: calls) = true ↔
      lib.readFromFile name [c] = true ∨
        lastAdded? name [c] = none ∧ lib.readFromFile name calls = true := by
  cases c with
  | add n source => by_cases hn : n = name <;> simp [readFromFile, lastAdded?, hn]
  | compile n => simp [readFromFile, lastAdded?]

/-- **What is kept after calls**: what was kept, and what the calls compiled from its file. -/
theorem mem_kept_performAll (lib : Library) (calls : List Call) (name : String) :
    name ∈ (lib.performAll calls).kept ↔
      name ∈ lib.kept ∨ lib.sources.get? name = none ∧ lib.readFromFile name calls = true := by
  induction calls generalizing lib with
  | nil => simp [performAll, readFromFile]
  | cons c calls ih =>
    rw [performAll, ih, mem_kept_perform, get?_perform, readFromFile_perform,
      readFromFile_cons lib name c calls, Option.or_eq_none_iff]
    tauto

/-- **Which source a name is compiled from**, after any calls to a library of the given files.  It
    is the file if the calls compiled the name from it before they added a source under the name,
    else the source that was added last, else the file.  So it is the source that should count,
    unless the calls first compiled the name from its file and then added another source. -/
theorem compile_after_calls (files : Entries String) (calls : List Call) (name : String) :
    let start : Library := { files := files }
    ((start.performAll calls).compile name).map (·.1) =
      compileSource name (start.sourceInForce? name calls) ∧
    (start.sourceInForce? name calls = start.currentSource? name calls ↔
      ¬ (start.readFromFile name calls = true ∧
        ∃ source, lastAdded? name calls = some source ∧ start.file? name ≠ some source)) := by
  intro start
  constructor
  · have hsource : (if name ∈ (start.performAll calls).kept then start.file? name
        else ((start.performAll calls).sources.get? name).or (start.file? name)) =
        start.sourceInForce? name calls := by
      simp [mem_kept_performAll, get?_performAll, sourceInForce?, currentSource?, start]
    rw [compile_eq, file?_performAll, hsource]
    cases compileSource name (start.sourceInForce? name calls) <;> rfl
  · rw [sourceInForce?, currentSource?]
    split_ifs with hread
    · cases lastAdded? name calls <;> simp [hread]
    · simp [hread]

/-- A source that is added after the file was compiled is not seen: the file still counts. -/
theorem added_source_is_not_seen :
    let start : Library := { files := [("hello.mustache", "from disk")] }
    let calls : List Call := [.compile "hello", .add "hello" "from memory"]
    start.currentSource? "hello" calls = some "from memory" ∧
    start.sourceInForce? "hello" calls = some "from disk" ∧
    ((start.performAll calls).compile "hello").map (·.1) =
      compileSource "hello" (some "from disk") ∧
    (compileSource "hello" (some "from disk") >>= (·.fill [])) = .ok "from disk" ∧
    (compileSource "hello" (some "from memory") >>= (·.fill [])) = .ok "from memory" := by
  intro start calls
  have hfile : start.file? "hello" = some "from disk" := by decide
  have hdisk : compileSource "hello" (some "from disk") =
      .ok ⟨"hello", [.text "from disk"]⟩ := rfl
  have hmemory : compileSource "hello" (some "from memory") =
      .ok ⟨"hello", [.text "from memory"]⟩ := rfl
  have hread : start.readFromFile "hello" calls = true := by
    simp [calls, readFromFile, hasFragmentFile, hfile, hdisk, Except.isOk, Except.toBool]
  have hforce : start.sourceInForce? "hello" calls = some "from disk" := by
    rw [sourceInForce?, if_pos hread, hfile]
  refine ⟨rfl, hforce, ?_, by rw [hdisk]; rfl, by rw [hmemory]; rfl⟩
  rw [(compile_after_calls start.files calls "hello").1, hforce]

end ThriftScala.Library
