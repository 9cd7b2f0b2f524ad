/-
  A file that was written is found and read again.

  Files are kept by the texts of their paths, so this needs that a text stands for one path only: a
  path that was read or walked to is normal, and reading the text of a normal path gives the path
  (`ofText_toText`).

  The walk to the place of the new file goes through directories.  Writing a file takes no directory
  away, and sets none of the places walked through, because those were directories and this one was
  not.  So the walk leads to the file (`walk_set`), and the file is there, with whatever text it is
  left with (`find_of_place`).  That is the text that was written, or a beginning of it
  (`put_cases`).
-/
import ThriftScala.Files
import ThriftScala.Proofs.Entries
import ThriftScala.Proofs.Outcome

namespace ThriftScala

open Outcome

namespace Path

/-! ## Normal paths -/

/-- May the text be a piece of a path?  It is neither empty nor one dot, and holds no slash. -/
def IsPiece (s : String) : Prop := s ≠ "" ∧ s ≠ "." ∧ '/' ∉ s.toList

/-- A path of pieces, from the directory or from a root. -/
structure IsNormal (p : Path) : Prop where
  root : p.root ∈ ["", "/", "//"]
  pieces : ∀ s ∈ p.pieces, IsPiece s

/-- A path that was read is normal. -/
theorem isNormal_ofText (s : String) : (ofText s).IsNormal := by
  constructor
  · simp only [ofText, rootOf]
    split <;> simp
  · intro piece hpiece
    simp only [ofText, List.mem_filter, List.mem_map, Bool.and_eq_true, decide_eq_true_eq] at hpiece
    obtain ⟨⟨l, hl, rfl⟩, hempty, hdot⟩ := hpiece
    exact ⟨hempty, hdot, by simpa using Text.not_mem_of_mem_splitAt hl⟩

theorem IsNormal.start {p : Path} (h : p.IsNormal) : IsNormal ⟨p.root, []⟩ := ⟨h.root, by simp⟩

/-- A step along a piece leads to a normal path. -/
theorem IsNormal.step {here : Path} (h : here.IsNormal) {piece : String} (hpiece : IsPiece piece) :
    (here.step piece).IsNormal := by
  have happend : IsNormal { here with pieces := here.pieces ++ [piece] } := by
    refine ⟨h.root, fun s hs => ?_⟩
    rcases List.mem_append.mp hs with hs | hs
    · exact h.pieces s hs
    · exact List.mem_singleton.mp hs ▸ hpiece
  unfold Path.step
  split_ifs
  · exact happend
  · exact happend
  · exact h
  · exact ⟨h.root, fun s hs => h.pieces s (List.dropLast_subset _ hs)⟩

/-- The pieces of a normal path, joined with slashes, do not begin with one. -/
theorem exists_joined_cons {s : String} (h : IsPiece s) (ss : List String) :
    ∃ c r, (String.joinedBy "/" (s :: ss)).toList = c :: r ∧ c ≠ '/' := by
  obtain ⟨hne, -, hslash⟩ := h
  obtain ⟨c, r, hs⟩ := List.exists_cons_of_ne_nil (mt String.toList_eq_nil_iff.mp hne)
  have hc : c ≠ '/' := by
    rintro rfl
    simp [hs] at hslash
  cases ss with
  | nil => exact ⟨c, r, hs, hc⟩
  | cons t ss => exact ⟨c, _, by simp [String.joinedBy, hs]; rfl, hc⟩

/-- A root in front of a text without one is the root of the path. -/
theorem ofText_root {root text : String} (hroot : root ∈ ["", "/", "//"]) {c : Char}
    {r : List Char} (htext : text.toList = c :: r) (hc : c ≠ '/') :
    ofText (root ++ text) = ⟨root, (ofText text).pieces⟩ := by
  simp only [List.mem_cons, List.not_mem_nil, or_false] at hroot
  rcases hroot with rfl | rfl | rfl <;>
    simp [ofText, htext, hc, rootOf, Text.splitAt]

/-- Pieces that are joined with slashes are the pieces of the path. -/
theorem pieces_ofText_joined {s : String} {ss : List String} (h : ∀ t ∈ s :: ss, IsPiece t) :
    (ofText (String.joinedBy "/" (s :: ss))).pieces = s :: ss := by
  have hcut : Text.splitAt '/' (String.joinedBy "/" (s :: ss)).toList =
      (s :: ss).map String.toList := by
    rw [String.toList_joinedBy]
    refine Text.splitAt_joinWith (by simp) fun l hl => ?_
    obtain ⟨t, ht, rfl⟩ := List.mem_map.mp hl
    exact (h t ht).2.2
  have hback : ((s :: ss).map String.toList).map String.ofList = s :: ss := by simp
  rw [ofText, hcut, hback]
  refine List.filter_eq_self.mpr fun t ht => ?_
  obtain ⟨hempty, hdot, -⟩ := h t ht
  simp [hempty, hdot]

/-- **The text of a normal path is that of no other path**: reading it gives the path. -/
theorem ofText_toText {p : Path} (h : p.IsNormal) : ofText p.toText = p := by
  obtain ⟨root, pieces⟩ := p
  obtain ⟨hroot, hpieces⟩ := h
  cases pieces with
  | nil =>
    simp only [List.mem_cons, List.not_mem_nil, or_false] at hroot
    rcases hroot with rfl | rfl | rfl <;> rfl
  | cons s ss =>
    obtain ⟨c, r, hjoined, hc⟩ := exists_joined_cons (hpieces s List.mem_cons_self) ss
    have htext : toText ⟨root, s :: ss⟩ = root ++ String.joinedBy "/" (s :: ss) := by
      simp [toText]
    rw [htext, ofText_root hroot hjoined hc, pieces_ofText_joined hpieces]

/-- **Different normal paths have different texts.** -/
theorem toText_injective {p q : Path} (hp : p.IsNormal) (hq : q.IsNormal)
    (h : p.toText = q.toText) : p = q := by
  rw [← ofText_toText hp, h, ofText_toText hq]

/-! ## Suffixes -/

/-- A text that ends in `.json` is read as a path whose name ends so. -/
theorem exists_name_json (stem : String) :
    ∃ front, (ofText (stem ++ ".json")).name.toList = front ++ ['.', 'j', 's', 'o', 'n'] := by
  obtain ⟨before, last, -, hcut⟩ :=
    Text.exists_splitAt_append '/' (l := ['.', 'j', 's', 'o', 'n']) (by decide) stem.toList
  have hlist : (stem ++ ".json").toList = stem.toList ++ ['.', 'j', 's', 'o', 'n'] :=
    String.toList_append
  have hne : ∀ s : String, s.toList.length < 5 →
      String.ofList (last ++ ['.', 'j', 's', 'o', 'n']) ≠ s := by
    rintro s hs rfl
    rw [String.toList_ofList, List.length_append] at hs
    exact absurd hs (Nat.not_lt.mpr (Nat.le_add_left 5 last.length))
  have hkept : [String.ofList (last ++ ['.', 'j', 's', 'o', 'n'])].filter
      (fun p => p ≠ "" && p ≠ ".") = [.ofList (last ++ ['.', 'j', 's', 'o', 'n'])] :=
    List.filter_eq_self.mpr fun p hp => by
      rw [List.mem_singleton.mp hp]
      simp only [hne "" (by decide), hne "." (by decide), ne_eq, not_false_eq_true, decide_true,
        Bool.and_self]
  refine ⟨last, ?_⟩
  rw [name, ofText, hlist, hcut, List.map_append, List.filter_append, List.map_singleton, hkept,
    List.getLast?_concat, Option.getD_some, String.toList_ofList]

/-- **A name that ends in `.json` has this suffix**, unless it is nothing else. -/
theorem suffix_json (stem : String) :
    (ofText (stem ++ ".json")).suffix =
      if (ofText (stem ++ ".json")).name = ".json" then "" else ".json" := by
  obtain ⟨front, hname⟩ := exists_name_json stem
  have hwhole : (ofText (stem ++ ".json")).name = ".json" ↔ front = [] := by
    rw [← String.toList_inj, hname]
    simp
  have hafter : (front ++ ['.', 'j', 's', 'o', 'n']).reverse.takeWhile (· ≠ '.') =
      ['n', 'o', 's', 'j'] := by
    simp
  simp only [suffix, hname, hafter, List.length_append, List.length_cons, List.length_nil]
  by_cases hfront : front = []
  · rw [if_pos (hwhole.mpr hfront), if_pos (by simp [hfront])]
  · rw [if_neg (mt hwhole.mp hfront), if_neg (by simp [hfront])]
    rfl

end Path

namespace Files

/-! ## Places for files -/

variable {files : Files} {here next path : Path} {piece : String} {pieces : List String}

/-- Where a file is written that has this target: over a file, or at the first place that is
    missing. -/
def Target.place? : Target → Option Path
  | .file path _ => some path
  | .missing path true => some path
  | _ => none

/-- May a file stand at the path?  There is one already, or there is no directory. -/
structure IsPlace (files : Files) (path : Path) : Prop where
  normal : path.IsNormal
  free : (∃ old, files.get? path.toText = some (some old)) ∨ hasDirectory files path = false

/-- A directory is no place for a file. -/
theorem IsPlace.ne_directory (h : IsPlace files path) (hnext : next.IsNormal)
    (hnone : ∀ old, files.get? next.toText ≠ some (some old))
    (hdirectory : hasDirectory files next = true) : path.toText ≠ next.toText := by
  intro heq
  rcases h.free with ⟨old, hold⟩ | hfree
  · exact hnone old (heq ▸ hold)
  · rw [Path.toText_injective h.normal hnext heq, hdirectory] at hfree
    cases hfree

/-- A file that is written takes no directory away. -/
theorem hasDirectory_set (h : hasDirectory files next = true) {key : String}
    (hne : key ≠ next.toText) (text : String) :
    hasDirectory (files.set key (some text)) next = true := by
  simp only [hasDirectory, Bool.or_eq_true, List.any_eq_true, Bool.and_eq_true,
    decide_eq_true_eq] at h ⊢
  refine h.imp_right ?_
  rintro ⟨e, he, ⟨hname, hempty⟩ | habove⟩
  · have hkept := Entries.mem_set_of_ne he (fun heq => hne (heq.symm.trans hname)) (some text)
    exact ⟨e, hkept, .inl ⟨hname, hempty⟩⟩
  · -- what lies below the directory may get a text, but keeps its path
    have hkey : e.1 ∈ (files.set key (some text)).keys := by
      have hmem : e.1 ∈ files.keys := List.mem_map_of_mem he
      rw [Entries.keys_set]
      split
      · exact hmem
      · exact List.mem_append_left _ hmem
    obtain ⟨v, hv⟩ := Entries.mem_keys.mp hkey
    exact ⟨(e.1, v), hv, .inr habove⟩

/-! ## The walk -/

/-- A file on the way is the end of the path or a fault. -/
theorem walk_cons_of_file {text : String} (hsize : ¬ Path.maxNameSize < piece.utf8ByteSize)
    (h : files.get? (here.step piece).toText = some (some text)) :
    walk files here (piece :: pieces) =
      if pieces.isEmpty then .file (here.step piece) text else .throughFile := by
  rw [walk, if_neg hsize, h]

/-- Where there is no file, the walk goes on through a directory. -/
theorem walk_cons_of_no_file (hsize : ¬ Path.maxNameSize < piece.utf8ByteSize)
    (h : ∀ text, files.get? (here.step piece).toText ≠ some (some text)) :
    walk files here (piece :: pieces) =
      if hasDirectory files (here.step piece) then walk files (here.step piece) pieces
      else .missing (here.step piece) pieces.isEmpty := by
  rw [walk, if_neg hsize]
  split
  · rename_i text heq
    exact absurd heq (h text)
  · rfl

/-- A walk along pieces from a directory to a place for a file: the last step is to the place, and
    every other one to a directory. -/
theorem place_cons (h : (walk files here (piece :: pieces)).place? = some path) :
    ¬ Path.maxNameSize < piece.utf8ByteSize ∧
    (path = here.step piece ∧ pieces = [] ∧
        ((∃ old, files.get? path.toText = some (some old)) ∨ hasDirectory files path = false) ∨
      (∀ old, files.get? (here.step piece).toText ≠ some (some old)) ∧
        hasDirectory files (here.step piece) = true ∧
        (walk files (here.step piece) pieces).place? = some path) := by
  have hsize : ¬ Path.maxNameSize < piece.utf8ByteSize := by
    intro hsize
    rw [walk, if_pos hsize] at h
    cases h
  refine ⟨hsize, ?_⟩
  -- the walk ends at a file or at a name that nothing has, and no piece may follow there
  by_cases hfile : ∃ old, files.get? (here.step piece).toText = some (some old)
  · obtain ⟨old, hold⟩ := hfile
    rw [walk_cons_of_file hsize hold] at h
    cases pieces with
    | nil =>
      cases h
      exact .inl ⟨rfl, rfl, .inl ⟨old, hold⟩⟩
    | cons next pieces => cases h
  · have hnone : ∀ old, files.get? (here.step piece).toText ≠ some (some old) :=
      fun old hold => hfile ⟨old, hold⟩
    rw [walk_cons_of_no_file hsize hnone] at h
    split at h
    · rename_i hdirectory
      exact .inr ⟨hnone, hdirectory, h⟩
    · rename_i hdirectory
      cases pieces with
      | nil =>
        cases h
        exact .inl ⟨rfl, rfl, .inr (by simpa using hdirectory)⟩
      | cons next pieces => cases h

/-- A walk ends at a place where a file is or can be made. -/
theorem isPlace_of_walk (hhere : here.IsNormal) (hpieces : ∀ s ∈ pieces, Path.IsPiece s)
    (h : (walk files here pieces).place? = some path) : IsPlace files path := by
  induction pieces generalizing here with
  | nil => cases h
  | cons piece pieces ih =>
    rw [List.forall_mem_cons] at hpieces
    obtain ⟨-, ⟨rfl, -, hfree⟩ | ⟨-, -, hwalk⟩⟩ := place_cons h
    · exact ⟨hhere.step hpieces.1, hfree⟩
    · exact ih (hhere.step hpieces.1) hpieces.2 hwalk

/-- **The walk to the place of a file leads to the file once it is written.** -/
theorem walk_set (hhere : here.IsNormal) (hpieces : ∀ s ∈ pieces, Path.IsPiece s)
    (h : (walk files here pieces).place? = some path) (text : String) :
    walk (files.set path.toText (some text)) here pieces = .file path text := by
  have hplace := isPlace_of_walk hhere hpieces h
  induction pieces generalizing here with
  | nil => cases h
  | cons piece pieces ih =>
    rw [List.forall_mem_cons] at hpieces
    have hnext := hhere.step hpieces.1
    obtain ⟨hsize, ⟨rfl, rfl, -⟩ | ⟨hnone, hdirectory, hwalk⟩⟩ := place_cons h
    · rw [walk_cons_of_file hsize (by rw [Entries.get?_set, if_pos rfl])]
      rfl
    · -- the file is not written in the place of this directory, so the walk goes on from it
      have hne := hplace.ne_directory hnext hnone hdirectory
      rw [walk_cons_of_no_file hsize (by rwa [Entries.get?_set, if_neg hne]),
        if_pos (hasDirectory_set hdirectory hne text), ih hnext hpieces.2 hwalk]

/-! ## Writing and reading -/

/-- A file can be opened for writing where its path can be asked about and leads to a place. -/
theorem place_eq_ok {p path : Path} : files.place p = .ok path ↔
    p.isEncodable = true ∧ p.hasZero = false ∧ (files.find p).place? = some path := by
  unfold place
  cases p.isEncodable <;> cases p.hasZero <;> simp
  cases files.find p with
  | missing path last => cases last <;> simp [Target.place?]
  | _ => simp [Target.place?]

/-- A path that is not too long is walked from its root. -/
theorem find_eq {p : Path} (hsize : p.isTooLong = false) :
    files.find p = walk files ⟨p.root, []⟩ p.pieces := by
  rw [find, hsize]
  rfl

/-- **A file that was opened is there**, with whatever text it is left with. -/
theorem find_of_place {p path : Path} (hp : p.IsNormal) (h : files.place p = .ok path)
    (text : String) : find (files.set path.toText (some text)) p = .file path text := by
  obtain ⟨-, -, hplace⟩ := place_eq_ok.mp h
  have hsize : p.isTooLong = false := by
    by_contra hlong
    rw [find, if_pos (by simpa using hlong)] at hplace
    cases hplace
  rw [find_eq hsize] at hplace ⊢
  exact walk_set hp.start hp.pieces hplace text

end Files

/-- The disk takes the text, which can be encoded. -/
structure Disk.Takes (disk : Disk) (text : String) : Prop where
  encodable : text.isEncodable = true
  taken : disk.failure? text = none

/-- Of the text nothing but a beginning is written: it cannot be encoded, or the disk fails. -/
inductive Disk.Cuts (disk : Disk) (text : String) : String → Prop
  | notEncodable : text.isEncodable = false → disk.Cuts text ""
  | full {beginning message : String} : text.isEncodable = true →
      disk.failure? text = some (beginning, message) → disk.Cuts text beginning

/-- What is left of a text that is cut off is a beginning of it. -/
theorem Disk.Cuts.isPrefix {disk : Disk} {text beginning : String}
    (h : disk.Cuts text beginning) : beginning.toList <+: text.toList := by
  cases h with
  | notEncodable _ => exact List.nil_prefix
  | full _ hfails => exact disk.isPrefix_of_failure hfails

/-- A text is taken or cut off. -/
theorem Disk.takes_or_cuts (disk : Disk) (text : String) :
    disk.Takes text ∨ ∃ beginning, disk.Cuts text beginning := by
  cases hencode : text.isEncodable with
  | false => exact .inr ⟨"", .notEncodable hencode⟩
  | true =>
    cases hfails : disk.failure? text with
    | none => exact .inl ⟨hencode, hfails⟩
    | some failure => exact .inr ⟨failure.1, .full hencode hfails⟩

theorem Disk.ample_takes_iff {text : String} :
    Disk.ample.Takes text ↔ text.isEncodable = true :=
  ⟨Disk.Takes.encodable, fun h => ⟨h, rfl⟩⟩

namespace Files

variable {files : Files} {disk : Disk} {p path : Path} {text : String}

/-- Where no file can be opened, nothing changes. -/
theorem put_of_fault {fault : FileFault} (h : files.place p = .error fault) :
    files.put disk p text = (files, some fault) := by
  rw [put, h]

/-- A text that is taken is the text of the file. -/
theorem put_of_takes (h : files.place p = .ok path) (htakes : disk.Takes text) :
    files.put disk p text = (files.set path.toText (some text), none) := by
  simp [put, h, htakes.encodable, htakes.taken]

/-- A text that is cut off leaves its beginning. -/
theorem put_of_cuts {beginning : String} (h : files.place p = .ok path)
    (hcuts : disk.Cuts text beginning) :
    ∃ fault, files.put disk p text = (files.set path.toText (some beginning), some fault) := by
  cases hcuts with
  | notEncodable hencode => exact ⟨.notEncodable, by simp [put, h, hencode]⟩
  | @full _ message hencode hfails =>
    exact ⟨.disk message, by simp [put, h, hencode, hfails]⟩

/-- **What writing leaves**: all files as they were, the file with its text, or the file with a
    beginning of the text. -/
theorem put_cases (disk : Disk) (files : Files) (p : Path) (text : String) :
    (∃ fault, files.place p = .error fault ∧ files.put disk p text = (files, some fault)) ∨
    ∃ path, files.place p = .ok path ∧
      (disk.Takes text ∧ files.put disk p text = (files.set path.toText (some text), none) ∨
        ∃ beginning fault, disk.Cuts text beginning ∧
          files.put disk p text = (files.set path.toText (some beginning), some fault)) := by
  cases h : files.place p with
  | error fault => exact .inl ⟨fault, rfl, put_of_fault h⟩
  | ok path =>
    refine .inr ⟨path, rfl, ?_⟩
    rcases disk.takes_or_cuts text with htakes | ⟨beginning, hcuts⟩
    · exact .inl ⟨htakes, put_of_takes h htakes⟩
    · obtain ⟨fault, hput⟩ := put_of_cuts h hcuts
      exact .inr ⟨beginning, fault, hcuts, hput⟩

/-- Of three letters with two bytes each, two fit into five bytes. -/
example : (Files.put (.ofSize 5) [("d", none), ("a", some "old")] (.ofText "a") "äöü").1 =
    [("d", none), ("a", some "äö")] := by
  decide +kernel

/-- Writing succeeds exactly if the file can be opened and its text is taken. -/
theorem put_eq_none {written : Files} : files.put disk p text = (written, none) ↔
    disk.Takes text ∧
      ∃ path, files.place p = .ok path ∧ written = files.set path.toText (some text) := by
  constructor
  · intro h
    rcases put_cases disk files p text with ⟨fault, -, hput⟩ | ⟨path, hplace, hput⟩
    · rw [hput] at h
      cases h
    · rcases hput with ⟨htakes, hput⟩ | ⟨beginning, fault, -, hput⟩
      · rw [hput] at h
        cases h
        exact ⟨htakes, path, hplace, rfl⟩
      · rw [hput] at h
        cases h
  · rintro ⟨htakes, path, hplace, rfl⟩
    exact put_of_takes hplace htakes

/-- A text is written exactly if it can be encoded and its path leads to a place. -/
theorem write_eq_ok {files' : Files} {p : Path} {text : String} :
    files.write p text = .ok files' ↔ text.isEncodable = true ∧
      ∃ path, files.place p = .ok path ∧ files' = files.set path.toText (some text) := by
  have hput : files.write p text = .ok files' ↔ files.put .ample p text = (files', none) := by
    unfold write
    rcases files.put .ample p text with ⟨written, fault?⟩
    cases fault? <;> simp
  rw [hput, put_eq_none, Disk.ample_takes_iff]

/-- A file that was written is there. -/
theorem has_of_write {files' : Files} {p : Path} {text : String} (hp : p.IsNormal)
    (h : files.write p text = .ok files') : files'.has p = .ok true := by
  obtain ⟨-, path, hplace, rfl⟩ := write_eq_ok.mp h
  obtain ⟨hencodable, hzero, -⟩ := place_eq_ok.mp hplace
  rw [has, hzero, hencodable, find_of_place hp hplace]
  rfl

/-- **A file that was written is read as it was written**, if it has no carriage returns. -/
theorem read_of_write {files' : Files} {p : Path} {text : String} (hp : p.IsNormal)
    (h : files.write p text = .ok files') (htext : '\r' ∉ text.toList) :
    files'.read p = .ok text := by
  obtain ⟨-, path, hplace, rfl⟩ := write_eq_ok.mp h
  rw [read, find_of_place hp hplace]
  simp only [Text.unifyLineEnds_of_not_mem htext, String.ofList_toList]

end Files

end ThriftScala
