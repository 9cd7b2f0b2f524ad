/-
  Tidying keeps what is written and evens out what is blank.

  1. **Two readings of lines.**  `contents` are the lines that are not blank, and `gaps` says how
     many blank lines stand before each of them.  Lines whose blank ones are empty and that do not
     end with a blank one are determined by the two (`eq_of_contents_of_gaps`).

  2. **What each step does to them.**  Cutting blank ends changes neither which lines are blank nor
     how many (`gapsAfter_map_trimEnd`); a run of empty lines is squeezed to one
     (`gapsAfter_squeeze`); and empty lines at the end count for nothing (`exists_dropLastEmpty`).

  3. **Again.**  The lines of a tidy text have the same contents, and a gap that was evened out
     stays.  So tidying again cannot change anything (`tidyLines_tidy`), whatever blank characters
     a line ending has in front of its line feed.
-/
import Mathlib.Data.List.Basic
import ThriftScala.Text.Surrogate
import ThriftScala.Text.Tidy

namespace ThriftScala.Text

/-! ## What is written and what is blank -/

/-- The lines that are not blank. -/
def contents (ls : List (List Char)) : List (List Char) := ls.filter (!allBlank ·)

/-- How many blank lines stand before each line that is not blank, with `n` before the first. -/
def gapsAfter (n : Nat) : List (List Char) → List Nat
  | [] => []
  | l :: ls => if allBlank l then gapsAfter (n + 1) ls else n :: gapsAfter 0 ls

/-- How many blank lines stand before each line that is not blank. -/
def gaps (ls : List (List Char)) : List Nat := gapsAfter 0 ls

/-- No line has a blank end, so the blank ones are empty. -/
def AreTrimmed (ls : List (List Char)) : Prop := ∀ l ∈ ls, trimEnd l = l

variable {l : List Char} {ls ms : List (List Char)}

/-! ## Blank ends -/

/-- Trimming leaves a beginning of the line. -/
theorem trimEnd_isPrefix (cs : List Char) : trimEnd cs <+: cs := by
  induction cs with
  | nil => exact List.prefix_rfl
  | cons c cs ih =>
    rw [trimEnd]
    cases h : trimEnd cs with
    | nil =>
      by_cases hc : isBlank c
      · simp [hc]
      · simp [hc]
    | cons d t =>
      rw [h] at ih
      exact (List.prefix_cons_inj c).mpr ih

/-- Blanks behind a text are cut off with its end. -/
theorem trimEnd_append_of_allBlank (cs : List Char) {blanks : List Char}
    (h : allBlank blanks = true) : trimEnd (cs ++ blanks) = trimEnd cs := by
  induction cs with
  | nil => exact trimEnd_eq_nil_iff.mpr h
  | cons c cs ih => rw [List.cons_append, trimEnd, ih, trimEnd]

/-- A line is blank after trimming if it was before. -/
theorem allBlank_trimEnd (cs : List Char) : allBlank (trimEnd cs) = allBlank cs := by
  rw [Bool.eq_iff_iff, ← trimEnd_eq_nil_iff, ← trimEnd_eq_nil_iff, trimEnd_trimEnd]

/-- A trimmed line is blank only if it is empty. -/
theorem allBlank_of_trimmed (h : trimEnd l = l) : allBlank l = l.isEmpty := by
  rw [Bool.eq_iff_iff, ← trimEnd_eq_nil_iff, h, List.isEmpty_iff]

/-- Lines that were trimmed are trimmed. -/
theorem areTrimmed_map (ls : List (List Char)) : AreTrimmed (ls.map trimEnd) := by
  rw [AreTrimmed, List.forall_mem_map]
  exact fun l _ => trimEnd_trimEnd l

/-- Trimming changes the lines with something on them only at their ends. -/
theorem contents_map_trimEnd (ls : List (List Char)) :
    contents (ls.map trimEnd) = (contents ls).map trimEnd := by
  have hblank : (fun l => !allBlank l) ∘ trimEnd = fun l => !allBlank l := by
    funext l
    rw [Function.comp_apply, allBlank_trimEnd]
  rw [contents, List.filter_map, hblank, contents]

/-- Trimming leaves the gaps between lines as they are. -/
theorem gapsAfter_map_trimEnd (n : Nat) (ls : List (List Char)) :
    gapsAfter n (ls.map trimEnd) = gapsAfter n ls := by
  induction ls generalizing n with
  | nil => rfl
  | cons l ls ih => rw [List.map_cons, gapsAfter, gapsAfter, allBlank_trimEnd, ih, ih]

/-! ## Runs of empty lines -/

/-- Squeezing leaves lines out and adds none. -/
theorem squeeze_sublist (afterEmpty : Bool) (ls : List (List Char)) :
    (squeeze afterEmpty ls).Sublist ls := by
  fun_induction squeeze afterEmpty ls with
  | case1 => exact .slnil
  | case2 l ls _ ih => exact ih.cons l
  | case3 b l ls hl _ ih =>
    rw [List.isEmpty_iff.mp hl]
    exact ih.cons_cons []
  | case4 b l ls _ ih => exact ih.cons_cons l

/-- Only empty lines are dropped. -/
theorem contents_squeeze (afterEmpty : Bool) (h : AreTrimmed ls) :
    contents (squeeze afterEmpty ls) = contents ls := by
  unfold AreTrimmed at h
  unfold contents
  fun_induction squeeze afterEmpty ls with
  | case1 => rfl
  | case2 l ls hl ih =>
    rw [List.forall_mem_cons] at h
    rw [ih h.2, List.filter_cons_of_neg (by simp [allBlank_of_trimmed h.1, hl])]
  | case3 b l ls hl _ ih =>
    rw [List.forall_mem_cons] at h
    rw [List.filter_cons_of_neg (by decide), ih h.2,
      List.filter_cons_of_neg (by simp [allBlank_of_trimmed h.1, hl])]
  | case4 b l ls hl ih =>
    rw [List.forall_mem_cons] at h
    have hfull : allBlank l = false := by simp [allBlank_of_trimmed h.1, hl]
    rw [List.filter_cons_of_pos (by simp [hfull]), List.filter_cons_of_pos (by simp [hfull]),
      ih h.2]

/-- **Of each run of empty lines one is kept**, also of the run that has begun before. -/
theorem gapsAfter_squeeze (n : Nat) (h : AreTrimmed ls) :
    gapsAfter (min n 1) (squeeze (decide (0 < n)) ls) = (gapsAfter n ls).map (min · 1) := by
  induction ls generalizing n with
  | nil => rfl
  | cons l ls ih =>
    rw [AreTrimmed, List.forall_mem_cons] at h
    have hblank := allBlank_of_trimmed h.1
    have hrest := fun n => ih n h.2
    rw [squeeze, gapsAfter, hblank]
    by_cases hl : l.isEmpty
    · have hnext := hrest (n + 1)
      rw [decide_eq_true (Nat.succ_pos n), Nat.min_eq_right (Nat.succ_pos n)] at hnext
      rw [if_pos hl, if_pos hl, ← hnext]
      by_cases hn : 0 < n
      · rw [if_pos (decide_eq_true hn), Nat.min_eq_right hn]
      · obtain rfl : n = 0 := by omega
        rw [if_neg (by decide)]
        rfl
    · have hnone : gapsAfter 0 (squeeze false ls) = (gapsAfter 0 ls).map (min · 1) := hrest 0
      rw [if_neg hl, if_neg hl, gapsAfter, hblank, if_neg hl, List.map_cons, hnone]

/-! ## Empty lines at the end -/

/-- What is cut off the end is empty, and what is left does not end so. -/
theorem exists_dropLastEmpty (ls : List (List Char)) :
    ∃ k, ls = dropLastEmpty ls ++ List.replicate k [] ∧ [] ∉ (dropLastEmpty ls).getLast? := by
  induction ls with
  | nil => exact ⟨0, rfl, by simp [dropLastEmpty]⟩
  | cons l ls ih =>
    obtain ⟨k, hls, hlast⟩ := ih
    rw [dropLastEmpty]
    cases hrest : dropLastEmpty ls with
    | nil =>
      rw [hrest, List.nil_append] at hls
      by_cases hl : l = []
      · exact ⟨k + 1, by simp [hl, hls, List.replicate_succ], by simp [hl]⟩
      · exact ⟨k, by simp [hl, hls], by simp [hl]⟩
    | cons m ms =>
      rw [hrest] at hls hlast
      refine ⟨k, ?_, ?_⟩
      · rw [hls]
        rfl
      · rwa [List.getLast?_cons_cons]

/-- Empty lines at the end hold nothing. -/
theorem contents_append_empty (ls : List (List Char)) (k : Nat) :
    contents (ls ++ List.replicate k []) = contents ls := by
  simp [contents, allBlank]

/-- Empty lines at the end are no gap between lines. -/
theorem gapsAfter_append_empty (n : Nat) (ls : List (List Char)) (k : Nat) :
    gapsAfter n (ls ++ List.replicate k []) = gapsAfter n ls := by
  induction ls generalizing n with
  | nil =>
    rw [List.nil_append]
    induction k generalizing n with
    | zero => rfl
    | succ k ih =>
      have hempty : gapsAfter n ([] :: List.replicate k []) =
          gapsAfter (n + 1) (List.replicate k []) := rfl
      rw [List.replicate_succ, hempty, ih]
      rfl
  | cons l ls ih => rw [List.cons_append, gapsAfter, gapsAfter, ih, ih]

/-! ## Tidy lines -/

/-- **The contents and the gaps of tidy lines.** -/
theorem tidyLines_spec (cs : List Char) :
    contents (tidyLines cs) = (contents (splitAt '\n' cs)).map trimEnd ∧
      gaps (tidyLines cs) = (gaps (splitAt '\n' cs)).map (min · 1) ∧
      [] ∉ (tidyLines cs).getLast? := by
  have htrimmed := areTrimmed_map (splitAt '\n' cs)
  obtain ⟨k, hsqueezed, hlast⟩ :=
    exists_dropLastEmpty (squeeze false ((splitAt '\n' cs).map trimEnd))
  have hcontents := contents_squeeze false htrimmed
  rw [hsqueezed, contents_append_empty, contents_map_trimEnd] at hcontents
  have hgaps := gapsAfter_squeeze 0 htrimmed
  rw [gapsAfter_map_trimEnd, decide_eq_false (Nat.lt_irrefl 0), hsqueezed,
    gapsAfter_append_empty] at hgaps
  exact ⟨hcontents, hgaps, hlast⟩

/-- Tidy lines are lines of the text, with their ends cut. -/
theorem mem_tidyLines {cs : List Char} (h : l ∈ tidyLines cs) : trimEnd l = l ∧ '\n' ∉ l := by
  obtain ⟨k, hsqueezed, -⟩ := exists_dropLastEmpty (squeeze false ((splitAt '\n' cs).map trimEnd))
  have hkept : l ∈ squeeze false ((splitAt '\n' cs).map trimEnd) := by
    rw [hsqueezed]
    exact List.mem_append_left _ h
  obtain ⟨whole, hwhole, rfl⟩ := List.mem_map.mp ((squeeze_sublist _ _).subset hkept)
  refine ⟨trimEnd_trimEnd whole, fun hfeed => ?_⟩
  exact not_mem_of_mem_splitAt hwhole ((trimEnd_isPrefix whole).subset hfeed)

/-! ## Again -/

/-- Lines of which one knows the contents and the gaps. -/
def layOut (gaps : List Nat) (contents : List (List Char)) : List (List Char) :=
  (gaps.zip contents).flatMap fun (n, l) => List.replicate n [] ++ [l]

/-- Lines without blank ends are laid out by their gaps and contents, up to the last content. -/
theorem layOut_gapsAfter (n : Nat) (h : AreTrimmed ls)
    (hlast : [] ∉ (List.replicate n [] ++ ls).getLast?) :
    layOut (gapsAfter n ls) (contents ls) = List.replicate n [] ++ ls := by
  induction ls generalizing n with
  | nil =>
    cases n with
    | zero => rfl
    | succ n => simp [List.replicate_succ'] at hlast
  | cons l ls ih =>
    rw [AreTrimmed, List.forall_mem_cons] at h
    -- an empty line makes the gap longer; any other line ends it
    by_cases hl : allBlank l
    · obtain rfl : l = [] := by rwa [allBlank_of_trimmed h.1, List.isEmpty_iff] at hl
      have hmove : List.replicate n [] ++ [] :: ls = List.replicate (n + 1) [] ++ ls := by
        simp [List.replicate_succ']
      rw [hmove] at hlast ⊢
      rw [gapsAfter, if_pos hl, contents, List.filter_cons_of_neg (by simp [hl])]
      exact ih (n + 1) h.2 hlast
    · have hrest : [] ∉ ls.getLast? := by
        intro hls
        apply hlast
        rw [List.getLast?_append, List.getLast?_cons, Option.mem_def.mp hls]
        rfl
      have hlaid : layOut (gapsAfter 0 ls) (contents ls) = ls := ih 0 h.2 hrest
      rw [gapsAfter, if_neg hl, contents, List.filter_cons_of_pos (by simp [hl]), layOut,
        List.zip_cons_cons, List.flatMap_cons, ← layOut, ← contents, hlaid]
      simp

/-- Lines without blank ends that do not end with an empty one are known by the two readings. -/
theorem eq_of_contents_of_gaps (hls : AreTrimmed ls) (hms : AreTrimmed ms)
    (hlast : [] ∉ ls.getLast?) (hlast' : [] ∉ ms.getLast?) (hcontents : contents ls = contents ms)
    (hgaps : gaps ls = gaps ms) : ls = ms := by
  have hlaid : layOut (gaps ls) (contents ls) = ls := layOut_gapsAfter 0 hls hlast
  have hlaid' : layOut (gaps ms) (contents ms) = ms := layOut_gapsAfter 0 hms hlast'
  rw [← hlaid, ← hlaid', hcontents, hgaps]

/-- There are no tidy lines exactly if all lines are blank. -/
theorem tidyLines_eq_nil_iff (cs : List Char) :
    tidyLines cs = [] ↔ contents (splitAt '\n' cs) = [] := by
  obtain ⟨hcontents, -, hlast⟩ := tidyLines_spec cs
  constructor
  · intro hnone
    rw [hnone] at hcontents
    exact List.map_eq_nil_iff.mp hcontents.symm
  · intro hnone
    have hlaid : layOut (gaps (tidyLines cs)) (contents (tidyLines cs)) = tidyLines cs :=
      layOut_gapsAfter 0 (fun l hl => (mem_tidyLines hl).1) hlast
    rw [← hlaid, hcontents, hnone, List.map_nil, layOut, List.zip_nil_right, List.flatMap_nil]

/-- The last tidy line is not blank. -/
theorem exists_getLast_tidyLines {cs : List Char} (h : tidyLines cs ≠ []) :
    ∃ l, (tidyLines cs).getLast? = some l ∧ allBlank l = false := by
  obtain ⟨-, -, hlast⟩ := tidyLines_spec cs
  have hl := List.getLast?_eq_getLast_of_ne_nil h
  refine ⟨_, hl, ?_⟩
  rw [allBlank_of_trimmed (mem_tidyLines (List.getLast_mem h)).1, List.isEmpty_eq_false_iff]
  intro hempty
  rw [hempty] at hl
  exact hlast hl

/-- The lines of a tidy text, of which there is always one. -/
def writtenLines (cs : List Char) : List (List Char) :=
  if tidyLines cs = [] then [[]] else tidyLines cs

/-- A line that is written is trimmed and is one line. -/
theorem mem_writtenLines {cs : List Char} (h : l ∈ writtenLines cs) :
    trimEnd l = l ∧ '\n' ∉ l := by
  unfold writtenLines at h
  split at h
  · rw [List.mem_singleton.mp h]
    decide
  · exact mem_tidyLines h

/-- An empty line that stands alone has neither contents nor gaps. -/
theorem writtenLines_readings (cs : List Char) :
    contents (writtenLines cs) = contents (tidyLines cs) ∧
      gaps (writtenLines cs) = gaps (tidyLines cs) := by
  unfold writtenLines
  split
  · rename_i hnone
    rw [hnone]
    exact ⟨rfl, rfl⟩
  · exact ⟨rfl, rfl⟩

/-- Each line of a tidy text is ended by the line ending. -/
theorem tidy_eq_flatMap (ending cs : List Char) :
    tidy ending cs = (writtenLines cs).flatMap (· ++ ending) := by
  have hjoin : ∀ ls : List (List Char), ls ≠ [] →
      joinWith ending ls ++ ending = ls.flatMap (· ++ ending) := by
    intro ls hne
    induction ls with
    | nil => exact absurd rfl hne
    | cons l ls ih =>
      cases ls with
      | nil => simp [joinWith]
      | cons m ms =>
        rw [joinWith, List.append_assoc, ih (List.cons_ne_nil m ms), List.flatMap_cons (x := l)]
  unfold tidy writtenLines
  split
  · rename_i hnone
    rw [hnone]
    simp [joinWith]
  · rename_i hsome
    exact hjoin _ hsome

/-- Lines that a line feed ends are cut again, with a last empty one. -/
theorem splitAt_flatMap {blanks : List Char} (hblanks : '\n' ∉ blanks)
    (h : ∀ l ∈ ls, '\n' ∉ l) :
    splitAt '\n' (ls.flatMap (· ++ (blanks ++ ['\n']))) = ls.map (· ++ blanks) ++ [[]] := by
  induction ls with
  | nil => rfl
  | cons l ls ih =>
    rw [List.forall_mem_cons] at h
    have hline : '\n' ∉ l ++ blanks := by
      rw [List.mem_append, not_or]
      exact ⟨h.1, hblanks⟩
    have hrest : splitAt '\n' ('\n' :: ls.flatMap (· ++ (blanks ++ ['\n']))) =
        [] :: (ls.map (· ++ blanks) ++ [[]]) := by
      rw [splitAt, if_pos rfl, ih h.2]
    have hcut := splitAt_append hline hrest
    rw [List.append_nil] at hcut
    rw [List.flatMap_cons, List.map_cons, List.cons_append, ← hcut]
    simp

/-- **The lines of a tidy text stay**, whatever blanks its line ending has before the line feed. -/
theorem tidyLines_tidy {blanks : List Char} (hblank : allBlank blanks = true)
    (hfeed : '\n' ∉ blanks) (cs : List Char) :
    tidyLines (tidy (blanks ++ ['\n']) cs) = tidyLines cs := by
  -- the tidied text is cut into the lines that were written, each with the blanks of a line end
  have hsplit : splitAt '\n' (tidy (blanks ++ ['\n']) cs) =
      (writtenLines cs).map (· ++ blanks) ++ [[]] := by
    rw [tidy_eq_flatMap]
    exact splitAt_flatMap hfeed fun l hl => (mem_writtenLines hl).2
  have htrim : ((writtenLines cs).map (· ++ blanks) ++ [[]]).map trimEnd =
      writtenLines cs ++ List.replicate 1 [] := by
    rw [List.map_append, List.map_map]
    congr 1
    refine (List.map_congr_left fun l hl => ?_).trans (List.map_id _)
    exact (trimEnd_append_of_allBlank l hblank).trans (mem_writtenLines hl).1
  obtain ⟨hcontents, hgaps, hlast⟩ := tidyLines_spec cs
  obtain ⟨hcontents', hgaps', hlast'⟩ := tidyLines_spec (tidy (blanks ++ ['\n']) cs)
  obtain ⟨hwritten, hspaced⟩ := writtenLines_readings cs
  rw [hsplit, ← contents_map_trimEnd, htrim, contents_append_empty, hwritten] at hcontents'
  have hgapsWritten :
      gaps ((writtenLines cs).map (· ++ blanks) ++ [[]]) = gaps (writtenLines cs) := by
    rw [gaps, ← gapsAfter_map_trimEnd, htrim, gapsAfter_append_empty, gaps]
  rw [hsplit, hgapsWritten, hspaced, hgaps, List.map_map] at hgaps'
  -- gaps of one line at most stay as they are
  have heven : ((min · 1) ∘ (min · 1) : Nat → Nat) = (min · 1) := by
    funext n
    simp
  rw [heven, ← hgaps] at hgaps'
  exact eq_of_contents_of_gaps (fun l hl => (mem_tidyLines hl).1)
    (fun l hl => (mem_tidyLines hl).1) hlast' hlast hcontents' hgaps'

/-! ## Characters that are not blank -/

section Kept

variable {c : Char}

/-- Trimming takes only blanks away. -/
theorem mem_trimEnd (hc : isBlank c = false) {cs : List Char} : c ∈ trimEnd cs ↔ c ∈ cs := by
  induction cs with
  | nil => rfl
  | cons d cs ih =>
    rw [trimEnd]
    cases hrest : trimEnd cs with
    | nil =>
      rw [hrest] at ih
      by_cases hd : isBlank d
      · have hne : c ≠ d := by
          rintro rfl
          rw [hc] at hd
          cases hd
        simp [hd, hne, ← ih]
      · simp [hd, ← ih]
    | cons e t =>
      rw [hrest] at ih
      simp [← ih]

/-- Lines with such a character are not blank. -/
theorem exists_mem_contents (hc : isBlank c = false) (ls : List (List Char)) :
    (∃ l ∈ contents ls, c ∈ l) ↔ ∃ l ∈ ls, c ∈ l := by
  refine ⟨fun ⟨l, hl, hmem⟩ => ⟨l, (List.mem_filter.mp hl).1, hmem⟩, fun ⟨l, hl, hmem⟩ => ?_⟩
  have hwritten : allBlank l = false := List.all_eq_false.mpr ⟨c, hmem, by simp [hc]⟩
  exact ⟨l, List.mem_filter.mpr ⟨hl, by simp [hwritten]⟩, hmem⟩

/-- **Tidying neither drops nor adds a character that is not blank.** -/
theorem mem_tidy (hc : isBlank c = false) {ending cs : List Char} (hending : c ∉ ending) :
    c ∈ tidy ending cs ↔ c ∈ cs := by
  have hfeed : c ≠ '\n' := by
    rintro rfl
    cases hc
  calc c ∈ tidy ending cs
      ↔ ∃ l ∈ writtenLines cs, c ∈ l := by simp [tidy_eq_flatMap, hending]
    _ ↔ ∃ l ∈ contents (tidyLines cs), c ∈ l := by
        rw [← exists_mem_contents hc, (writtenLines_readings cs).1]
    _ ↔ ∃ l ∈ splitAt '\n' cs, c ∈ l := by
        rw [(tidyLines_spec cs).1, ← exists_mem_contents hc (splitAt '\n' cs)]
        simp [mem_trimEnd hc]
    _ ↔ c ∈ cs := exists_mem_splitAt hfeed

end Kept

end ThriftScala.Text

namespace ThriftScala

open Text

/-- Half of a pair is no blank, so tidy code can be encoded exactly if the code can. -/
theorem isEncodable_formatCode {ending : String} (hending : ending.isEncodable = true)
    (code : String) : (formatCode ending code).isEncodable = code.isEncodable := by
  -- half a pair is neither blank nor part of a line ending, so tidying keeps it
  have hkept : ∀ c, isLoneHalf c = true →
      (c ∈ (formatCode ending code).toList ↔ c ∈ code.toList) := by
    intro c hc
    have hblank : isBlank c = false := by
      simp only [isLoneHalf, Bool.and_eq_true, decide_eq_true_eq] at hc
      rw [← Bool.not_eq_true, isBlank, Ranges.holds_iff]
      simp only [blankRanges, List.mem_cons, List.not_mem_nil, or_false]
      rintro ⟨r, hr, hfirst, hlast⟩
      rcases hr with rfl | rfl | rfl | rfl | rfl | rfl | rfl | rfl | rfl | rfl <;> omega
    have hnot : c ∉ ending.toList := fun hmem => by
      have hencodable := List.all_eq_true.mp hending c hmem
      simp [hc] at hencodable
    rw [formatCode, String.toList_ofList, mem_tidy hblank hnot]
  have hall : ∀ s : String, s.isEncodable = true ↔ ∀ c, isLoneHalf c = true → c ∉ s.toList := by
    intro s
    simp only [String.isEncodable, List.all_eq_true, Bool.not_eq_true']
    exact ⟨fun h c hc hmem => by simp [h c hmem] at hc,
      fun h c hmem => by_contra fun hc => h c (by simpa using hc) hmem⟩
  rw [Bool.eq_iff_iff, hall, hall]
  exact forall₂_congr fun c hc => not_congr (hkept c hc)

/-- **Tidy code has the lines of the code that are not blank, and evens out the blank ones.**  Every
    line is ended by the line ending and has no blank end.  The lines that are not blank are those
    of the code, cut at their ends and in their order; a blank line stands before one of them where
    at least one stood in the code, and it stands alone; none stands at the end, and code without
    any other line is one empty line.  Tidy code is tidied already. -/
theorem formatCode_evens_out {ending : String} (hending : ending = "\n" ∨ ending = "\r\n")
    (code : String) :
    (∃ ls : List (List Char),
      (formatCode ending code).toList = ls.flatMap (· ++ ending.toList) ∧
      (∀ l ∈ ls, '\n' ∉ l ∧ trimEnd l = l) ∧
      contents ls = (contents (splitAt '\n' code.toList)).map trimEnd ∧
      gaps ls = (gaps (splitAt '\n' code.toList)).map (min · 1) ∧
      if contents (splitAt '\n' code.toList) = [] then ls = [[]]
      else ∃ l, ls.getLast? = some l ∧ allBlank l = false) ∧
    formatCode ending (formatCode ending code) = formatCode ending code := by
  obtain ⟨blanks, hsplit, hblank, hfeed⟩ : ∃ blanks, ending.toList = blanks ++ ['\n'] ∧
      allBlank blanks = true ∧ '\n' ∉ blanks := by
    rcases hending with rfl | rfl
    · exact ⟨[], rfl, rfl, by decide⟩
    · exact ⟨['\r'], rfl, by decide, by decide⟩
  obtain ⟨hcontents, hgaps, hlast⟩ := tidyLines_spec code.toList
  obtain ⟨hwritten, hspaced⟩ := writtenLines_readings code.toList
  refine ⟨⟨writtenLines code.toList, ?_, ?_, hwritten.trans hcontents, hspaced.trans hgaps, ?_⟩, ?_⟩
  · rw [formatCode, String.toList_ofList, tidy_eq_flatMap]
  · exact fun l hl => (mem_writtenLines hl).symm
  · split
    · rename_i hnone
      rw [writtenLines, if_pos ((tidyLines_eq_nil_iff _).mpr hnone)]
    · rename_i hsome
      have htidy : tidyLines code.toList ≠ [] := fun hnone =>
        hsome ((tidyLines_eq_nil_iff _).mp hnone)
      rw [writtenLines, if_neg htidy]
      exact exists_getLast_tidyLines htidy
  · simp only [formatCode, String.toList_ofList, hsplit]
    rw [tidy, tidyLines_tidy hblank hfeed, ← tidy]

/-- Blank lines lead, stand in between with blanks in them, and end the code. -/
theorem blank_lines_are_evened_out :
    formatCode "\r\n" "\n \nobject A \x7b\t\n\n\r\n\x7d\n\n" =
      "\r\nobject A \x7b\r\n\r\n\x7d\r\n" ∧
    formatCode "\r\n" "\r\nobject A \x7b\r\n\r\n\x7d\r\n" =
      "\r\nobject A \x7b\r\n\r\n\x7d\r\n" := by
  have hcode : formatCode "\r\n" "\n \nobject A \x7b\t\n\n\r\n\x7d\n\n" =
      "\r\nobject A \x7b\r\n\r\n\x7d\r\n" := by decide
  have hagain := (formatCode_evens_out (.inr rfl) "\n \nobject A \x7b\t\n\n\r\n\x7d\n\n").2
  rw [hcode] at hagain
  exact ⟨hcode, hagain⟩

end ThriftScala
