/-
  Values are read back from the text that is written for them.

  1. The readers skip what the writer puts between the parts of a list or an object, because no
     value begins with a blank or a closing bracket (`FirstChar`).

  2. `ReadsBack v` is about the text of `v` at any level, in front of anything that may follow a
     value, and with at least as much fuel as the text is long.  Every reader spends one piece of
     fuel for each part, and each part has a character of its own, so this is enough for a list or
     an object if it is for what is inside (`readsBack_arr`, `readsBack_obj`).

  3. A value without doubles in which no key comes twice is read back (`read_write`).  Doubles are
     left out here, since their text is the shortest that stands for them.

  4. What is written is in line feeds, visible characters of ASCII and what else stands in texts and
     keys (`IsAlphabet.writeAt`).  So there are no carriage returns in it (`not_mem_write`), and it
     can be encoded if the texts and keys can (`isEncodable_write`).
-/
import ThriftScala.Proofs.Json.Shape
import ThriftScala.Proofs.Json.Tokens

namespace ThriftScala.Json

open Outcome

/-! ## Between the parts -/

/-- May a value begin with the character?  Not with a blank, a closing bracket or the mark that a
    text must not begin with. -/
def FirstChar (c : Char) : Prop := c ∉ [' ', '\t', '\n', '\r', ']', '\x7d', '\uFEFF']

/-- No value begins with a blank. -/
theorem skipBlanks_cons {c : Char} (h : FirstChar c) (r : List Char) :
    skipBlanks (c :: r) = c :: r := by
  simp only [FirstChar, List.mem_cons, not_or] at h
  simp [skipBlanks, h]

/-- The characters between the parts are no blanks. -/
theorem skipBlanks_mark {c : Char} (h : c ∈ [',', ':', ']', '\x7d']) (r : List Char) :
    skipBlanks (c :: r) = c :: r := by
  simp only [List.mem_cons, List.not_mem_nil, or_false] at h
  rcases h with rfl | rfl | rfl | rfl <;> rfl

/-- A line break is skipped with its blanks. -/
theorem skipBlanks_lineBreak (level : Nat) (r : List Char) :
    skipBlanks ((lineBreak level).toList ++ r) = skipBlanks r := by
  have hblanks : ∀ n, skipBlanks (List.replicate n ' ' ++ r) = skipBlanks r := by
    intro n
    induction n with
    | zero => rfl
    | succ n ih => exact ih
  rw [lineBreak, String.toList_ofList]
  exact hblanks (2 * level)

/-- A number ends where a line does. -/
theorem stops_lineBreak (level : Nat) (r : List Char) :
    Stops ((lineBreak level).toList ++ r) := by
  simp [lineBreak, Stops]

theorem writeElems_eq_map (level : Nat) (vs : List Json) :
    writeElems level vs = vs.map (writeAt level) := by
  induction vs with
  | nil => rfl
  | cons v vs ih => rw [writeElems, ih, List.map_cons]

theorem writeMembers_eq_map (level : Nat) (ms : List (String × Json)) :
    writeMembers level ms = ms.map fun m => writeText m.1 ++ ": " ++ writeAt level m.2 := by
  induction ms with
  | nil => rfl
  | cons m ms ih => rw [writeMembers, ih, List.map_cons]

/-- The parts of a list or an object: each on a line of its own, with commas between them. -/
def parts (level : Nat) (texts : List String) : List Char :=
  (String.joinedBy ("," ++ lineBreak level) texts).toList

theorem parts_single (level : Nat) (text : String) : parts level [text] = text.toList := rfl

/-- Behind each part but the last come a comma and a line break. -/
theorem parts_cons (level : Nat) (text next : String) (texts : List String) :
    parts level (text :: next :: texts) =
      text.toList ++ ',' :: ((lineBreak level).toList ++ parts level (next :: texts)) := by
  simp [parts, String.joinedBy]

/-- The parts begin as the first of them does. -/
theorem exists_parts_cons (level : Nat) (text : String) (texts : List String) :
    ∃ rest, parts level (text :: texts) = text.toList ++ rest := by
  cases texts with
  | nil => exact ⟨[], by simp [parts_single]⟩
  | cons next texts => exact ⟨_, parts_cons level text next texts⟩

/-! ## Values that are read back -/

/-- Is the text of a value, in front of what may follow it, read as the value? -/
structure ReadsBack (v : Json) : Prop where
  first : ∀ level, ∃ c r, (writeAt level v).toList = c :: r ∧ FirstChar c
  read : ∀ level fuel r, Stops r → (writeAt level v).toList.length ≤ fuel →
    readValue fuel ((writeAt level v).toList ++ r) = .ok (v, r)

/-- In front of a written value nothing is skipped. -/
theorem skipBlanks_writeAt {v : Json} (h : v.ReadsBack) (level : Nat) (r : List Char) :
    skipBlanks ((writeAt level v).toList ++ r) = (writeAt level v).toList ++ r := by
  obtain ⟨c, cs, hcons, hc⟩ := h.first level
  rw [hcons, List.cons_append, skipBlanks_cons hc]

/-! ## Values with nothing inside -/

/-- A value that has the same text at every level is read back if this text is. -/
theorem readsBack_of_text {v : Json} (c : Char) (cs : List Char) (hc : FirstChar c)
    (hwrite : ∀ level, (writeAt level v).toList = c :: cs)
    (hread : ∀ fuel r, Stops r → readValue (fuel + 1) (c :: (cs ++ r)) = .ok (v, r)) :
    v.ReadsBack := by
  refine ⟨fun level => ⟨c, cs, hwrite level, hc⟩, fun level fuel r hr hfuel => ?_⟩
  rw [hwrite] at hfuel ⊢
  cases fuel with
  | zero => simp at hfuel
  | succ fuel => exact hread fuel r hr

/-- A text is read back. -/
theorem readsBack_str (s : String) : (Json.str s).ReadsBack := by
  refine readsBack_of_text '"' (s.toList.flatMap escapedChar ++ ['"']) (by simp [FirstChar])
    (fun level => by rw [writeAt, toList_writeText]) fun fuel r _ => ?_
  rw [List.append_assoc, List.singleton_append, readValue, readText_escaped]
  simp

theorem firstChar_of_number {c : Char} (h : c = '-' ∨ c.isDigit) : FirstChar c := by
  simp only [FirstChar, List.mem_cons, List.not_mem_nil, or_false]
  rintro (rfl | rfl | rfl | rfl | rfl | rfl | rfl) <;> simp at h

/-- What begins with a minus or a digit is read as a number. -/
theorem readValue_number {c : Char} {cs : List Char} {reading : Json × List Char}
    (hc : c = '-' ∨ c.isDigit) (h : readNumber? (c :: cs) = some reading) (fuel : Nat) :
    readValue (fuel + 1) (c :: cs) = .ok reading := by
  rw [readValue, h]
  all_goals
    rintro _ heq
    cases heq
    simp at hc

/-- A whole number is read back. -/
theorem readsBack_int (n : Int) : (Json.int n).ReadsBack := by
  obtain ⟨c, cs, hcons, hc⟩ := exists_toString_cons n
  refine readsBack_of_text c cs (firstChar_of_number hc) (fun level => by rw [writeAt, hcons])
    fun fuel r hr => ?_
  have hnumber := readNumber_toString n hr
  rw [hcons, List.cons_append] at hnumber
  exact readValue_number hc hnumber fuel

/-- A value with nothing inside is read back, unless it is a double. -/
theorem readsBack_atom {v : Json} (hatom : v.isAtomic = true) (hv : v.IsNoDouble) :
    v.ReadsBack := by
  cases v with
  | null =>
    exact readsBack_of_text 'n' ['u', 'l', 'l'] (by simp [FirstChar])
      (fun level => by simp [writeAt]) fun fuel r _ => by simp [readValue]
  | bool b =>
    cases b with
    | true =>
      exact readsBack_of_text 't' ['r', 'u', 'e'] (by simp [FirstChar])
        (fun level => by simp [writeAt]) fun fuel r _ => by simp [readValue]
    | false =>
      exact readsBack_of_text 'f' ['a', 'l', 's', 'e'] (by simp [FirstChar])
        (fun level => by simp [writeAt]) fun fuel r _ => by simp [readValue]
  | int n => exact readsBack_int n
  | double x => exact hv.elim
  | str s => exact readsBack_str s
  | arr vs => cases hatom
  | obj ms => cases hatom

/-! ## Lists -/

section Elements

variable {v : Json} {level fuel : Nat}

/-- Behind the last element the bracket is found and the list is complete. -/
theorem readElems_last (hv : v.ReadsBack) (hfuel : (writeAt level v).toList.length ≤ fuel)
    (seen : List Json) (below : Nat) (r : List Char) :
    readElems (fuel + 1) seen ((writeAt level v).toList ++ ((lineBreak below).toList ++ ']' :: r)) =
      .ok (.arr (seen.reverse ++ [v]), r) := by
  rw [readElems, hv.read level fuel _ (stops_lineBreak below _) hfuel, ok_bind]
  dsimp only
  rw [skipBlanks_lineBreak, skipBlanks_mark (by decide), List.reverse_cons]
  rfl

/-- Behind an element and a comma the next one is read. -/
theorem readElems_comma (hv : v.ReadsBack) (hfuel : (writeAt level v).toList.length ≤ fuel)
    (seen : List Json) (r : List Char) :
    readElems (fuel + 1) seen ((writeAt level v).toList ++ ',' :: r) =
      readElems fuel (v :: seen) (skipBlanks r) := by
  have hstops : Stops (',' :: r) := .inl rfl
  rw [readElems, hv.read level fuel _ hstops hfuel, ok_bind]
  dsimp only
  rw [skipBlanks_mark (by decide)]
  rfl

/-- The parts of a list begin as a value does. -/
theorem exists_elems_cons (hv : v.ReadsBack) (level : Nat) (vs : List Json) :
    ∃ c cs, parts level (writeElems level (v :: vs)) = c :: cs ∧ FirstChar c := by
  obtain ⟨more, hmore⟩ := exists_parts_cons level (writeAt level v) (writeElems level vs)
  obtain ⟨c, cs, hcons, hc⟩ := hv.first level
  exact ⟨c, cs ++ more, by rw [writeElems, hmore, hcons, List.cons_append], hc⟩

end Elements

/-- **The elements of a list are read back**, behind those that were read before. -/
theorem readElems_parts (level below : Nat) {fuel : Nat} {r : List Char} {v : Json} {vs : List Json}
    (h : ∀ w ∈ v :: vs, w.ReadsBack) (seen : List Json)
    (hfuel : (parts level (writeElems level (v :: vs))).length ≤ fuel) :
    readElems (fuel + 1) seen (parts level (writeElems level (v :: vs)) ++
        ((lineBreak below).toList ++ ']' :: r)) = .ok (.arr (seen.reverse ++ v :: vs), r) := by
  have hv := h v List.mem_cons_self
  induction vs generalizing v seen fuel with
  | nil =>
    have hwrite : parts level (writeElems level [v]) = (writeAt level v).toList := by
      rw [writeElems, writeElems, parts_single]
    rw [hwrite] at hfuel ⊢
    exact readElems_last hv hfuel seen below r
  | cons w vs ih =>
    have hrest : ∀ u ∈ w :: vs, u.ReadsBack := fun u hu => h u (List.mem_cons_of_mem v hu)
    have hwrite : parts level (writeElems level (v :: w :: vs)) = (writeAt level v).toList ++
        ',' :: ((lineBreak level).toList ++ parts level (writeElems level (w :: vs))) := by
      rw [writeElems, writeElems, parts_cons]
    have hw := hrest w List.mem_cons_self
    rw [hwrite] at hfuel ⊢
    simp only [List.length_append, List.length_cons] at hfuel
    -- the comma is the character that pays for the fuel of the next element
    obtain ⟨fuel, rfl⟩ : ∃ m, fuel = m + 1 := Nat.exists_eq_succ_of_ne_zero (by omega)
    rw [List.append_assoc, List.cons_append, readElems_comma hv (by omega), List.append_assoc,
      skipBlanks_lineBreak]
    obtain ⟨c, cs, hcons, hc⟩ := exists_elems_cons hw level vs
    rw [hcons, List.cons_append, skipBlanks_cons hc, ← List.cons_append, ← hcons,
      ih hrest (v :: seen) (by omega) hw]
    simp

/-- A list is read back if its elements are. -/
theorem readsBack_arr {vs : List Json} (h : ∀ v ∈ vs, v.ReadsBack) : (Json.arr vs).ReadsBack := by
  cases vs with
  | nil =>
    exact readsBack_of_text '[' [']'] (by simp [FirstChar])
      (fun level => by simp [writeAt]) fun fuel r _ => by simp [readValue, skipBlanks]
  | cons v vs =>
    have hwrite : ∀ level, (writeAt level (.arr (v :: vs))).toList =
        '[' :: ((lineBreak (level + 1)).toList ++ (parts (level + 1)
          (writeElems (level + 1) (v :: vs)) ++ ((lineBreak level).toList ++ [']']))) :=
      fun level => by simp [writeAt, parts]
    refine ⟨fun level => ⟨_, _, hwrite level, by simp [FirstChar]⟩,
      fun level fuel r _ hfuel => ?_⟩
    rw [hwrite] at hfuel ⊢
    simp only [List.length_append, List.length_cons] at hfuel
    obtain ⟨fuel, rfl⟩ : ∃ m, fuel = m + 2 := Nat.exists_eq_add_of_le' (by omega)
    have hread := readElems_parts (level + 1) level (r := r) h [] (show _ ≤ fuel by omega)
    obtain ⟨c, cs, hcons, hc⟩ := exists_elems_cons (h v List.mem_cons_self) (level + 1) vs
    have hclose : c ≠ ']' := by rintro rfl; simp [FirstChar] at hc
    rw [hcons] at hread ⊢
    rw [List.cons_append, readValue]
    simp only [List.append_assoc, skipBlanks_lineBreak, List.cons_append,
      skipBlanks_cons hc] at hread ⊢
    simpa [hclose] using hread

/-! ## Objects -/

section Members

variable {v : Json} {level fuel : Nat}

/-- The text of a member: its key, and its value after a colon. -/
theorem toList_member (level : Nat) (k : String) (v : Json) :
    (writeText k ++ ": " ++ writeAt level v).toList =
      '"' :: (k.toList.flatMap escapedChar ++ '"' :: ':' :: ' ' :: (writeAt level v).toList) := by
  simp [toList_writeText]

/-- One member is read, and then what stands behind it decides. -/
theorem readMembers_member (hv : v.ReadsBack) (k : String)
    (hfuel : (writeText k ++ ": " ++ writeAt level v).toList.length ≤ fuel)
    (seen : Entries Json) {r : List Char} (hr : Stops r) :
    readMembers (fuel + 1) seen ((writeText k ++ ": " ++ writeAt level v).toList ++ r) =
      match skipBlanks r with
      | '\x7d' :: r => .ok (.obj (seen.set k v), r)
      | ',' :: r => readMembers fuel (seen.set k v) (skipBlanks r)
      | r => .error (faultAt .expectingComma r) := by
  have hblank : ∀ t, skipBlanks (' ' :: t) = skipBlanks t := fun _ => rfl
  rw [toList_member] at hfuel ⊢
  simp only [List.length_append, List.length_cons] at hfuel
  have hread := hv.read level fuel r hr (by omega)
  rw [List.cons_append, List.append_assoc, readMembers, List.cons_append, readText_escaped, ok_bind]
  dsimp only
  rw [List.cons_append, skipBlanks_mark (by decide)]
  simp only [List.cons_append, hblank, skipBlanks_writeAt hv, hread, ok_bind, String.ofList_toList]
  rfl

/-- Behind the last member the brace is found and the object is complete. -/
theorem readMembers_last (hv : v.ReadsBack) (k : String)
    (hfuel : (writeText k ++ ": " ++ writeAt level v).toList.length ≤ fuel)
    (seen : Entries Json) (below : Nat) (r : List Char) :
    readMembers (fuel + 1) seen ((writeText k ++ ": " ++ writeAt level v).toList ++
      ((lineBreak below).toList ++ '\x7d' :: r)) = .ok (.obj (seen.set k v), r) := by
  rw [readMembers_member hv k hfuel seen (stops_lineBreak below _), skipBlanks_lineBreak,
    skipBlanks_mark (by decide)]
  rfl

/-- Behind a member and a comma the next one is read. -/
theorem readMembers_comma (hv : v.ReadsBack) (k : String)
    (hfuel : (writeText k ++ ": " ++ writeAt level v).toList.length ≤ fuel)
    (seen : Entries Json) (r : List Char) :
    readMembers (fuel + 1) seen ((writeText k ++ ": " ++ writeAt level v).toList ++ ',' :: r) =
      readMembers fuel (seen.set k v) (skipBlanks r) := by
  have hstops : Stops (',' :: r) := .inl rfl
  rw [readMembers_member hv k hfuel seen hstops, skipBlanks_mark (by decide)]
  rfl

/-- The parts of an object begin with the quote of a key. -/
theorem exists_members_cons (level : Nat) (m : String × Json) (ms : List (String × Json)) :
    ∃ cs, parts level (writeMembers level (m :: ms)) = '"' :: cs := by
  obtain ⟨k, v⟩ := m
  obtain ⟨more, hmore⟩ := exists_parts_cons level (writeText k ++ ": " ++ writeAt level v)
    (writeMembers level ms)
  exact ⟨_, by rw [writeMembers, hmore, toList_member, List.cons_append]⟩

end Members

/-- A key that comes once is not among those seen before. -/
theorem absent_of_nodup {seen ms : Entries Json} {k : String} {v : Json}
    (h : (seen.keys ++ Entries.keys ((k, v) :: ms)).Nodup) : k ∉ seen.keys := fun hmem =>
  (List.nodup_append.mp h).2.2 k hmem k List.mem_cons_self rfl

/-- **The members of an object are read back**, behind those that were read before. -/
theorem readMembers_parts (level below : Nat) {fuel : Nat} {r : List Char} {m : String × Json}
    {ms : List (String × Json)} (h : ∀ n ∈ m :: ms, n.2.ReadsBack) (seen : Entries Json)
    (hkeys : (seen.keys ++ Entries.keys (m :: ms)).Nodup)
    (hfuel : (parts level (writeMembers level (m :: ms))).length ≤ fuel) :
    readMembers (fuel + 1) seen (parts level (writeMembers level (m :: ms)) ++
        ((lineBreak below).toList ++ '\x7d' :: r)) = .ok (.obj (seen ++ m :: ms), r) := by
  induction ms generalizing m seen fuel with
  | nil =>
    obtain ⟨k, v⟩ := m
    have hwrite : parts level (writeMembers level [(k, v)]) =
        (writeText k ++ ": " ++ writeAt level v).toList := by
      rw [writeMembers, writeMembers, parts_single]
    rw [hwrite] at hfuel ⊢
    rw [readMembers_last (h (k, v) List.mem_cons_self) k hfuel,
      Entries.set_of_absent (absent_of_nodup hkeys)]
  | cons n ms ih =>
    obtain ⟨k, v⟩ := m
    have hv : v.ReadsBack := h (k, v) List.mem_cons_self
    have hrest : ∀ u ∈ n :: ms, u.2.ReadsBack := fun u hu => h u (List.mem_cons_of_mem _ hu)
    -- what was read stands in front, so the keys to come stay apart from it
    have hkeys' : ((seen ++ [(k, v)] : Entries Json).keys ++ Entries.keys (n :: ms)).Nodup := by
      rw [Entries.keys_append, List.append_assoc]
      exact hkeys
    have hwrite : parts level (writeMembers level ((k, v) :: n :: ms)) =
        (writeText k ++ ": " ++ writeAt level v).toList ++
          ',' :: ((lineBreak level).toList ++ parts level (writeMembers level (n :: ms))) := by
      rw [writeMembers, writeMembers, parts_cons]
    rw [hwrite] at hfuel ⊢
    rw [List.length_append, List.length_cons, List.length_append] at hfuel
    obtain ⟨fuel, rfl⟩ : ∃ m, fuel = m + 1 := Nat.exists_eq_succ_of_ne_zero (by omega)
    rw [List.append_assoc, List.cons_append,
      readMembers_comma hv k (by omega), List.append_assoc, skipBlanks_lineBreak,
      Entries.set_of_absent (absent_of_nodup hkeys)]
    obtain ⟨cs, hcons⟩ := exists_members_cons level n ms
    have hquote : FirstChar '"' := by simp [FirstChar]
    rw [hcons, List.cons_append, skipBlanks_cons hquote, ← List.cons_append, ← hcons,
      ih hrest _ hkeys' (by omega), List.append_assoc, List.singleton_append]

/-- An object is read back if its members are and no key comes twice. -/
theorem readsBack_obj {ms : List (String × Json)} (hkeys : (Entries.keys ms).Nodup)
    (h : ∀ m ∈ ms, m.2.ReadsBack) : (Json.obj ms).ReadsBack := by
  cases ms with
  | nil =>
    exact readsBack_of_text '\x7b' ['\x7d'] (by simp [FirstChar])
      (fun level => by simp [writeAt]) fun fuel r _ => by simp [readValue, skipBlanks]
  | cons m ms =>
    have hwrite : ∀ level, (writeAt level (.obj (m :: ms))).toList =
        '\x7b' :: ((lineBreak (level + 1)).toList ++ (parts (level + 1)
          (writeMembers (level + 1) (m :: ms)) ++ ((lineBreak level).toList ++ ['\x7d']))) :=
      fun level => by simp [writeAt, parts]
    refine ⟨fun level => ⟨_, _, hwrite level, by simp [FirstChar]⟩,
      fun level fuel r _ hfuel => ?_⟩
    rw [hwrite] at hfuel ⊢
    simp only [List.length_append, List.length_cons] at hfuel
    obtain ⟨fuel, rfl⟩ : ∃ m, fuel = m + 2 := Nat.exists_eq_add_of_le' (by omega)
    have hread := readMembers_parts (level + 1) level (r := r) h [] hkeys
      (show _ ≤ fuel by omega)
    obtain ⟨cs, hcons⟩ := exists_members_cons (level + 1) m ms
    have hquote : FirstChar '"' := by simp [FirstChar]
    rw [hcons] at hread ⊢
    rw [List.cons_append, readValue]
    simp only [List.append_assoc, skipBlanks_lineBreak, List.cons_append,
      skipBlanks_cons hquote] at hread ⊢
    exact hread

/-! ## Whole texts -/

/-- **Every plain value is read back**, by induction on what is inside of it. -/
theorem readsBack {v : Json} (h : v.IsPlain) : v.ReadsBack := by
  induction v using induction with
  | atom v hatom => exact readsBack_atom hatom (Everywhere.self h.noDouble)
  | list vs ih => exact readsBack_arr fun v hv => ih v hv (isPlain_arr.mp h v hv)
  | object ms ih =>
    obtain ⟨hkeys, hvalues⟩ := isPlain_obj.mp h
    exact readsBack_obj hkeys fun m hm => ih m hm (hvalues m hm)

/-- **What is written is read back**, if it has no doubles and no key comes twice. -/
theorem read_write {v : Json} (h : v.IsPlain) : read v.write = .ok v := by
  have hv := readsBack h
  obtain ⟨c, cs, hcons, hc⟩ := hv.first 0
  have hvalue := hv.read 0 (2 * v.write.toList.length + 2) [] trivial (by rw [write]; omega)
  rw [List.append_nil, ← write] at hvalue
  rw [← write] at hcons
  -- the text begins as a value does: no mark and no blanks are in front of it
  have hmark : v.write.toList.head? ≠ some '\uFEFF' := by
    rw [hcons]
    rintro ⟨⟩
    simp [FirstChar] at hc
  have hskip : skipBlanks v.write.toList = v.write.toList := by rw [hcons, skipBlanks_cons hc]
  have hchars : readChars v.write.toList = .ok v := by
    rw [readChars, if_neg hmark, hskip, hvalue, ok_bind]
    rfl
  rw [read, hchars]
  rfl

/-! ## Characters that are written

  Controls in texts are escaped.  So a value is written in line feeds, in the visible characters of
  ASCII, and in what else stands in its texts and keys. -/

/-- A kind of characters that all of JSON's own are of. -/
structure IsAlphabet (P : Char → Prop) : Prop where
  lineFeed : P '\n'
  visible : ∀ c : Char, 0x20 ≤ c.toNat → c.toNat < 0x7f → P c

/-- Is every character of a text of the kind, unless it is escaped? -/
def TextIn (P : Char → Prop) (s : String) : Prop := ∀ c ∈ s.toList, 0x20 ≤ c.toNat → P c

instance (P : Char → Prop) [DecidablePred P] (s : String) : Decidable (TextIn P s) :=
  List.decidableBAll _ _

/-- Are the value itself, if it is a text, and its keys, if it is an object, in such characters? -/
def HasTextsIn (P : Char → Prop) : Json → Prop
  | .str s => TextIn P s
  | .obj ms => ∀ k ∈ Entries.keys ms, TextIn P k
  | _ => True

/-- The texts that JSON itself puts into what is written, but for line breaks. -/
def ownTexts : List String :=
  ["null", "true", "false", "[]", "[", "]", "\x7b\x7d", "\x7b", "\x7d", ",", ": "]

/-- A character of a text is written in visible characters of ASCII or as itself. -/
theorem of_mem_escapedChar {c d : Char} (h : d ∈ escapedChar c) :
    0x20 ≤ d.toNat ∧ (d.toNat < 0x7f ∨ d = c) := by
  have hshort : ∀ e, simpleEscape? e = some c → 0x20 ≤ e.toNat ∧ e.toNat < 0x7f := by
    intro e hescape
    unfold simpleEscape? at hescape
    split at hescape <;> cases hescape <;> decide
  have hdigits : ∀ n < 0x20, (Text.hexDigits 4 n).all
      (fun e => 0x20 ≤ e.toNat && e.toNat < 0x7f) = true := by decide
  simp only [List.all_eq_true, Bool.and_eq_true, decide_eq_true_eq] at hdigits
  have hvisible : 0x20 ≤ d.toNat ∧ d.toNat < 0x7f → 0x20 ≤ d.toNat ∧ (d.toNat < 0x7f ∨ d = c) :=
    fun hd => ⟨hd.1, .inl hd.2⟩
  rcases escapedChar_cases c with
    ⟨e, hchar, hescape⟩ | ⟨hchar, hcontrol⟩ | ⟨hchar, hcontrol, -, -⟩ <;> rw [hchar] at h
  · rcases List.mem_pair.mp h with rfl | rfl
    · exact hvisible (by decide)
    · exact hvisible (hshort _ hescape)
  · rw [List.mem_cons, List.mem_cons] at h
    rcases h with rfl | rfl | h
    · exact hvisible (by decide)
    · exact hvisible (by decide)
    · exact hvisible (hdigits _ hcontrol d h)
  · rw [List.mem_singleton.mp h]
    exact ⟨hcontrol, .inr rfl⟩

namespace IsAlphabet

variable {P : Char → Prop}

/-- JSON's own texts are in the alphabet. -/
theorem ownText (hP : IsAlphabet P) {s : String} (hs : s ∈ ownTexts) : ∀ d ∈ s.toList, P d := by
  have hvisible : (ownTexts.all fun s => s.toList.all
      fun d => 0x20 ≤ d.toNat && d.toNat < 0x7f) = true := by decide
  simp only [List.all_eq_true, Bool.and_eq_true, decide_eq_true_eq] at hvisible
  exact fun d hd => hP.visible d (hvisible s hs d hd).1 (hvisible s hs d hd).2

/-- A text literal is in the alphabet if what is not escaped in it is. -/
theorem writeText (hP : IsAlphabet P) {s : String} (hs : TextIn P s) :
    ∀ d ∈ (writeText s).toList, P d := by
  have hquote : P '"' := hP.visible _ (by decide) (by decide)
  have hinner : ∀ d ∈ s.toList.flatMap escapedChar, P d := fun d hd => by
    obtain ⟨c, hc, hd⟩ := List.mem_flatMap.mp hd
    obtain ⟨hlow, hascii | rfl⟩ := of_mem_escapedChar hd
    · exact hP.visible d hlow hascii
    · exact hs d hc hlow
  rw [toList_writeText]
  exact List.forall_mem_cons.mpr
    ⟨hquote, List.forall_mem_append.mpr ⟨hinner, List.forall_mem_singleton.mpr hquote⟩⟩

/-- A whole number is in the alphabet. -/
theorem toString (hP : IsAlphabet P) (n : Int) : ∀ d ∈ (toString n).toList, P d := by
  have hdigits : ∀ m : Nat, ∀ d ∈ Nat.toDigits 10 m, P d := fun m d hd => by
    have hdigit := Char.isDigit_iff_toNat.mp (isDigit_of_mem_toDigits hd)
    have hzero : '0'.toNat = 0x30 := rfl
    have hnine : '9'.toNat = 0x39 := rfl
    exact hP.visible d (by omega) (by omega)
  rw [toList_toString_int]
  split
  · exact hdigits _
  · exact List.forall_mem_cons.mpr ⟨hP.visible _ (by decide) (by decide), hdigits _⟩

/-- A line break is in the alphabet. -/
theorem lineBreak (hP : IsAlphabet P) (level : Nat) : ∀ d ∈ (lineBreak level).toList, P d := by
  have hblank : P ' ' := hP.visible _ (by decide) (by decide)
  intro d hd
  simp only [Json.lineBreak, String.toList_ofList, List.mem_cons, List.mem_replicate] at hd
  rcases hd with rfl | ⟨-, rfl⟩
  · exact hP.lineFeed
  · exact hblank

/-- Parts with commas between them are in the alphabet if each of them is. -/
theorem parts (hP : IsAlphabet P) {level : Nat} {texts : List String}
    (h : ∀ t ∈ texts, ∀ d ∈ t.toList, P d) : ∀ d ∈ parts level texts, P d := by
  intro d hd
  rcases String.mem_joinedBy hd with hsep | ⟨t, ht, hd⟩
  · rw [String.toList_append, List.mem_append] at hsep
    rcases hsep with hcomma | hbreak
    · exact hP.ownText (by decide) d hcomma
    · exact hP.lineBreak level d hbreak
  · exact h t ht d hd

/-- What is written between the brackets of a list or an object. -/
theorem enclosed (hP : IsAlphabet P) {level : Nat} {texts : List String}
    (h : ∀ t ∈ texts, ∀ d ∈ t.toList, P d) {first last : String}
    (hfirst : ∀ d ∈ first.toList, P d) (hlast : ∀ d ∈ last.toList, P d) :
    ∀ d ∈ (first ++ Json.lineBreak (level + 1)
      ++ String.joinedBy ("," ++ Json.lineBreak (level + 1)) texts
      ++ Json.lineBreak level ++ last).toList, P d := by
  have hparts : ∀ d ∈ (String.joinedBy ("," ++ Json.lineBreak (level + 1)) texts).toList, P d :=
    hP.parts h
  have hbreak := fun l => hP.lineBreak l
  simp only [String.toList_append, List.mem_append]
  rintro d ((((hd | hd) | hd) | hd) | hd)
  · exact hfirst d hd
  · exact hbreak _ d hd
  · exact hparts d hd
  · exact hbreak _ d hd
  · exact hlast d hd

/-- **A value is written in characters of a kind** that JSON's own are of and those of its texts. -/
theorem writeAt (hP : IsAlphabet P) {v : Json} (hdouble : v.HasNoDouble)
    (htexts : v.Everywhere (HasTextsIn P)) (level : Nat) :
    ∀ d ∈ (writeAt level v).toList, P d := by
  induction v using induction generalizing level with
  | atom v hatom =>
    cases v with
    | null => rw [Json.writeAt]; exact hP.ownText (by decide)
    | bool b => cases b <;> rw [Json.writeAt] <;> exact hP.ownText (by decide)
    | int n => rw [Json.writeAt]; exact hP.toString n
    | double x => exact absurd hdouble not_false
    | str s => rw [Json.writeAt]; exact hP.writeText htexts
    | arr vs => cases hatom
    | obj ms => cases hatom
  | list vs ih =>
    rw [hasNoDouble_arr] at hdouble
    rw [everywhere_arr] at htexts
    cases vs with
    | nil => rw [Json.writeAt]; exact hP.ownText (by decide)
    | cons v vs =>
      rw [Json.writeAt]
      refine hP.enclosed (fun t ht => ?_) (hP.ownText (by decide)) (hP.ownText (by decide))
      rw [writeElems_eq_map, List.mem_map] at ht
      obtain ⟨w, hw, rfl⟩ := ht
      exact ih w hw (hdouble w hw) (htexts.2 w hw) (level + 1)
  | object ms ih =>
    rw [hasNoDouble_obj] at hdouble
    rw [everywhere_obj] at htexts
    cases ms with
    | nil => rw [Json.writeAt]; exact hP.ownText (by decide)
    | cons m ms =>
      rw [Json.writeAt]
      refine hP.enclosed (fun t ht => ?_) (hP.ownText (by decide)) (hP.ownText (by decide))
      rw [writeMembers_eq_map, List.mem_map] at ht
      obtain ⟨n, hn, rfl⟩ := ht
      have hkey := hP.writeText (htexts.1 n.1 (List.mem_map_of_mem hn))
      have hvalue := ih n hn (hdouble n hn) (htexts.2 n hn) (level + 1)
      simp only [String.toList_append, List.mem_append]
      rintro d ((hd | hd) | hd)
      · exact hkey d hd
      · exact hP.ownText (by decide) d hd
      · exact hvalue d hd

end IsAlphabet

/-- **No carriage return is written**, because those in texts are escaped. -/
theorem not_mem_write {v : Json} (h : v.HasNoDouble) : '\r' ∉ v.write.toList := by
  have hP : IsAlphabet (· ≠ '\r') :=
    ⟨by decide, fun c hlow _ hc => absurd (hc ▸ hlow) (by decide)⟩
  have htext : ∀ s, TextIn (· ≠ '\r') s :=
    fun s c _ hlow hc => absurd (hc ▸ hlow) (by decide)
  have htexts : v.Everywhere (HasTextsIn (· ≠ '\r')) := everywhere_of_forall (fun v => by
    cases v with
    | str s => exact htext s
    | obj ms => exact fun k _ => htext k
    | _ => trivial) v
  exact fun hmem => hP.writeAt h htexts 0 _ hmem rfl

/-- A value whose texts can be encoded is written in a text that can be encoded. -/
theorem isEncodable_write {v : Json} (h : v.HasNoDouble)
    (htexts : v.Everywhere (HasTextsIn fun c => Text.isLoneHalf c = false)) :
    v.write.isEncodable = true := by
  have hP : IsAlphabet fun c => Text.isLoneHalf c = false :=
    ⟨by decide, fun c _ hc => by simp [Text.isLoneHalf]; omega⟩
  rw [String.isEncodable, List.all_eq_true]
  exact fun c hc => by simp [hP.writeAt h htexts 0 c hc]

end ThriftScala.Json
