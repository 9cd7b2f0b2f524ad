/-
  Cutting a text at a separator and joining it again.  A cut always leaves at least one piece; the
  pieces hold every character but the separator (`exists_mem_splitAt`).  Pieces that do not hold the
  separator come out of the joined text again (`splitAt_joinWith`).

  Without a separator, a text in front of another one is told from it by the kind of its characters
  (`append_inj_of_kind`).
-/

namespace ThriftScala.Text

/-- Cuts a text at every occurrence of a character; there is always a last piece. -/
def splitAt (sep : Char) : List Char → List (List Char)
  | [] => [[]]
  | c :: r =>
    if c = sep then [] :: splitAt sep r
    else
      match splitAt sep r with
      | [] => [[c]]
      | l :: ls => (c :: l) :: ls

/-- Puts a text between the neighbours of a list of texts. -/
def joinWith (sep : List Char) : List (List Char) → List Char
  | [] => []
  | [l] => l
  | l :: m :: ls => l ++ sep ++ joinWith sep (m :: ls)

theorem splitAt_ne_nil (sep : Char) (cs : List Char) : splitAt sep cs ≠ [] := by
  cases cs with
  | nil => simp [splitAt]
  | cons c r => simp only [splitAt]; split <;> (try split) <;> simp

/-- The pieces do not hold the separator. -/
theorem not_mem_of_mem_splitAt {sep : Char} {cs l : List Char} (h : l ∈ splitAt sep cs) :
    sep ∉ l := by
  induction cs generalizing l with
  | nil =>
    rw [splitAt, List.mem_singleton] at h
    simp [h]
  | cons c r ih =>
    rw [splitAt] at h
    split at h
    · rcases List.mem_cons.mp h with rfl | h
      · simp
      · exact ih h
    · rename_i hc
      obtain ⟨m, ms, hsplit⟩ := List.exists_cons_of_ne_nil (splitAt_ne_nil sep r)
      simp only [hsplit, List.mem_cons] at h ih
      rcases h with rfl | h
      · simp [Ne.symm hc, ih (.inl rfl)]
      · exact ih (.inr h)

/-- The pieces hold all other characters of the text. -/
theorem exists_mem_splitAt {sep c : Char} (hc : c ≠ sep) {cs : List Char} :
    (∃ l ∈ splitAt sep cs, c ∈ l) ↔ c ∈ cs := by
  induction cs with
  | nil => simp [splitAt]
  | cons d r ih =>
    rw [splitAt]
    split
    · rename_i hd
      simp [ih, hd, hc]
    · obtain ⟨l, ls, hsplit⟩ := List.exists_cons_of_ne_nil (splitAt_ne_nil sep r)
      rw [hsplit] at ih ⊢
      rw [List.mem_cons, ← ih]
      simp [or_assoc]

/-- A text without the separator in front of another one belongs to its first piece. -/
theorem splitAt_append {sep : Char} {l : List Char} (h : sep ∉ l) {cs m : List Char}
    {ms : List (List Char)} (hcs : splitAt sep cs = m :: ms) :
    splitAt sep (l ++ cs) = (l ++ m) :: ms := by
  induction l with
  | nil => exact hcs
  | cons c l ih =>
    rw [List.mem_cons, not_or] at h
    rw [List.cons_append, splitAt, if_neg (Ne.symm h.1), ih h.2]
    rfl

/-- Pieces without the separator that are joined with it are cut again. -/
theorem splitAt_joinWith {sep : Char} {ls : List (List Char)} (hne : ls ≠ [])
    (h : ∀ l ∈ ls, sep ∉ l) : splitAt sep (joinWith [sep] ls) = ls := by
  induction ls with
  | nil => exact absurd rfl hne
  | cons l ls ih =>
    have hl := h l List.mem_cons_self
    cases ls with
    | nil =>
      have hnone : splitAt sep [] = [[]] := rfl
      have hwhole := splitAt_append hl hnone
      rwa [List.append_nil] at hwhole
    | cons m ms =>
      have hrest := ih (List.cons_ne_nil m ms) fun k hk => h k (List.mem_cons_of_mem l hk)
      have hcut : splitAt sep (sep :: joinWith [sep] (m :: ms)) = [] :: m :: ms := by
        rw [splitAt, if_pos rfl, hrest]
      rw [joinWith, List.append_assoc, List.singleton_append, splitAt_append hl hcut,
        List.append_nil]

/-- A text without the separator behind another one belongs to its last piece. -/
theorem exists_splitAt_append (sep : Char) {l : List Char} (h : sep ∉ l) (cs : List Char) :
    ∃ ms m, splitAt sep cs = ms ++ [m] ∧ splitAt sep (cs ++ l) = ms ++ [m ++ l] := by
  induction cs with
  | nil =>
    have hnone : splitAt sep [] = [[]] := rfl
    have hwhole := splitAt_append h hnone
    exact ⟨[], [], hnone, by simpa using hwhole⟩
  | cons c cs ih =>
    obtain ⟨ms, m, hcs, hall⟩ := ih
    by_cases hc : c = sep
    · exact ⟨[] :: ms, m, by simp [splitAt, hc, hcs], by simp [splitAt, hc, hall]⟩
    · cases ms with
      | nil => exact ⟨[], c :: m, by simp [splitAt, hc, hcs], by simp [splitAt, hc, hall]⟩
      | cons k ms =>
        exact ⟨(c :: k) :: ms, m, by simp [splitAt, hc, hcs], by simp [splitAt, hc, hall]⟩

/-- Where texts of one kind of characters end, characters of another kind begin. -/
theorem append_inj_of_kind {p : Char → Bool} {a b u v : List Char} (ha : ∀ c ∈ a, p c)
    (hb : ∀ c ∈ b, p c) (hu : ∀ c, u.head? = some c → p c = false)
    (hv : ∀ c, v.head? = some c → p c = false) (h : a ++ u = b ++ v) : a = b ∧ u = v := by
  rcases List.append_eq_append_iff.mp h with ⟨w, rfl, rfl⟩ | ⟨w, rfl, rfl⟩
  · cases w with
    | nil => simp
    | cons c w =>
      have hc := hb c (by simp)
      rw [hu c rfl] at hc
      cases hc
  · cases w with
    | nil => simp
    | cons c w =>
      have hc := ha c (by simp)
      rw [hv c rfl] at hc
      cases hc

end ThriftScala.Text

/-- Puts a string between the neighbours of a list of strings. -/
def String.joinedBy (sep : String) : List String → String
  | [] => ""
  | [s] => s
  | s :: t :: ss => s ++ sep ++ String.joinedBy sep (t :: ss)

theorem String.toList_joinedBy (sep : String) (ss : List String) :
    (String.joinedBy sep ss).toList =
      ThriftScala.Text.joinWith sep.toList (ss.map String.toList) := by
  induction ss with
  | nil => rfl
  | cons s ss ih =>
    cases ss with
    | nil => rfl
    | cons t ss =>
      rw [String.joinedBy, String.toList_append, String.toList_append, ih]
      rfl

/-- A character of the joined text is one of the separator or of one of the texts. -/
theorem String.mem_joinedBy {sep : String} {texts : List String} {c : Char}
    (h : c ∈ (String.joinedBy sep texts).toList) : c ∈ sep.toList ∨ ∃ t ∈ texts, c ∈ t.toList := by
  induction texts with
  | nil => simp [String.joinedBy] at h
  | cons t texts ih =>
    cases texts with
    | nil => exact .inr ⟨t, List.mem_cons_self, h⟩
    | cons u texts =>
      rw [String.joinedBy, String.toList_append, String.toList_append, List.mem_append,
        List.mem_append] at h
      rcases h with (h | h) | h
      · exact .inr ⟨t, List.mem_cons_self, h⟩
      · exact .inl h
      · exact (ih h).imp_right fun ⟨w, hw, hc⟩ => ⟨w, List.mem_cons_of_mem t hw, hc⟩
