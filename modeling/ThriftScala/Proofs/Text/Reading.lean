/-
  Readers, and what they take.

  A reader takes something off the front of a text and leaves the rest.  `Consumes x s a` says that
  `x` takes precisely the text `s` and gives `a`, whatever stands behind it; `Refuses x s`, that it
  gives nothing where `s` stands in front.  Neither speaks of what comes before or behind, so what
  is known of readers is known of their chains: one reader after the other takes one text after the
  other (`Consumes.bind`), and where the first of two refuses, the second is asked (`Consumes.or`).

  A repetition goes on until a closing text stands in front (`itemsUntil`).  Of its items nothing is
  asked but that none begins with that text (`consumes_itemsUntil`).

  A fixed text is refused if it differs from what stands in front in a place that can be computed,
  so these facts are closed by evaluation.
-/
import Mathlib.Data.List.Basic
import ThriftScala.Proofs.Json.Tokens
import ThriftScala.Text.Ident

namespace ThriftScala.Text

/-- Takes something off the front of a text. -/
abbrev Reader := StateT (List Char) Option

variable {α β : Type}

/-- The reader takes precisely the text, whatever stands behind it. -/
def Consumes (x : Reader α) (s : String) (a : α) : Prop :=
  ∀ rest, x (s.toList ++ rest) = some (a, rest)

/-- The reader gives nothing where the text stands in front. -/
def Refuses (x : Reader α) (s : String) : Prop := ∀ rest, x (s.toList ++ rest) = none

/-! ## Chains -/

theorem Consumes.pure (a : α) : Consumes (Pure.pure a) "" a := fun _ => rfl

/-- One text after the other. -/
theorem Consumes.bind {x : Reader α} {f : α → Reader β} {s t : String} {a : α} {b : β}
    (hx : Consumes x s a) (hf : Consumes (f a) t b) : Consumes (x >>= f) (s ++ t) b := by
  intro rest
  show (x ((s ++ t).toList ++ rest) >>= fun p => f p.1 p.2) = some (b, rest)
  rw [String.toList_append, List.append_assoc, hx]
  exact hf rest

/-- The end of a chain, which takes nothing more. -/
theorem Consumes.last {x : Reader α} {s : String} {a : α} (h : Consumes x s a) (f : α → β) :
    Consumes (x >>= fun a => Pure.pure (f a)) s (f a) := by
  rw [← String.append_empty (s := s)]
  exact h.bind (.pure (f a))

/-- What is read can be mapped. -/
theorem Consumes.map {x : Reader α} {s : String} {a : α} (h : Consumes x s a) (f : α → β) :
    Consumes (f <$> x) s (f a) := h.last f

/-- A text that is refused is refused with anything behind it. -/
theorem Refuses.append {x : Reader α} {s : String} (h : Refuses x s) (t : String) :
    Refuses x (s ++ t) := by
  intro rest
  rw [String.toList_append, List.append_assoc]
  exact h _

/-- A chain is refused where its first reader refuses. -/
theorem Refuses.bind {x : Reader α} {s : String} (h : Refuses x s) (f : α → Reader β) :
    Refuses (x >>= f) s := by
  intro rest
  show (x (s.toList ++ rest) >>= fun p => f p.1 p.2) = none
  rw [h]
  rfl

/-- A reader that refuses a text still does when its values are mapped. -/
theorem Refuses.map {x : Reader α} {s : String} (h : Refuses x s) (f : α → β) :
    Refuses (f <$> x) s := h.bind fun a => Pure.pure (f a)

/-- Nothing that is read is refused. -/
theorem Consumes.not_refuses {x : Reader α} {s : String} {a : α} (h : Consumes x s a) :
    ¬ Refuses x "" := by
  intro hx
  have hnone := hx (s.toList ++ [])
  rw [String.toList_empty, List.nil_append, h] at hnone
  cases hnone

/-! ## Choices -/

/-- The first of two readers is tried first. -/
theorem Consumes.first {x : Reader α} {s : String} {a : α} (h : Consumes x s a) (y : Reader α) :
    Consumes (x <|> y) s a := by
  intro rest
  show (x (s.toList ++ rest)).orElse _ = some (a, rest)
  rw [h]
  rfl

/-- Where the first of two readers refuses, the second is asked. -/
theorem Consumes.or {x y : Reader α} {s : String} {a : α} (hx : Refuses x s)
    (hy : Consumes y s a) : Consumes (x <|> y) s a := by
  intro rest
  show (x (s.toList ++ rest)).orElse (fun _ => y (s.toList ++ rest)) = some (a, rest)
  rw [hx]
  exact hy rest

/-! ## Fixed texts -/

/-- Takes the given text. -/
def expect (s : String) : Reader Unit := fun cs => (cs.dropPrefix? s.toList).map fun r => ((), r)

/-- A text that is expected is read. -/
theorem consumes_expect (s : String) : Consumes (expect s) s () := by
  intro rest
  rw [expect, List.dropPrefix?_append_of_beq rest (beq_self_eq_true s.toList)]
  rfl

/-- Where a text is refused, so is every text that begins with it. -/
theorem refuses_expect_append {s t : String} (h : Refuses (expect s) t) (u : String) :
    Refuses (expect (s ++ u)) t := by
  intro rest
  have hnone := Option.map_eq_none_iff.mp (h rest)
  refine Option.map_eq_none_iff.mpr (Option.eq_none_iff_forall_ne_some.mpr fun r hr => ?_)
  obtain ⟨cs, hcs, heq⟩ := List.dropPrefix?_eq_some_iff.mp hr
  rw [beq_iff_eq, String.toList_append] at heq
  rw [hcs, heq, List.append_assoc, List.dropPrefix?_append_of_beq _ (beq_self_eq_true s.toList)]
    at hnone
  cases hnone

/-! ## Runs -/

/-- Takes all characters of a kind, and the given text behind them. -/
def upTo (p : Char → Bool) (stop : String) : Reader String := do
  let cs ← get
  set (cs.dropWhile p)
  expect stop
  pure (.ofList (cs.takeWhile p))

/-- The text ends a run of characters of the kind. -/
def Ends (p : Char → Bool) (stop : String) : Prop := ∃ c r, stop.toList = c :: r ∧ p c = false

/-- Behind a run stands what ends it. -/
theorem dropWhile_run {p : Char → Bool} {s stop : String} (hs : ∀ c ∈ s.toList, p c = true)
    (hstop : Ends p stop) (rest : List Char) :
    ((s ++ stop).toList ++ rest).dropWhile p = stop.toList ++ rest := by
  obtain ⟨c, r, hcons, hc⟩ := hstop
  rw [String.toList_append, List.append_assoc, List.dropWhile_append_of_pos hs, hcons,
    List.cons_append, List.dropWhile_cons_of_neg (by simp [hc])]

/-- A text is read up to where it stops if it holds none of the stopping characters. -/
theorem consumes_upTo {p : Char → Bool} {s stop : String} (hs : ∀ c ∈ s.toList, p c = true)
    (hstop : Ends p stop) : Consumes (upTo p stop) (s ++ stop) s := by
  intro rest
  have hdrop := dropWhile_run hs hstop rest
  have htake : ((s ++ stop).toList ++ rest).takeWhile p = s.toList := by
    obtain ⟨c, r, hcons, hc⟩ := hstop
    rw [String.toList_append, List.append_assoc, List.takeWhile_append_of_pos hs, hcons,
      List.cons_append, List.takeWhile_cons_of_neg (by simp [hc]), List.append_nil]
  show (expect stop (((s ++ stop).toList ++ rest).dropWhile p)).bind
    (fun q => some (String.ofList (((s ++ stop).toList ++ rest).takeWhile p), q.2)) = some (s, rest)
  rw [htake, hdrop, consumes_expect stop rest, String.ofList_toList]
  rfl

/-- A run is refused where what stands behind it is. -/
theorem refuses_upTo {p : Char → Bool} {s stop other : String} (hs : ∀ c ∈ s.toList, p c = true)
    (hother : Ends p other) (h : Refuses (expect stop) other) :
    Refuses (upTo p stop) (s ++ other) := by
  intro rest
  show (expect stop (((s ++ other).toList ++ rest).dropWhile p)).bind _ = none
  rw [dropWhile_run hs hother, h rest]
  rfl

/-- Takes an identifier, and the given text behind it. -/
def word (stop : String) : Reader String := do
  let s ← upTo isWordChar stop
  if isWord s.toList then pure s else failure

/-- A word is read up to where it stops. -/
theorem consumes_word {s stop : String} (hs : isWord s.toList = true)
    (hstop : Ends isWordChar stop) : Consumes (word stop) (s ++ stop) s := by
  rw [← String.append_empty (s := s ++ stop)]
  refine (consumes_upTo (isWordChar_of_isWord hs) hstop).bind ?_
  rw [if_pos hs]
  exact .pure s

/-- May the character stand in a number? -/
def isNumberChar (c : Char) : Bool := c.isDigit || c == '-'

/-- Takes a whole number, and the given text behind it. -/
def number (stop : String) : Reader Int := do
  let s ← upTo isNumberChar stop
  match Json.readNumber? s.toList with
  | some (.int n, []) => pure n
  | _ => failure

/-- A number is written in digits, with a minus in front. -/
theorem isNumberChar_of_mem_toString {n : Int} {c : Char} (h : c ∈ (toString n).toList) :
    isNumberChar c = true := by
  rw [Json.toList_toString_int] at h
  split at h
  · rw [isNumberChar, Json.isDigit_of_mem_toDigits h, Bool.true_or]
  · rcases List.mem_cons.mp h with rfl | h
    · rfl
    · rw [isNumberChar, Json.isDigit_of_mem_toDigits h, Bool.true_or]

/-- A number is read up to where it stops. -/
theorem consumes_number (n : Int) {stop : String} (hstop : Ends isNumberChar stop) :
    Consumes (number stop) (toString n ++ stop) n := by
  rw [← String.append_empty (s := toString n ++ stop)]
  refine (consumes_upTo (fun c => isNumberChar_of_mem_toString) hstop).bind ?_
  have hback := Json.readNumber_toString n (r := []) trivial
  rw [List.append_nil] at hback
  rw [hback]
  exact .pure n

/-- A number is not taken for a text that begins otherwise. -/
theorem refuses_toString (n : Int) {s : String} (hs : Ends isNumberChar s) :
    Refuses (expect s) (toString n) := by
  intro rest
  obtain ⟨c, r, hcons, hc⟩ := hs
  obtain ⟨d, ds, hnumber, -⟩ := Json.exists_toString_cons n
  have hd : isNumberChar d = true :=
    isNumberChar_of_mem_toString (n := n) (hnumber ▸ List.mem_cons_self)
  have hne : d ≠ c := by
    rintro rfl
    rw [hd] at hc
    cases hc
  rw [expect, hnumber, hcons, List.cons_append, List.dropPrefix?, if_neg (by simpa using hne)]
  rfl

/-! ## Repetitions -/

/-- Takes items until the given text stands in front, and that text; at most so many. -/
def itemsWithin (stop : String) (item : Reader α) : Nat → Reader (List α)
  | 0 => failure
  | fuel + 1 => (expect stop >>= fun _ => pure []) <|> do
    let a ← item
    let l ← itemsWithin stop item fuel
    pure (a :: l)

/-- Takes items until the given text stands in front, and that text.  There cannot be more items
    than characters, as each of them takes one. -/
def itemsUntil (stop : String) (item : Reader α) : Reader (List α) := fun cs =>
  itemsWithin stop item (cs.length + 1) cs

/-- Items are read until the stop, with fuel for each of them. -/
theorem consumes_itemsWithin {stop : String} {item : Reader α} {spell : α → String} {l : List α}
    (hitem : ∀ a ∈ l, Consumes item (spell a) a)
    (hstop : ∀ a ∈ l, Refuses (expect stop) (spell a))
    {fuel : Nat} (hfuel : l.length < fuel) :
    Consumes (itemsWithin stop item fuel) (String.join (l.map spell) ++ stop) l := by
  induction l generalizing fuel with
  | nil =>
    obtain ⟨fuel, rfl⟩ := Nat.exists_eq_add_one_of_ne_zero (Nat.ne_of_gt hfuel)
    rw [List.map_nil, String.join_nil, String.empty_append]
    exact ((consumes_expect stop).last fun _ => []).first _
  | cons a l ih =>
    obtain ⟨fuel, rfl⟩ := Nat.exists_eq_add_one_of_ne_zero (Nat.ne_of_gt (Nat.zero_lt_of_lt hfuel))
    rw [List.forall_mem_cons] at hitem hstop
    rw [List.map_cons, String.join_cons, String.append_assoc]
    have hrest := ih hitem.2 hstop.2 (Nat.lt_of_succ_lt_succ hfuel)
    exact .or ((hstop.1.append _).bind _) (hitem.1.bind (hrest.last _))

/-- A text that is refused is not empty, so there are no more items than characters. -/
theorem length_le_join {stop : String} {spell : α → String} {l : List α}
    (hstop : ∀ a ∈ l, Refuses (expect stop) (spell a)) :
    l.length ≤ (String.join (l.map spell)).toList.length := by
  induction l with
  | nil => exact Nat.zero_le _
  | cons a l ih =>
    rw [List.forall_mem_cons] at hstop
    have hne : (spell a).toList ≠ [] := by
      intro hnil
      have hempty : spell a = "" := String.toList_eq_nil_iff.mp hnil
      exact (consumes_expect stop).not_refuses (hempty ▸ hstop.1)
    have hpos := List.length_pos_iff.mpr hne
    have hrest := ih hstop.2
    rw [List.map_cons, String.join_cons, String.toList_append, List.length_append,
      List.length_cons]
    omega

/-- **Items are read one by one**, as long as none of them begins with the text that closes them. -/
theorem consumes_itemsUntil {stop : String} {item : Reader α} {spell : α → String} {l : List α}
    (hitem : ∀ a ∈ l, Consumes item (spell a) a)
    (hstop : ∀ a ∈ l, Refuses (expect stop) (spell a)) :
    Consumes (itemsUntil stop item) (String.join (l.map spell) ++ stop) l := by
  intro rest
  refine consumes_itemsWithin hitem hstop ?_ rest
  have hlength := length_le_join hstop
  rw [String.toList_append, List.length_append, List.length_append]
  omega

end ThriftScala.Text
