/-
  Laws of steps that may fail.

  A step gives a value or an error, and the first error of a chain of steps is the error of the
  whole.  The laws take a chain apart: at a bind, and at a list whose elements are worked off one
  after the other.
-/
import Mathlib.Data.List.Perm.Basic

namespace ThriftScala.Outcome

variable {ε α β γ : Type}

@[simp] theorem ok_bind (a : α) (f : α → Except ε β) : (Except.ok a >>= f) = f a := rfl

@[simp] theorem error_bind (e : ε) (f : α → Except ε β) :
    ((Except.error e : Except ε α) >>= f) = .error e := rfl

@[simp] theorem pure_eq_ok (a : α) : (pure a : Except ε α) = .ok a := rfl

@[simp] theorem throw_eq_error (e : ε) : (throw e : Except ε α) = .error e := rfl

@[simp] theorem map_ok (f : α → β) (a : α) : (Except.ok a : Except ε α).map f = .ok (f a) := rfl

@[simp] theorem map_error (f : α → β) (e : ε) :
    (Except.error e : Except ε α).map f = .error e := rfl

/-- A chain gives a value if both of its steps do. -/
theorem bind_eq_ok {x : Except ε α} {f : α → Except ε β} {b : β} :
    (x >>= f) = .ok b ↔ ∃ a, x = .ok a ∧ f a = .ok b := by
  cases x with
  | ok a => simp
  | error e => simp

/-- A mapped outcome has a value exactly if the outcome has one. -/
theorem map_eq_ok {x : Except ε α} {f : α → β} {b : β} :
    x.map f = .ok b ↔ ∃ a, x = .ok a ∧ f a = b := by
  cases x with
  | ok a => simp
  | error e => simp

/-- A chain stops where its first step does, or where its second does after a value of the first. -/
theorem bind_eq_error {x : Except ε α} {f : α → Except ε β} {e : ε} :
    (x >>= f) = .error e ↔ x = .error e ∨ ∃ a, x = .ok a ∧ f a = .error e := by
  cases x with
  | ok a => simp
  | error e' => simp

/-- Mapping leaves errors alone. -/
theorem map_eq_error {x : Except ε α} {f : α → β} {e : ε} :
    x.map f = .error e ↔ x = .error e := by
  cases x with
  | ok a => simp
  | error e' => simp

/-- What is done to the errors of a step does not matter where it gives a value. -/
theorem mapError_eq_ok {ε' : Type} {x : Except ε α} {f : ε → ε'} {a : α} :
    x.mapError f = .ok a ↔ x = .ok a := by
  cases x <;> simp [Except.mapError]

/-- What is done to the value of a step may be done at the beginning of the next. -/
theorem bind_of_map (x : Except ε α) (f : α → β) (g : β → Except ε γ) :
    (x.map f >>= g) = x >>= fun a => g (f a) := by
  cases x <;> rfl

/-- What is done to the value of a chain may be done at the end of its last step. -/
theorem map_of_bind (x : Except ε α) (f : α → Except ε β) (g : β → γ) :
    (x >>= f).map g = x >>= fun a => (f a).map g := by
  cases x <;> rfl

/-- A choice between two values that succeed is one value that succeeds. -/
theorem ok_ite {b : Bool} {x y : α} :
    (if b = true then (.ok x : Except ε α) else .ok y) = .ok (if b = true then x else y) := by
  cases b <;> rfl

/-- A step either gives a value or an error. -/
theorem ok_or_error (x : Except ε α) : (∃ a, x = .ok a) ∨ ∃ e, x = .error e := by
  cases x with
  | ok a => exact .inl ⟨a, rfl⟩
  | error e => exact .inr ⟨e, rfl⟩

/-! ## Lists, element by element -/

/-- Only what a function gives for the members of the list matters. -/
theorem mapM_congr {f g : α → Except ε β} {l : List α} (h : ∀ a ∈ l, f a = g a) :
    l.mapM f = l.mapM g := by
  induction l with
  | nil => rfl
  | cons a l ih =>
    rw [List.mapM_cons, List.mapM_cons, h a List.mem_cons_self,
      ih fun b hb => h b (List.mem_cons_of_mem a hb)]

/-- Where every step gives a value that is known, so does the list. -/
theorem mapM_of_forall {f : α → Except ε β} {g : α → β} {l : List α}
    (h : ∀ a ∈ l, f a = .ok (g a)) : l.mapM f = .ok (l.map g) := by
  rw [mapM_congr h]
  exact List.mapM_pure

/-- A function that never fails is mapped as usual. -/
theorem mapM_ok (g : α → β) (l : List α) :
    l.mapM (fun a => (.ok (g a) : Except ε β)) = .ok (l.map g) := mapM_of_forall fun _ _ => rfl

/-- All elements are worked off if each one is. -/
theorem mapM_eq_ok {f : α → Except ε β} {l : List α} {bs : List β} :
    l.mapM f = .ok bs ↔ List.Forall₂ (fun a b => f a = .ok b) l bs := by
  induction l generalizing bs with
  | nil => cases bs <;> simp
  | cons a l ih =>
    rw [List.mapM_cons]
    constructor
    · intro h
      obtain ⟨b, hb, h⟩ := bind_eq_ok.mp h
      obtain ⟨cs, hcs, h⟩ := bind_eq_ok.mp h
      obtain rfl : b :: cs = bs := by simpa using h
      exact .cons hb (ih.mp hcs)
    · rintro (_ | ⟨hb, hbs⟩)
      simp [hb, ih.mpr hbs]

/-- A list stops at the first element whose step does. -/
theorem mapM_eq_error {f : α → Except ε β} {l : List α} {e : ε} :
    l.mapM f = .error e ↔
      ∃ before a after bs, l = before ++ a :: after ∧ before.mapM f = .ok bs ∧ f a = .error e := by
  induction l with
  | nil => simp
  | cons a l ih =>
    rw [List.mapM_cons, bind_eq_error]
    constructor
    · rintro (ha | ⟨b, hb, h⟩)
      · exact ⟨[], a, l, [], rfl, rfl, ha⟩
      · rcases bind_eq_error.mp h with hrest | ⟨bs, -, h⟩
        · obtain ⟨before, c, after, bs, rfl, hbefore, hc⟩ := ih.mp hrest
          exact ⟨a :: before, c, after, b :: bs, rfl, by simp [hb, hbefore], hc⟩
        · cases h
    · rintro ⟨before, c, after, bs, hsplit, hbefore, hc⟩
      cases before with
      | nil =>
        obtain ⟨rfl, rfl⟩ := List.cons.inj hsplit
        exact .inl hc
      | cons a' before =>
        obtain ⟨rfl, rfl⟩ := List.cons.inj hsplit
        rw [List.mapM_cons] at hbefore
        obtain ⟨b, hb, hbefore⟩ := bind_eq_ok.mp hbefore
        obtain ⟨bs, hbs, -⟩ := bind_eq_ok.mp hbefore
        have hrest := ih.mpr ⟨before, c, after, bs, rfl, hbs, hc⟩
        exact .inr ⟨b, hb, by rw [hrest]; rfl⟩

/-- A step that gives more values works off the same lists. -/
theorem mapM_ok_mono {f g : α → Except ε β} (h : ∀ a b, f a = .ok b → g a = .ok b) {l : List α}
    {bs : List β} (hl : l.mapM f = .ok bs) : l.mapM g = .ok bs :=
  mapM_eq_ok.mpr ((mapM_eq_ok.mp hl).imp h)

/-- What is done to each result can be done to all of them in the end. -/
theorem mapM_map_each (f : α → Except ε β) (g : β → γ) : ∀ l : List α,
    l.mapM (fun a => (f a).map g) = (l.mapM f).map (List.map g)
  | [] => rfl
  | a :: l => by
    rw [List.mapM_cons, List.mapM_cons, mapM_map_each f g l]
    cases f a with
    | error e => rfl
    | ok b => cases l.mapM f <;> rfl

/-- Two steps for each element are two rounds over the list. -/
theorem mapM_bind_eq_ok {f : α → Except ε β} {g : β → Except ε γ} : ∀ {l : List α} {cs : List γ},
    l.mapM (fun a => f a >>= g) = .ok cs ↔ ∃ bs, l.mapM f = .ok bs ∧ bs.mapM g = .ok cs
  | [], cs => by simp
  | a :: l, cs => by
    rw [List.mapM_cons, List.mapM_cons]
    simp only [bind_eq_ok, mapM_bind_eq_ok, pure_eq_ok, Except.ok.injEq]
    constructor
    · rintro ⟨c, ⟨b, hb, hc⟩, cs, ⟨bs, hbs, hcs⟩, rfl⟩
      refine ⟨b :: bs, ⟨b, hb, bs, hbs, rfl⟩, ?_⟩
      rw [List.mapM_cons, hc, hcs]
      rfl
    · rintro ⟨_, ⟨b, hb, bs, hbs, rfl⟩, h⟩
      rw [List.mapM_cons] at h
      obtain ⟨c, hc, h⟩ := bind_eq_ok.mp h
      obtain ⟨cs', hcs, h⟩ := bind_eq_ok.mp h
      exact ⟨c, ⟨b, hb, hc⟩, cs', ⟨bs, hbs, hcs⟩, by simpa using h⟩

/-- One round does what two rounds do, if one step does what two steps do. -/
theorem mapM_ok_comp {ε₁ ε₂ : Type} {f : α → Except ε β} {g : β → Except ε₁ γ}
    {h : α → Except ε₂ γ} {l : List α} {bs : List β} {cs : List γ}
    (hstep : ∀ a b c, f a = .ok b → g b = .ok c → h a = .ok c) (hf : l.mapM f = .ok bs)
    (hg : bs.mapM g = .ok cs) : l.mapM h = .ok cs := by
  rw [mapM_eq_ok] at hf hg ⊢
  induction hf generalizing cs with
  | nil =>
    cases hg
    exact .nil
  | cons hab _ ih =>
    cases hg with
    | cons hbc hg => exact .cons (hstep _ _ _ hab hbc) (ih hg)

/-- Elements in another order give the same results in that order. -/
theorem mapM_perm {f : α → Except ε β} {l l' : List α} {bs : List β} (hl : l'.Perm l)
    (h : l.mapM f = .ok bs) : ∃ bs', l'.mapM f = .ok bs' ∧ bs'.Perm bs := by
  obtain ⟨bs', hbs', hperm⟩ := List.perm_comp_forall₂ hl (mapM_eq_ok.mp h)
  exact ⟨bs', mapM_eq_ok.mpr hbs', hperm⟩

/-- What is worked off comes from one of the elements. -/
theorem mem_of_mapM_eq_ok {f : α → Except ε β} {l : List α} {bs : List β} (h : l.mapM f = .ok bs)
    {b : β} (hb : b ∈ bs) : ∃ a ∈ l, f a = .ok b := by
  induction mapM_eq_ok.mp h with
  | nil => cases hb
  | @cons a b' l bs hab hrest ih =>
    rcases List.mem_cons.mp hb with rfl | hb
    · exact ⟨a, List.mem_cons_self, hab⟩
    · obtain ⟨c, hc, hcb⟩ := ih (mapM_eq_ok.mpr hrest) hb
      exact ⟨c, List.mem_cons_of_mem a hc, hcb⟩

/-- What every step gives of its element, all results are. -/
theorem forall_of_mapM_eq_ok {f : α → Except ε β} {l : List α} {bs : List β} {p : β → Prop}
    (h : l.mapM f = .ok bs) (hp : ∀ a ∈ l, ∀ b, f a = .ok b → p b) : ∀ b ∈ bs, p b := by
  intro b hb
  obtain ⟨a, ha, hab⟩ := mem_of_mapM_eq_ok h hb
  exact hp a ha b hab

/-- An element and a result at the same place belong together. -/
theorem eq_ok_of_mem_zip {f : α → Except ε β} {l : List α} {bs : List β} {a : α} {b : β}
    (h : l.mapM f = .ok bs) (hab : (a, b) ∈ l.zip bs) : f a = .ok b :=
  (List.forall₂_iff_zip.mp (mapM_eq_ok.mp h)).2 hab

/-- A list is gone through to the end if no member fails. -/
theorem exists_mapM_eq_ok {f : α → Except ε β} {l : List α} (h : ∀ a ∈ l, ∃ b, f a = .ok b) :
    ∃ bs, l.mapM f = .ok bs := by
  induction l with
  | nil => exact ⟨[], rfl⟩
  | cons a l ih =>
    obtain ⟨b, hb⟩ := h a List.mem_cons_self
    obtain ⟨bs, hbs⟩ := ih fun c hc => h c (List.mem_cons_of_mem a hc)
    exact ⟨b :: bs, by simp [hb, hbs]⟩

/-- The list as a whole is worked off exactly if every element can be. -/
theorem exists_mapM_iff {f : α → Except ε β} {l : List α} :
    (∃ bs, l.mapM f = .ok bs) ↔ ∀ a ∈ l, ∃ b, f a = .ok b := by
  refine ⟨?_, exists_mapM_eq_ok⟩
  rintro ⟨bs, h⟩
  induction mapM_eq_ok.mp h with
  | nil => exact fun a ha => by cases ha
  | @cons a b l bs hab hrest ih =>
    intro c hc
    rcases List.mem_cons.mp hc with rfl | hc
    · exact ⟨b, hab⟩
    · exact ih (mapM_eq_ok.mpr hrest) c hc

/-- Where one knows of each step whether it gives a value, one knows it of the list. -/
theorem exists_mapM_iff_forall {f : α → Except ε β} {p : α → Prop}
    (h : ∀ a, (∃ b, f a = .ok b) ↔ p a) (l : List α) :
    (∃ bs, l.mapM f = .ok bs) ↔ ∀ a ∈ l, p a :=
  exists_mapM_iff.trans (forall₂_congr fun a _ => h a)

/-- What is seen of each result is seen of its element; so it is with the lists. -/
theorem map_eq_of_mapM {f : α → Except ε β} {g : β → γ} {h : α → γ}
    (hf : ∀ a b, f a = .ok b → g b = h a) {l : List α} {bs : List β} (hl : l.mapM f = .ok bs) :
    bs.map g = l.map h := by
  induction mapM_eq_ok.mp hl with
  | nil => rfl
  | cons hab hrest ih => rw [List.map_cons, List.map_cons, hf _ _ hab, ih (mapM_eq_ok.mpr hrest)]

/-! ## Which error stops a chain

  `first?` is worked out beside the chain, without running it: the error of its first step that
  stops, if there is one. -/

/-- The step stops with the given error, or gives a value if none is given. -/
def StopsWith (x : Except ε α) (first? : Option ε) : Prop := ∀ e, x = .error e ↔ first? = some e

namespace StopsWith

variable {x : Except ε α} {first? : Option ε}

theorem ok (a : α) : StopsWith (.ok a : Except ε α) none := fun e => by simp

theorem error (e : ε) : StopsWith (.error e : Except ε α) (some e) := fun e' => by simp

/-- Mapping the value does not change where it stops. -/
theorem map (h : StopsWith x first?) (f : α → β) : StopsWith (x.map f) first? :=
  fun e => map_eq_error.trans (h e)

/-- What gave a value has met no error. -/
theorem eq_none (h : StopsWith x first?) {a : α} (hx : x = .ok a) : first? = none := by
  cases first? with
  | none => rfl
  | some e =>
    have hstop := (h e).mpr rfl
    rw [hx] at hstop
    cases hstop

/-- Mapping the error maps what it stops with. -/
theorem mapError {ε' : Type} (h : StopsWith x first?) (f : ε → ε') :
    StopsWith (x.mapError f) (first?.map f) := by
  cases x with
  | ok a =>
    rw [h.eq_none rfl]
    exact ok a
  | error e =>
    rw [(h e).mp rfl]
    exact error (f e)

/-- The second step is asked only if the first gives a value. -/
theorem bind {f : α → Except ε β} {second? : Option ε} (h : StopsWith x first?)
    (hf : ∀ a, StopsWith (f a) second?) : StopsWith (x >>= f) (first?.or second?) := by
  cases x with
  | error e =>
    obtain rfl := (h e).mp rfl
    exact error e
  | ok a =>
    rw [h.eq_none rfl, Option.none_or]
    exact hf a

end StopsWith

/-! ## Two chains that look alike

  Of the values of two chains only a view is compared; their errors are compared as they are. -/

/-- Steps that look alike stop with the same error, or give values that look alike. -/
theorem alike_cases {x x' : Except ε α} {u : α → γ} (h : x'.map u = x.map u) :
    (∃ e, x = .error e ∧ x' = .error e) ∨ ∃ a a', x = .ok a ∧ x' = .ok a' ∧ u a' = u a := by
  cases x with
  | error e =>
    cases x' with
    | error e' =>
      cases h
      exact .inl ⟨e, rfl, rfl⟩
    | ok a' => cases h
  | ok a =>
    cases x' with
    | error e' => cases h
    | ok a' => exact .inr ⟨a, a', rfl, rfl, Except.ok.inj h⟩

/-- Chains look alike if their steps do. -/
theorem bind_map_congr {δ : Type} {x x' : Except ε α} {f f' : α → Except ε β} {u : α → γ}
    {w : β → δ} (hx : x'.map u = x.map u)
    (hf : ∀ a a', x = .ok a → x' = .ok a' → u a' = u a → (f' a').map w = (f a).map w) :
    (x' >>= f').map w = (x >>= f).map w := by
  rcases alike_cases hx with ⟨e, rfl, rfl⟩ | ⟨a, a', rfl, rfl, ha⟩
  · rfl
  · exact hf a a' rfl rfl ha

/-- What is the same of elements that look alike is the same of lists that do. -/
theorem map_eq_of_alike {δ : Type} {f : α → β} {g : α → δ} : ∀ {l l' : List α},
    l'.map g = l.map g → (∀ a' ∈ l', ∀ a ∈ l, g a' = g a → f a' = f a) → l'.map f = l.map f
  | [], [], _, _ => rfl
  | a :: l, a' :: l', hl, h => by
    rw [List.map_cons, List.map_cons, List.cons.injEq] at hl
    rw [List.map_cons, List.map_cons, h a' List.mem_cons_self a List.mem_cons_self hl.1]
    exact congrArg _ (map_eq_of_alike hl.2 fun c' hc' c hc =>
      h c' (List.mem_cons_of_mem a' hc') c (List.mem_cons_of_mem a hc))
  | [], _ :: _, hl, _ => by cases hl
  | _ :: _, [], hl, _ => by cases hl

/-- Lists whose elements look alike one by one give results that look alike. -/
theorem mapM_map_congr {δ : Type} {f : α → Except ε β} {u : β → γ} {g : α → δ} :
    ∀ {l l' : List α}, l'.map g = l.map g →
      (∀ a' ∈ l', ∀ a ∈ l, g a' = g a → (f a').map u = (f a).map u) →
      (l'.mapM f).map (List.map u) = (l.mapM f).map (List.map u)
  | [], [], _, _ => rfl
  | a :: l, a' :: l', hl, h => by
    rw [List.map_cons, List.map_cons, List.cons.injEq] at hl
    rw [List.mapM_cons, List.mapM_cons]
    have hhead := h a' List.mem_cons_self a List.mem_cons_self hl.1
    refine bind_map_congr hhead fun b b' _ _ hb => ?_
    have hrest := mapM_map_congr hl.2 fun c' hc' c hc =>
      h c' (List.mem_cons_of_mem a' hc') c (List.mem_cons_of_mem a hc)
    refine bind_map_congr hrest fun bs bs' _ _ hbs => ?_
    simp [hb, hbs]
  | [], _ :: _, hl, _ => by cases hl
  | _ :: _, [], hl, _ => by cases hl

/-! ## Steps that differ only where one of them stops

  `y` goes further than `x` if it gives the same unless `x` stops with the error `e`. -/

/-- Two sequences agree unless one meets the error, if their steps do. -/
theorem bind_eq_of_ne {e : ε} {x y : Except ε α} {f g : α → Except ε β}
    (hx : x ≠ .error e → y = x) (hf : ∀ a, f a ≠ .error e → g a = f a)
    (h : (x >>= f) ≠ .error e) : (y >>= g) = (x >>= f) := by
  cases x with
  | error e' =>
    rw [hx (by simpa using h)]
    rfl
  | ok a =>
    rw [hx (by simp)]
    exact hf a h

/-- Going through a list agrees unless it meets the error, if every step does. -/
theorem mapM_eq_of_ne {e : ε} {f g : α → Except ε β} : ∀ {l : List α},
    (∀ a ∈ l, f a ≠ .error e → g a = f a) → l.mapM f ≠ .error e → l.mapM g = l.mapM f
  | [], _, _ => rfl
  | a :: l, hfg, h => by
    rw [List.mapM_cons] at h ⊢
    rw [List.mapM_cons]
    refine bind_eq_of_ne (hfg a List.mem_cons_self) (fun b hb => ?_) h
    refine bind_eq_of_ne ?_ (fun bs _ => rfl) hb
    exact mapM_eq_of_ne fun c hc => hfg c (List.mem_cons_of_mem a hc)

end ThriftScala.Outcome
