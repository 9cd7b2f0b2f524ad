/-
  Different types have different expressions.

  An expression is a word with the expressions of its arguments in brackets (`expression_eq`).
  Names have no delimiters and commas stand at every depth, so it cannot be cut at them; it is read
  from the front.

  1. **The word** takes all letters, digits and low lines in front, for behind it stands a bracket,
     a comma or nothing (`word_append_inj`).

  2. **The arguments.**  If each argument shows where its expression ends (`ShowsEnd`), so does the
     list of them: a comma behind one says that there is another, a bracket that there is none
     (`arguments_append_inj`).

  3. **The type** is made of its word and its arguments (`unresolved_eq`), all but one thing: the
     expression of a name is the name, whatever it stands for.
-/
import ThriftScala.Scala.TypeExpr
import ThriftScala.Text.Ident

namespace ThriftScala

namespace FieldType

/-- The names in the type are of letters, digits and low lines of ASCII, and none of them is what a
    base type is called in Scala. -/
def HasOwnNames : FieldType → Prop
  | .base _ => True
  | .list t | .set t => t.HasOwnNames
  | .map k v => k.HasOwnNames ∧ v.HasOwnNames
  | .enum n | .struct n | .reference n =>
    n.toList.all Text.isWordChar = true ∧ ∀ b, n ≠ Scala.typeText {} (.base b)

/-- The type with every name in it left unresolved. -/
def unresolved : FieldType → FieldType
  | .base b => .base b
  | .list t => .list t.unresolved
  | .set t => .set t.unresolved
  | .map k v => .map k.unresolved v.unresolved
  | .enum n | .struct n | .reference n => .reference n

/-- The types that a container holds, in order. -/
def arguments : FieldType → List FieldType
  | .list t | .set t => [t]
  | .map k v => [k, v]
  | .base _ | .enum _ | .struct _ | .reference _ => []

theorem HasOwnNames.arguments {t : FieldType} (h : t.HasOwnNames) :
    ∀ a ∈ t.arguments, a.HasOwnNames := by
  cases t <;> simp_all [FieldType.arguments, HasOwnNames]

end FieldType

namespace Scala

open FieldType

/-- It makes no difference to an expression what its names stand for. -/
theorem typeText_unresolved (names : TypeNames) (t : FieldType) :
    typeText names t.unresolved = typeText names t := by
  induction t with
  | base b => rfl
  | list t ih | set t ih => simp [unresolved, typeText, ih]
  | map k v ihk ihv => simp [unresolved, typeText, ihk, ihv]
  | enum n | struct n | reference n => rfl

/-- With the standard names the type of a value is its expression. -/
theorem scalaType_eq (t : FieldType) : scalaType {} t = .str (typeText {} t) := by
  cases t with
  | base b => cases b <;> rfl
  | _ => rfl

/-! ## Words and arguments -/

/-- The characters of an expression. -/
def expression (t : FieldType) : List Char := (typeText {} t).toList

/-- The word that an expression begins with. -/
def typeWord : FieldType → String
  | .base b => typeText {} (.base b)
  | .list _ => "Seq"
  | .set _ => "Set"
  | .map _ _ => "Map"
  | .enum n | .struct n | .reference n => n

/-- What stands behind an argument, if these are the others. -/
def furtherArguments : List FieldType → List Char
  | [] => [']']
  | t :: ts => ',' :: ' ' :: (expression t ++ furtherArguments ts)

/-- What stands behind the word: the arguments in brackets, if there are any. -/
def bracketed : List FieldType → List Char
  | [] => []
  | t :: ts => '[' :: (expression t ++ furtherArguments ts)

/-- **An expression is a word and its arguments.** -/
theorem expression_eq (t : FieldType) :
    expression t = (typeWord t).toList ++ bracketed t.arguments := by
  cases t <;> simp [expression, typeText, typeWord, FieldType.arguments, bracketed,
    furtherArguments, Json.display]

theorem isWordChar_typeWord {t : FieldType} (h : t.HasOwnNames) :
    ∀ c ∈ (typeWord t).toList, Text.isWordChar c := by
  cases t with
  | base b => cases b <;> exact List.all_eq_true.mp (by decide)
  | list t | set t | map k v =>
    rw [typeWord]
    exact List.all_eq_true.mp (by decide)
  | enum n | struct n | reference n => exact List.all_eq_true.mp h.1

/-- The type of a word and the types that it holds. -/
def ofWordAndArguments (word : String) : List FieldType → FieldType
  | [] =>
    match BaseType.all.find? fun b => typeText {} (.base b) = word with
    | some b => .base b
    | none => .reference word
  | [t] => if word = "Seq" then .list t else .set t
  | k :: v :: _ => .map k v

/-- **A type is made of its word and its arguments**, up to what its names stand for. -/
theorem unresolved_eq {t : FieldType} (h : t.HasOwnNames) :
    t.unresolved = ofWordAndArguments (typeWord t) (t.arguments.map unresolved) := by
  cases t with
  | base b => cases b <;> rfl
  | list t | set t | map k v => rfl
  | enum n | struct n | reference n =>
    have hnone : BaseType.all.find? (fun b => typeText {} (.base b) = n) = none :=
      List.find?_eq_none.mpr fun b _ => by simpa using Ne.symm (h.2 b)
    change FieldType.reference n = ofWordAndArguments n []
    rw [ofWordAndArguments, hnone]

/-! ## Where an expression ends -/

/-- What stands behind an expression in another one: nothing, a comma or a closing bracket. -/
def Follows (cs : List Char) : Prop := ∀ c, cs.head? = some c → c = ',' ∨ c = ']'

/-- Whatever follows it, the expression shows where it ends and, up to what its names stand for,
    which type it is of. -/
def ShowsEnd (t : FieldType) : Prop :=
  ∀ {r : FieldType} {u v : List Char}, r.HasOwnNames → Follows u → Follows v →
    expression t ++ u = expression r ++ v → t.unresolved = r.unresolved ∧ u = v

theorem follows_furtherArguments (ts : List FieldType) (u : List Char) :
    Follows (furtherArguments ts ++ u) := by
  cases ts <;> simp [Follows, furtherArguments]

/-- What stands behind the word begins with no part of a word. -/
theorem not_isWordChar_bracketed {ts : List FieldType} {u : List Char} (hu : Follows u) :
    ∀ c, (bracketed ts ++ u).head? = some c → Text.isWordChar c = false := by
  intro c hc
  cases ts with
  | nil => rcases hu c hc with rfl | rfl <;> rfl
  | cons t ts =>
    cases hc
    rfl

/-- The word ends where the arguments begin. -/
theorem typeWord_append_inj {t r : FieldType} (ht : t.HasOwnNames) (hr : r.HasOwnNames)
    {u v : List Char} (hu : Follows u) (hv : Follows v)
    (h : expression t ++ u = expression r ++ v) :
    typeWord t = typeWord r ∧ bracketed t.arguments ++ u = bracketed r.arguments ++ v := by
  rw [expression_eq, expression_eq, List.append_assoc, List.append_assoc] at h
  obtain ⟨hword, hrest⟩ := Text.append_inj_of_kind (isWordChar_typeWord ht) (isWordChar_typeWord hr)
    (not_isWordChar_bracketed hu) (not_isWordChar_bracketed hv) h
  exact ⟨String.toList_inj.mp hword, hrest⟩

/-- A list of arguments ends at the bracket behind the last one. -/
theorem furtherArguments_append_inj : ∀ {ts rs : List FieldType}, (∀ t ∈ ts, ShowsEnd t) →
    (∀ r ∈ rs, r.HasOwnNames) → ∀ {u v : List Char},
    furtherArguments ts ++ u = furtherArguments rs ++ v →
      ts.map unresolved = rs.map unresolved ∧ u = v
  | [], [], _, _, _, _, h => ⟨rfl, (List.cons.inj h).2⟩
  | [], _ :: _, _, _, _, _, h => by cases h
  | _ :: _, [], _, _, _, _, h => by cases h
  | t :: ts, r :: rs, hts, hrs, u, v, h => by
    rw [List.forall_mem_cons] at hts hrs
    simp only [furtherArguments, List.cons_append, List.append_assoc, List.cons.injEq,
      true_and] at h
    obtain ⟨htr, hrest⟩ :=
      hts.1 hrs.1 (follows_furtherArguments ts u) (follows_furtherArguments rs v) h
    obtain ⟨hrest, huv⟩ := furtherArguments_append_inj hts.2 hrs.2 hrest
    exact ⟨by rw [List.map_cons, List.map_cons, htr, hrest], huv⟩

/-- What follows an expression is not taken for its arguments, and the arguments end at their
    bracket. -/
theorem bracketed_append_inj {ts rs : List FieldType} (hts : ∀ t ∈ ts, ShowsEnd t)
    (hrs : ∀ r ∈ rs, r.HasOwnNames) {u v : List Char} (hu : Follows u) (hv : Follows v)
    (h : bracketed ts ++ u = bracketed rs ++ v) :
    ts.map unresolved = rs.map unresolved ∧ u = v := by
  have hbracket {w z : List Char} (hw : Follows w) : w ≠ '[' :: z := by
    rintro rfl
    simpa using hw '[' rfl
  cases ts with
  | nil =>
    cases rs with
    | nil => exact ⟨rfl, h⟩
    | cons r rs => exact absurd h (hbracket hu)
  | cons t ts =>
    cases rs with
    | nil => exact absurd h.symm (hbracket hv)
    | cons r rs =>
      -- a comma in front makes the first argument one of those behind another
      refine furtherArguments_append_inj hts hrs ?_
      simp only [bracketed, List.cons_append, List.cons.injEq, true_and] at h
      simp only [furtherArguments, List.cons_append, h]

/-- An expression shows where it ends if the expressions of its arguments do. -/
theorem showsEnd_of_arguments {t : FieldType} (ht : t.HasOwnNames)
    (h : ∀ a ∈ t.arguments, ShowsEnd a) : ShowsEnd t := by
  intro r u v hr hu hv hequal
  obtain ⟨hword, hrest⟩ := typeWord_append_inj ht hr hu hv hequal
  obtain ⟨harguments, huv⟩ := bracketed_append_inj h hr.arguments hu hv hrest
  rw [unresolved_eq ht, unresolved_eq hr, hword, harguments]
  exact ⟨rfl, huv⟩

/-- **Every expression shows where it ends**, by induction on the type. -/
theorem showsEnd {t : FieldType} (ht : t.HasOwnNames) : ShowsEnd t := by
  induction t with
  | base b | enum n | struct n | reference n =>
    exact showsEnd_of_arguments ht (by simp [FieldType.arguments])
  | list t ih | set t ih =>
    exact showsEnd_of_arguments ht (List.forall_mem_singleton.mpr (ih ht))
  | map k v ihk ihv =>
    refine showsEnd_of_arguments ht ?_
    exact List.forall_mem_cons.mpr ⟨ihk ht.1, List.forall_mem_singleton.mpr (ihv ht.2)⟩

/-- **Types with the same expression are the same**, up to what their names stand for.  With the
    standard names of containers, two types, in which every name is of letters, digits and low
    lines of ASCII and is none that a base type has, have the same expression exactly if they are
    equal when all names are left unresolved. -/
theorem type_of_expression {t r : FieldType} (ht : t.HasOwnNames) (hr : r.HasOwnNames) :
    scalaType {} t = scalaType {} r ↔ t.unresolved = r.unresolved := by
  rw [scalaType_eq, scalaType_eq, Json.str.injEq]
  constructor
  · intro h
    have hnone : Follows [] := by simp [Follows]
    exact (showsEnd ht hr hnone hnone (by rw [expression, h, expression])).1
  · intro h
    rw [← typeText_unresolved {} t, h, typeText_unresolved]

/-- Names of containers may be those of types: an enum called `Set` in a list is no set, and a
    struct called `Set` has the same expression. -/
theorem enum_called_set :
    let t : FieldType := .map (.reference "Seq") (.list (.enum "Set"))
    scalaType {} t = scalaType {} (.map (.enum "Seq") (.list (.struct "Set"))) ∧
      scalaType {} t ≠ scalaType {} (.map (.enum "Seq") (.list (.set (.struct "Set")))) := by
  intro t
  have hown (n : String) (h : n.toList.all Text.isWordChar = true ∧
      ∀ b ∈ BaseType.all, n ≠ typeText {} (.base b)) : (FieldType.enum n).HasOwnNames :=
    ⟨h.1, fun b => h.2 b (by cases b <;> decide)⟩
  have hseq := hown "Seq" (by decide)
  have hset := hown "Set" (by decide)
  have ht : t.HasOwnNames := ⟨hseq, hset⟩
  have hlist : (FieldType.map (.enum "Seq") (.list (.struct "Set"))).HasOwnNames := ⟨hseq, hset⟩
  have hinner : (FieldType.map (.enum "Seq") (.list (.set (.struct "Set")))).HasOwnNames :=
    ⟨hseq, hset⟩
  refine ⟨(type_of_expression ht hlist).mpr rfl, fun h => ?_⟩
  cases (type_of_expression ht hinner).mp h

end Scala

end ThriftScala
