/-
  Types and constants tell what they were read from.

  A type is written down in one way, so the values that are read as it are the same.  A constant may
  be written down in several: the two keys of an enum value come in either order, and its names are
  values as they stood.  `Json.Alike` is equality of values up to the order of keys and
  `Constant.Alike` that of constants; `Constant.alike_sources` goes from the second to the first
  along the constants, which have the same shape wherever they are alike.
-/
import ThriftScala.Proofs.Schema.Description

namespace ThriftScala

open Outcome

/-! ## Values up to the order of keys -/

/-- The same value up to the order of keys: objects are alike if they have alike values under the
    same keys.  An integer, a double and a truth value are never alike. -/
inductive Json.Alike : Json → Json → Prop
  | null : Alike .null .null
  | bool (b : Bool) : Alike (.bool b) (.bool b)
  | int (n : Int) : Alike (.int n) (.int n)
  | double (x : Double) : Alike (.double x) (.double x)
  | str (s : String) : Alike (.str s) (.str s)
  | arr {vs ws : List Json} : List.Forall₂ Alike vs ws → Alike (.arr vs) (.arr ws)
  | obj {ms ns : List (String × Json)} :
      (∀ k, Option.Rel Alike (Entries.get? ms k) (Entries.get? ns k)) → Alike (.obj ms) (.obj ns)

mutual

/-- The same constant, up to the order of keys in the names in it, which may be any values. -/
inductive Constant.Alike : Constant → Constant → Prop
  | null : Alike .null .null
  | bool (b : Bool) : Alike (.bool b) (.bool b)
  | int (n : Int) : Alike (.int n) (.int n)
  | double (x : Double) : Alike (.double x) (.double x)
  | str (s : String) : Alike (.str s) (.str s)
  | list {cs ds : List Constant} : List.Forall₂ Alike cs ds → Alike (.list cs) (.list ds)
  | map {ps qs : List (Constant × Constant)} : List.Forall₂ PairsAlike ps qs →
      Alike (.map ps) (.map qs)
  | enumValue {enum value enum' value' : Json} : enum.Alike enum' → value.Alike value' →
      Alike (.enumValue enum value) (.enumValue enum' value')
  | identifier {name name' : Json} : name.Alike name' → Alike (.identifier name) (.identifier name')

/-- The same key and value. -/
inductive Constant.PairsAlike : Constant × Constant → Constant × Constant → Prop
  | intro {k v k' v' : Constant} : Alike k k' → Alike v v' → PairsAlike (k, v) (k', v')

end

namespace Json.Alike

theorem refl : ∀ v : Json, v.Alike v
  | .null => .null
  | .bool b => .bool b
  | .int n => .int n
  | .double x => .double x
  | .str s => .str s
  | .arr vs => .arr (List.forall₂_same.mpr fun v hv => refl v)
  | .obj ms => by
    refine .obj fun k => ?_
    cases h : Entries.get? ms k with
    | none => exact .none
    | some v => exact .some (refl v)
termination_by v => sizeOf v
decreasing_by
  · exact Json.sizeOf_lt_arr hv
  · exact Json.sizeOf_lt_obj (Entries.mem_of_get? h)

/-- Objects with one key are alike if the values under it are. -/
theorem single {key : String} {v w : Json} (h : v.Alike w) :
    (Json.obj [(key, v)]).Alike (.obj [(key, w)]) := by
  refine .obj fun k => ?_
  rw [Entries.get?_cons, Entries.get?_cons]
  split
  · exact .some h
  · exact .none

end Json.Alike

mutual

theorem Constant.Alike.refl : ∀ c : Constant, c.Alike c
  | .null => .null
  | .bool b => .bool b
  | .int n => .int n
  | .double x => .double x
  | .str s => .str s
  | .list cs => .list (Constant.elems_alike cs)
  | .map ps => .map (Constant.pairs_alike ps)
  | .enumValue enum value => .enumValue (.refl enum) (.refl value)
  | .identifier name => .identifier (.refl name)

theorem Constant.elems_alike : ∀ cs : List Constant, List.Forall₂ Constant.Alike cs cs
  | [] => .nil
  | c :: cs => .cons (Constant.Alike.refl c) (Constant.elems_alike cs)

theorem Constant.pairs_alike : ∀ ps : List (Constant × Constant),
    List.Forall₂ Constant.PairsAlike ps ps
  | [] => .nil
  | (k, v) :: ps =>
    .cons (.intro (Constant.Alike.refl k) (Constant.Alike.refl v)) (Constant.pairs_alike ps)

end

/-! ## Alike constants are read from alike values -/

/-- A list describes constants if its elements do one by one. -/
theorem Constant.describeElems_iff : ∀ {vs : List Json} {cs : List Constant},
    DescribeElems vs cs ↔ List.Forall₂ Describes vs cs
  | [], [] => by simp [DescribeElems]
  | [], c :: cs => by simp [DescribeElems]
  | v :: vs, [] => by simp [DescribeElems]
  | v :: vs, c :: cs => by rw [DescribeElems, List.forall₂_cons, describeElems_iff]

/-- The value is a list of two, which stand for the pair. -/
def Constant.DescribesPair (v : Json) (p : Constant × Constant) : Prop :=
  ∃ key value, v = .arr [key, value] ∧ Describes key p.1 ∧ Describes value p.2

/-- A list describes pairs if its elements do one by one. -/
theorem Constant.describePairs_iff : ∀ {vs : List Json} {ps : List (Constant × Constant)},
    DescribePairs vs ps ↔ List.Forall₂ DescribesPair vs ps
  | [], [] => by simp [DescribePairs]
  | [], p :: ps => by simp [DescribePairs]
  | v :: vs, [] => by simp [DescribePairs]
  | v :: vs, (ck, cv) :: ps => by
    rw [DescribePairs, List.forall₂_cons, describePairs_iff]
    rfl

/-- What stands for an enum value is an object with two keys. -/
theorem Constant.get?_of_describes {v enum value : Json}
    (h : Constant.Describes v (.enumValue enum value)) : ∃ ms, v = .obj ms ∧
      ∀ k, Entries.get? ms k =
        if k = "enum" then some enum else if k = "value" then some value else none := by
  rw [Describes] at h
  rcases h with rfl | rfl
  · refine ⟨_, rfl, fun k => ?_⟩
    simp only [Entries.get?_cons, Entries.get?_nil, eq_comm]
  · refine ⟨_, rfl, fun k => ?_⟩
    by_cases hk : k = "enum"
    · simp [hk, Entries.get?_cons]
    · simp [Ne.symm hk, hk, Entries.get?_cons, eq_comm]

mutual

/-- **Constants that are alike were described by values that are alike.** -/
theorem Constant.alike_sources {c d : Constant} (h : c.Alike d) {v w : Json}
    (hv : Describes v c) (hw : Describes w d) : v.Alike w := by
  cases h with
  | null | bool | int | double | str =>
    -- these are written down in one way
    rw [Describes] at hv hw
    rw [hv, hw]
    exact .refl _
  | list h =>
    -- the values are lists again, and the elements are taken pair by pair
    rw [Describes] at hv hw
    obtain ⟨vs, rfl, hvs⟩ := hv
    obtain ⟨ws, rfl, hws⟩ := hw
    rw [describeElems_iff] at hvs hws
    exact .arr (Constant.alike_elemSources h hvs hws)
  | map h =>
    rw [Describes] at hv hw
    obtain ⟨vs, rfl, hvs⟩ := hv
    obtain ⟨ws, rfl, hws⟩ := hw
    rw [describePairs_iff] at hvs hws
    exact .single (.arr (Constant.alike_pairSources h hvs hws))
  | enumValue henum hvalue =>
    -- the two objects need not have their keys in the same order, so look up each key in both
    obtain ⟨ms, rfl, hms⟩ := Constant.get?_of_describes hv
    obtain ⟨ns, rfl, hns⟩ := Constant.get?_of_describes hw
    refine .obj fun k => ?_
    rw [hms, hns]
    split
    · exact .some henum
    · split
      · exact .some hvalue
      · exact .none
  | identifier h =>
    rw [Describes] at hv hw
    rw [hv, hw]
    exact .single h

/-- Lists of constants that are alike were described by lists that are alike. -/
theorem Constant.alike_elemSources : ∀ {cs ds : List Constant}, List.Forall₂ Constant.Alike cs ds →
    ∀ {vs ws : List Json}, List.Forall₂ Describes vs cs → List.Forall₂ Describes ws ds →
      List.Forall₂ Json.Alike vs ws
  | _, _, .nil, _, _, .nil, .nil => .nil
  | _, _, .cons h hrest, _, _, .cons hv hvs, .cons hw hws =>
    .cons (Constant.alike_sources h hv hw) (Constant.alike_elemSources hrest hvs hws)

/-- Pairs of constants that are alike were described by pairs that are alike. -/
theorem Constant.alike_pairSources : ∀ {ps qs : List (Constant × Constant)},
    List.Forall₂ Constant.PairsAlike ps qs → ∀ {vs ws : List Json},
      List.Forall₂ DescribesPair vs ps → List.Forall₂ DescribesPair ws qs →
        List.Forall₂ Json.Alike vs ws
  | _, _, .nil, _, _, .nil, .nil => .nil
  | _, _, .cons (.intro hkey hvalue) hrest, _, _, .cons ⟨k, x, hv, hk, hx⟩ hvs,
      .cons ⟨k', x', hw, hk', hx'⟩ hws => by
    have hpair : List.Forall₂ Json.Alike [k, x] [k', x'] :=
      .cons (Constant.alike_sources hkey hk hk') (.cons (Constant.alike_sources hvalue hx hx') .nil)
    rw [hv, hw]
    exact .cons (.arr hpair) (Constant.alike_pairSources hrest hvs hws)

end

/-- **Types and constants tell what they were read from.**  Values that are read as the same type
    are the same, and values that are read as the same constant are the same up to the order of
    keys. -/
theorem Json.alike_of_read (v w : Json) :
    (∀ t, FieldType.ofJson v = .ok t → FieldType.ofJson w = .ok t → v = w) ∧
    ∀ c d, Constant.ofJson v = .ok c → Constant.ofJson w = .ok d → c.Alike d → v.Alike w := by
  constructor
  · intro t hv hw
    have hv' := ((FieldType.reads_ofJson v).value t).mp hv
    have hw' := ((FieldType.reads_ofJson w).value t).mp hw
    rw [hv', hw']
  · intro c d hv hw h
    have hv' := ((Constant.reads_ofJson v).value c).mp hv
    have hw' := ((Constant.reads_ofJson w).value d).mp hw
    exact Constant.alike_sources h hv' hw'

/-- A list with an enum value, the enum first. -/
def colorByEnum : Json := .arr [.obj [("enum", .str "Color"), ("value", .str "RED")], .int 1]

/-- The same list, the value first. -/
def colorByValue : Json := .arr [.obj [("value", .str "RED"), ("enum", .str "Color")], .int 1]

/-- A list with a member of an enum and a number. -/
def colorConstant : Constant := .list [.enumValue (.str "Color") (.str "RED"), .int 1]

/-- The keys of a member may come in either order, and nothing else is lost. -/
theorem color_is_read_in_either_order :
    Constant.ofJson colorByEnum = .ok colorConstant ∧
      Constant.ofJson colorByValue = .ok colorConstant ∧ colorByEnum.Alike colorByValue ∧
      FieldType.ofJson (.obj [("list", .str "i32")]) = .ok (.list (.base .i32)) ∧
      Json.obj [("list", .str "i32")] = .obj [("list", .str "i32")] := by
  have hv : Constant.ofJson colorByEnum = .ok colorConstant := rfl
  have hw : Constant.ofJson colorByValue = .ok colorConstant := rfl
  have htype : FieldType.ofJson (.obj [("list", .str "i32")]) = .ok (.list (.base .i32)) := rfl
  have halike := (Json.alike_of_read colorByEnum colorByValue).2 _ _ hv hw (.refl colorConstant)
  exact ⟨hv, hw, halike, htype, (Json.alike_of_read _ _).1 _ htype htype⟩

end ThriftScala
