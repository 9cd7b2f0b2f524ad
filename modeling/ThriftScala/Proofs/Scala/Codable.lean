/-
  The types whose values can be read and written.

  `FieldType.Codable` says it without the codec: nowhere inside the type is there a void or a name
  that was not resolved.  Reading and writing have an expression exactly for these types, so the
  two agree on what they refuse, and a type that can be read has a wire tag too.

  `Document.Codable` says it of every type that a document sends over the wire.  What a function
  gives back may also be a bare void.  Names do not matter here, so a document is codable before a
  conversion of its names exactly if it is so after it.
-/
import Mathlib.Tactic.MkIffOfInductiveProp
import ThriftScala.Proofs.Schema.Normalize
import ThriftScala.Scala.Codec

namespace ThriftScala

/-- A type and all types inside it. -/
def FieldType.parts : FieldType → List FieldType
  | .list t => .list t :: t.parts
  | .set t => .set t :: t.parts
  | .map k v => .map k v :: (k.parts ++ v.parts)
  | t => [t]

/-- Neither a void nor an unresolved name stands anywhere in the type. -/
def FieldType.Codable (t : FieldType) : Prop :=
  ∀ p ∈ t.parts, p ≠ .base .void ∧ ∀ n, p ≠ .reference n

namespace FieldType

@[simp] theorem parts_base (b : BaseType) : (base b).parts = [base b] := rfl

@[simp] theorem parts_list (t : FieldType) : (list t).parts = list t :: t.parts := rfl

@[simp] theorem parts_set (t : FieldType) : (set t).parts = set t :: t.parts := rfl

@[simp] theorem parts_map (k v : FieldType) :
    (map k v).parts = map k v :: (k.parts ++ v.parts) := rfl

@[simp] theorem parts_enum (n : String) : (enum n).parts = [enum n] := rfl

@[simp] theorem parts_struct (n : String) : (struct n).parts = [struct n] := rfl

@[simp] theorem parts_reference (n : String) : (reference n).parts = [reference n] := rfl

/-- A base type can be read and written unless it is void. -/
@[simp] theorem codable_base (b : BaseType) : (base b).Codable ↔ b ≠ .void := by
  simp [Codable]

/-- A list can be read and written if its elements can. -/
@[simp] theorem codable_list (t : FieldType) : (list t).Codable ↔ t.Codable := by
  simp [Codable]

/-- A set can be read and written if its elements can. -/
@[simp] theorem codable_set (t : FieldType) : (set t).Codable ↔ t.Codable := by
  simp [Codable]

/-- A map can be read and written if its keys and values can. -/
@[simp] theorem codable_map (k v : FieldType) : (map k v).Codable ↔ k.Codable ∧ v.Codable := by
  simp only [Codable, parts_map, List.forall_mem_cons, List.forall_mem_append]
  simp

/-- An enum can be read and written as its number. -/
@[simp] theorem codable_enum (n : String) : (enum n).Codable := by simp [Codable]

/-- A struct can be read and written by its own codec. -/
@[simp] theorem codable_struct (n : String) : (struct n).Codable := by simp [Codable]

/-- A reference cannot be read or written: it is not known what it refers to. -/
@[simp] theorem not_codable_reference (n : String) : ¬ (reference n).Codable := by
  simp [Codable]

end FieldType

/-! ## Documents -/

/-- The types of all fields are codable. -/
def Struct.Codable (s : Struct) : Prop := ∀ f ∈ s.fields, f.type.Codable

/-- The types of the arguments, the exceptions and the result are codable, but a function may give
    nothing back. -/
@[mk_iff]
structure ServiceFunction.Codable (f : ServiceFunction) : Prop where
  args : ∀ a ∈ f.args, a.type.Codable
  result : f.returnType = .base .void ∨ f.returnType.Codable
  throws : ∀ t ∈ f.throws, t.type.Codable

/-- The types in all structs and services are codable. -/
@[mk_iff]
structure Document.Codable (d : Document) : Prop where
  structs : ∀ s ∈ d.structs, s.Codable
  services : ∀ s ∈ d.services, ∀ f ∈ s.functions, f.Codable

/-- Whether a struct can be coded does not depend on the names of its fields. -/
@[simp] theorem Struct.codable_onWire (s : Struct) : s.onWire.Codable ↔ s.Codable := by
  simp [Struct.Codable, Struct.onWire, Field.onWire]

/-- Whether a function can be coded does not depend on names. -/
@[simp] theorem ServiceFunction.codable_onWire (f : ServiceFunction) :
    f.onWire.Codable ↔ f.Codable := by
  simp [ServiceFunction.codable_iff, ServiceFunction.onWire, Field.onWire]

/-- Whether a document can be coded does not depend on names. -/
@[simp] theorem Document.codable_onWire (d : Document) : d.onWire.Codable ↔ d.Codable := by
  simp [Document.codable_iff, Document.onWire, Service.onWire]

/-- A conversion of names does not matter. -/
theorem Document.codable_normalize {case : NamingCase} {d d' : Document}
    (h : d.normalize case = .ok d') : d'.Codable ↔ d.Codable := by
  rw [← d'.codable_onWire, onWire_normalize h, d.codable_onWire]

namespace Scala

open Outcome

/-- Every base type but void has methods of the protocol. -/
theorem exists_methodSuffix {b : BaseType} (h : b ≠ .void) : ∃ s, methodSuffix? (.base b) = some s := by
  cases b with
  | void => exact absurd rfl h
  | _ => exact ⟨_, rfl⟩

/-- A codable type has a wire tag. -/
theorem exists_wireTag {t : FieldType} (h : t.Codable) : ∃ tag, wireTag t = .ok tag := by
  cases t with
  | base b => cases b <;> exact ⟨_, rfl⟩
  | reference n => exact absurd h (FieldType.not_codable_reference n)
  | _ => exact ⟨_, rfl⟩

/-! ## Reading -/

/-- Every codable type has an expression that reads it. -/
theorem exists_readValue (protocol : String) (label : Nat → String) {t : FieldType}
    (h : t.Codable) : ∀ level, ∃ s, readValue protocol label level t = .ok s := by
  induction t with
  | base b =>
    intro level
    obtain ⟨s, hs⟩ := exists_methodSuffix ((FieldType.codable_base b).mp h)
    simp [readValue, readMethod, hs]
  | list t ih | set t ih =>
    intro level
    obtain ⟨s, hs⟩ := ih (by simpa using h) (level + 1)
    simp [readValue, hs]
  | map k v ihk ihv =>
    intro level
    obtain ⟨hk, hv⟩ := (FieldType.codable_map k v).mp h
    obtain ⟨s, hs⟩ := ihk hk (level + 1)
    obtain ⟨u, hu⟩ := ihv hv (level + 1)
    simp [readValue, hs, hu]
  | enum n | struct n => exact fun level => ⟨_, rfl⟩
  | reference n => exact absurd h (FieldType.not_codable_reference n)

/-- Only codable types have an expression that reads them. -/
theorem codable_of_readValue (protocol : String) (label : Nat → String) {t : FieldType} :
    ∀ {level s}, readValue protocol label level t = .ok s → t.Codable := by
  induction t with
  | base b =>
    intro level s h
    rw [FieldType.codable_base]
    rintro rfl
    simp [readValue, readMethod, methodSuffix?, Mapping.refuse] at h
  | list t ih | set t ih =>
    intro level s h
    obtain ⟨element, he, -⟩ := bind_eq_ok.mp h
    simpa using ih he
  | map k v ihk ihv =>
    intro level s h
    obtain ⟨key, hk, h⟩ := bind_eq_ok.mp h
    obtain ⟨value, hv, -⟩ := bind_eq_ok.mp h
    exact (FieldType.codable_map k v).mpr ⟨ihk hk, ihv hv⟩
  | enum n => exact fun _ => FieldType.codable_enum n
  | struct n => exact fun _ => FieldType.codable_struct n
  | reference n =>
    intro level s h
    simp [readValue, Mapping.refuse] at h

/-- A type that is not codable is refused when it is to be read. -/
theorem readValue_error (protocol : String) (label : Nat → String) (level : Nat) {t : FieldType}
    (h : ¬ t.Codable) : ∃ u, readValue protocol label level t = .error u := by
  rcases ok_or_error (readValue protocol label level t) with ⟨s, hs⟩ | he
  · exact absurd (codable_of_readValue protocol label hs) h
  · exact he

/-! ## Writing -/

/-- Every codable type has statements that write it. -/
theorem exists_writeValue (protocol : String) (label : Nat → String) {t : FieldType}
    (h : t.Codable) : ∀ level name, ∃ s, writeValue protocol label level name t = .ok s := by
  induction t with
  | base b =>
    intro level name
    obtain ⟨s, hs⟩ := exists_methodSuffix ((FieldType.codable_base b).mp h)
    simp [writeValue, writeMethod, hs]
  | list t ih | set t ih =>
    intro level name
    have ht : t.Codable := by simpa using h
    obtain ⟨tag, htag⟩ := exists_wireTag ht
    obtain ⟨s, hs⟩ := ih ht (level + 1) ("_e" ++ label level)
    simp [writeValue, htag, hs]
  | map k v ihk ihv =>
    intro level name
    obtain ⟨hk, hv⟩ := (FieldType.codable_map k v).mp h
    obtain ⟨keyTag, hkeyTag⟩ := exists_wireTag hk
    obtain ⟨valueTag, hvalueTag⟩ := exists_wireTag hv
    obtain ⟨s, hs⟩ := ihk hk (level + 1) ("_k" ++ label level)
    obtain ⟨u, hu⟩ := ihv hv (level + 1) ("_v" ++ label level)
    simp [writeValue, hkeyTag, hvalueTag, hs, hu]
  | enum n | struct n => exact fun level name => ⟨_, rfl⟩
  | reference n => exact absurd h (FieldType.not_codable_reference n)

/-- Only codable types have statements that write them. -/
theorem codable_of_writeValue (protocol : String) (label : Nat → String) {t : FieldType} :
    ∀ {level name s}, writeValue protocol label level name t = .ok s → t.Codable := by
  induction t with
  | base b =>
    intro level name s h
    rw [FieldType.codable_base]
    rintro rfl
    simp [writeValue, writeMethod, methodSuffix?, Mapping.refuse] at h
  | list t ih | set t ih =>
    intro level name s h
    obtain ⟨tag, -, h⟩ := bind_eq_ok.mp h
    obtain ⟨element, he, -⟩ := bind_eq_ok.mp h
    simpa using ih he
  | map k v ihk ihv =>
    intro level name s h
    obtain ⟨keyTag, -, h⟩ := bind_eq_ok.mp h
    obtain ⟨valueTag, -, h⟩ := bind_eq_ok.mp h
    obtain ⟨key, hk, h⟩ := bind_eq_ok.mp h
    obtain ⟨value, hv, -⟩ := bind_eq_ok.mp h
    exact (FieldType.codable_map k v).mpr ⟨ihk hk, ihv hv⟩
  | enum n => exact fun _ => FieldType.codable_enum n
  | struct n => exact fun _ => FieldType.codable_struct n
  | reference n =>
    intro level name s h
    simp [writeValue, Mapping.refuse] at h

end Scala

end ThriftScala
