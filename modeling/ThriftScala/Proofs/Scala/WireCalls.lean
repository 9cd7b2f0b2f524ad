/-
  Decoders and encoders make the same calls.

  The expression that reads a value and the statements that write it are two texts, made by two
  recursions over its type.  What they do on the wire is read off the texts alone: at every place
  where `_iprot.read` or `_oprot.write` stands, the name of the operation that follows it, and at
  every place where a struct is asked to `.decode` or to `.write` itself, the struct (`calls`).

  1. A call is found where it begins, wherever it stands.  So a piece of text makes its calls in any
     surroundings, provided no call begins in the piece and ends behind it (`Performs`), and pieces
     that stand one after the other make theirs one after the other (`Performs.append`).

  2. In a fixed piece it can be computed that no call begins there, whatever follows (`clear`).  A
     call of the protocol is one at its first character, and clear behind it (`performs_operation`).

  3. A name can hold anything but a dot, so a call that begins in a name has its dot behind the
     name, and what stands there is known (`performs_access`, `performs_stopped`).

  4. Type by type, both texts make the calls of the type (`readValue_performs`,
     `writeValue_performs`), which `wireCalls` lists without any text.
-/
import ThriftScala.Proofs.Json.Tokens
import ThriftScala.Proofs.Scala.Codable
import ThriftScala.Text.Ident

namespace ThriftScala

/-- The names in the type are identifiers. -/
def FieldType.HasIdentifiers : FieldType → Prop
  | .base _ => True
  | .list t => t.HasIdentifiers
  | .set t => t.HasIdentifiers
  | .map k v => k.HasIdentifiers ∧ v.HasIdentifiers
  | .enum name => Text.isIdentifier name.toList = true
  | .struct name => Text.isIdentifier name.toList = true
  | .reference name => Text.isIdentifier name.toList = true

namespace Scala

open Outcome

/-! ## Calls -/

/-- What a codec does on the wire at one place. -/
inductive WireCall where
  /-- An operation of the protocol, by what follows `read` or `write` in its name. -/
  | operation (name : String)
  /-- A struct reads or writes itself. -/
  | struct
  deriving DecidableEq, Repr

/-- The calls for a value of a type, in order.  A container is announced and ended around its
    elements, and a key goes before its value. -/
def wireCalls : FieldType → List WireCall
  | .base b => (methodSuffix? (.base b)).toList.map .operation
  | .enum _ => [.operation "I32"]
  | .struct _ => [.struct]
  | .list t => .operation "ListBegin" :: (wireCalls t ++ [.operation "ListEnd"])
  | .set t => .operation "SetBegin" :: (wireCalls t ++ [.operation "SetEnd"])
  | .map k v => .operation "MapBegin" :: (wireCalls k ++ wireCalls v ++ [.operation "MapEnd"])
  | .reference _ => []

/-- A direction on the wire, by the words for it in a codec. -/
structure Direction where
  protocol : String
  /-- What the names of the operations begin with. -/
  operation : String
  /-- What the codec of a struct is called. -/
  struct : String

/-- From the wire. -/
def reading : Direction := ⟨inputProtocol, "read", "decode"⟩

/-- To the wire. -/
def writing : Direction := ⟨outputProtocol, "write", "write"⟩

namespace Direction

/-- What stands in front of the name of an operation. -/
def mark (d : Direction) : List Char := d.protocol.toList ++ '.' :: d.operation.toList

/-- What stands in front of the protocol that a struct is read from or written to. -/
def structMark (d : Direction) : List Char := '.' :: (d.struct.toList ++ ['('])

/-- The call that begins at the first character of a text. -/
def callAt? (d : Direction) (cs : List Char) : Option WireCall :=
  if d.mark.isPrefixOf cs then
    match (cs.drop d.mark.length).takeWhile Text.isWordChar with
    | [] => none
    | name => some (.operation (.ofList name))
  else if d.structMark.isPrefixOf cs then some .struct else none

/-- The calls in a text, from left to right. -/
def calls (d : Direction) : List Char → List WireCall
  | [] => []
  | c :: cs => (d.callAt? (c :: cs)).toList ++ d.calls cs

/-- The calls in a text are the one at its first character, if one is there, and those behind it. -/
theorem calls_cons (d : Direction) (c : Char) (cs : List Char) :
    d.calls (c :: cs) = (d.callAt? (c :: cs)).toList ++ d.calls cs := rfl

/-- No call begins where no operation has a name and no struct is asked. -/
theorem callAt?_eq_none {d : Direction} {cs : List Char}
    (hoperation : ∀ r, cs = d.mark ++ r → r.takeWhile Text.isWordChar = [])
    (hstruct : ¬ d.structMark <+: cs) : d.callAt? cs = none := by
  unfold callAt?
  split
  · rename_i hmark
    obtain ⟨r, rfl⟩ := List.isPrefixOf_iff_prefix.mp hmark
    rw [List.drop_left, hoperation r rfl]
  · rw [if_neg]
    rwa [List.isPrefixOf_iff_prefix]

end Direction

/-- Two texts differ at a place that both have. -/
def apart : List Char → List Char → Bool
  | a :: as, b :: bs => a != b || apart as bs
  | _, _ => false

/-- Texts that differ still differ whatever stands behind them. -/
theorem append_ne_of_apart {a b : List Char} (h : apart a b = true) (u v : List Char) :
    a ++ u ≠ b ++ v := by
  induction a generalizing b with
  | nil => cases h
  | cons x a ih =>
    cases b with
    | nil => cases h
    | cons y b =>
      intro heq
      rw [List.cons_append, List.cons_append, List.cons.injEq] at heq
      rw [apart, Bool.or_eq_true, bne_iff_ne] at h
      rcases h with hxy | hab
      · exact hxy heq.1
      · exact ih hab heq.2

/-- No call begins in the text, whatever stands behind it. -/
def Direction.clear (d : Direction) : List Char → Bool
  | [] => true
  | c :: cs => apart (c :: cs) d.mark && apart (c :: cs) d.structMark && d.clear cs

/-! ## Pieces of text -/

/-- The piece makes these calls wherever it stands, and no call begins in it and ends behind it. -/
def Performs (d : Direction) (s : String) (made : List WireCall) : Prop :=
  ∀ rest, d.calls (s.toList ++ rest) = made ++ d.calls rest

section Pieces

variable {d : Direction} {s t : String} {made more : List WireCall}

/-- What a text performs are its calls. -/
theorem Performs.calls_eq (h : Performs d s made) : d.calls s.toList = made := by
  have hend := h []
  rwa [List.append_nil, Direction.calls, List.append_nil] at hend

/-- Texts in a row perform their calls one after the other. -/
theorem Performs.append (hs : Performs d s made) (ht : Performs d t more) :
    Performs d (s ++ t) (made ++ more) := by
  intro rest
  rw [String.toList_append, List.append_assoc, hs, ht, List.append_assoc]

/-- Where no call begins in a text, the calls are those behind it. -/
theorem calls_append_of_clear {cs : List Char} (h : d.clear cs = true) (rest : List Char) :
    d.calls (cs ++ rest) = d.calls rest := by
  induction cs with
  | nil => rfl
  | cons c cs ih =>
    rw [Direction.clear, Bool.and_eq_true, Bool.and_eq_true] at h
    obtain ⟨⟨hmark, hstruct⟩, hrest⟩ := h
    have hnone : d.callAt? (c :: cs ++ rest) = none := by
      refine Direction.callAt?_eq_none (fun r hr => ?_) ?_
      · exact absurd hr (append_ne_of_apart hmark rest r)
      · rintro ⟨r, hr⟩
        exact append_ne_of_apart hstruct rest r hr.symm
    rw [List.cons_append, Direction.calls_cons, ← List.cons_append, hnone, ih hrest]
    rfl

/-- A text without the mark of calls performs none. -/
theorem performs_clear (h : d.clear s.toList = true) : Performs d s [] :=
  calls_append_of_clear h

/-! ### Calls -/

/-- An operation has a name of word characters, and its call holds no other call. -/
def Direction.Offers (d : Direction) (name : String) : Prop :=
  name.toList ≠ [] ∧ name.toList.all Text.isWordChar = true ∧
    d.clear (d.mark.tail ++ name.toList ++ ['(']) = true

instance (d : Direction) (name : String) : Decidable (d.Offers name) :=
  inferInstanceAs (Decidable (_ ∧ _ ∧ _))

/-- An operation that the protocol offers is called up to the bracket behind its name. -/
theorem performs_operation {name : String} (h : d.Offers name) :
    Performs d (d.protocol ++ "." ++ d.operation ++ name ++ "(") [.operation name] := by
  obtain ⟨hname, hword, hclear⟩ := h
  intro rest
  have htext : (d.protocol ++ "." ++ d.operation ++ name ++ "(").toList ++ rest =
      d.mark ++ (name.toList ++ '(' :: rest) := by
    simp [Direction.mark]
  rw [htext]
  obtain ⟨e, m, hmark⟩ : ∃ e m, d.mark = e :: m := by
    cases hm : d.mark with
    | nil => simp [Direction.mark] at hm
    | cons e m => exact ⟨e, m, rfl⟩
  -- the name ends at the bracket, which is no character of a word
  have hcall : d.callAt? (d.mark ++ (name.toList ++ '(' :: rest)) = some (.operation name) := by
    have htaken : (name.toList ++ '(' :: rest).takeWhile Text.isWordChar = name.toList := by
      rw [List.takeWhile_append_of_pos (List.all_eq_true.mp hword),
        List.takeWhile_cons_of_neg (by decide), List.append_nil]
    have hfound : d.mark.isPrefixOf (d.mark ++ (name.toList ++ '(' :: rest)) = true :=
      List.isPrefixOf_iff_prefix.mpr (List.prefix_append _ _)
    unfold Direction.callAt?
    rw [if_pos hfound, List.drop_left, htaken]
    split
    · rename_i hnil
      exact absurd hnil hname
    · rw [String.ofList_toList]
  -- the mark does not begin again inside of itself and the name
  have hbehind : d.calls (m ++ (name.toList ++ '(' :: rest)) = d.calls rest := by
    rw [hmark, List.tail_cons] at hclear
    simpa using calls_append_of_clear hclear rest
  rw [hmark] at hcall ⊢
  rw [List.cons_append, Direction.calls_cons, ← List.cons_append, hcall, hbehind]
  rfl

/-- A struct is asked with a dot and a bracket. -/
theorem performs_struct (hmark : apart d.structMark d.mark = true)
    (hclear : d.clear d.structMark.tail = true) :
    Performs d ("." ++ d.struct ++ "(") [.struct] := by
  intro rest
  have htext : ("." ++ d.struct ++ "(").toList ++ rest = d.structMark ++ rest := by
    simp [Direction.structMark]
  have hcall : d.callAt? (d.structMark ++ rest) = some .struct := by
    unfold Direction.callAt?
    rw [if_neg, if_pos]
    · exact List.isPrefixOf_iff_prefix.mpr (List.prefix_append _ _)
    · rw [List.isPrefixOf_iff_prefix]
      rintro ⟨r, hr⟩
      exact append_ne_of_apart hmark rest r hr.symm
  have hbehind : d.calls (d.structMark.tail ++ rest) = d.calls rest :=
    calls_append_of_clear hclear rest
  rw [Direction.structMark, List.tail_cons] at hbehind
  rw [htext]
  rw [Direction.structMark, List.cons_append] at hcall ⊢
  rw [Direction.calls_cons, hcall, hbehind]
  rfl

/-! ### Names -/

/-- Equal texts are equal behind their first dots. -/
theorem eq_behind_dot {a b u v : List Char} (ha : '.' ∉ a) (hb : '.' ∉ b)
    (h : a ++ '.' :: u = b ++ '.' :: v) : u = v := by
  have hcut : ∀ {cs w : List Char}, '.' ∉ cs →
      (cs ++ '.' :: w).dropWhile (· != '.') = '.' :: w := by
    intro cs w hcs
    rw [List.dropWhile_append_of_pos, List.dropWhile_cons_of_neg (by simp)]
    intro c hc
    rw [bne_iff_ne]
    rintro rfl
    exact hcs hc
  have hdots : '.' :: u = '.' :: v := by rw [← hcut ha, h, hcut hb]
  exact (List.cons.inj hdots).2

/-- A name holds no dot.  So no struct is asked in it, and no call begins in it unless an operation
    has a mark that begins there and ends behind it. -/
theorem performs_name (hs : '.' ∉ s.toList)
    (hoperation : ∀ v, '.' ∉ v → ∀ rest r, v ++ (t.toList ++ rest) = d.mark ++ r →
      r.takeWhile Text.isWordChar = [])
    (ht : Performs d t more) : Performs d (s ++ t) more := by
  intro rest
  rw [String.toList_append, List.append_assoc, ← ht rest]
  generalize s.toList = cs at hs
  induction cs with
  | nil => rfl
  | cons c cs ih =>
    have hnone : d.callAt? (c :: (cs ++ (t.toList ++ rest))) = none := by
      refine Direction.callAt?_eq_none (hoperation (c :: cs) hs rest) ?_
      rintro ⟨r, hr⟩
      rw [Direction.structMark, List.cons_append, List.cons.injEq] at hr
      exact hs (hr.1 ▸ List.mem_cons_self)
    rw [List.cons_append, Direction.calls_cons, hnone]
    exact ih fun h => hs (List.mem_cons_of_mem c h)

/-- Where a dot stands behind a name, it would have to be the dot of the mark.  So what stands
    behind it tells whether this is an operation. -/
theorem performs_access (hd : '.' ∉ d.protocol.toList) (hs : '.' ∉ s.toList)
    (hother : ∀ rest r, t.toList ++ rest = d.operation.toList ++ r →
      r.takeWhile Text.isWordChar = [])
    (ht : Performs d ("." ++ t) more) : Performs d (s ++ ("." ++ t)) more := by
  refine performs_name hs (fun v hv rest r heq => ?_) ht
  have hdots : v ++ '.' :: (t.toList ++ rest) =
      d.protocol.toList ++ '.' :: (d.operation.toList ++ r) := by
    simpa [Direction.mark] using heq
  exact hother rest r (eq_behind_dot hv hd hdots)

/-- A member of a value is no operation if its name differs from theirs. -/
theorem performs_member (hd : '.' ∉ d.protocol.toList) (hs : '.' ∉ s.toList)
    (hother : apart t.toList d.operation.toList = true) (ht : d.clear ("." ++ t).toList = true) :
    Performs d (s ++ ("." ++ t)) [] := by
  refine performs_access hd hs (fun rest r heq => ?_) (performs_clear ht)
  exact absurd heq (append_ne_of_apart hother rest r)

/-- Where a character stands behind a name that belongs to no mark, no mark gets over it. -/
theorem performs_stopped (hs : '.' ∉ s.toList) {c : Char} (hstop : t.toList.head? = some c)
    (hc : c ∉ d.mark) (ht : Performs d t more) : Performs d (s ++ t) more := by
  refine performs_name hs (fun v hv rest r heq => ?_) ht
  exfalso
  have hdot : '.' ∈ d.mark := by simp [Direction.mark]
  obtain ⟨u, hu⟩ := List.head?_eq_some_iff.mp hstop
  rw [hu, List.cons_append] at heq
  rcases List.append_eq_append_iff.mp heq with ⟨w, hmark, hw⟩ | ⟨w, hname, -⟩
  · -- the mark goes on behind the name, where the character stands
    cases w with
    | nil =>
      rw [hmark, List.append_nil] at hdot
      exact hv hdot
    | cons e w =>
      rw [List.cons_append, List.cons.injEq] at hw
      refine hc ?_
      rw [hmark, hw.1]
      simp
  · -- the mark ends in the name, but the name holds no dot
    rw [hname] at hv
    exact hv (List.mem_append_left w hdot)

/-- The labels of levels are digits. -/
theorem isDigit_of_mem_label (n : Nat) : ∀ c ∈ (toString n).toList, c.isDigit = true := by
  have hrepr : toString n = n.repr := rfl
  rw [hrepr, Nat.repr_eq_ofList_toDigits, String.toList_ofList]
  exact fun c => Json.isDigit_of_mem_toDigits

/-- A level performs no call, because digits do not begin the mark. -/
theorem performs_label {e : Char} {m : List Char} (hd : d.mark = e :: m) (he : e.isDigit = false)
    (n : Nat) : Performs d (toString n) [] := by
  have hdigits := isDigit_of_mem_label n
  refine performs_clear ?_
  generalize (toString n).toList = cs at hdigits
  induction cs with
  | nil => rfl
  | cons c cs ih =>
    rw [List.forall_mem_cons] at hdigits
    have hmark : c ≠ e := by
      rintro rfl
      rw [hdigits.1] at he
      cases he
    have hstruct : c ≠ '.' := by
      rintro rfl
      exact absurd hdigits.1 (by decide)
    simp [Direction.clear, apart, hd, Direction.structMark, hmark, hstruct, ih hdigits.2]

end Pieces

/-- An identifier holds no dot. -/
theorem dot_not_mem_of_isIdentifier {cs : List Char} (h : Text.isIdentifier cs = true) :
    '.' ∉ cs := by
  cases cs with
  | nil => cases h
  | cons c cs =>
    rw [Text.isIdentifier, Bool.and_eq_true, List.all_eq_true] at h
    rw [List.mem_cons, not_or]
    constructor
    · rintro rfl
      exact absurd h.1 (by decide +kernel)
    · intro hdot
      exact absurd (h.2 '.' hdot) (by decide +kernel)

/-! ## Reading -/

section Reading

/-- What a base type is read by is one of the operations for reading. -/
theorem offers_read {b : BaseType} {suffix : String} (h : methodSuffix? (.base b) = some suffix) :
    reading.Offers suffix := by
  cases b <;> cases h <;> decide

theorem performs_read_label (n : Nat) : Performs reading (toString n) [] :=
  performs_label rfl (by decide) n

/-- A method for reading is called after the suffix of the type. -/
theorem exists_of_readMethod {t : FieldType} {method : String} (h : readMethod t = .ok method) :
    ∃ suffix, methodSuffix? t = some suffix ∧ method = "read" ++ suffix := by
  unfold readMethod at h
  split at h
  · rename_i suffix hsuffix
    exact ⟨suffix, hsuffix, (Except.ok.inj h).symm⟩
  · cases h

/-- Reading a base type performs its own operation. -/
theorem performs_base_read {b : BaseType} {suffix : String}
    (h : methodSuffix? (.base b) = some suffix) :
    Performs reading (inputProtocol ++ "." ++ ("read" ++ suffix) ++ "()") [.operation suffix] := by
  have hclose : Performs reading ")" [] := performs_clear (by decide)
  have hcall := (performs_operation (offers_read h)).append hclose
  have htext : inputProtocol ++ "." ++ ("read" ++ suffix) ++ "()" =
      inputProtocol ++ "." ++ "read" ++ suffix ++ "(" ++ ")" := by
    rw [← String.toList_inj]
    simp
  rw [htext]
  exact hcall

/-- Reading an enum performs the operation of its number. -/
theorem performs_enum_read {name : String} (hname : '.' ∉ name.toList) :
    Performs reading (name ++ "(" ++ inputProtocol ++ ".readI32())") [.operation "I32"] := by
  have hopen : Performs reading "(" [] := performs_clear (by decide)
  have hread : Performs reading (inputProtocol ++ "." ++ "read" ++ "I32" ++ "(")
      [.operation "I32"] := performs_operation (by decide)
  have hclose : Performs reading "))" [] := performs_clear (by decide)
  have hcall := hopen.append (hread.append hclose)
  have htext : name ++ "(" ++ inputProtocol ++ ".readI32())" =
      name ++ ("(" ++ (inputProtocol ++ "." ++ "read" ++ "I32" ++ "(" ++ "))")) := by
    rw [← String.toList_inj]
    simp
  rw [htext]
  exact performs_stopped hname (c := '(') rfl (by decide) hcall

/-- Reading a struct leaves it to the codec of the struct. -/
theorem performs_struct_read {name : String} (hname : '.' ∉ name.toList) :
    Performs reading (name ++ ".decode(" ++ inputProtocol ++ ")") [.struct] := by
  have hdecode : Performs reading ("." ++ "decode" ++ "(") [.struct] :=
    performs_struct (by decide) (by decide)
  have hclose : Performs reading (inputProtocol ++ ")") [] := performs_clear (by decide)
  have hcall := hdecode.append hclose
  rw [String.append_assoc, String.append_assoc] at hcall
  have htext : name ++ ".decode(" ++ inputProtocol ++ ")" =
      name ++ ("." ++ ("decode" ++ ("(" ++ (inputProtocol ++ ")")))) := by
    rw [← String.toList_inj]
    simp
  rw [htext]
  refine performs_access (by decide) hname (fun rest r heq => ?_) hcall
  exact absurd heq (append_ne_of_apart (by decide) rest r)

/-- The pieces of what reads a container. -/
theorem readContainer_eq (protocol kind header convert label element : String) :
    readContainer protocol kind header convert label element =
      ("\x7b val " ++ (header ++ label) ++ " = ")
        ++ (protocol ++ "." ++ "read" ++ (kind ++ "Begin") ++ "(")
        ++ ("); val _rv" ++ label ++ " = (0 until " ++ (header ++ label) ++ ".size).map \x7b _ => ")
        ++ element ++ (" \x7d." ++ convert ++ "; ")
        ++ (protocol ++ "." ++ "read" ++ (kind ++ "End") ++ "(")
        ++ ("); _rv" ++ label ++ " \x7d") := by
  unfold readContainer
  rw [← String.toList_inj]
  simp

/-- Reading a container makes the calls for an element between its begin and its end. -/
theorem readContainer_performs {kind header convert label element : String} {made : List WireCall}
    (hbegin : reading.Offers (kind ++ "Begin")) (hend : reading.Offers (kind ++ "End"))
    (hheader : reading.clear header.toList = true)
    (hconvert : reading.clear (" \x7d." ++ convert ++ "; ").toList = true)
    (hlabel : Performs reading label []) (he : Performs reading element made) :
    Performs reading (readContainer inputProtocol kind header convert label element)
      (.operation (kind ++ "Begin") :: (made ++ [.operation (kind ++ "End")])) := by
  have hnamed := (performs_clear hheader).append hlabel
  have hopened : Performs reading ("\x7b val " ++ (header ++ label) ++ " = ") [] :=
    ((performs_clear (by decide)).append hnamed).append (performs_clear (by decide))
  have hannounced := performs_operation hbegin
  have heach : Performs reading
      ("); val _rv" ++ label ++ " = (0 until " ++ (header ++ label) ++ ".size).map \x7b _ => ")
      [] :=
    ((((performs_clear (by decide)).append hlabel).append (performs_clear (by decide))).append
      hnamed).append (performs_clear (by decide))
  have hended := performs_operation hend
  have hclosed : Performs reading ("); _rv" ++ label ++ " \x7d") [] :=
    ((performs_clear (by decide)).append hlabel).append (performs_clear (by decide))
  have hall := (((((hopened.append hannounced).append heach).append he).append
    (performs_clear hconvert)).append hended).append hclosed
  simp only [List.nil_append, List.append_nil, List.cons_append] at hall
  rw [readContainer_eq]
  exact hall

/-- **What reads a value makes the calls of its type.** -/
theorem readValue_performs {t : FieldType} (ht : t.HasIdentifiers) {level : Nat} {s : String}
    (h : readValue inputProtocol toString level t = .ok s) : Performs reading s (wireCalls t) := by
  induction t generalizing level s with
  | base b =>
    obtain ⟨method, hmethod, h⟩ := bind_eq_ok.mp h
    obtain rfl := Except.ok.inj h
    obtain ⟨suffix, hsuffix, rfl⟩ := exists_of_readMethod hmethod
    rw [wireCalls, hsuffix]
    exact performs_base_read hsuffix
  | list t ih | set t ih =>
    obtain ⟨element, helement, h⟩ := bind_eq_ok.mp h
    obtain rfl := Except.ok.inj h
    exact readContainer_performs (by decide) (by decide) (by decide) (by decide)
      (performs_read_label level) (ih ht helement)
  | map k v ihk ihv =>
    obtain ⟨key, hkey, h⟩ := bind_eq_ok.mp h
    obtain ⟨value, hvalue, h⟩ := bind_eq_ok.mp h
    obtain rfl := Except.ok.inj h
    have hopen : Performs reading "(" [] := performs_clear (by decide)
    have hcomma : Performs reading ", " [] := performs_clear (by decide)
    have hclose : Performs reading ")" [] := performs_clear (by decide)
    have hpair := (((hopen.append (ihk ht.1 hkey)).append hcomma).append
      (ihv ht.2 hvalue)).append hclose
    rw [List.nil_append, List.append_nil, List.append_nil] at hpair
    exact readContainer_performs (by decide) (by decide) (by decide) (by decide)
      (performs_read_label level) hpair
  | enum name =>
    obtain rfl := Except.ok.inj h
    exact performs_enum_read (dot_not_mem_of_isIdentifier ht)
  | struct name =>
    obtain rfl := Except.ok.inj h
    exact performs_struct_read (dot_not_mem_of_isIdentifier ht)
  | reference name => cases h

end Reading

/-! ## Writing -/

section Writing

/-- What a base type is written by is one of the operations for writing. -/
theorem offers_write {b : BaseType} {suffix : String} (h : methodSuffix? (.base b) = some suffix) :
    writing.Offers suffix := by
  cases b <;> cases h <;> decide

theorem performs_write_label (n : Nat) : Performs writing (toString n) [] :=
  performs_label rfl (by decide) n

/-- A method for writing is called after the suffix of the type. -/
theorem exists_of_writeMethod {t : FieldType} {method : String} (h : writeMethod t = .ok method) :
    ∃ suffix, methodSuffix? t = some suffix ∧ method = "write" ++ suffix := by
  unfold writeMethod at h
  split at h
  · rename_i suffix hsuffix
    exact ⟨suffix, hsuffix, (Except.ok.inj h).symm⟩
  · cases h

/-- The tags are constants of `TType`. -/
theorem performs_tag (tag : WireTag) : Performs writing ("." ++ tag.name ++ ", ") [] := by
  refine performs_clear ?_
  cases tag <;> decide

/-- A name in brackets. -/
theorem performs_enclosed {name : String} (hname : '.' ∉ name.toList) :
    Performs writing (name ++ ")") [] :=
  performs_stopped hname (c := ')') rfl (by decide) (performs_clear (by decide))

/-- Writing a base type performs its own operation. -/
theorem performs_base_write {b : BaseType} {suffix name : String}
    (h : methodSuffix? (.base b) = some suffix) (hname : '.' ∉ name.toList) :
    Performs writing (outputProtocol ++ "." ++ ("write" ++ suffix) ++ "(" ++ name ++ ")")
      [.operation suffix] := by
  have hcall := (performs_operation (offers_write h)).append (performs_enclosed hname)
  have htext : outputProtocol ++ "." ++ ("write" ++ suffix) ++ "(" ++ name ++ ")" =
      outputProtocol ++ "." ++ "write" ++ suffix ++ "(" ++ (name ++ ")") := by
    simp only [String.append_assoc]
  rw [htext]
  exact hcall

/-- Writing an enum performs the operation of its number. -/
theorem performs_enum_write {name : String} (hname : '.' ∉ name.toList) :
    Performs writing (outputProtocol ++ ".writeI32(" ++ name ++ ".value)") [.operation "I32"] := by
  have hwrite : Performs writing (outputProtocol ++ "." ++ "write" ++ "I32" ++ "(")
      [.operation "I32"] := performs_operation (by decide)
  have hvalue : Performs writing (name ++ ("." ++ "value)")) [] :=
    performs_member (by decide) hname (by decide) (by decide)
  have hcall := hwrite.append hvalue
  have htext : outputProtocol ++ ".writeI32(" ++ name ++ ".value)" =
      outputProtocol ++ "." ++ "write" ++ "I32" ++ "(" ++ (name ++ ("." ++ "value)")) := by
    rw [← String.toList_inj]
    simp
  rw [htext]
  exact hcall

/-- The value may even have the name of the protocol: then the mark begins there, but no operation
    is named behind it. -/
theorem performs_struct_write {name : String} (hname : '.' ∉ name.toList) :
    Performs writing (name ++ ".write(" ++ outputProtocol ++ ")") [.struct] := by
  have hwrite : Performs writing ("." ++ "write" ++ "(") [.struct] :=
    performs_struct (by decide) (by decide)
  have hclose : Performs writing (outputProtocol ++ ")") [] := performs_clear (by decide)
  have hcall := hwrite.append hclose
  rw [String.append_assoc, String.append_assoc] at hcall
  have htext : name ++ ".write(" ++ outputProtocol ++ ")" =
      name ++ ("." ++ ("write" ++ ("(" ++ (outputProtocol ++ ")")))) := by
    rw [← String.toList_inj]
    simp
  rw [htext]
  refine performs_access (by decide) hname (fun rest r heq => ?_) hcall
  have hbracket : '(' :: ((outputProtocol ++ ")").toList ++ rest) = r := by
    simpa [writing] using heq
  rw [← hbracket, List.takeWhile_cons_of_neg (by decide)]

/-- The pieces of what writes a list or a set. -/
theorem writeSequence_eq (protocol kind name item : String) (tag : WireTag) (element : String) :
    writeSequence protocol kind name item tag element =
      (protocol ++ "." ++ "write" ++ (kind ++ "Begin") ++ "(")
        ++ ("new T" ++ kind ++ "(TType") ++ ("." ++ tag.name ++ ", ")
        ++ (name ++ ("." ++ "size)); ")) ++ (name ++ ("." ++ "foreach \x7b ")) ++ (item ++ " => ")
        ++ element ++ " \x7d; "
        ++ (protocol ++ "." ++ "write" ++ (kind ++ "End") ++ "(") ++ ")" := by
  unfold writeSequence
  rw [← String.toList_inj]
  simp

/-- Writing a list or a set makes the calls for an element between its begin and its end. -/
theorem writeSequence_performs {kind name item element : String} {tag : WireTag}
    {made : List WireCall} (hbegin : writing.Offers (kind ++ "Begin"))
    (hend : writing.Offers (kind ++ "End"))
    (hkind : writing.clear ("new T" ++ kind ++ "(TType").toList = true)
    (hname : '.' ∉ name.toList) (hitem : Performs writing item [])
    (he : Performs writing element made) :
    Performs writing (writeSequence outputProtocol kind name item tag element)
      (.operation (kind ++ "Begin") :: (made ++ [.operation (kind ++ "End")])) := by
  have hannounced := (performs_operation hbegin).append
    ((performs_clear hkind).append (performs_tag tag))
  have hsize : Performs writing (name ++ ("." ++ "size)); ")) [] :=
    performs_member (by decide) hname (by decide) (by decide)
  have hforeach : Performs writing (name ++ ("." ++ "foreach \x7b ")) [] :=
    performs_member (by decide) hname (by decide) (by decide)
  have hitems : Performs writing (item ++ " => ") [] := hitem.append (performs_clear (by decide))
  have hdone : Performs writing " \x7d; " [] := performs_clear (by decide)
  have hclose : Performs writing ")" [] := performs_clear (by decide)
  have hended := (performs_operation hend).append hclose
  have hall := ((((hannounced.append hsize).append hforeach).append hitems).append
    (he.append hdone)).append hended
  simp only [List.nil_append, List.append_nil, List.cons_append] at hall
  rw [writeSequence_eq]
  simp only [String.append_assoc] at hall ⊢
  exact hall

/-- The pieces of what writes a map. -/
theorem writeMap_eq (protocol keyTag valueTag name key value keyWrite valueWrite : String) :
    protocol ++ ".writeMapBegin(new TMap(TType." ++ keyTag ++ ", TType." ++ valueTag ++ ", " ++ name
        ++ ".size)); " ++ name ++ ".foreach \x7b case (" ++ key ++ ", " ++ value ++ ") => "
        ++ keyWrite ++ "; " ++ valueWrite ++ " \x7d; " ++ protocol ++ ".writeMapEnd()" =
      (protocol ++ "." ++ "write" ++ "MapBegin" ++ "(") ++ "new TMap(TType"
        ++ ("." ++ keyTag ++ ", ") ++ "TType" ++ ("." ++ valueTag ++ ", ")
        ++ (name ++ ("." ++ "size)); ")) ++ (name ++ ("." ++ "foreach \x7b case ("))
        ++ (key ++ ", ") ++ (value ++ ") => ")
        ++ (keyWrite ++ "; ") ++ (valueWrite ++ " \x7d; ")
        ++ ((protocol ++ "." ++ "write" ++ "MapEnd" ++ "(") ++ ")") := by
  rw [← String.toList_inj]
  simp

/-- Writing a map makes the calls for a key and then those for a value between its begin and its
    end. -/
theorem writeMap_performs {name key value keyWrite valueWrite : String}
    {keyTag valueTag : WireTag} {made more : List WireCall} (hname : '.' ∉ name.toList)
    (hkey : Performs writing key []) (hvalue : Performs writing value [])
    (hk : Performs writing keyWrite made) (hv : Performs writing valueWrite more) :
    Performs writing
      (outputProtocol ++ ".writeMapBegin(new TMap(TType." ++ keyTag.name ++ ", TType."
        ++ valueTag.name ++ ", " ++ name ++ ".size)); " ++ name ++ ".foreach \x7b case (" ++ key
        ++ ", " ++ value ++ ") => " ++ keyWrite ++ "; " ++ valueWrite ++ " \x7d; "
        ++ outputProtocol ++ ".writeMapEnd()")
      (.operation "MapBegin" :: (made ++ more ++ [.operation "MapEnd"])) := by
  have hbegin : Performs writing (outputProtocol ++ "." ++ "write" ++ "MapBegin" ++ "(")
      [.operation "MapBegin"] := performs_operation (by decide)
  have hnew : Performs writing "new TMap(TType" [] := performs_clear (by decide)
  have htype : Performs writing "TType" [] := performs_clear (by decide)
  have hannounced := (((hbegin.append hnew).append (performs_tag keyTag)).append htype).append
    (performs_tag valueTag)
  have hsize : Performs writing (name ++ ("." ++ "size)); ")) [] :=
    performs_member (by decide) hname (by decide) (by decide)
  have hforeach : Performs writing (name ++ ("." ++ "foreach \x7b case (")) [] :=
    performs_member (by decide) hname (by decide) (by decide)
  have hkeys : Performs writing (key ++ ", ") [] := hkey.append (performs_clear (by decide))
  have hvalues : Performs writing (value ++ ") => ") [] :=
    hvalue.append (performs_clear (by decide))
  have hkeyed : Performs writing (keyWrite ++ "; ") (made ++ []) :=
    hk.append (performs_clear (by decide))
  have hvalued : Performs writing (valueWrite ++ " \x7d; ") (more ++ []) :=
    hv.append (performs_clear (by decide))
  have hend : Performs writing (outputProtocol ++ "." ++ "write" ++ "MapEnd" ++ "(" ++ ")")
      ([.operation "MapEnd"] ++ []) :=
    (performs_operation (by decide)).append (performs_clear (by decide))
  -- the text is cut so that each piece performs its own calls, whatever comes behind
  have hall := ((((((hannounced.append hsize).append hforeach).append hkeys).append hvalues).append
    hkeyed).append hvalued).append hend
  simp only [List.nil_append, List.append_nil, List.cons_append] at hall
  rw [writeMap_eq]
  exact hall

/-- The temporaries of a level hold no dot. -/
theorem dot_not_mem_item {lead : String} (h : '.' ∉ lead.toList) (n : Nat) :
    '.' ∉ (lead ++ toString n).toList := by
  rw [String.toList_append, List.mem_append, not_or]
  refine ⟨h, fun hdot => ?_⟩
  exact absurd (isDigit_of_mem_label n '.' hdot) (by decide)

/-- The temporaries of a level make no calls. -/
theorem performs_item {lead : String} (h : writing.clear lead.toList = true) (n : Nat) :
    Performs writing (lead ++ toString n) [] :=
  (performs_clear h).append (performs_write_label n)

/-- **What writes a value makes the calls of its type.** -/
theorem writeValue_performs {t : FieldType} {level : Nat} {name s : String}
    (hname : '.' ∉ name.toList) (h : writeValue outputProtocol toString level name t = .ok s) :
    Performs writing s (wireCalls t) := by
  induction t generalizing level name s with
  | base b =>
    obtain ⟨method, hmethod, h⟩ := bind_eq_ok.mp h
    obtain rfl := Except.ok.inj h
    obtain ⟨suffix, hsuffix, rfl⟩ := exists_of_writeMethod hmethod
    rw [wireCalls, hsuffix]
    exact performs_base_write hsuffix hname
  | list t ih | set t ih =>
    obtain ⟨tag, -, h⟩ := bind_eq_ok.mp h
    obtain ⟨element, helement, h⟩ := bind_eq_ok.mp h
    obtain rfl := Except.ok.inj h
    exact writeSequence_performs (by decide) (by decide) (by decide) hname
      (performs_item (by decide) level) (ih (dot_not_mem_item (by decide) level) helement)
  | map k v ihk ihv =>
    obtain ⟨keyTag, -, h⟩ := bind_eq_ok.mp h
    obtain ⟨valueTag, -, h⟩ := bind_eq_ok.mp h
    obtain ⟨key, hkey, h⟩ := bind_eq_ok.mp h
    obtain ⟨value, hvalue, h⟩ := bind_eq_ok.mp h
    obtain rfl := Except.ok.inj h
    exact writeMap_performs hname
      (performs_item (by decide) level) (performs_item (by decide) level)
      (ihk (dot_not_mem_item (by decide) level) hkey)
      (ihv (dot_not_mem_item (by decide) level) hvalue)
  | enum n =>
    obtain rfl := Except.ok.inj h
    exact performs_enum_write hname
  | struct n =>
    obtain rfl := Except.ok.inj h
    exact performs_struct_write hname
  | reference n => cases h

end Writing

/-! ## The codecs agree -/

/-- **A decoder and an encoder of one type make the same calls.**  There is an expression that reads
    a value exactly where there are statements that write one, namely for the types without voids
    and unresolved names inside, and then both make the calls of the type, in its order. -/
theorem codecs_agree {t : FieldType} {name : String} (ht : t.HasIdentifiers)
    (hname : Text.isIdentifier name.toList = true) (level : Nat) :
    ((∃ r, readValue inputProtocol toString level t = .ok r) ↔ t.Codable) ∧
    ((∃ w, writeValue outputProtocol toString level name t = .ok w) ↔ t.Codable) ∧
    ∀ r w, readValue inputProtocol toString level t = .ok r →
      writeValue outputProtocol toString level name t = .ok w →
      reading.calls r.toList = wireCalls t ∧ writing.calls w.toList = wireCalls t := by
  refine ⟨⟨?_, fun h => exists_readValue inputProtocol toString h level⟩,
    ⟨?_, fun h => exists_writeValue outputProtocol toString h level name⟩, ?_⟩
  · rintro ⟨r, hr⟩
    exact codable_of_readValue inputProtocol toString hr
  · rintro ⟨w, hw⟩
    exact codable_of_writeValue outputProtocol toString hw
  · intro r w hr hw
    have hnodot := dot_not_mem_of_isIdentifier hname
    exact ⟨(readValue_performs ht hr).calls_eq, (writeValue_performs hnodot hw).calls_eq⟩

/-- A map from texts to lists of structs. -/
theorem codecs_agree_map_of_lists :
    ∃ r w,
      readValue inputProtocol toString 0 (.map (.base .string) (.list (.struct "User"))) = .ok r ∧
      writeValue outputProtocol toString 0 "users" (.map (.base .string) (.list (.struct "User"))) =
        .ok w ∧
      reading.calls r.toList = [.operation "MapBegin", .operation "String", .operation "ListBegin",
        .struct, .operation "ListEnd", .operation "MapEnd"] ∧
      writing.calls w.toList = reading.calls r.toList := by
  have huser : Text.isIdentifier "User".toList = true := by decide
  have ht : (FieldType.map (.base .string) (.list (.struct "User"))).HasIdentifiers :=
    ⟨trivial, huser⟩
  have hname : Text.isIdentifier "users".toList = true := by decide
  have hcodable : (FieldType.map (.base .string) (.list (.struct "User"))).Codable := by simp
  obtain ⟨hread, hwrite, hcalls⟩ := codecs_agree ht hname 0
  obtain ⟨r, hr⟩ := hread.mpr hcodable
  obtain ⟨w, hw⟩ := hwrite.mpr hcodable
  obtain ⟨hr', hw'⟩ := hcalls r w hr hw
  exact ⟨r, w, hr, hw, hr', hw'.trans hr'.symm⟩

end Scala

end ThriftScala
