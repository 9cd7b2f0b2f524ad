/-
  Enums look their values up.

  1. **Look-ups** (`Lookup.answer?`): the subject is what is looked up or its lower case, the first
     arm that accepts the subject answers, and where none does there is no answer.

  2. **Arms of members** answer the first member whose pattern accepts (`answer?_armsOf`).  The
     patterns compare a key: the number of a member, or the lower case of its name.  If no two
     members share their key, the first is the only one, so an argument with the key of a member is
     answered with this member (`answer?_member`), and any other with the failure (`answer?_other`).

  3. **What is found** (`EnumCode.finds?`) is what the words of the answer mean where they stand.
     Members are found by their key exactly if the words at the site mean what they are written for
     (`finds_iff`).

  4. **The text** of an enum whose values are told apart by number, and by name ignoring case, is
     read as code that answers with their names (`EnumCode.Matches`).  It looks each of them up
     exactly if no name takes the place of another (`enumText_looksUp`); a member called `value` is
     hidden by the parameter of two methods.  The names in the text are identifiers of ASCII, and so
     are their lower cases, so the text can be read at all (`legible_ofMembers`).
-/
import ThriftScala.Proofs.Scala.EnumReader
import ThriftScala.Proofs.Scala.EnumScope
import ThriftScala.Proofs.Schema.AsciiNames

namespace ThriftScala.Scala

/-! ## Look-ups -/

/-- What is looked up. -/
inductive Argument where
  | number (n : Int)
  | text (s : String)

/-- The value of a subject.  A number has no lower case. -/
def Subject.value? : Subject → Argument → Option Argument
  | .argument, a => some a
  | .lowered, .text s => some (.text s.lowered)
  | .lowered, .number _ => none

def Pattern.accepts : Pattern → Argument → Bool
  | .number n, .number m => m == n
  | .text s, .text t => t == s
  | .any, _ => true
  | _, _ => false

/-- The answer of the first arm that accepts what is looked up. -/
def Lookup.answer? (l : Lookup) (a : Argument) : Option Answer := do
  let value ← l.subject.value? a
  (l.arms.find? (·.pattern.accepts value)).map Arm.answer

section Arms

variable {κ : Type} {key : Member → κ} {k : κ} {pattern : Member → Pattern} {members : List Member}
  {subject : Subject} {a value : Argument}

/-- Arms of members answer the first member whose pattern accepts, if there is one. -/
theorem answer?_armsOf (hvalue : subject.value? a = some value) :
    Lookup.answer? ⟨subject, armsOf pattern members⟩ a =
      some (((members.find? fun m => (pattern m).accepts value).map
        (Answer.word ·.name)).getD .failure) := by
  simp only [Lookup.answer?, hvalue, Option.bind_eq_bind, Option.bind_some, armsOf,
    List.find?_append, List.find?_map, Function.comp_def]
  cases members.find? fun m => (pattern m).accepts value with
  | none => rfl
  | some m => rfl

/-- If the patterns compare a key that no two members share, the answer is the name of the
    member with the key. -/
theorem answer?_member (hvalue : subject.value? a = some value)
    (haccepts : ∀ m, (pattern m).accepts value = true ↔ key m = k)
    (hkeys : (members.map key).Nodup) {m : Member} (hm : m ∈ members) (hk : key m = k) :
    Lookup.answer? ⟨subject, armsOf pattern members⟩ a = some (.word m.name) := by
  rw [answer?_armsOf hvalue]
  cases hfind : members.find? fun m => (pattern m).accepts value with
  | none => exact absurd ((haccepts m).mpr hk) (List.find?_eq_none.mp hfind m hm)
  | some first =>
    have hfirst := List.find?_some hfind
    have hmem := List.mem_of_find?_eq_some hfind
    -- the arm that comes first is the only one
    have hkey : key first = key m := ((haccepts first).mp hfirst).trans hk.symm
    rw [List.inj_on_of_nodup_map hkeys hmem hm hkey]
    rfl

/-- If no member has the key, the look-up fails. -/
theorem answer?_other (hvalue : subject.value? a = some value)
    (haccepts : ∀ m, (pattern m).accepts value = true ↔ key m = k)
    (hnone : ∀ m ∈ members, key m ≠ k) :
    Lookup.answer? ⟨subject, armsOf pattern members⟩ a = some .failure := by
  have hfind : members.find? (fun m => (pattern m).accepts value) = none :=
    List.find?_eq_none.mpr fun m hm haccepted => hnone m hm ((haccepts m).mp haccepted)
  rw [answer?_armsOf hvalue, hfind]
  rfl

end Arms

theorem accepts_number (n : Int) (m : Member) :
    (Pattern.number m.number).accepts (.number n) = true ↔ m.number = n :=
  beq_iff_eq.trans eq_comm

theorem accepts_name (s : String) (m : Member) :
    (Pattern.text m.name.lowered).accepts (.text s.lowered) = true ↔
      m.name.lowered = s.lowered :=
  beq_iff_eq.trans eq_comm

/-! ## Members that are told apart -/

/-- Names are identifiers, and no two members have the same number, or the same name ignoring
    case. -/
structure ToldApart (members : List Member) : Prop where
  words : ∀ m ∈ members, Text.isWord m.name.toList = true
  numbers : (members.map (·.number)).Nodup
  names : (members.map (·.name.lowered)).Nodup

/-- A look-up answers with the name of the member that is the same as its argument, and fails where
    there is none.  `same` compares members with arguments. -/
structure Lookup.Matches {α : Type} (l : Lookup) (argument : α → Argument)
    (same : Member → α → Prop) (members : List Member) : Prop where
  member : ∀ m ∈ members, ∀ a, same m a → l.answer? (argument a) = some (.word m.name)
  other : ∀ a, (∀ m ∈ members, ¬same m a) → l.answer? (argument a) = some .failure

/-- Has a member this number? -/
def Member.hasNumber (m : Member) (n : Int) : Prop := m.number = n

/-- Has a member this name, ignoring case? -/
def Member.hasName (m : Member) (s : String) : Prop := m.name.lowered = s.lowered

/-- The code answers with the names of these members, by number and by name ignoring case, and lists
    their names. -/
structure EnumCode.Matches (c : EnumCode) (members : List Member) : Prop where
  /-- Every member has its object. -/
  objects : c.objects = members.map Member.object
  apply : c.apply.Matches .number Member.hasNumber members
  get : c.get.Matches .number Member.hasNumber members
  valueOf : c.valueOf.Matches .text Member.hasName members
  list_names : c.list.map ListLine.name = members.map Member.name
  /-- A comma stands behind every line but the last. -/
  list_commas : ∀ i, ∀ h : i < c.list.length, c.list[i].comma = true ↔ i + 1 < c.list.length

section Members

variable {members : List Member}

/-- Members that are told apart by name ignoring case have different names. -/
theorem ToldApart.nodup_names (h : ToldApart members) : (members.map Member.name).Nodup := by
  have hlowered : ((members.map Member.name).map String.lowered).Nodup := by
    rw [List.map_map]
    exact h.names
  exact hlowered.of_map

/-- The code of members that are told apart answers with their names. -/
theorem matches_ofMembers (h : ToldApart members) : (EnumCode.ofMembers members).Matches members where
  objects := rfl
  apply := ⟨fun _ hm n hn => answer?_member rfl (accepts_number n) h.numbers hm hn,
    fun n hn => answer?_other rfl (accepts_number n) hn⟩
  get := ⟨fun _ hm n hn => answer?_member rfl (accepts_number n) h.numbers hm hn,
    fun n hn => answer?_other rfl (accepts_number n) hn⟩
  valueOf := ⟨fun _ hm s hs => answer?_member rfl (accepts_name s) h.names hm hs,
    fun s hs => answer?_other rfl (accepts_name s) hs⟩
  list_names := by
    have hnames := map_markLast Member.name members
    rwa [EnumCode.ofMembers, List.map_map]
  list_commas i hi := by
    have hlength := length_markLast members
    have hlast := markLast_getElem members i (by simpa [EnumCode.ofMembers] using hi)
    simp only [EnumCode.ofMembers, List.length_map] at hi ⊢
    rw [List.getElem_map, Bool.not_eq_true', ← Bool.not_eq_true, hlast]
    omega

end Members

/-! ## What is found -/

section Found

variable {α : Type} (c : EnumCode) (owner : String) (s : Site) (l : Lookup)

/-- What a look-up comes to: the meaning of the words of its answer where it stands. -/
def EnumCode.finds? (a : Argument) : Option Found := (l.answer? a).bind (c.found? owner s)

/-- A look-up finds the member that is the same as its argument, and fails where there is none. -/
structure EnumCode.Finds (argument : α → Argument) (same : Member → α → Prop)
    (members : List Member) : Prop where
  member : ∀ m ∈ members, ∀ a, same m a → c.finds? owner s l (argument a) = some (.member m.name)
  other : ∀ a, (∀ m ∈ members, ¬same m a) → c.finds? owner s l (argument a) = some .failure

variable {c owner s l} {argument : α → Argument} {same : Member → α → Prop} {members : List Member}

/-- Members are found exactly if the words at the site mean what they are written for. -/
theorem finds_iff [Nonempty α] (hmatches : l.Matches argument same members)
    (hsame : ∀ m ∈ members, ∃ a, same m a) :
    c.Finds owner s l argument same members ↔ c.intact owner s = true ∧
      ∀ m ∈ members, c.memberMeaning owner s m.name = .member m.name := by
  have hmember : ∀ m ∈ members, ∀ a, same m a →
      (c.finds? owner s l (argument a) = some (.member m.name) ↔
        c.intact owner s = true ∧ c.memberMeaning owner s m.name = .member m.name) := by
    intro m hm a ha
    rw [EnumCode.finds?, hmatches.member m hm a ha, Option.bind_some, EnumCode.found?_word]
  have hother : ∀ a, (∀ m ∈ members, ¬same m a) →
      (c.finds? owner s l (argument a) = some .failure ↔ c.intact owner s = true) := by
    intro a ha
    rw [EnumCode.finds?, hmatches.other a ha, Option.bind_some, EnumCode.found?_failure]
  constructor
  · intro h
    have hfound : ∀ m ∈ members, c.intact owner s = true ∧
        c.memberMeaning owner s m.name = .member m.name := by
      intro m hm
      obtain ⟨a, ha⟩ := hsame m hm
      exact (hmember m hm a ha).mp (h.member m hm a ha)
    refine ⟨?_, fun m hm => (hfound m hm).2⟩
    -- some argument is looked up: that of a member, or any where there is no member
    cases members with
    | nil =>
      obtain ⟨a⟩ := ‹Nonempty α›
      exact (hother a (by simp)).mp (h.other a (by simp))
    | cons m members => exact (hfound m List.mem_cons_self).1
  · rintro ⟨hintact, hnames⟩
    exact ⟨fun m hm a ha => (hmember m hm a ha).mpr ⟨hintact, hnames m hm⟩,
      fun a ha => (hother a ha).mpr hintact⟩

end Found

/-- The code of an enum called `owner` looks up these members, by number and by name ignoring case,
    and lists them. -/
structure EnumCode.LooksUp (c : EnumCode) (owner : String) (members : List Member) : Prop where
  /-- Every member has its object. -/
  objects : c.objects = members.map Member.object
  apply : c.Finds owner applySite c.apply .number Member.hasNumber members
  get : c.Finds owner getSite c.get .number Member.hasNumber members
  valueOf : c.Finds owner (valueOfSite owner) c.valueOf .text Member.hasName members
  list_intact : c.intact owner listSite = true
  list_members : c.list.map (c.memberMeaning owner listSite ·.name) =
    members.map (.member ·.name)
  /-- A comma stands behind every line but the last. -/
  list_commas : ∀ i, ∀ h : i < c.list.length, c.list[i].comma = true ↔ i + 1 < c.list.length

section Members

variable {members : List Member} {owner : String}

/-- The code of members that are told apart looks them up exactly if no name takes the place of
    another. -/
theorem looksUp_iff (h : ToldApart members) :
    (EnumCode.ofMembers members).LooksUp owner members ↔ Unshadowed owner members := by
  have hmatches := matches_ofMembers h
  -- the list names the members in order, so each line of it means its own member
  have hlist : (EnumCode.ofMembers members).list.map
      ((EnumCode.ofMembers members).memberMeaning owner EnumCode.listSite ·.name) =
        members.map (.member ·.name) ↔ ∀ m ∈ members,
      (EnumCode.ofMembers members).memberMeaning owner EnumCode.listSite m.name =
        .member m.name := by
    have hnames := congrArg
      (List.map ((EnumCode.ofMembers members).memberMeaning owner EnumCode.listSite))
      hmatches.list_names
    rw [List.map_map, List.map_map] at hnames
    exact hnames ▸ List.map_inj_left
  have hnumber : ∀ m ∈ members, ∃ n, m.hasNumber n := fun m _ => ⟨m.number, rfl⟩
  have hname : ∀ m ∈ members, ∃ s, m.hasName s := fun m _ => ⟨m.name, rfl⟩
  rw [unshadowed_iff h.nodup_names]
  simp only [sites, List.forall_mem_cons, List.not_mem_nil, false_implies, implies_true, and_true]
  constructor
  · intro hlooks
    refine ⟨(finds_iff hmatches.apply hnumber).mp hlooks.apply,
      (finds_iff hmatches.get hnumber).mp hlooks.get,
      (finds_iff hmatches.valueOf hname).mp hlooks.valueOf,
      hlooks.list_intact, hlist.mp hlooks.list_members⟩
  · rintro ⟨happly, hget, hvalueOf, hintact, hmembers⟩
    exact {
      objects := rfl
      apply := (finds_iff hmatches.apply hnumber).mpr happly
      get := (finds_iff hmatches.get hnumber).mpr hget
      valueOf := (finds_iff hmatches.valueOf hname).mpr hvalueOf
      list_intact := hintact
      list_members := hlist.mpr hmembers
      list_commas := hmatches.list_commas }

/-- The characters of ASCII identifiers stay such when their case changes. -/
theorem keptByCase_isWordChar : Text.KeptByCase (Text.isWordChar · = true) := by
  refine .of_ascii (fun c hc => ?_) (by decide) (by decide)
  have hname : Text.isNameChar c = true := by
    rw [Text.isNameChar, ← Text.isWordChar, hc, Bool.true_or]
  exact Text.nameChar_lt hname

theorem isPlain_of_isWordChar {c : Char} (h : Text.isWordChar c = true) : isPlain c = true := by
  simp only [isPlain, Bool.and_eq_true, bne_iff_ne]
  refine ⟨⟨?_, ?_⟩, ?_⟩
  all_goals
    rintro rfl
    exact absurd h (by decide)

/-- The code of members whose names are identifiers can be read. -/
theorem legible_ofMembers (h : ∀ m ∈ members, Text.isWord m.name.toList = true) :
    (EnumCode.ofMembers members).Legible := by
  have hplain : ∀ m ∈ members, ∀ c ∈ m.name.toList, isPlain c = true := fun m hm c hc =>
    isPlain_of_isWordChar (Text.isWordChar_of_isWord (h m hm) c hc)
  have hlower : ∀ m ∈ members, ∀ c ∈ m.name.lowered.toList, isPlain c = true := by
    intro m hm c hc
    rw [String.lowered, String.toList_ofList] at hc
    exact isPlain_of_isWordChar
      (keptByCase_isWordChar.lowerFrom (Text.isWordChar_of_isWord (h m hm)) false c hc)
  have harms (pattern : Member → Pattern) (hpattern : ∀ m ∈ members, (pattern m).Legible) :
      ∀ a ∈ armsOf pattern members, a.Legible := by
    refine List.forall_mem_append.mpr ⟨List.forall_mem_map.mpr fun m hm => ?_, ?_⟩
    · exact ⟨hpattern m hm, h m hm⟩
    · exact List.forall_mem_singleton.mpr ⟨trivial, trivial⟩
  have hlist : ∀ l ∈ (EnumCode.ofMembers members).list, Text.isWord l.name.toList = true :=
    List.forall_mem_map.mpr fun p hp => h p.1 (mem_of_mem_markLast hp)
  exact ⟨List.forall_mem_map.mpr fun m hm => ⟨h m hm, hplain m hm⟩,
    harms (.number ·.number) fun _ _ => trivial, harms (.number ·.number) fun _ _ => trivial,
    harms (.text ·.name.lowered) hlower, hlist⟩

end Members

/-- **Enums look their values up.**  An enum whose values are told apart has a text exactly if its
    name is one.  What is read in the text answers with the names of the values, and it looks the
    values up exactly if no name in the text takes the place of another. -/
theorem enumText_looksUp {e : EnumDef} {members : List Member}
    (hvalues : e.values = members.map Member.value) (h : ToldApart members) :
    (e.name.IsText ↔ ∃ text, Generator.enumText e = .ok text) ∧
      ∀ text, Generator.enumText e = .ok text → ∃ owner code, e.name = .str owner ∧
        EnumCode.read owner text = some code ∧ code.Matches members ∧
        (code.LooksUp owner members ↔ Unshadowed owner members) := by
  constructor
  · constructor
    · rintro ⟨owner, hname⟩
      exact ⟨_, enumText_eq_ok.mpr ⟨owner, members, hname, hvalues, rfl⟩⟩
    · rintro ⟨text, htext⟩
      obtain ⟨owner, -, hname, -⟩ := enumText_eq_ok.mp htext
      exact ⟨owner, hname⟩
  · intro text htext
    obtain ⟨owner, declared, hname, hdeclared, rfl⟩ := enumText_eq_ok.mp htext
    have hmembers : members.map Member.value = declared.map Member.value :=
      hvalues.symm.trans hdeclared
    obtain rfl := List.map_injective_iff.mpr Member.value_injective hmembers
    exact ⟨owner, _, hname, EnumCode.read_spelled owner (legible_ofMembers h.words),
      matches_ofMembers h, looksUp_iff h⟩

/-- The values of an enum are looked up, with a negative number and a name that is no word of
    letters.  With a value called `value` they are not: the arm for its number answers with the
    number. -/
theorem colors_looksUp_but_value :
    (ToldApart [⟨"RED", 1⟩, ⟨"Green", -2⟩, ⟨"_3", 300⟩] ∧
      ∃ text code, Generator.enumText ⟨.str "Color",
          [⟨.str "RED", 1⟩, ⟨.str "Green", -2⟩, ⟨.str "_3", 300⟩]⟩ = .ok text ∧
        EnumCode.read "Color" text = some code ∧
        code.LooksUp "Color" [⟨"RED", 1⟩, ⟨"Green", -2⟩, ⟨"_3", 300⟩]) ∧
    ToldApart [⟨"key", 0⟩, ⟨"value", 1⟩] ∧
      ∃ text code, Generator.enumText ⟨.str "Part", [⟨.str "key", 0⟩, ⟨.str "value", 1⟩]⟩ =
          .ok text ∧
        EnumCode.read "Part" text = some code ∧
        code.apply.answer? (.number 1) = some (.word "value") ∧
        code.memberMeaning "Part" EnumCode.applySite "value" = .parameter ∧
        ¬code.LooksUp "Part" [⟨"key", 0⟩, ⟨"value", 1⟩] := by
  constructor
  · have hapart : ToldApart [⟨"RED", 1⟩, ⟨"Green", -2⟩, ⟨"_3", 300⟩] :=
      ⟨by decide, by decide, by decide⟩
    obtain ⟨hexists, hread⟩ := enumText_looksUp (e := ⟨.str "Color",
      [⟨.str "RED", 1⟩, ⟨.str "Green", -2⟩, ⟨.str "_3", 300⟩]⟩) rfl hapart
    obtain ⟨text, htext⟩ := hexists.mp ⟨"Color", rfl⟩
    obtain ⟨owner, code, howner, hcode, -, hlooks⟩ := hread text htext
    cases howner
    exact ⟨hapart, text, code, htext, hcode, hlooks.mpr ⟨by decide, by decide, by decide⟩⟩
  · have hapart : ToldApart [⟨"key", 0⟩, ⟨"value", 1⟩] := ⟨by decide, by decide, by decide⟩
    obtain ⟨hexists, hread⟩ := enumText_looksUp (e := ⟨.str "Part",
      [⟨.str "key", 0⟩, ⟨.str "value", 1⟩]⟩) rfl hapart
    obtain ⟨text, htext⟩ := hexists.mp ⟨"Part", rfl⟩
    obtain ⟨owner, code, howner, hcode, hmatches, hlooks⟩ := hread text htext
    cases howner
    have hvalue := hmatches.apply.member ⟨"value", 1⟩ (by simp) 1 rfl
    have hmeaning : code.memberMeaning "Part" EnumCode.applySite "value" = .parameter := rfl
    refine ⟨hapart, text, code, htext, hcode, hvalue, hmeaning, fun hfound => ?_⟩
    exact absurd ((hlooks.mp hfound).names ⟨"value", 1⟩ (by simp)) (by decide)

end ThriftScala.Scala
