/-
  What the words in the text of an enum mean.

  A word stands for the definition that is nearest to it.  Around the body of a method there is the
  parameter of the method first, then what the object of the enum defines (the objects of its
  members, three methods and the list), then the enum itself, and whatever is defined elsewhere last
  (`EnumCode.meaning`).  A reserved word means nothing, and neither does a word that one level
  defines twice.

  The fragment writes a member as a bare word in two methods and in the list, and behind the name of
  the enum in the third.  It also takes words from elsewhere, such as `List`.  A `Site` says this of
  a method or the list, and `EnumCode.found?` what an arm comes to there.

  Resolving a word for members with different names is a chain of conditions
  (`meaning_ofMembers`).  From it we read off when the words at a site mean what they are written
  for (`Site.clear_iff`), and put together the names that no member and no enum may have
  (`unshadowed_iff`).
-/
import Mathlib.Data.List.Nodup
import ThriftScala.Proofs.Scala.EnumText

namespace ThriftScala.Scala

/-! ## Levels of definitions -/

/-- What a word means. -/
inductive Meaning where
  /-- The parameter of the method around it. -/
  | parameter
  /-- The object of a member. -/
  | member (name : String)
  /-- A method of the enum, or its list. -/
  | method
  | enum
  /-- Something that is defined elsewhere. -/
  | outside
  | nothing
  deriving DecidableEq, Repr

/-- What the definitions of one level make of a word. -/
def meaningAt (defs : List (String × Meaning)) (word : String) : Option Meaning :=
  (defs.lookup word).map fun m => if (defs.map Prod.fst).count word = 1 then m else .nothing

/-- Is a word no name?  The low line stands for anything in a pattern, and names nothing. -/
def isNoName (word : String) : Bool := isReserved word || word == "_"

/-- What a word means within levels of definitions, the innermost in front. -/
def meaningIn (levels : List (List (String × Meaning))) (word : String) : Meaning :=
  if isNoName word then .nothing else (levels.findSome? (meaningAt · word)).getD .outside

section Levels

variable {defs : List (String × Meaning)} {levels : List (List (String × Meaning))} {word : String}

/-- A level that does not define a word says nothing about it. -/
theorem meaningAt_eq_none (h : word ∉ defs.map Prod.fst) : meaningAt defs word = none := by
  have hlookup : defs.lookup word = none := by
    refine List.lookup_eq_none_iff.mpr fun d hd => ?_
    have hne : word ≠ d.1 := fun heq => h (heq ▸ List.mem_map_of_mem hd)
    simpa using hne
  rw [meaningAt, hlookup, Option.map_none]

/-- A level that defines one word. -/
theorem meaningAt_singleton (name : String) (m : Meaning) :
    meaningAt [(name, m)] word = if word = name then some m else none := by
  split
  · next heq =>
    subst heq
    simp [meaningAt]
  · next hne => exact meaningAt_eq_none (by simpa using hne)

/-- A word that a level does not define is looked up further out. -/
theorem meaningIn_cons_none (h : meaningAt defs word = none) :
    meaningIn (defs :: levels) word = meaningIn levels word := by
  simp only [meaningIn, List.findSome?_cons, h]

/-- A word that a level defines means what the level says. -/
theorem meaningIn_cons_some {m : Meaning} (hword : isNoName word = false)
    (h : meaningAt defs word = some m) : meaningIn (defs :: levels) word = m := by
  simp [meaningIn, hword, h]

/-- What is no name means nothing at any level. -/
theorem meaningIn_noName (hword : isNoName word = true) : meaningIn levels word = .nothing := by
  simp [meaningIn, hword]

end Levels

/-! ## The words of an enum -/

/-- What a look-up finds. -/
inductive Found where
  | member (name : String)
  | failure
  deriving DecidableEq, Repr

/-- What is found where a word is to stand for a member. -/
def Meaning.found? : Meaning → Option Found
  | .member name => some (.member name)
  | _ => none

/-- What the object of an enum defines besides its members. -/
def methodNames : List String := ["apply", "get", "valueOf", "list"]

/-- A method of the enum, or its list: the parameter around its words, the words that it takes from
    elsewhere as terms and as types, and the word that it writes in front of members. -/
structure Site where
  parameter? : Option String
  terms : List String
  types : List String
  qualifier? : Option String

namespace EnumCode

variable (c : EnumCode) (owner : String)

/-- The words of `applyHead` and `applyWording`. -/
def applySite : Site := ⟨some "value", ["String"], ["Int", "NoSuchElementException"], none⟩

/-- The words of `getHead` and `optionWording ""`. -/
def getSite : Site := ⟨some "value", ["scala"], ["Int"], none⟩

/-- The words of `valueOfHead owner` and `optionWording (owner ++ ".")`. -/
def valueOfSite : Site := ⟨some "name", ["scala"], ["String"], some owner⟩

/-- The words of `listHead`. -/
def listSite : Site := ⟨none, ["List"], ["List"], none⟩

/-- What the object of an enum defines. -/
def definitions : List (String × Meaning) :=
  c.objects.map (fun o => (o.name, .member o.name)) ++ methodNames.map (·, .method)

/-- The levels around the words of a method or of the list, called `owner` from outside. -/
def levels (s : Site) : List (List (String × Meaning)) :=
  [s.parameter?.toList.map (·, .parameter), c.definitions, [(owner, .enum)]]

/-- What a word means as a term. -/
def meaning (s : Site) (word : String) : Meaning := meaningIn (c.levels owner s) word

/-- What a word means as a type.  Only the class of the members is defined as one. -/
def typeMeaning (word : String) : Meaning := meaningIn [[(owner, .enum)]] word

/-- Do the words of the text mean what they are written for?  Members are another matter. -/
def intact (s : Site) : Bool :=
  typeMeaning owner owner == .enum &&
    (s.types.all (typeMeaning owner · == .outside) && s.terms.all (c.meaning owner s · == .outside))

/-- What a name of a member means: a bare word what it does as a term, and a word behind another
    one what the object defines, if that is what the other word means. -/
def memberMeaning (s : Site) (name : String) : Meaning :=
  match s.qualifier? with
  | none => c.meaning owner s name
  | some q => if c.meaning owner s q = .enum then meaningIn [c.definitions] name else .nothing

/-- What an answer comes to; nothing, if a word in it means something else. -/
def found? (s : Site) : Answer → Option Found
  | .word name => (c.memberMeaning owner s name).found?.filter fun _ => c.intact owner s
  | .failure => (some .failure).filter fun _ => c.intact owner s

variable {c owner} {s : Site}

/-- A failure is reached exactly if what it is written with is intact. -/
theorem found?_failure : c.found? owner s .failure = some .failure ↔ c.intact owner s = true := by
  cases h : c.intact owner s <;> simp [found?, h]

/-- A word is found as a member exactly if it means one. -/
theorem found?_word {name m : String} : c.found? owner s (.word name) = some (.member m) ↔
    c.intact owner s = true ∧ c.memberMeaning owner s name = .member m := by
  cases h : c.intact owner s <;> cases hname : c.memberMeaning owner s name <;>
    simp [found?, Meaning.found?, h, hname]

end EnumCode

/-! ## Members whose names mean them -/

/-- What the text takes from elsewhere as terms. -/
def outerTerms : List String := ["String", "scala", "List"]

/-- What the text takes from elsewhere as types. -/
def outerTypes : List String := ["Int", "NoSuchElementException", "String", "List"]

/-- The words that are no names for members: the parameter of two methods, what the text takes from
    elsewhere as terms, and what the object defines already. -/
def takenWords : List String := "value" :: (outerTerms ++ methodNames)

/-- The words that hide the enum in front of a member: the parameter of `valueOf`, and what the
    object defines. -/
def hidingWords : List String := "name" :: methodNames

/-- No name in the text of an enum takes the place of another. -/
structure Unshadowed (owner : String) (members : List Member) : Prop where
  names : ∀ m ∈ members, isNoName m.name = false ∧ m.name ≠ owner ∧ m.name ∉ takenWords
  enumName : isNoName owner = false ∧ owner ∉ outerTerms ∧ owner ∉ outerTypes
  qualifier : members ≠ [] → owner ∉ hidingWords

section Members

variable {members : List Member} {owner word : String} {s : Site}

/-- An enum defines its members and its methods. -/
theorem definitions_ofMembers : (EnumCode.ofMembers members).definitions =
    (members.map Member.name).map (fun s => (s, .member s)) ++ methodNames.map (·, .method) := by
  simp only [EnumCode.definitions, EnumCode.ofMembers, List.map_map]
  rfl

/-- What is defined by its own name is found under it. -/
theorem lookup_map_self {f : String → Meaning} : ∀ {names : List String}, word ∈ names →
    (names.map fun s => (s, f s)).lookup word = some (f word)
  | name :: names, h => by
    rw [List.map_cons, List.lookup_cons]
    cases heq : word == name with
    | true => rw [beq_iff_eq.mp heq]
    | false =>
      have hmem := (List.mem_cons.mp h).resolve_left (by simpa using heq)
      exact lookup_map_self hmem

/-- The words that an enum defines, in order. -/
theorem fst_definitions : (EnumCode.ofMembers members).definitions.map Prod.fst =
    members.map Member.name ++ methodNames := by
  simp [definitions_ofMembers, Function.comp_def]

/-- The name of a member stands for it, unless it is that of a method. -/
theorem meaningAt_member (hnodup : (members.map Member.name).Nodup)
    (hword : word ∈ members.map Member.name) :
    meaningAt (EnumCode.ofMembers members).definitions word =
      some (if word ∈ methodNames then .nothing else .member word) := by
  have hlookup : (EnumCode.ofMembers members).definitions.lookup word = some (.member word) := by
    rw [definitions_ofMembers, List.lookup_append, lookup_map_self hword]
    rfl
  have hcount := List.count_eq_one_of_mem hnodup hword
  rw [meaningAt, hlookup, fst_definitions, List.count_append, hcount, Option.map_some]
  split <;> rename_i h
  · rw [if_neg]
    intro hmethod
    have hpos := List.count_pos_iff.mpr hmethod
    omega
  · rw [if_pos]
    by_contra hmethod
    exact h (by rw [List.count_eq_zero_of_not_mem hmethod])

/-- The name of a method stands for it, unless it is that of a member. -/
theorem meaningAt_other (hword : word ∉ members.map Member.name) (hmethod : word ∉ methodNames) :
    meaningAt (EnumCode.ofMembers members).definitions word = none := by
  refine meaningAt_eq_none ?_
  rw [fst_definitions, List.mem_append]
  rintro (h | h)
  · exact hword h
  · exact hmethod h

/-- A method is what its name means unless a member takes the name. -/
theorem meaningAt_method (hword : word ∉ members.map Member.name) (hmethod : word ∈ methodNames) :
    meaningAt (EnumCode.ofMembers members).definitions word = some .method := by
  have hlookup : (EnumCode.ofMembers members).definitions.lookup word = some .method := by
    have hnone : ((members.map Member.name).map (fun s => (s, Meaning.member s))).lookup word =
        none := by
      refine List.lookup_eq_none_iff.mpr fun d hd => ?_
      obtain ⟨name, hname, rfl⟩ := List.mem_map.mp hd
      have hne : word ≠ name := fun heq => hword (heq ▸ hname)
      simpa using hne
    rw [definitions_ofMembers, List.lookup_append, hnone, lookup_map_self hmethod]
    rfl
  have hzero := List.count_eq_zero_of_not_mem hword
  have hone := List.count_eq_one_of_mem (l := methodNames) (by decide) hmethod
  rw [meaningAt, hlookup, fst_definitions, List.count_append, hzero, hone]
  rfl

/-- What a word means in the text of an enum, from the inside to the outside. -/
theorem meaning_ofMembers (hnodup : (members.map Member.name).Nodup) (s : Site) (word : String) :
    (EnumCode.ofMembers members).meaning owner s word =
      if isNoName word = true then .nothing
      else if s.parameter? = some word then .parameter
      else if word ∈ members.map Member.name then
        (if word ∈ methodNames then .nothing else .member word)
      else if word ∈ methodNames then .method
      else if word = owner then .enum
      else .outside := by
  unfold EnumCode.meaning EnumCode.levels
  split_ifs with hword hparameter hmember hmethod hmethod howner
  · exact meaningIn_noName hword
  all_goals rw [Bool.not_eq_true] at hword
  · refine meaningIn_cons_some hword ?_
    rw [hparameter]
    exact (meaningAt_singleton word .parameter).trans (if_pos rfl)
  all_goals
    have hskip : meaningAt (s.parameter?.toList.map (·, .parameter)) word = none :=
      meaningAt_eq_none (by simpa using hparameter)
    rw [meaningIn_cons_none hskip]
  · exact meaningIn_cons_some hword ((meaningAt_member hnodup hmember).trans (by rw [if_pos hmethod]))
  · exact meaningIn_cons_some hword
      ((meaningAt_member hnodup hmember).trans (by rw [if_neg hmethod]))
  · exact meaningIn_cons_some hword (meaningAt_method hmember hmethod)
  all_goals rw [meaningIn_cons_none (meaningAt_other hmember hmethod)]
  · exact meaningIn_cons_some hword ((meaningAt_singleton owner .enum).trans (if_pos howner))
  · rw [meaningIn_cons_none ((meaningAt_singleton owner .enum).trans (if_neg howner))]
    simp [meaningIn, hword]

/-- A word means the enum if nothing nearer has the enum's name. -/
theorem meaning_enum_iff (hnodup : (members.map Member.name).Nodup) :
    (EnumCode.ofMembers members).meaning owner s word = .enum ↔
      isNoName word = false ∧ s.parameter? ≠ some word ∧ word ∉ members.map Member.name ∧
        word ∉ methodNames ∧ word = owner := by
  rw [meaning_ofMembers hnodup]
  split_ifs <;> simp_all

/-- A word comes from elsewhere if nothing in the text has this name. -/
theorem meaning_outside_iff (hnodup : (members.map Member.name).Nodup) :
    (EnumCode.ofMembers members).meaning owner s word = .outside ↔
      isNoName word = false ∧ s.parameter? ≠ some word ∧ word ∉ members.map Member.name ∧
        word ∉ methodNames ∧ word ≠ owner := by
  rw [meaning_ofMembers hnodup]
  split_ifs <;> simp_all

/-- What a word means behind the name of the enum. -/
theorem meaningIn_definitions (hnodup : (members.map Member.name).Nodup)
    (hword : word ∈ members.map Member.name) :
    meaningIn [(EnumCode.ofMembers members).definitions] word =
      if isNoName word = true ∨ word ∈ methodNames then .nothing else .member word := by
  split_ifs with h
  · rcases h with h | hmethod
    · exact meaningIn_noName h
    · cases hnone : isNoName word with
      | true => exact meaningIn_noName hnone
      | false =>
        exact meaningIn_cons_some hnone
          ((meaningAt_member hnodup hword).trans (by rw [if_pos hmethod]))
  · obtain ⟨hname, hmethod⟩ := not_or.mp h
    exact meaningIn_cons_some (Bool.not_eq_true _ ▸ hname)
      ((meaningAt_member hnodup hword).trans (by rw [if_neg hmethod]))

/-- As a type, only the name of the enum means something inside. -/
theorem typeMeaning_eq : EnumCode.typeMeaning owner word =
    if isNoName word = true then .nothing else if word = owner then .enum else .outside := by
  unfold EnumCode.typeMeaning
  split_ifs with hword howner
  · exact meaningIn_noName hword
  all_goals rw [Bool.not_eq_true] at hword
  · exact meaningIn_cons_some hword ((meaningAt_singleton owner .enum).trans (if_pos howner))
  · rw [meaningIn_cons_none ((meaningAt_singleton owner .enum).trans (if_neg howner))]
    simp [meaningIn, hword]

/-- When the words of the text mean what they are written for. -/
theorem intact_iff (hnodup : (members.map Member.name).Nodup) :
    (EnumCode.ofMembers members).intact owner s = true ↔
      isNoName owner = false ∧
      (∀ t ∈ s.types, isNoName t = false ∧ t ≠ owner) ∧
      ∀ w ∈ s.terms, isNoName w = false ∧ s.parameter? ≠ some w ∧ w ∉ members.map Member.name ∧
        w ∉ methodNames ∧ w ≠ owner := by
  have htype (t : String) : EnumCode.typeMeaning owner t = .outside ↔
      isNoName t = false ∧ t ≠ owner := by
    rw [typeMeaning_eq]
    split_ifs <;> simp_all
  have howner : EnumCode.typeMeaning owner owner = .enum ↔ isNoName owner = false := by
    rw [typeMeaning_eq]
    split_ifs <;> simp_all
  simp only [EnumCode.intact, Bool.and_eq_true, beq_iff_eq, List.all_eq_true, htype, howner,
    meaning_outside_iff hnodup]

/-- When the name of a member means it. -/
theorem memberMeaning_iff (hnodup : (members.map Member.name).Nodup) {m : Member}
    (hm : m ∈ members) :
    (EnumCode.ofMembers members).memberMeaning owner s m.name = .member m.name ↔
      isNoName m.name = false ∧ m.name ∉ methodNames ∧
      (s.qualifier? = none → s.parameter? ≠ some m.name) ∧
      ∀ q, s.qualifier? = some q → isNoName q = false ∧ s.parameter? ≠ some q ∧
        q ∉ members.map Member.name ∧ q ∉ methodNames ∧ q = owner := by
  have hmem : m.name ∈ members.map Member.name := List.mem_map_of_mem hm
  cases hq : s.qualifier? with
  | none =>
    simp only [EnumCode.memberMeaning, hq, meaning_ofMembers hnodup]
    split_ifs <;> simp_all
  | some q =>
    simp only [EnumCode.memberMeaning, hq, meaning_enum_iff hnodup,
      meaningIn_definitions hnodup hmem]
    split_ifs with henum hname
    · refine iff_of_false nofun fun h => ?_
      exact hname.elim (by simp [h.1]) h.2.1
    · obtain ⟨hname, hmethod⟩ := not_or.mp hname
      refine iff_of_true rfl ⟨by simpa using hname, hmethod, nofun, ?_⟩
      rintro _ ⟨⟩
      exact henum
    · exact iff_of_false nofun fun h => henum (h.2.2.2 q rfl)

/-- The words at a site mean what they are written for, the names of members included. -/
structure Site.Clear (s : Site) (owner : String) (members : List Member) : Prop where
  owner_isName : isNoName owner = false
  types : ∀ t ∈ s.types, isNoName t = false ∧ t ≠ owner
  terms : ∀ w ∈ s.terms, isNoName w = false ∧ s.parameter? ≠ some w ∧
    w ∉ members.map Member.name ∧ w ∉ methodNames ∧ w ≠ owner
  names : ∀ m ∈ members, isNoName m.name = false ∧ m.name ∉ methodNames ∧
    (s.qualifier? = none → s.parameter? ≠ some m.name)
  qualifier : members ≠ [] → ∀ q, s.qualifier? = some q → isNoName q = false ∧
    s.parameter? ≠ some q ∧ q ∉ members.map Member.name ∧ q ∉ methodNames ∧ q = owner

/-- A site is clear exactly if it is intact and every member is what its name means there. -/
theorem Site.clear_iff (hnodup : (members.map Member.name).Nodup) :
    s.Clear owner members ↔ (EnumCode.ofMembers members).intact owner s = true ∧
      ∀ m ∈ members,
        (EnumCode.ofMembers members).memberMeaning owner s m.name = .member m.name := by
  rw [intact_iff hnodup]
  constructor
  · intro h
    refine ⟨⟨h.owner_isName, h.types, h.terms⟩, fun m hm => (memberMeaning_iff hnodup hm).mpr ?_⟩
    obtain ⟨hname, hmethod, hbare⟩ := h.names m hm
    exact ⟨hname, hmethod, hbare, h.qualifier (List.ne_nil_of_mem hm)⟩
  · rintro ⟨⟨howner, htypes, hterms⟩, hmembers⟩
    refine ⟨howner, htypes, hterms, fun m hm => ?_, fun hne => ?_⟩
    · obtain ⟨hname, hmethod, hbare, -⟩ := (memberMeaning_iff hnodup hm).mp (hmembers m hm)
      exact ⟨hname, hmethod, hbare⟩
    · obtain ⟨m, hm⟩ := List.exists_mem_of_ne_nil members hne
      exact ((memberMeaning_iff hnodup hm).mp (hmembers m hm)).2.2.2

/-- The sites of the text of an enum. -/
def sites (owner : String) : List Site :=
  [EnumCode.applySite, EnumCode.getSite, EnumCode.valueOfSite owner, EnumCode.listSite]

/-- What the sites have in common. -/
theorem sites_words : ∀ s ∈ sites owner,
    (∀ t ∈ s.types, t ∈ outerTypes) ∧
    (∀ w ∈ s.terms, w ∈ outerTerms ∧ s.parameter? ≠ some w) ∧
    (s.qualifier? = none → s.parameter? = some "value" ∨ s.parameter? = none) ∧
    ∀ q, s.qualifier? = some q → q = owner ∧ s.parameter? = some "name" := by
  simp [sites, EnumCode.applySite, EnumCode.getSite, EnumCode.valueOfSite, EnumCode.listSite,
    outerTypes, outerTerms]

/-- The words that an enum takes from outside are names, and none of its methods. -/
theorem outerTerms_names : ∀ w ∈ outerTerms, isNoName w = false ∧ w ∉ methodNames := by decide

theorem outerTypes_names : ∀ t ∈ outerTypes, isNoName t = false := by decide

/-- Where no name takes the place of another, the words at every site are clear. -/
theorem Unshadowed.clear (h : Unshadowed owner members) : ∀ s ∈ sites owner,
    s.Clear owner members := by
  intro s hs
  obtain ⟨htypes, hterms, hbare, hqualifier⟩ := sites_words s hs
  have htaken : ∀ m ∈ members, m.name ≠ "value" ∧ m.name ∉ outerTerms ∧ m.name ∉ methodNames := by
    intro m hm
    have htaken := (h.names m hm).2.2
    simpa only [takenWords, List.mem_cons, List.mem_append, not_or] using htaken
  -- the name of the enum, the types and terms from outside, the members, the qualifier
  refine ⟨h.enumName.1, fun t ht => ?_, fun w hw => ?_, fun m hm => ?_, fun hne q hq => ?_⟩
  · exact ⟨outerTypes_names t (htypes t ht), fun heq => h.enumName.2.2 (heq ▸ htypes t ht)⟩
  · obtain ⟨houter, hparameter⟩ := hterms w hw
    obtain ⟨hname, hmethod⟩ := outerTerms_names w houter
    refine ⟨hname, hparameter, fun hmem => ?_, hmethod, fun heq => h.enumName.2.1 (heq ▸ houter)⟩
    obtain ⟨m, hm, rfl⟩ := List.mem_map.mp hmem
    exact (htaken m hm).2.1 houter
  · refine ⟨(h.names m hm).1, (htaken m hm).2.2, fun hnone hparameter => ?_⟩
    rcases hbare hnone with hvalue | hnone
    · rw [hvalue, Option.some.injEq] at hparameter
      exact (htaken m hm).1 hparameter.symm
    · rw [hnone] at hparameter
      cases hparameter
  · obtain ⟨rfl, hparameter⟩ := hqualifier q hq
    have hhiding := h.qualifier hne
    simp only [hidingWords, List.mem_cons, not_or] at hhiding
    refine ⟨h.enumName.1, ?_, fun hmem => ?_, hhiding.2, rfl⟩
    · rw [hparameter, ne_eq, Option.some.injEq]
      exact fun heq => hhiding.1 heq.symm
    · obtain ⟨m, hm, heq⟩ := List.mem_map.mp hmem
      exact (h.names m hm).2.1 heq

/-- Words that are clear at every site leave no name to take the place of another. -/
theorem unshadowed_of_clear (h : ∀ s ∈ sites owner, s.Clear owner members) :
    Unshadowed owner members := by
  have happly := h EnumCode.applySite (by simp [sites])
  have hget := h EnumCode.getSite (by simp [sites])
  have hvalueOf := h (EnumCode.valueOfSite owner) (by simp [sites])
  have hlist := h EnumCode.listSite (by simp [sites])
  have hstring := happly.terms "String" (by simp [EnumCode.applySite])
  have hscala := hget.terms "scala" (by simp [EnumCode.getSite])
  have hlistTerm := hlist.terms "List" (by simp [EnumCode.listSite])
  have hint := happly.types "Int" (by simp [EnumCode.applySite])
  have hthrown := happly.types "NoSuchElementException" (by simp [EnumCode.applySite])
  -- every word is used at one of these sites, so what is clear there hides none of them
  refine ⟨fun m hm => ?_, ⟨happly.owner_isName, ?_, ?_⟩, fun hne => ?_⟩
  · obtain ⟨hname, hmethod, hbare⟩ := happly.names m hm
    have hmem : m.name ∈ members.map Member.name := List.mem_map_of_mem hm
    have hqualifier := (hvalueOf.qualifier (List.ne_nil_of_mem hm) owner rfl).2.2.1
    refine ⟨hname, fun heq => hqualifier (heq ▸ hmem), ?_⟩
    simp only [takenWords, outerTerms, List.cons_append, List.nil_append, List.mem_cons, not_or]
    exact ⟨fun heq => hbare rfl (congrArg some heq.symm), fun heq => hstring.2.2.1 (heq ▸ hmem),
      fun heq => hscala.2.2.1 (heq ▸ hmem), fun heq => hlistTerm.2.2.1 (heq ▸ hmem), hmethod⟩
  · simp only [outerTerms, List.mem_cons, List.not_mem_nil, or_false, not_or]
    exact ⟨hstring.2.2.2.2.symm, hscala.2.2.2.2.symm, hlistTerm.2.2.2.2.symm⟩
  · simp only [outerTypes, List.mem_cons, List.not_mem_nil, or_false, not_or]
    exact ⟨hint.2.symm, hthrown.2.symm, hstring.2.2.2.2.symm, hlistTerm.2.2.2.2.symm⟩
  · obtain ⟨-, hparameter, -, hmethod, -⟩ := hvalueOf.qualifier hne owner rfl
    simp only [hidingWords, List.mem_cons, not_or]
    exact ⟨fun heq => hparameter (congrArg some heq.symm), hmethod⟩

/-- **When members are found.**  At every site the words of the text mean what they are written for,
    and the names of members mean them, exactly if no name takes the place of another. -/
theorem unshadowed_iff (hnodup : (members.map Member.name).Nodup) :
    Unshadowed owner members ↔ ∀ s ∈ sites owner,
      (EnumCode.ofMembers members).intact owner s = true ∧
      ∀ m ∈ members,
        (EnumCode.ofMembers members).memberMeaning owner s m.name = .member m.name := by
  simp only [← Site.clear_iff hnodup]
  exact ⟨Unshadowed.clear, unshadowed_of_clear⟩

end Members

end ThriftScala.Scala
