/-
  The names of members, before and after a conversion.

  A conversion goes over the names of the fields, functions, arguments and exceptions of a document,
  and the generator starts with one.

  1. **Once more** — a converted document stays as it is exactly if each of its names does
     (`Document.normalize_settled`), and then the generator makes the same file of both.

  2. **Alike** — nothing looks at the names of one list (`memberLists`) beside each other.  What
     comes out are the conversions of the names, one by one (`Document.memberLists_normalize`), and
     two members are called alike if their names convert alike.  That takes names with the same
     letters (`Document.TellsApart.of_letters`).
-/
import Mathlib.Data.List.Nodup
import ThriftScala.Proofs.Naming.Letters
import ThriftScala.Proofs.Scala.Assembly

namespace ThriftScala

open Outcome

/-! ## Converting again -/

/-- A name that was converted to the case stays in it. -/
def NamingCase.Settles (case : NamingCase) (name : String) : Prop :=
  case = .screamingSnake → ¬ NamingCase.DigitBeforeCapital name

/-- The names of a function, its arguments and its exceptions. -/
def ServiceFunction.names (f : ServiceFunction) : List Json :=
  f.name :: (f.args ++ f.throws).map (·.name)

/-- The names that a conversion goes over. -/
def Document.names (d : Document) : List Json :=
  d.structs.flatMap (fun s => s.fields.map (·.name)) ++
    d.services.flatMap fun s => s.functions.flatMap (·.names)

/-- The names of the list settle. -/
def AllSettle (case : NamingCase) (names : List Json) : Prop :=
  ∀ name, .str name ∈ names → case.Settles name

/-- Names in a row settle if both parts do. -/
theorem allSettle_append {case : NamingCase} {names more : List Json} :
    AllSettle case (names ++ more) ↔ AllSettle case names ∧ AllSettle case more := by
  simp only [AllSettle, List.mem_append]
  constructor
  · exact fun h => ⟨fun s hs => h s (.inl hs), fun s hs => h s (.inr hs)⟩
  · exact fun h s hs => hs.elim (h.1 s) (h.2 s)

/-- Names from several places settle if those from each place do. -/
theorem allSettle_flatMap {α : Type} {case : NamingCase} {l : List α} {f : α → List Json} :
    AllSettle case (l.flatMap f) ↔ ∀ a ∈ l, AllSettle case (f a) := by
  simp only [AllSettle, List.mem_flatMap]
  constructor
  · exact fun h a ha s hs => h s ⟨a, ha, hs⟩
  · rintro h s ⟨a, ha, hs⟩
    exact h a ha s hs

/-- A name that is a text and the names behind it settle if all of them do. -/
theorem allSettle_cons_str {case : NamingCase} {name : String} {names : List Json} :
    AllSettle case (.str name :: names) ↔ case.Settles name ∧ AllSettle case names := by
  simp only [AllSettle, List.mem_cons]
  constructor
  · exact fun h => ⟨h name (.inl rfl), fun s hs => h s (.inr hs)⟩
  · rintro ⟨hname, hrest⟩ s (heq | hs)
    · cases heq
      exact hname
    · exact hrest s hs

/-- A round over a list leaves it exactly if each step leaves its element. -/
theorem mapM_eq_self_iff {α ε : Type} {f : α → Except ε α} {l : List α} :
    l.mapM f = .ok l ↔ ∀ a ∈ l, f a = .ok a := by
  rw [mapM_eq_ok, List.forall₂_same]

/-- The spelling that was kept is kept. -/
theorem keptSpelling_keptSpelling (case : NamingCase) (spelling : Option String) (s : String) :
    keptSpelling (keptSpelling spelling (.str s)) (.str (case.convert s)) =
      keptSpelling spelling (.str s) := by
  rw [keptSpelling, wireNameOf_keptSpelling]
  rfl

section Again

variable {case : NamingCase}

/-- A renamed field stays as it is exactly if its name settles. -/
theorem Field.normalize_settled {f f' : Field} (h : f.normalize case = .ok f') :
    f'.normalize case = .ok f' ↔ AllSettle case [f'.name] := by
  obtain ⟨s, hs, rfl⟩ := normalize_eq_ok.mp h
  have hnil : AllSettle case [] := fun _ hmem => nomatch hmem
  rw [normalize_eq_ok, allSettle_cons_str, NamingCase.Settles, ← case.convert_convert_iff]
  simp only [hnil, and_true, hs]
  constructor
  · rintro ⟨t, ht, heq⟩
    cases ht
    exact (Json.str.inj (congrArg Field.name heq)).symm
  · intro hsame
    refine ⟨case.convert s, rfl, ?_⟩
    rw [hsame, keptSpelling_keptSpelling]

/-- Renamed fields stay as they are exactly if their names settle. -/
theorem fields_normalize_settled {l l' : List Field} (h : l.mapM (·.normalize case) = .ok l') :
    l'.mapM (·.normalize case) = .ok l' ↔ AllSettle case (l'.map (·.name)) := by
  have heach : ∀ f' ∈ l', (f'.normalize case = .ok f' ↔ AllSettle case [f'.name]) :=
    forall_of_mapM_eq_ok h fun _ _ _ hmade => Field.normalize_settled hmade
  rw [mapM_eq_self_iff, List.map_eq_flatMap, allSettle_flatMap]
  exact forall₂_congr heach

/-- A renamed struct stays as it is exactly if the names of its fields settle. -/
theorem Struct.normalize_settled {s s' : Struct} (h : s.normalize case = .ok s') :
    s'.normalize case = .ok s' ↔ AllSettle case (s'.fields.map (·.name)) := by
  obtain ⟨fields, hfields, h⟩ := bind_eq_ok.mp h
  cases h
  rw [← fields_normalize_settled hfields]
  simp [normalize, bind_eq_ok]

/-- A renamed function stays as it is exactly if its names settle. -/
theorem ServiceFunction.normalize_settled {f f' : ServiceFunction} (h : f.normalize case = .ok f') :
    f'.normalize case = .ok f' ↔ AllSettle case f'.names := by
  obtain ⟨s, args, throws, hs, hargs, hthrows, rfl⟩ := normalize_eq_ok.mp h
  rw [normalize_eq_ok, names, allSettle_cons_str, List.map_append, allSettle_append,
    ← fields_normalize_settled hargs, ← fields_normalize_settled hthrows, NamingCase.Settles,
    ← case.convert_convert_iff]
  simp only [hs]
  constructor
  · rintro ⟨t, args', throws', ht, hargs', hthrows', heq⟩
    cases ht
    have hargsEq : args = args' := congrArg ServiceFunction.args heq
    have hthrowsEq : throws = throws' := congrArg ServiceFunction.throws heq
    subst hargsEq hthrowsEq
    exact ⟨(Json.str.inj (congrArg ServiceFunction.name heq)).symm, hargs', hthrows'⟩
  · rintro ⟨hsame, hargs', hthrows'⟩
    refine ⟨case.convert s, args, throws, rfl, hargs', hthrows', ?_⟩
    rw [hsame, keptSpelling_keptSpelling]

/-- A renamed service stays as it is exactly if the names of its functions settle. -/
theorem Service.normalize_settled {s s' : Service} (h : s.normalize case = .ok s') :
    s'.normalize case = .ok s' ↔ AllSettle case (s'.functions.flatMap (·.names)) := by
  obtain ⟨functions, hfunctions, h⟩ := bind_eq_ok.mp h
  cases h
  have heach : ∀ f ∈ functions, (f.normalize case = .ok f ↔ AllSettle case f.names) :=
    forall_of_mapM_eq_ok hfunctions fun _ _ _ hmade => ServiceFunction.normalize_settled hmade
  rw [allSettle_flatMap, ← forall₂_congr heach, ← mapM_eq_self_iff]
  simp [normalize, bind_eq_ok]

/-- A converted document stays exactly if its names do. -/
theorem Document.normalize_settled {d d' : Document} (h : d.normalize case = .ok d') :
    d'.normalize case = .ok d' ↔ AllSettle case d'.names := by
  obtain ⟨structs, services, hstructs, hservices, rfl⟩ := normalize_eq_ok.mp h
  have hstruct : ∀ s ∈ structs,
      (s.normalize case = .ok s ↔ AllSettle case (s.fields.map (·.name))) :=
    forall_of_mapM_eq_ok hstructs fun _ _ _ hmade => Struct.normalize_settled hmade
  have hservice : ∀ s ∈ services,
      (s.normalize case = .ok s ↔ AllSettle case (s.functions.flatMap (·.names))) :=
    forall_of_mapM_eq_ok hservices fun _ _ _ hmade => Service.normalize_settled hmade
  rw [names, allSettle_append, allSettle_flatMap, allSettle_flatMap, ← forall₂_congr hstruct,
    ← forall₂_congr hservice, ← mapM_eq_self_iff, ← mapM_eq_self_iff, normalize_eq_ok]
  constructor
  · rintro ⟨structs', services', hs, ht, heq⟩
    have hstructsEq : structs = structs' := congrArg Document.structs heq
    have hservicesEq : services = services' := congrArg Document.services heq
    subst hstructsEq hservicesEq
    exact ⟨hs, ht⟩
  · rintro ⟨hs, ht⟩
    exact ⟨structs, services, hs, ht, rfl⟩

end Again

/-- **Converting once more changes nothing**: no name, no document and no generated file, except
    that snake case in capitals breaks a converted name again where a digit stands right in front of
    a capital. -/
theorem NamingCase.normalize_again (case : NamingCase) :
    (∀ s, case.convert (case.convert s) = case.convert s ↔ case.Settles (case.convert s)) ∧
    ∀ d d' : Document, d.normalize case = .ok d' →
      (d'.normalize case = .ok d' ↔ AllSettle case d'.names) ∧
      ∀ g : Scala.Generator, g.settings.namingCase = .ok case → AllSettle case d'.names →
        ∀ options?, g.generate options? d' = g.generate options? d := by
  refine ⟨case.convert_convert_iff, fun d d' hd => ⟨Document.normalize_settled hd, ?_⟩⟩
  intro g hcase hnames options?
  have hagain := (Document.normalize_settled hd).mpr hnames
  have hboth : d'.normalize case = d.normalize case := by rw [hagain, hd]
  simp only [Scala.Generator.generate, hcase, Scala.used_ok, ok_bind, hboth]

/-- A digit that a name has kept is a new place to break.  Where there is none, the converted
    document stays. -/
theorem a1b_changes_again :
    let field (name : String) (spelling? : Option String) : Field :=
      { id := 1, name := .str name, spelling? := spelling?, type := .base .i32 }
    let document (f : Field) : Document :=
      { structs := [{ name := .str "User", fields := [f] }]
        defaultNamespace := .str standardNamespace }
    let d := document (field "user_name" none)
    let d' := document (field "USER_NAME" (some "user_name"))
    let g : Scala.Generator := ⟨{ fieldCase := .str "screaming_snake" }, {}⟩
    NamingCase.screamingSnake.convert "a1b" = "A1B" ∧
    NamingCase.screamingSnake.convert "A1B" ≠ "A1B" ∧
    d.normalize .screamingSnake = .ok d' ∧ d'.normalize .screamingSnake = .ok d' ∧
    g.generate none d' = g.generate none d := by
  intro field document d d' g
  obtain ⟨hnames, hdocuments⟩ := NamingCase.screamingSnake.normalize_again
  have hconvert : NamingCase.screamingSnake.convert "a1b" = "A1B" := by decide
  have hnormal : d.normalize .screamingSnake = .ok d' := rfl
  have hsettle : AllSettle .screamingSnake d'.names := by
    intro name hmem _
    obtain rfl : name = "USER_NAME" := Json.str.inj (List.mem_singleton.mp hmem)
    rintro ⟨c, e, hdigit, -, hin⟩
    have hletters : "USER_NAME".toList.any Char.isDigit = false := by decide
    exact List.any_eq_false.mp hletters c (hin.subset List.mem_cons_self) hdigit
  obtain ⟨hagain, hfile⟩ := hdocuments d d' hnormal
  refine ⟨hconvert, ?_, hnormal, hagain.mpr hsettle, hfile g rfl hsettle none⟩
  have hbreak : NamingCase.DigitBeforeCapital "A1B" := ⟨'1', 'B', rfl, rfl, ['A'], [], rfl⟩
  have hname := hnames "a1b"
  rw [hconvert] at hname
  exact fun hsame => hname.mp hsame rfl hbreak

/-! ## Members that are called alike -/

/-- The lists of names that have to tell members apart: the fields of each struct, the functions of
    each service and the arguments of each function. -/
def Document.memberLists (d : Document) : List (List Json) :=
  d.structs.map (fun s => s.fields.map (·.name)) ++
    d.services.flatMap fun s =>
      s.functions.map (·.name) :: s.functions.map fun f => f.args.map (·.name)

/-- No two members of a list have the same name. -/
def Document.HasDistinctMembers (d : Document) : Prop := ∀ l ∈ d.memberLists, l.Nodup

/-- Members with different names differ in what `key` makes of the names. -/
def Document.TellsApart {α : Type} (key : String → α) (d : Document) : Prop :=
  ∀ l ∈ d.memberLists, ∀ s t, .str s ∈ l → .str t ∈ l → key s = key t → s = t

/-- The name in a case. -/
def NamingCase.nameOf (case : NamingCase) : Json → Json
  | .str s => .str (case.convert s)
  | v => v

section Alike

variable {case : NamingCase}

/-- A renamed field has the converted name. -/
theorem Field.name_normalize (f f' : Field) (h : f.normalize case = .ok f') :
    f'.name = case.nameOf f.name := by
  obtain ⟨s, hs, rfl⟩ := normalize_eq_ok.mp h
  rw [hs]
  rfl

/-- A renamed function has the converted name. -/
theorem ServiceFunction.name_normalize (f f' : ServiceFunction) (h : f.normalize case = .ok f') :
    f'.name = case.nameOf f.name := by
  obtain ⟨s, args, throws, hs, -, -, rfl⟩ := normalize_eq_ok.mp h
  rw [hs]
  rfl

/-- Renamed fields have the converted names, in order. -/
theorem fieldNames_normalize {l l' : List Field} (h : l.mapM (·.normalize case) = .ok l') :
    l'.map (·.name) = (l.map (·.name)).map case.nameOf := by
  rw [List.map_map]
  exact map_eq_of_mapM Field.name_normalize h

/-- The names of members are converted one by one. -/
theorem Document.memberLists_normalize {d d' : Document} (h : d.normalize case = .ok d') :
    d'.memberLists = d.memberLists.map (·.map case.nameOf) := by
  obtain ⟨structs, services, hstructs, hservices, rfl⟩ := normalize_eq_ok.mp h
  have hstruct : ∀ s s' : Struct, s.normalize case = .ok s' →
      s'.fields.map (·.name) = (s.fields.map (·.name)).map case.nameOf := by
    intro s s' hs
    obtain ⟨fields, hfields, hs⟩ := bind_eq_ok.mp hs
    cases hs
    exact fieldNames_normalize hfields
  have hargs : ∀ f f' : ServiceFunction, f.normalize case = .ok f' →
      f'.args.map (·.name) = (f.args.map (·.name)).map case.nameOf := by
    intro f f' hf
    obtain ⟨s, args, throws, -, hargs, -, rfl⟩ := ServiceFunction.normalize_eq_ok.mp hf
    exact fieldNames_normalize hargs
  -- a service gives the list of its functions and the arguments of each of them
  have hservice : ∀ s s' : Service, s.normalize case = .ok s' →
      (s'.functions.map (·.name) :: s'.functions.map fun f => f.args.map (·.name)) =
        (s.functions.map (·.name) :: s.functions.map fun f => f.args.map (·.name)).map
          (·.map case.nameOf) := by
    intro s s' hs
    obtain ⟨functions, hfunctions, hs⟩ := bind_eq_ok.mp hs
    cases hs
    rw [List.map_cons, List.map_map, List.map_map,
      map_eq_of_mapM ServiceFunction.name_normalize hfunctions, map_eq_of_mapM hargs hfunctions]
    rfl
  rw [memberLists, memberLists, map_eq_of_mapM hstruct hstructs, List.flatMap_def,
    map_eq_of_mapM hservice hservices, List.map_append, List.map_map, List.map_flatMap,
    List.flatMap_def]
  rfl

/-- The names of members that can be converted are texts. -/
theorem Document.isText_of_mem_memberLists {d : Document} (h : d.IsNamed) {l : List Json}
    (hl : l ∈ d.memberLists) {v : Json} (hv : v ∈ l) : v.IsText := by
  rw [memberLists, List.mem_append] at hl
  rcases hl with hl | hl
  · obtain ⟨s, hs, rfl⟩ := List.mem_map.mp hl
    obtain ⟨f, hf, rfl⟩ := List.mem_map.mp hv
    exact h.structs s hs f hf
  · obtain ⟨s, hs, hl⟩ := List.mem_flatMap.mp hl
    have hfunctions := h.services s hs
    rcases List.mem_cons.mp hl with rfl | hl
    · obtain ⟨f, hf, rfl⟩ := List.mem_map.mp hv
      exact (hfunctions f hf).name
    · obtain ⟨f, hf, rfl⟩ := List.mem_map.mp hl
      obtain ⟨a, ha, rfl⟩ := List.mem_map.mp hv
      exact (hfunctions f hf).args a ha

/-- Members stay apart exactly if the case tells their names apart. -/
theorem Document.distinct_normalize_iff {d d' : Document} (h : d.normalize case = .ok d')
    (hdistinct : d.HasDistinctMembers) : d'.HasDistinctMembers ↔ d.TellsApart case.convert := by
  have hnamed := (exists_normalize case d).mp ⟨d', h⟩
  rw [HasDistinctMembers, memberLists_normalize h, List.forall_mem_map]
  refine forall₂_congr fun l hl => ?_
  rw [List.nodup_map_iff_inj_on (hdistinct l hl)]
  constructor
  · intro hinj s t hs ht hsame
    have heq := hinj (.str s) hs (.str t) ht (congrArg Json.str hsame)
    exact Json.str.inj heq
  · intro hinj v hv w hw hsame
    obtain ⟨s, rfl⟩ := isText_of_mem_memberLists hnamed hl hv
    obtain ⟨t, rfl⟩ := isText_of_mem_memberLists hnamed hl hw
    rw [hinj s t hv hw (Json.str.inj hsame)]

/-- Names with different letters are told apart by every case. -/
theorem Document.TellsApart.of_letters {d : Document} (h : d.TellsApart NamingCase.letters) :
    d.TellsApart case.convert := by
  intro l hl s t hs ht hsame
  refine h l hl s t hs ht ?_
  rw [← NamingCase.letters_convert case s, hsame, NamingCase.letters_convert]

end Alike

namespace Scala.Generator

variable {g : Generator}

/-- **Members get the conversions of their names**, in their order, and nothing else is looked at.
    Members with different names get different ones exactly if the case tells the names apart, and
    it always does where their letters differ, separators and letter case aside. -/
theorem generate_converts_names {case : NamingCase} (hcase : g.settings.namingCase = .ok case)
    {options? : Option (List Json)} {d : Document} {text : String}
    (h : g.generate options? d = .ok text) :
    ∃ d' options, d.normalize case = .ok d' ∧ g.assemble options d' = .ok text ∧
      d'.memberLists = d.memberLists.map (·.map case.nameOf) ∧
      (d.HasDistinctMembers → (d'.HasDistinctMembers ↔ d.TellsApart case.convert)) ∧
      (d.HasDistinctMembers → d.TellsApart NamingCase.letters → d'.HasDistinctMembers) := by
  obtain ⟨words, options, case', d', -, -, hcase', hnormal, hfile⟩ := generate_eq_ok.mp h
  obtain rfl : case = case' := Except.ok.inj (hcase.symm.trans hcase')
  have hiff := Document.distinct_normalize_iff hnormal
  refine ⟨d', options, hnormal, hfile, Document.memberLists_normalize hnormal, hiff, ?_⟩
  exact fun hdistinct hletters => (hiff hdistinct).mpr hletters.of_letters

set_option maxRecDepth 20000 in
/-- Fields with different letters keep different names. -/
theorem user_id_and_user_name_stay_apart :
    let d : Document :=
      { structs := [{ name := .str "User"
                      fields := [{ id := 1, name := .str "user_id", type := .base .i32 },
                                 { id := 2, name := .str "user_name", type := .base .string }] }]
        defaultNamespace := .str standardNamespace }
    (∃ text, generate ⟨{}, {}⟩ none d = .ok text) ∧
      ∃ d', d.normalize .camel = .ok d' ∧ d'.HasDistinctMembers := by
  intro d
  have hok : ∃ text, generate ⟨{}, {}⟩ none d = .ok text := ⟨_, rfl⟩
  refine ⟨hok, ?_⟩
  obtain ⟨text, htext⟩ := hok
  have hcase : ({} : Settings).namingCase = .ok .camel := rfl
  obtain ⟨d', -, hnormal, -, -, -, hletters⟩ := generate_converts_names hcase htext
  have hlists : d.memberLists = [[.str "user_id", .str "user_name"]] := rfl
  have hdistinct : d.HasDistinctMembers := by
    rw [Document.HasDistinctMembers, hlists]
    simp
  have hapart : d.TellsApart NamingCase.letters := by
    have hne : NamingCase.letters "user_id" ≠ NamingCase.letters "user_name" := by decide
    intro l hl s t hs ht hsame
    rw [hlists, List.mem_singleton] at hl
    subst hl
    simp only [List.mem_cons, Json.str.injEq, List.not_mem_nil, or_false] at hs ht
    rcases hs with rfl | rfl <;> rcases ht with rfl | rfl
    · rfl
    · exact absurd hsame hne
    · exact absurd hsame.symm hne
    · rfl
  exact ⟨d', hnormal, hletters hdistinct hapart⟩

set_option maxRecDepth 20000 in
/-- Two fields of a struct get one name, and the file is made all the same. -/
theorem user_id_and_userId_merge :
    let field (id : Int) (name : String) (spelling? : Option String) : Field :=
      { id := id, name := .str name, spelling? := spelling?, type := .base .i32 }
    let document (fields : List Field) : Document :=
      { structs := [{ name := .str "User", fields := fields }]
        defaultNamespace := .str standardNamespace }
    let d := document [field 1 "user_id" none, field 2 "userId" none]
    let d' := document [field 1 "userId" (some "user_id"), field 2 "userId" (some "userId")]
    d.HasDistinctMembers ∧ (∃ text, generate ⟨{}, {}⟩ none d = .ok text) ∧
      ({} : Settings).namingCase = .ok .camel ∧ d.normalize .camel = .ok d' ∧
      ¬ d'.HasDistinctMembers := by
  intro field document d d'
  have hlists : d.memberLists = [[.str "user_id", .str "userId"]] := rfl
  have hlists' : d'.memberLists = [[.str "userId", .str "userId"]] := rfl
  refine ⟨?_, ⟨_, rfl⟩, rfl, rfl, ?_⟩
  · rw [Document.HasDistinctMembers, hlists]
    simp
  · rw [Document.HasDistinctMembers, hlists']
    simp

end Scala.Generator

end ThriftScala
