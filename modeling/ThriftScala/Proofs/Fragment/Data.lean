/-
  Which data are models, and which model they are.

  `Value.toDatum` writes a value down as a datum: a model as a mapping, a sequence of models as a
  sequence of mappings.  The reader of data goes back the same way (`Model.ofData_eq_ok`), so data
  are taken exactly if they are values written down, and they are taken as these values; this is
  the case for the data that `Datum.IsAccepted` describes by their shape (`Datum.isAccepted_iff`).

  Where data are refused, the error is about the first place that is no good.  `Datum.placesIn`
  lists the places of data in the order of a walk that goes inside a value before it goes on
  behind it; `Place.fault?` looks at one place alone.

  `modelOfParts_takes_data` puts this together for a mapping and entries given one by one.
-/
import ThriftScala.Fragment.Library
import ThriftScala.Proofs.Entries
import ThriftScala.Proofs.Outcome

namespace ThriftScala

open Outcome

/-! ## Shapes of data -/

namespace Datum

/-- Is the datum a mapping? -/
def isMapping : Datum → Bool
  | .mapping _ => true
  | _ => false

/-- Has the datum one of the shapes of a value, whatever is inside? -/
def hasShape : Datum → Bool
  | .other _ => false
  | _ => true

/-- The datum is a text, a truth value, a fragment, a mapping to accepted data, or a sequence of
    accepted mappings. -/
inductive IsAccepted : Datum → Prop
  | text (s : String) : IsAccepted (.text s)
  | flag (b : Bool) : IsAccepted (.flag b)
  | fragment (f : Fragment) : IsAccepted (.fragment f)
  | mapping {entries : List (String × Datum)} :
      (∀ e ∈ entries, IsAccepted e.2) → IsAccepted (.mapping entries)
  | sequence {items : List Datum} :
      (∀ d ∈ items, d.isMapping = true) → (∀ d ∈ items, IsAccepted d) →
      IsAccepted (.sequence items)

/-! ## Places in data -/

/-- A place in data. -/
inductive Place where
  /-- The datum of an entry, with its key. -/
  | entry (key : String) (d : Datum)
  /-- An item of the sequence under a key. -/
  | item (key : String) (d : Datum)

/-- What is wrong at a place, not looking inside. -/
def Place.fault? : Place → Option ModelError
  | .entry key d => if d.hasShape then none else some (.badValue key d.kind)
  | .item key d => if d.isMapping then none else some (.badItem key d.kind)

mutual

/-- The places inside the datum under a key. -/
def inside (key : String) : Datum → List Place
  | .mapping entries => placesIn entries
  | .sequence items => itemPlaces key items
  | _ => []

/-- The places in entries: an entry, the places inside it, and so on with the next entry. -/
def placesIn : List (String × Datum) → List Place
  | [] => []
  | (key, d) :: entries => .entry key d :: (d.inside key ++ placesIn entries)

/-- The places in the items of the sequence under a key. -/
def itemPlaces (key : String) : List Datum → List Place
  | [] => []
  | d :: items => .item key d :: (d.inside key ++ itemPlaces key items)

end

/-- What is wrong at the first place that is no good. -/
def firstFault? (places : List Place) : Option ModelError := places.findSome? Place.fault?

/-- The first place comes first. -/
theorem firstFault?_cons (place : Place) (places : List Place) :
    firstFault? (place :: places) = place.fault?.or (firstFault? places) := by
  rw [firstFault?, List.findSome?_cons]
  cases place.fault? <;> rfl

/-- The places in front come first. -/
theorem firstFault?_append (places places' : List Place) :
    firstFault? (places ++ places') = (firstFault? places).or (firstFault? places') :=
  List.findSome?_append

/-- Entries are gone through from the first to the last. -/
theorem placesIn_append (entries entries' : List (String × Datum)) :
    placesIn (entries ++ entries') = placesIn entries ++ placesIn entries' := by
  induction entries with
  | nil => rfl
  | cons e entries ih =>
    obtain ⟨key, d⟩ := e
    rw [List.cons_append, placesIn, placesIn, ih, List.cons_append, List.append_assoc]

end Datum

open Datum

/-! ## The error is about the first place that is no good -/

mutual

/-- Taking a datum over stops at the first fault inside of it. -/
theorem Value.stops_ofDatum (key : String) : ∀ d : Datum,
    StopsWith (Value.ofDatum key d) (firstFault? (.entry key d :: d.inside key))
  | .text s => .ok _
  | .flag b => .ok _
  | .fragment f => .ok _
  | .mapping entries => by
    have h := Model.stops_ofData entries
    rw [Value.ofDatum]
    exact h.map _
  | .sequence items => by
    have h := Value.stops_itemsOfData key items
    rw [Value.ofDatum]
    exact h.map _
  | .other v => .error _

/-- Taking entries over stops at the first fault among them. -/
theorem Model.stops_ofData : ∀ entries : List (String × Datum),
    StopsWith (Model.ofData entries) (firstFault? (placesIn entries))
  | [] => .ok _
  | (key, d) :: entries => by
    have hvalue := Value.stops_ofDatum key d
    have hrest := Model.stops_ofData entries
    have hplaces : firstFault? (placesIn ((key, d) :: entries)) =
        (firstFault? (.entry key d :: d.inside key)).or (firstFault? (placesIn entries)) := by
      rw [placesIn, ← List.cons_append, firstFault?_append]
    rw [hplaces, Model.ofData]
    exact hvalue.bind fun v => hrest.map _

/-- Taking items over stops at the first fault among them. -/
theorem Value.stops_itemsOfData (key : String) : ∀ items : List Datum,
    StopsWith (Value.itemsOfData key items) (firstFault? (itemPlaces key items))
  | [] => .ok _
  | .mapping entries :: items => by
    have hmodel := Model.stops_ofData entries
    have hrest := Value.stops_itemsOfData key items
    have hplaces : firstFault? (itemPlaces key (.mapping entries :: items)) =
        (firstFault? (placesIn entries)).or (firstFault? (itemPlaces key items)) := by
      rw [itemPlaces, firstFault?_cons, firstFault?_append]
      rfl
    rw [hplaces, Value.itemsOfData]
    exact hmodel.bind fun m => hrest.map _
  -- an item of another shape is the first fault itself, whatever is inside and behind it
  | .text s :: items => .error _
  | .flag b :: items => .error _
  | .fragment f :: items => .error _
  | .sequence ds :: items => .error _
  | .other v :: items => .error _

end

/-! ## What is read is what was written down -/

mutual

/-- **A value that is taken over again is itself.** -/
theorem Value.ofDatum_toDatum (key : String) : ∀ v : Value, Value.ofDatum key v.toDatum = .ok v
  | .text _ => rfl
  | .flag _ => rfl
  | .fragment _ => rfl
  | .model m => by rw [Value.toDatum, Value.ofDatum, Model.ofData_toData m, map_ok]
  | .sequence items => by
    rw [Value.toDatum, Value.ofDatum, Value.itemsOfData_itemsToData key items, map_ok]

/-- A model that is taken over again is itself. -/
theorem Model.ofData_toData : ∀ m : List (String × Value), Model.ofData (Model.toData m) = .ok m
  | [] => rfl
  | (key, v) :: m => by
    rw [Model.toData, Model.ofData, Value.ofDatum_toDatum key v, Model.ofData_toData m]
    rfl

/-- Items that are taken over again are themselves. -/
theorem Value.itemsOfData_itemsToData (key : String) : ∀ items : List (List (String × Value)),
    Value.itemsOfData key (Value.itemsToData items) = .ok items
  | [] => rfl
  | m :: items => by
    rw [Value.itemsToData, Value.itemsOfData, Model.ofData_toData m,
      Value.itemsOfData_itemsToData key items]
    rfl

end

mutual

/-- A datum that was taken over can be read off its value. -/
theorem Value.toDatum_of_ofDatum (key : String) : ∀ (d : Datum) {v : Value},
    Value.ofDatum key d = .ok v → v.toDatum = d
  | .text s, v, h => by
    cases h
    rfl
  | .flag b, v, h => by
    cases h
    rfl
  | .fragment f, v, h => by
    cases h
    rfl
  | .mapping entries, v, h => by
    rw [Value.ofDatum] at h
    obtain ⟨m, hm, rfl⟩ := map_eq_ok.mp h
    rw [Value.toDatum, Model.toData_of_ofData entries hm]
  | .sequence items, v, h => by
    rw [Value.ofDatum] at h
    obtain ⟨ms, hms, rfl⟩ := map_eq_ok.mp h
    rw [Value.toDatum, Value.itemsToData_of_itemsOfData key items hms]
  | .other w, v, h => by cases h

/-- Entries that were taken over can be read off their model. -/
theorem Model.toData_of_ofData : ∀ (entries : List (String × Datum)) {m : Model},
    Model.ofData entries = .ok m → Model.toData m = entries
  | [], m, h => by
    cases h
    rfl
  | (key, d) :: entries, m, h => by
    rw [Model.ofData] at h
    obtain ⟨v, hv, h⟩ := bind_eq_ok.mp h
    obtain ⟨rest, hrest, h⟩ := bind_eq_ok.mp h
    cases h
    rw [Model.toData, Value.toDatum_of_ofDatum key d hv, Model.toData_of_ofData entries hrest]

/-- Items that were taken over can be read off their models. -/
theorem Value.itemsToData_of_itemsOfData (key : String) : ∀ (items : List Datum) {ms : List Model},
    Value.itemsOfData key items = .ok ms → Value.itemsToData ms = items
  | [], ms, h => by
    cases h
    rfl
  | .mapping entries :: items, ms, h => by
    rw [Value.itemsOfData] at h
    obtain ⟨m, hm, h⟩ := bind_eq_ok.mp h
    obtain ⟨rest, hrest, h⟩ := bind_eq_ok.mp h
    cases h
    rw [Value.itemsToData, Model.toData_of_ofData entries hm,
      Value.itemsToData_of_itemsOfData key items hrest]
  | .text s :: items, ms, h => by cases h
  | .flag b :: items, ms, h => by cases h
  | .fragment f :: items, ms, h => by cases h
  | .sequence ds :: items, ms, h => by cases h
  | .other w :: items, ms, h => by cases h

end

/-- Entries are read as the model that they write down, and as no other. -/
theorem Model.ofData_eq_ok {entries : List (String × Datum)} {m : Model} :
    Model.ofData entries = .ok m ↔ Model.toData m = entries := by
  constructor
  · exact Model.toData_of_ofData entries
  · rintro rfl
    exact Model.ofData_toData m

/-! ## The shapes of what is accepted -/

mutual

/-- The datum of a value is one that is accepted. -/
theorem Value.isAccepted_toDatum : ∀ v : Value, v.toDatum.IsAccepted
  | .text s => .text s
  | .flag b => .flag b
  | .fragment f => .fragment f
  | .model m => .mapping (Model.isAccepted_toData m)
  | .sequence items =>
    .sequence (fun d hd => (Value.isAccepted_itemsToData items d hd).1)
      fun d hd => (Value.isAccepted_itemsToData items d hd).2

/-- The data of a model are accepted. -/
theorem Model.isAccepted_toData :
    ∀ m : List (String × Value), ∀ e ∈ Model.toData m, e.2.IsAccepted
  | [], _, he => by cases he
  | (key, v) :: m, e, he => by
    rw [Model.toData] at he
    rcases List.mem_cons.mp he with rfl | he
    · exact Value.isAccepted_toDatum v
    · exact Model.isAccepted_toData m e he

/-- The data of items are mappings that are accepted. -/
theorem Value.isAccepted_itemsToData : ∀ items : List (List (String × Value)),
    ∀ d ∈ Value.itemsToData items, d.isMapping = true ∧ d.IsAccepted
  | [], _, hd => by cases hd
  | m :: items, d, hd => by
    rw [Value.itemsToData] at hd
    rcases List.mem_cons.mp hd with rfl | hd
    · exact ⟨rfl, .mapping (Model.isAccepted_toData m)⟩
    · exact Value.isAccepted_itemsToData items d hd

end

/-- Entries are those of a model if each datum is that of a value. -/
theorem Model.exists_toData : ∀ {entries : List (String × Datum)},
    (∀ e ∈ entries, ∃ v : Value, v.toDatum = e.2) → ∃ m, Model.toData m = entries
  | [], _ => ⟨[], rfl⟩
  | (key, d) :: entries, h => by
    rw [List.forall_mem_cons] at h
    obtain ⟨⟨v, hv⟩, hentries⟩ := h
    obtain ⟨m, hm⟩ := Model.exists_toData hentries
    exact ⟨(key, v) :: m, by rw [Model.toData, hv, hm]⟩

/-- Mappings are the items of a sequence if each of them is the datum of a value. -/
theorem Value.exists_itemsToData : ∀ {items : List Datum}, (∀ d ∈ items, d.isMapping = true) →
    (∀ d ∈ items, ∃ v : Value, v.toDatum = d) → ∃ ms, Value.itemsToData ms = items
  | [], _, _ => ⟨[], rfl⟩
  | d :: items, hmap, h => by
    rw [List.forall_mem_cons] at hmap h
    obtain ⟨⟨v, rfl⟩, hitems⟩ := h
    obtain ⟨ms, hms⟩ := Value.exists_itemsToData hmap.2 hitems
    -- of all values only a model is written down as a mapping
    cases v with
    | model m => exact ⟨m :: ms, by rw [Value.itemsToData, hms, Value.toDatum]⟩
    | _ => cases hmap.1

/-- The accepted data are the values that are written down. -/
theorem Datum.isAccepted_iff {d : Datum} : d.IsAccepted ↔ ∃ v : Value, v.toDatum = d := by
  constructor
  · intro h
    induction h with
    | text s => exact ⟨.text s, rfl⟩
    | flag b => exact ⟨.flag b, rfl⟩
    | fragment f => exact ⟨.fragment f, rfl⟩
    | mapping _ ih =>
      obtain ⟨m, hm⟩ := Model.exists_toData ih
      exact ⟨.model m, by rw [Value.toDatum, hm]⟩
    | sequence hmap _ ih =>
      obtain ⟨ms, hms⟩ := Value.exists_itemsToData hmap ih
      exact ⟨.sequence ms, by rw [Value.toDatum, hms]⟩
  · rintro ⟨v, rfl⟩
    exact Value.isAccepted_toDatum v

/-- Entries are read exactly if all their data are accepted. -/
theorem Model.exists_ofData_iff {entries : List (String × Datum)} :
    (∃ m, Model.ofData entries = .ok m) ↔ ∀ e ∈ entries, e.2.IsAccepted := by
  simp only [Model.ofData_eq_ok]
  constructor
  · rintro ⟨m, rfl⟩
    exact Model.isAccepted_toData m
  · exact fun h => Model.exists_toData fun e he => Datum.isAccepted_iff.mp (h e he)

/-! ## Entries laid over entries -/

/-- The data of a model have its keys. -/
theorem Model.keys_toData : ∀ m : Model, Entries.keys (Model.toData m) = Entries.keys m
  | [] => rfl
  | (key, v) :: m => by rw [Model.toData, Entries.keys_cons, Entries.keys_cons, keys_toData m]

/-- Under a key the data of a model have the datum of its value. -/
theorem Model.get?_toData (key : String) : ∀ m : Model,
    Entries.get? (Model.toData m) key = (Entries.get? m key).map Value.toDatum
  | [] => rfl
  | (j, v) :: m => by
    rw [Model.toData, Entries.get?_cons, Entries.get?_cons, get?_toData key m]
    split <;> rfl

namespace Fragment

variable {entries others : List (String × Datum)}

/-- With names that can be given, both lists of entries are read, and the second is laid over the
    first. -/
theorem modelOfParts_eq (hnames : ∀ e ∈ others, e.1 ∉ takenNames) :
    modelOfParts (.mapping entries) (.mapping others) = (do
      let below ← (Model.ofData entries).mapError .model
      ((Model.ofData others).mapError .model).map (Entries.update below)) := by
  have hfree : (others.any fun e => takenNames.contains e.1) = false := by
    simpa using hnames
  rw [modelOfParts, hfree]
  rfl

/-- A model is made of two parts exactly if both can be taken over. -/
theorem modelOfParts_eq_ok (hnames : ∀ e ∈ others, e.1 ∉ takenNames) {m : Model} :
    modelOfParts (.mapping entries) (.mapping others) = .ok m ↔
      ∃ below above, Model.toData below = entries ∧ Model.toData above = others ∧
        Entries.update below above = m := by
  simp only [modelOfParts_eq hnames, bind_eq_ok, map_eq_ok, mapError_eq_ok, Model.ofData_eq_ok,
    exists_and_left]

/-- Making a model stops at the first fault, in the mapping before the named entries. -/
theorem modelOfParts_stops (hnames : ∀ e ∈ others, e.1 ∉ takenNames) :
    StopsWith (modelOfParts (.mapping entries) (.mapping others))
      ((firstFault? (placesIn (entries ++ others))).map .model) := by
  have hbelow := (Model.stops_ofData entries).mapError FragmentError.model
  have habove := (Model.stops_ofData others).mapError FragmentError.model
  rw [modelOfParts_eq hnames, placesIn_append, firstFault?_append, Option.map_or]
  exact hbelow.bind fun below => habove.map _

/-- A model holds entries with others laid over them: these replace the values of equal keys where
    they stand, and their other keys follow.  Each value is written down as it was given, and the
    model that is written down is made again. -/
structure Lays (entries others : List (String × Datum)) (m : Model) : Prop where
  keys : Entries.keys m =
    Entries.keys entries ++ (Entries.keys others).filter (· ∉ Entries.keys entries)
  values : ∀ k, (Entries.get? m k).map Value.toDatum =
    (Entries.get? others k).or (Entries.get? entries k)
  again : modelOfParts (.mapping (Model.toData m)) (.mapping []) = .ok m

/-- Updating lays the data of one model over those of another. -/
theorem lays_update {below above : Model} (h : (Entries.keys above).Nodup) :
    Lays (Model.toData below) (Model.toData above) (Entries.update below above) := by
  constructor
  · rw [Entries.keys_update _ h, Model.keys_toData, Model.keys_toData]
  · intro k
    rw [Entries.get?_update h, Model.get?_toData, Model.get?_toData, Option.map_or]
  · -- the written model is read as itself, and nothing is laid over it
    have hnone : ∀ e ∈ ([] : List (String × Datum)), e.1 ∉ takenNames := fun e he => by cases he
    exact (modelOfParts_eq_ok hnone).mpr ⟨_, [], rfl, rfl, Entries.update_nil _⟩

/-- A mapping and entries that are given one by one make a model exactly if all their data are
    accepted.  If not, the error is about the first place that is no good, and if they do, the
    model holds the entries of the mapping with the others laid over them. -/
theorem modelOfParts_takes_data (hnames : ∀ e ∈ others, e.1 ∉ takenNames)
    (hkeys : (Entries.keys others).Nodup) :
    ((∃ m, modelOfParts (.mapping entries) (.mapping others) = .ok m) ↔
      ∀ e ∈ entries ++ others, e.2.IsAccepted) ∧
    (∀ e, modelOfParts (.mapping entries) (.mapping others) = .error e ↔
      ∃ fault, firstFault? (placesIn (entries ++ others)) = some fault ∧ .model fault = e) ∧
    ∀ m, modelOfParts (.mapping entries) (.mapping others) = .ok m → Lays entries others m := by
  refine ⟨?_, ?_, ?_⟩
  · simp only [modelOfParts_eq_ok hnames, List.forall_mem_append, ← Model.exists_ofData_iff,
      Model.ofData_eq_ok]
    constructor
    · rintro ⟨m, below, above, hbelow, habove, -⟩
      exact ⟨⟨below, hbelow⟩, above, habove⟩
    · rintro ⟨⟨below, hbelow⟩, above, habove⟩
      exact ⟨_, below, above, hbelow, habove, rfl⟩
  · intro e
    rw [modelOfParts_stops hnames e, Option.map_eq_some_iff]
  · intro m hm
    obtain ⟨below, above, rfl, rfl, rfl⟩ := (modelOfParts_eq_ok hnames).mp hm
    rw [Model.keys_toData] at hkeys
    exact lays_update hkeys

/-- The text among the dishes comes before what is wrong inside the next one, and before the
    title. -/
example : modelOfParts
    (.mapping [("dishes", .sequence [.mapping [], .text "soup", .mapping [("a", .other .null)]])])
    (.mapping [("title", .other (.int 1))]) = .error (.model (.badItem "dishes" "str")) := rfl

/-- A menu with a nested mapping and a sequence of mappings. -/
def menuData : List (String × Datum) :=
  [("title", .text "Menu"), ("open", .mapping [("today", .flag true)]),
   ("dishes", .sequence [.mapping [("name", .text "soup")], .mapping []])]

/-- Another title, and an entry that the menu has not. -/
def menuParts : List (String × Datum) := [("note", .text "cash only"), ("title", .text "Lunch")]

/-- The other title stands where the first one stood. -/
theorem menu_is_taken :
    (∀ e ∈ menuParts, e.1 ∉ takenNames) ∧ (Entries.keys menuParts).Nodup ∧
      ∃ m, modelOfParts (.mapping menuData) (.mapping menuParts) = .ok m ∧
        Entries.keys m = ["title", "open", "dishes", "note"] ∧
        (Entries.get? m "title").map Value.toDatum = some (.text "Lunch") := by
  have hnames : ∀ e ∈ menuParts, e.1 ∉ takenNames := by
    simp [menuParts, takenNames]
  have hkeys : (Entries.keys menuParts).Nodup := by decide
  have haccepted : ∀ e ∈ menuData ++ menuParts, e.2.IsAccepted :=
    Model.exists_ofData_iff.mp ⟨_, rfl⟩
  obtain ⟨haccepts, -, hlays⟩ := @modelOfParts_takes_data menuData menuParts hnames hkeys
  obtain ⟨m, hm⟩ := haccepts.mpr haccepted
  have hm' := hlays m hm
  exact ⟨hnames, hkeys, m, hm, hm'.keys, hm'.values "title"⟩

end Fragment

end ThriftScala
