/-
  The variables of a codec do not clash, but they may capture other names.

  In the text of a struct whose fields have different names the variables of both methods are apart:
  along every path of scopes all variables have different texts, and every occurrence stands for the
  variable that is meant.  The variables of the fields are different because the names are
  (`decoderVariables_nodup`).  They and those of the methods themselves are of no level, so what
  reads or writes a value of any type can stand among them (`isAround_zero`).  From there on levels
  keep the variables apart, which `read_apart` and `write_apart` show by induction on the type.

  Nothing keeps the names of types and of fields away from the variables.  A decoder names the
  companions of types, and reads something else where a variable around the name has its text
  (`decodeMethod_uncaptured_iff`).  An encoder names the members of the case class, and only the
  protocol that it writes to can stand in their place (`encodeMethod_uncaptured_iff`).  So
  `codec_names_are_meant_iff` says when the methods are hygienic.
-/
import ThriftScala.Proofs.Scala.StructText
import ThriftScala.Proofs.Scala.Totality

namespace ThriftScala.Scala

open Outcome Code

variable {fields : List CodedField} {f : CodedField} {outer : List Variable}

/-- Variables of no level can be around values of level zero. -/
theorem isAround_zero (hnodup : outer.Nodup) (hlevel : ∀ x ∈ outer, x.level? = none) :
    IsAround 0 outer where
  nodup := hnodup
  below x hx n hn := by
    rw [hlevel x hx] at hn
    cases hn

/-- A fixed text may stand where all its variables are in scope. -/
theorem marked_apart {s : String} {allowed : List Variable} (hs : mentions s ⊆ allowed)
    (h : allowed ⊆ outer) : (marked s).Apart outer :=
  apart_marked.mpr (List.Subset.trans hs h)

/-! ## Fields -/

/-- A field's variables are declared among those of all fields. -/
theorem declaration_apart (hvalue : .value f.name ∈ outer) (hflag : .flag f.name ∈ outer) :
    f.declaration.Apart outer := by
  simp [CodedField.declaration, hvalue, hflag]

/-- The check that a field was read looks at its flag, and at nothing else in scope. -/
theorem presence_apart (struct : String) (hflag : .flag f.name ∈ outer) :
    (f.presence struct).Apart outer := by
  unfold CodedField.presence
  split <;> simp [hflag]

/-- An arm needs the protocol, the head of the field and the field's own variables. -/
theorem arm_apart (h : IsAround 0 outer) (hinput : .input ∈ outer) (hfield : .field ∈ outer)
    (hvalue : .value f.name ∈ outer) (hflag : .flag f.name ∈ outer) : f.arm.Apart outer := by
  have hread : f.readValue.Apart outer := by
    have hread := read_apart f.field.type h hinput
    unfold CodedField.readValue
    split <;> simp [hread]
  have hmarked (s : String) (hs : mentions s ⊆ [.input, .field]) : (marked s).Apart outer :=
    marked_apart hs (by simp [hinput, hfield])
  simp (disch := decide +kernel) [CodedField.arm, hvalue, hflag, hread, hmarked]

/-- What writes a field declares a variable for it. -/
theorem writing_apart (f : CodedField) : f.writing.Apart [.output] := by
  have hnodup : [Variable.item f.name, .output].Nodup := by simp
  have haround := isAround_zero hnodup (by simp [Variable.level?])
  have hwrite := write_apart f.field.type (x := .item f.name) haround (by simp) (by simp)
  have hmarked (s : String) (hs : mentions s ⊆ [.output]) :
      (marked s).Apart [.item f.name, .output] := marked_apart hs (by simp)
  have hguard : f.guard.Apart [.output] := by
    unfold CodedField.guard
    split
    · simp
    · split <;> simp
  have hwritten : f.written.Apart [.item f.name, .output] := by
    unfold CodedField.written
    split <;> simp
  simp (disch := decide +kernel) [CodedField.writing, hmarked, hwrite, hguard, hwritten]

/-! ## Methods -/

theorem mem_decoderVariables {x : Variable} :
    x ∈ decoderVariables fields ↔
      (∃ f ∈ fields, x = .value f.name ∨ x = .flag f.name) ∨ x = .done := by
  simp [decoderVariables]

theorem value_mem (hf : f ∈ fields) : .value f.name ∈ decoderVariables fields :=
  mem_decoderVariables.mpr (.inl ⟨f, hf, .inl rfl⟩)

theorem flag_mem (hf : f ∈ fields) : .flag f.name ∈ decoderVariables fields :=
  mem_decoderVariables.mpr (.inl ⟨f, hf, .inr rfl⟩)

theorem done_mem (fields : List CodedField) : .done ∈ decoderVariables fields :=
  mem_decoderVariables.mpr (.inr rfl)

/-- The variables of fields are different if their names are. -/
theorem decoderVariables_nodup (h : (fields.map CodedField.name).Nodup) :
    (decoderVariables fields ++ [Variable.input]).Nodup := by
  have hfields : (fields.flatMap fun f => [Variable.value f.name, .flag f.name]).Nodup := by
    rw [List.nodup_flatMap]
    refine ⟨by simp, ?_⟩
    rw [List.Nodup, List.pairwise_map] at h
    exact h.imp fun hne => by simp [Function.onFun, hne.symm]
  have hdone : (decoderVariables fields).Nodup :=
    hfields.append (List.nodup_singleton _) (by simp)
  exact hdone.append (List.nodup_singleton _) (by simp [mem_decoderVariables])

/-- In the loop the head of a field is declared too. -/
theorem isAround_loop (h : (fields.map CodedField.name).Nodup) :
    IsAround 0 (.field :: (decoderVariables fields ++ [.input])) := by
  have hfield : .field ∉ decoderVariables fields ++ [Variable.input] := by
    simp [mem_decoderVariables]
  refine isAround_zero (List.nodup_cons.mpr ⟨hfield, decoderVariables_nodup h⟩) ?_
  simp only [List.forall_mem_cons, List.forall_mem_append]
  refine ⟨rfl, fun x hx => ?_, rfl, by simp⟩
  rcases mem_decoderVariables.mp hx with ⟨f, -, rfl | rfl⟩ | rfl <;> rfl

theorem decoderLoop_apart (h : (fields.map CodedField.name).Nodup) :
    (decoderLoop fields).Apart (decoderVariables fields ++ [.input]) := by
  have haround := isAround_loop h
  rw [decoderLoop, apart_scope]
  refine ⟨haround.nodup, ?_⟩
  rw [List.singleton_append]
  have hmarked (s : String) (hs : mentions s ⊆ [.field, .done, .input]) :
      (marked s).Apart (.field :: (decoderVariables fields ++ [.input])) :=
    marked_apart hs (by simp [done_mem])
  have harm : ∀ f ∈ fields,
      f.arm.Apart (.field :: (decoderVariables fields ++ [.input])) := fun f hf =>
    arm_apart haround (by simp) (by simp) (by simp [value_mem hf]) (by simp [flag_mem hf])
  simpa (disch := decide +kernel) [hmarked] using harm

/-- **The variables of the method that decodes are apart** if the fields have different names. -/
theorem decodeMethod_apart (struct : String) (h : (fields.map CodedField.name).Nodup) :
    (decodeMethod struct fields).Apart [] := by
  have hhead (s : String) (hs : mentions s ⊆ [.input]) : (marked s).Apart [.input] :=
    marked_apart hs (by simp)
  have hmarked (s : String) (hs : mentions s ⊆ [.done, .input]) :
      (marked s).Apart (decoderVariables fields ++ [.input]) :=
    marked_apart hs (by simp [done_mem])
  have hdeclaration : ∀ f ∈ fields,
      f.declaration.Apart (decoderVariables fields ++ [.input]) := fun f hf =>
    declaration_apart (List.mem_append_left _ (value_mem hf))
      (List.mem_append_left _ (flag_mem hf))
  have hpresence : ∀ f ∈ fields,
      (f.presence struct).Apart (decoderVariables fields ++ [.input]) := fun f hf =>
    presence_apart struct (List.mem_append_left _ (flag_mem hf))
  have hvalue : ∀ f ∈ fields, .value f.name ∈ decoderVariables fields := fun f => value_mem
  simpa (disch := decide +kernel) [decodeMethod, hhead, hmarked, decoderLoop_apart h,
    decoderVariables_nodup h] using ⟨⟨hdeclaration, hpresence⟩, hvalue⟩

/-- The variables of the method that encodes are apart. -/
theorem encodeMethod_apart : (encodeMethod fields).Apart [] := by
  have hmarked (s : String) (hs : mentions s ⊆ [.output]) : (marked s).Apart [.output] :=
    marked_apart hs (by simp)
  simp (disch := decide +kernel) [encodeMethod, hmarked, writing_apart]

/-! ## Words that stand for something else -/

/-- The names of types are the only words of an arm that a variable could take. -/
theorem arm_uncaptured_iff : f.arm.Uncaptured outer ↔
    ∀ p ∈ namesWithin f.field.type, ∀ x ∈ containerVariables 0 p.1 ++ outer,
      x.text ≠ headWord p.2 := by
  rw [← read_uncaptured_iff]
  have hread : f.readValue.Uncaptured outer ↔ (Code.read 0 f.field.type).Uncaptured outer := by
    unfold CodedField.readValue
    split <;> simp
  simp [CodedField.arm, hread]

/-- No name in a type is the text of a variable around it: one of the method that decodes, one of a
    field, or one of a container that the type stands in. -/
def TypesUncaptured (fields : List CodedField) : Prop :=
  ∀ f ∈ fields, ∀ p ∈ namesWithin f.field.type,
    ∀ x ∈ containerVariables 0 p.1 ++ (.field :: (decoderVariables fields ++ [.input])),
      x.text ≠ headWord p.2

/-- **What a decoder names is meant** exactly if no name in a type is the text of a variable around
    it. -/
theorem decodeMethod_uncaptured_iff (struct : String) :
    (decodeMethod struct fields).Uncaptured [] ↔ TypesUncaptured fields := by
  have hdeclaration (f : CodedField) (outer) : f.declaration.Uncaptured outer := by
    simp [CodedField.declaration]
  have hpresence (f : CodedField) (outer) : (f.presence struct).Uncaptured outer := by
    unfold CodedField.presence
    split <;> simp
  simp [decodeMethod, decoderLoop, TypesUncaptured, hdeclaration, hpresence, arm_uncaptured_iff]

/-- A constant is the text of no variable of its field's writing. -/
theorem constant_ne_text {x : Variable} (hx : x ∈ [.item f.name, .output]) :
    x.text ≠ f.constant := by
  intro heq
  have hlast := congrArg (·.toList.getLast?) heq
  have hdesc : f.constant.toList.getLast? = some 'C' := by
    simp [CodedField.constant, fieldConstName, List.getLast?_append]
  rcases List.mem_pair.mp hx with rfl | rfl
  · simp [hdesc, Variable.text, List.getLast?_append] at hlast
  · simp [hdesc, Variable.text] at hlast

/-- A member of the case class is shorter than the variable that is made from its name. -/
theorem item_ne_accessor : (Variable.item f.name).text ≠ headWord f.accessor := by
  intro heq
  have hlength := congrArg String.length heq
  have hhead := length_headWord_le f.accessor
  have hquote : "`".length = 1 := rfl
  have hsuffix : "_item".length = 5 := rfl
  have haccessor : f.accessor.length ≤ f.name.length + 2 := by
    unfold CodedField.accessor quoteKeyword escapeIdentifier
    split
    · simp only [String.length_append]
      omega
    · omega
  simp only [Variable.text, String.length_append] at hlength
  omega

/-- Backticks make no difference: no reserved word is the protocol that is written to. -/
theorem headWord_accessor_iff :
    headWord f.accessor = outputProtocol ↔ headWord f.name = outputProtocol := by
  unfold CodedField.accessor quoteKeyword
  split
  · next hreserved =>
    have hwords : ∀ w ∈ reservedWords,
        headWord (escapeIdentifier w) ≠ outputProtocol ∧ headWord w ≠ outputProtocol := by
      decide +kernel
    obtain ⟨hquoted, hplain⟩ := hwords f.name (List.contains_iff_mem.mp hreserved)
    exact iff_of_false hquoted hplain
  · exact Iff.rfl

/-- Only the protocol that is written to can take the place of a member of the case class. -/
theorem writing_uncaptured_iff :
    f.writing.Uncaptured [.output] ↔ headWord f.name ≠ outputProtocol := by
  have houtput : (∀ x ∈ [Variable.output], x.text ≠ headWord f.accessor) ↔
      headWord f.name ≠ outputProtocol := by
    rw [List.forall_mem_singleton, ne_eq, ne_eq, ← headWord_accessor_iff]
    exact not_congr eq_comm
  -- the guard stands outside the item, so only the protocol can take its accessor
  have hguard : headWord f.name ≠ outputProtocol → f.guard.Uncaptured [.output] := by
    intro hne
    have hpath := uncaptured_path.mpr (houtput.mpr hne)
    unfold CodedField.guard
    split
    · exact ⟨hpath, trivial⟩
    · split
      · exact ⟨hpath, trivial⟩
      · trivial
  -- an accessor never reads as the item, which ends in a suffix no name can have
  have hwritten : f.written.Uncaptured [.item f.name, .output] ↔
      headWord f.name ≠ outputProtocol := by
    have hpath : (path f.accessor).Uncaptured [.item f.name, .output] ↔
        headWord f.name ≠ outputProtocol := by
      rw [uncaptured_path, List.forall_mem_cons, houtput]
      exact and_iff_right item_ne_accessor
    unfold CodedField.written
    split
    · simpa using hpath
    · exact hpath
  have hconstant : (free f.constant).Uncaptured [.item f.name, .output] :=
    uncaptured_free.mpr fun _ => constant_ne_text
  have hwrite : (write 0 (.item f.name) f.field.type).Uncaptured [.item f.name, .output] :=
    write_uncaptured f.field.type
  have hparts : f.writing.Uncaptured [.output] ↔
      f.guard.Uncaptured [.output] ∧ f.written.Uncaptured [.item f.name, .output] := by
    simp only [CodedField.writing, uncaptured_append, uncaptured_scope, uncaptured_text,
      uncaptured_name, uncaptured_marked, List.singleton_append, hconstant, hwrite, true_and,
      and_true]
  rw [hparts, hwritten]
  exact and_iff_right_of_imp hguard

/-- **What an encoder names is meant** exactly if no field is called what the protocol is. -/
theorem encodeMethod_uncaptured_iff : (encodeMethod fields).Uncaptured [] ↔
    ∀ f ∈ fields, headWord f.name ≠ outputProtocol := by
  simp [encodeMethod, writing_uncaptured_iff]

/-! ## Structs -/

/-- **What the names in a codec stand for.**  If the fields of a struct have different names and
    types that can be read, the struct has a text.  In its text the variables of the methods that
    decode and encode are apart, whatever the names are and however deep the types: no variable is
    hidden by one inside it, and each occurrence of one stands for the variable that is meant.  The
    variables of different fields that the encoder declares side by side are different too.

    Every word stands for what is meant exactly if no variable takes the place of something else.
    In a decoder that is the companion of a type, where a variable around the type's name has its
    text; in an encoder the member for a field that is called what the protocol is. -/
theorem codec_names_are_meant_iff (g : Generator) (s : Struct)
    (h : (s.fields.map (·.name)).Nodup) :
    (g.names.AreTexts → s.HasTextNames → s.Codable → ∃ text, g.structText s = .ok text) ∧
    ∀ text, g.structText s = .ok text →
      ∃ (struct args : String) (fields : List CodedField),
        fields.map CodedField.field = s.fields ∧
        text = structSource struct (parentType s) args fields ∧
        (decodeMethod struct fields).Apart [] ∧
        (encodeMethod fields).Apart [] ∧
        (fields.map fun f => (Variable.item f.name).text).Nodup ∧
        ((decodeMethod struct fields).Hygienic [] ↔ TypesUncaptured fields) ∧
        ((encodeMethod fields).Hygienic [] ↔ ∀ f ∈ fields, headWord f.name ≠ outputProtocol) := by
  refine ⟨fun hnames hs hcodable => (g.structText_decides hnames hs).1 hcodable, ?_⟩
  intro text htext
  obtain ⟨struct, args, fields, hfields, rfl⟩ := structText_eq_ok htext
  have hnodup := names_nodup hfields h
  have hitems : (fields.map fun f => (Variable.item f.name).text).Nodup := by
    have hinjective : Function.Injective fun name => (Variable.item name).text :=
      fun a b hab => Variable.item.inj (Variable.text_injective hab)
    have hmap := hnodup.map hinjective
    rwa [List.map_map] at hmap
  have hdecode := decodeMethod_apart struct hnodup
  have hencode : (encodeMethod fields).Apart [] := encodeMethod_apart
  refine ⟨struct, args, fields, hfields, rfl, hdecode, hencode, hitems, ?_, ?_⟩
  · rw [← decodeMethod_uncaptured_iff struct]
    exact ⟨fun hall => hall.uncaptured, fun hfree => ⟨hdecode, hfree⟩⟩
  · rw [← encodeMethod_uncaptured_iff]
    exact ⟨fun hall => hall.uncaptured, fun hfree => ⟨hencode, hfree⟩⟩

/-- Fields may be called what variables of a codec are called, and hold maps of lists to sets.  But
    in a list of structs called `_rv0` the companion of the struct is taken for the list that is
    being read. -/
theorem fields_called_done_and_struct_called_rv0 :
    let s : Struct :=
      { name := .str "Task"
        fields :=
          [{ id := 1, name := .str "_done", type := .base .bool },
           { id := 2, name := .str "_field"
             type := .map (.list (.enum "Color")) (.set (.base .string)) }] }
    let s' : Struct :=
      { name := .str "User"
        fields := [{ id := 1, name := .str "a", type := .list (.struct "_rv0") }] }
    let g : Generator := ⟨{}, {}⟩
    ((s.fields.map (·.name)).Nodup ∧
      ∃ (struct args : String) (fields : List CodedField),
        g.structText s = .ok (structSource struct (parentType s) args fields) ∧
        (decodeMethod struct fields).Hygienic [] ∧ (encodeMethod fields).Hygienic []) ∧
    (s'.fields.map (·.name)).Nodup ∧
      ∃ (struct args : String) (fields : List CodedField),
        g.structText s' = .ok (structSource struct (parentType s') args fields) ∧
        (decodeMethod struct fields).Apart [] ∧ ¬(decodeMethod struct fields).Hygienic [] := by
  intro s s' g
  have hs : s.HasTextNames :=
    ⟨⟨_, rfl⟩, by simpa [s] using ⟨⟨⟨_, rfl⟩, nofun⟩, ⟨⟨_, rfl⟩, nofun⟩⟩⟩
  have hs' : s'.HasTextNames := ⟨⟨_, rfl⟩, by simpa [s'] using ⟨⟨_, rfl⟩, nofun⟩⟩
  have hcodable : s.Codable := by simp [s, Struct.Codable]
  have hcodable' : s'.Codable := by simp [s', Struct.Codable]
  have hnodup : (s.fields.map (·.name)).Nodup := by simp [s]
  have hnodup' : (s'.fields.map (·.name)).Nodup := by simp [s']
  obtain ⟨hexists, hmeant⟩ := codec_names_are_meant_iff g s hnodup
  obtain ⟨hexists', hmeant'⟩ := codec_names_are_meant_iff g s' hnodup'
  obtain ⟨text, htext⟩ := hexists ⟨_, rfl⟩ hs hcodable
  obtain ⟨text', htext'⟩ := hexists' ⟨_, rfl⟩ hs' hcodable'
  obtain ⟨struct, args, fields, hfields, rfl, -, -, -, hdecode, hencode⟩ := hmeant text htext
  obtain ⟨struct', args', fields', hfields', rfl, hapart, -, -, hdecode', -⟩ :=
    hmeant' text' htext'
  refine ⟨⟨hnodup, struct, args, fields, htext, hdecode.mpr ?_, hencode.mpr ?_⟩,
    hnodup', struct', args', fields', htext', hapart, fun hhygienic => ?_⟩
  · -- the only name in a type is that of the enum, and no variable is called so
    have hcolor (x : Variable) : x.text ≠ "Color" := by
      intro hx
      have hback := Variable.ofText_text x
      rw [hx] at hback
      rw [← hback] at hx
      exact absurd hx (by decide)
    have hall : ∀ t ∈ s.fields.map (·.type), ∀ p ∈ namesWithin t, headWord p.2 = "Color" := by
      decide
    intro f hf p hp x _
    have htype : f.field.type ∈ s.fields.map (·.type) := by
      rw [← hfields, List.map_map]
      exact List.mem_map_of_mem (f := fun f : CodedField => f.field.type) hf
    rw [hall _ htype p hp]
    exact hcolor x
  · have hall : ∀ v ∈ s.fields.map (·.name), ∀ n, v = .str n → headWord n ≠ outputProtocol := by
      simp only [s, List.map_cons, List.map_nil, List.forall_mem_cons, List.not_mem_nil,
        false_implies, implies_true, and_true, Json.str.injEq, forall_eq']
      decide
    intro f hf
    have hname : Json.str f.name ∈ s.fields.map (·.name) := by
      rw [names_coded hfields]
      exact List.mem_map_of_mem (List.mem_map_of_mem hf)
    exact hall _ hname f.name rfl
  · obtain ⟨f, rest, rfl, hfield, -⟩ := List.map_eq_cons_iff.mp hfields'
    have hnames : namesWithin f.field.type = [([.list], "_rv0")] := by
      rw [hfield]
      rfl
    have hfree := hdecode'.mp hhygienic f List.mem_cons_self
    rw [hnames, List.forall_mem_singleton] at hfree
    exact hfree (.result 0) (by simp [containerVariables]) (by decide)

end ThriftScala.Scala
