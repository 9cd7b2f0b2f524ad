/-
  The text of a struct, written out.

  A field whose texts could be made is a `CodedField`: it carries them together with the steps that
  made them.  If a struct has a text, all its fields are coded, its name is a text, and its text is
  `structSource` of them (`structText_eq_ok`): the descriptors, one for each field, the method that
  decodes, and the case class with the method that encodes.

  Both methods are given as code in which their variables are marked, and the words from elsewhere
  that are made from names of the schema: the companions of types in what a decoder reads, the
  members of the case class, and the constants.  Everything else is text: the fragment's own words,
  of which none is the text of a variable unless it is marked, types, which no variable can stand
  for, and literals.
-/
import ThriftScala.Proofs.Scala.Assembly
import ThriftScala.Proofs.Scala.Variables

namespace ThriftScala.Scala

open Outcome

/-! ## Coded fields -/

/-- A field with the texts that its model needs. -/
structure CodedField where
  field : Field
  name : String
  wireName : String
  tag : WireTag
  type : String
  name_eq : field.name = .str name
  wireName_eq : field.wireName = .str wireName
  tag_eq : wireTag field.type = .ok tag
  read_eq : readValue inputProtocol toString 0 field.type = .ok (Code.read 0 field.type).print
  write_eq : writeValue outputProtocol toString 0 (Variable.item name).text field.type =
    .ok (Code.write 0 (.item name) field.type).print

namespace CodedField

variable (f : CodedField)

/-- The constant that holds the descriptor of the field. -/
def constant : String := fieldConstName f.name

/-- The member of the case class that holds the field. -/
def accessor : String := quoteKeyword f.name

/-- When the field is written, and what is written. -/
def guarded : String × String := writeGuard f.field f.accessor

/-- The model of the field. -/
def model : Model :=
  [("id", .text (toString f.field.id)),
   ("name", .text (quoteKeyword f.name)),
   ("localName", .text (f.name ++ "_")),
   ("wireName", .text (escapeText f.wireName)),
   ("fieldConst", .text f.constant),
   ("constType", .text f.tag.name),
   ("fieldType", .text f.type),
   ("defaultReadValue", .text (defaultReadValue f.field)),
   ("readValue", .text (if f.field.isOptional then
      "Some(" ++ (Code.read 0 f.field.type).print ++ ")" else (Code.read 0 f.field.type).print)),
   ("writeGuard", .text f.guarded.1),
   ("writeItem", .text f.guarded.2),
   ("setFlag", .text (f.name ++ "_isSet")),
   ("itemName", .text (f.name ++ "_item")),
   ("writeValue", .text (Code.write 0 (.item f.name) f.field.type).print),
   ("required", .flag f.field.isRequired),
   ("checkNotNull", .flag (f.field.isRequired && isNullable f.field))]

end CodedField

/-- A field is coded if it has a model in which its type is a text. -/
theorem exists_coded {names : TypeNames} {f : Field} {m : Model} (h : fieldModel names f = .ok m)
    (htype : ∃ ms t, Fragment.Bound (m :: ms) "fieldType" (.text t)) :
    ∃ c : CodedField, c.field = f ∧ m = c.model := by
  have htext (v : Json) (misuse : Misuse) (s : String) (hv : used (v.textOr misuse) = .ok s) :
      v = .str s := by
    rw [used_eq_ok] at hv
    cases v <;> cases hv
    rfl
  obtain ⟨name, hname, h⟩ := bind_eq_ok.mp h
  obtain ⟨wireName, hwire, h⟩ := bind_eq_ok.mp h
  obtain ⟨read, hread, h⟩ := bind_eq_ok.mp h
  obtain ⟨tag, htag, h⟩ := bind_eq_ok.mp h
  obtain ⟨write, hwrite, h⟩ := bind_eq_ok.mp h
  obtain ⟨type, -, h⟩ := bind_eq_ok.mp h
  rw [mapped_eq_ok] at hread htag hwrite
  have hreadCode := Code.print_read hread
  have hwriteCode := Code.print_write (x := .item name) hwrite
  cases h
  -- the type is the field's own: its model comes first and has the key
  obtain ⟨ms, t, ⟨ht⟩ | ⟨ht, -⟩⟩ := htype
  swap
  · cases ht
  cases ht
  subst hreadCode hwriteCode
  exact ⟨⟨f, name, wireName, tag, t, htext _ _ _ hname, htext _ _ _ hwire, htag, hread, hwrite⟩,
    rfl, rfl⟩

/-! ## The methods of a codec -/

namespace CodedField

variable (f : CodedField)

/-- The declaration of the constant. -/
def descriptor : String :=
  "  val " ++ f.constant ++ " = new TField(\"" ++ escapeText f.wireName ++ "\", TType."
    ++ f.tag.name ++ ", " ++ toString f.field.id ++ ")\n"

open Code

/-- The declarations of the variables of the decoder for the field. -/
def declaration : Code :=
  "    var " ++ Code.name (.value f.name) ++ ": " ++ f.type ++ " = " ++ defaultReadValue f.field
    ++ "\n"
    ++ "    var " ++ Code.name (.flag f.name) ++ " = false\n"

/-- The value that the decoder reads for the field. -/
def readValue : Code :=
  if f.field.isOptional then "Some(" ++ Code.read 0 f.field.type ++ ")"
  else Code.read 0 f.field.type

/-- The arm of the decoder for the field. -/
def arm : Code :=
  "          case " ++ toString f.field.id ++ " =>\n"
    ++ marked "            if (_field.`type` == TType." ++ f.tag.name ++ ") \x7b\n"
    ++ "              " ++ Code.name (.value f.name) ++ " = " ++ f.readValue ++ "\n"
    ++ "              " ++ Code.name (.flag f.name) ++ " = true\n"
    ++ "            \x7d else \x7b\n"
    ++ marked "              TProtocolUtil.skip(_iprot, _field.`type`)\n"
    ++ "            \x7d\n"

/-- The check of the decoder that a field that must be there was read. -/
def presence (struct : String) : Code :=
  if f.field.isRequired then
    "    if (!" ++ Code.name (.flag f.name) ++ ") throw new TProtocolException(\"Required field '"
      ++ escapeText f.wireName ++ "' was not found in serialized data for struct " ++ struct
      ++ "\")\n"
  else ""

/-- When the field is written. -/
def guard : Code :=
  if f.field.isOptional then path f.accessor ++ ".isDefined"
  else if isNullable f.field then path f.accessor ++ " ne null"
  else "true"

/-- What is written. -/
def written : Code := if f.field.isOptional then path f.accessor ++ ".get" else path f.accessor

@[simp] theorem print_guard : f.guard.print = f.guarded.1 := by
  unfold guard guarded writeGuard
  split
  · simp
  · split <;> simp

@[simp] theorem print_written : f.written.print = f.guarded.2 := by
  unfold written guarded writeGuard
  split
  · simp
  · split <;> simp

/-- What the encoder does for the field. -/
def writing : Code :=
  "    if (" ++ f.guard ++ ") \x7b\n"
    ++ scope [.item f.name]
      ("      val " ++ Code.name (.item f.name) ++ " = " ++ f.written ++ "\n"
        ++ marked "      _oprot.writeFieldBegin(" ++ free f.constant ++ ")\n"
        ++ "      " ++ write 0 (.item f.name) f.field.type ++ "\n"
        ++ marked "      _oprot.writeFieldEnd()\n")
    ++ "    \x7d\n"

/-- The check that a reference that must be there is not null. -/
def validation : String :=
  if f.field.isRequired && isNullable f.field then
    "    if (" ++ quoteKeyword f.name ++ " == null) throw new TProtocolException(\"Required field '"
      ++ escapeText f.wireName ++ "' cannot be null\")\n"
  else ""

end CodedField

section Methods

open Code

variable (struct : String) (fields : List CodedField)

/-- The variables of a decoder around its loop. -/
def decoderVariables : List Variable :=
  fields.flatMap (fun f => [.value f.name, .flag f.name]) ++ [.done]

/-- What the loop of a decoder does again and again. -/
def decoderLoop : Code :=
  scope [.field]
    (marked "      val _field = _iprot.readFieldBegin()\n"
      ++ marked "      if (_field.`type` == TType.STOP) \x7b\n"
      ++ marked "        _done = true\n"
      ++ marked "      \x7d else \x7b\n"
      ++ marked "        _field.id match \x7b\n"
      ++ join (fields.map CodedField.arm)
      ++ marked "          case _ =>\n"
      ++ marked "            TProtocolUtil.skip(_iprot, _field.`type`)\n"
      ++ marked "        \x7d\n"
      ++ marked "        _iprot.readFieldEnd()\n"
      ++ marked "      \x7d\n")

/-- The method that decodes a struct. -/
def decodeMethod : Code :=
  scope [.input]
    (marked "  def decode(_iprot: TProtocol): " ++ struct ++ " = \x7b\n"
      ++ scope (decoderVariables fields)
        (join (fields.map CodedField.declaration)
          ++ marked "    var _done = false\n"
          ++ marked "    _iprot.readStructBegin()\n"
          ++ marked "    while (!_done) \x7b\n"
          ++ decoderLoop fields
          ++ marked "    \x7d\n"
          ++ marked "    _iprot.readStructEnd()\n"
          ++ join (fields.map (CodedField.presence · struct))
          ++ "    new " ++ struct ++ "("
          ++ joinedBy ", " (fields.map fun f => name (.value f.name)) ++ ")\n")
      ++ "  \x7d\n")

/-- The method that encodes a struct. -/
def encodeMethod : Code :=
  scope [.output]
    (marked "  override def write(_oprot: TProtocol): Unit = \x7b\n"
      ++ marked "    validate()\n"
      ++ marked "    _oprot.writeStructBegin(Struct)\n"
      ++ join (fields.map CodedField.writing)
      ++ marked "    _oprot.writeFieldStop()\n"
      ++ marked "    _oprot.writeStructEnd()\n"
      ++ marked "  \x7d\n")

end Methods

/-! ## The whole text -/

/-- The text of a struct. -/
def structSource (struct parent args : String) (fields : List CodedField) : String :=
  "object " ++ struct ++ " extends ThriftStructCodec[" ++ struct ++ "] \x7b\n"
    ++ "  val Struct = new TStruct(\"" ++ struct ++ "\")\n"
    ++ String.join (fields.map CodedField.descriptor)
    ++ "\n"
    ++ "  def encode(_item: " ++ struct ++ ", _oproto: TProtocol): Unit = _item.write(_oproto)\n"
    ++ "\n"
    ++ (decodeMethod struct fields).print
    ++ "\x7d\n"
    ++ "\n"
    ++ "case class " ++ struct ++ "(" ++ args ++ ") extends " ++ parent ++ " \x7b\n"
    ++ "  import " ++ struct ++ "._\n"
    ++ "\n"
    ++ (encodeMethod fields).print
    ++ "\n"
    ++ "  def validate(): Unit = \x7b\n"
    ++ String.join (fields.map CodedField.validation)
    ++ "  \x7d\n"
    ++ "\x7d\n"

/-- The model of a struct. -/
def structEntries (struct parent args : String) (fields : List CodedField) : Model :=
  [("structName", .text struct),
   ("parentType", .text parent),
   ("fields", .sequence (fields.map CodedField.model)),
   ("fieldArgs", .text args),
   ("constructorArgs",
     .text (String.joinedBy ", " (fields.map fun f => (Variable.value f.name).text)))]

section Evaluation

open Fragment

variable {splice : List Node → Scope → Except RenderError String}

variable (struct parent args : String) (fields : List CodedField)

/-- The scope of the fragment of a struct. -/
def structScope : Scope := ⟨"struct", [structEntries struct parent args fields]⟩

/-- The scope in a block for the fields of a struct. -/
def fieldScope (f : CodedField) : Scope := (structScope struct parent args fields).push f.model

variable {struct parent args : String} {fields : List CodedField}

/-- A block for the fields. -/
theorem evalNodes_fields (body ns : List Node) :
    evalNodes splice (.block "fields" body :: ns) (structScope struct parent args fields) =
      (fields.mapM fun f => evalNodes splice body (fieldScope struct parent args fields f)).bind
        fun texts => (evalNodes splice ns (structScope struct parent args fields)).map
          (String.join texts ++ ·) := by
  refine evalNodes_block ?_ body ns
  have hpush : (fields.map CodedField.model).map (structScope struct parent args fields).push =
    fields.map (fieldScope struct parent args fields) := List.map_map
  rw [← hpush]
  rfl

/-- What the fragment of a struct writes for coded fields. -/
theorem evalNodes_struct :
    evalNodes splice Fragments.struct.body (structScope struct parent args fields) =
      .ok (structSource struct parent args fields) := by
  have hstruct : (structScope struct parent args fields).text "structName" = .ok struct := rfl
  have hparent : (structScope struct parent args fields).text "parentType" = .ok parent := rfl
  have hargs : (structScope struct parent args fields).text "fieldArgs" = .ok args := rfl
  have hvalues : (structScope struct parent args fields).text "constructorArgs" =
    .ok (String.joinedBy ", " (fields.map fun f => (Variable.value f.name).text)) := rfl
  -- the scope of a field stays closed: opened, its texts would be compared letter by letter
  generalize hscope : fieldScope struct parent args fields = scope
  have hid (f) : (scope f).text "id" = .ok (toString f.field.id) := hscope ▸ rfl
  have hname (f) : (scope f).text "name" = .ok (quoteKeyword f.name) := hscope ▸ rfl
  have hwire (f) : (scope f).text "wireName" = .ok (escapeText f.wireName) := hscope ▸ rfl
  have hconst (f) : (scope f).text "fieldConst" = .ok f.constant := hscope ▸ rfl
  have htag (f) : (scope f).text "constType" = .ok f.tag.name := hscope ▸ rfl
  have htype (f) : (scope f).text "fieldType" = .ok f.type := hscope ▸ rfl
  have hdefault (f) : (scope f).text "defaultReadValue" = .ok (defaultReadValue f.field) :=
    hscope ▸ rfl
  have hvalue (f) : (scope f).text "localName" = .ok (Variable.value f.name).text := hscope ▸ rfl
  have hflag (f) : (scope f).text "setFlag" = .ok (Variable.flag f.name).text := hscope ▸ rfl
  have hitem (f) : (scope f).text "itemName" = .ok (Variable.item f.name).text := hscope ▸ rfl
  have hread (f) : (scope f).text "readValue" = .ok f.readValue.print := by
    rw [CodedField.readValue, apply_ite Code.print]
    exact hscope ▸ rfl
  have hguard (f) : (scope f).text "writeGuard" = .ok f.guarded.1 := hscope ▸ rfl
  have hwritten (f) : (scope f).text "writeItem" = .ok f.guarded.2 := hscope ▸ rfl
  have hwrite (f) : (scope f).text "writeValue" =
    .ok (Code.write 0 (.item f.name) f.field.type).print := hscope ▸ rfl
  have hinner (f) : (scope f).text "structName" = .ok struct := hscope ▸ rfl
  have hrequired (f) : (scope f).resolve "required" = .ok (.flag f.field.isRequired) := hscope ▸ rfl
  have hnull (f) : (scope f).resolve "checkNotNull" =
    .ok (.flag (f.field.isRequired && isNullable f.field)) := hscope ▸ rfl
  simp only [Fragments.struct, evalNodes_text, evalNodes_scalar hstruct, evalNodes_scalar hparent,
    evalNodes_scalar hargs, evalNodes_scalar hvalues, evalNodes_fields, evalNodes_nil, hscope,
    evalNodes_scalar (hid _), evalNodes_scalar (hname _), evalNodes_scalar (hwire _),
    evalNodes_scalar (hconst _), evalNodes_scalar (htag _), evalNodes_scalar (htype _),
    evalNodes_scalar (hdefault _), evalNodes_scalar (hvalue _), evalNodes_scalar (hflag _),
    evalNodes_scalar (hitem _), evalNodes_scalar (hread _), evalNodes_scalar (hguard _),
    evalNodes_scalar (hwritten _), evalNodes_scalar (hwrite _), evalNodes_scalar (hinner _),
    evalNodes_flag (hrequired _), evalNodes_flag (hnull _), map_ok, mapM_ok, ok_ite, Except.bind]
  refine congrArg Except.ok ?_
  unfold structSource CodedField.descriptor CodedField.validation
  simp only [decodeMethod, decoderLoop, encodeMethod, CodedField.declaration, CodedField.arm,
    CodedField.presence, CodedField.writing, Code.print_append, Code.print_text, Code.print_name,
    Code.print_scope, Code.print_join, Code.print_joinedBy, Code.print_marked,
    Code.print_free, CodedField.print_guard, CodedField.print_written,
    apply_ite Code.print, List.map_map, Function.comp_def, String.append_assoc,
    String.append_empty]

/-- Where the fragment of a struct gives a text, its name and the types of its fields are texts. -/
theorem texts_of_evalNodes {entries : Model} {models : List Model} {out : String}
    (hfields : entries.lookup "fields" = some (.sequence models))
    (h : evalNodes splice Fragments.struct.body ⟨"struct", [entries]⟩ = .ok out) :
    (∃ t, Fragment.Bound [entries] "structName" (.text t)) ∧
      ∀ m ∈ models, ∃ t, Fragment.Bound [m, entries] "fieldType" (.text t) := by
  have hnode := exists_of_mem_nodes h
  obtain ⟨name, hname⟩ := hnode (.scalar "structName") (List.mem_of_getElem? (i := 1) rfl)
  obtain ⟨body, hblock, htype⟩ : ∃ body, Node.block "fields" body ∈ Fragments.struct.body ∧
      Node.scalar "fieldType" ∈ body :=
    ⟨_, List.mem_of_getElem? (i := 17) rfl, List.mem_of_getElem? (i := 3) rfl⟩
  obtain ⟨text, hblock⟩ := hnode _ hblock
  obtain ⟨scopes, texts, hscopes, htexts, -⟩ := evalNode_block_eq_ok.mp hblock
  rw [Scope.items, resolve_eq_ok.mpr (.here hfields)] at hscopes
  cases hscopes
  refine ⟨⟨name, text_eq_ok.mp hname⟩, fun m hm => ?_⟩
  obtain ⟨t, ht⟩ := exists_mapM_iff.mp ⟨texts, htexts⟩ _ (List.mem_map_of_mem hm)
  obtain ⟨t, ht⟩ := exists_of_mem_nodes ht _ htype
  exact ⟨t, text_eq_ok.mp ht⟩

end Evaluation

/-- The variables of the fields are passed to the constructor in order. -/
theorem constructorArgs_coded (fields : List CodedField) :
    constructorArgs (fields.map CodedField.field) =
      .ok (String.joinedBy ", " (fields.map fun f => (Variable.value f.name).text)) := by
  have hlocal (f : CodedField) : localName f.field = .ok (Variable.value f.name).text := by
    rw [localName, f.name_eq]
    rfl
  rw [constructorArgs, List.mapM_map]
  simp only [Function.comp_def, hlocal, mapM_ok, ok_bind]
  rfl

theorem exists_coded_fields {names : TypeNames} {fields : List Field} {models : List Model}
    (h : fields.mapM (fieldModel names) = .ok models)
    (htypes : ∀ m ∈ models, ∃ ms t, Fragment.Bound (m :: ms) "fieldType" (.text t)) :
    ∃ coded : List CodedField, coded.map CodedField.field = fields ∧
      models = coded.map CodedField.model := by
  induction mapM_eq_ok.mp h with
  | nil => exact ⟨[], rfl, rfl⟩
  | cons hmodel hrest ih =>
    rw [List.forall_mem_cons] at htypes
    obtain ⟨c, rfl, rfl⟩ := exists_coded hmodel htypes.1
    obtain ⟨cs, rfl, rfl⟩ := ih (mapM_eq_ok.mpr hrest) htypes.2
    exact ⟨c :: cs, rfl, rfl⟩

/-- The names of coded fields are those of the fields they are made from. -/
theorem names_coded {fields : List CodedField} {l : List Field}
    (h : fields.map CodedField.field = l) :
    l.map (·.name) = (fields.map CodedField.name).map Json.str := by
  have hname : (·.name) ∘ CodedField.field = Json.str ∘ CodedField.name :=
    funext fun f => f.name_eq
  rw [← h, List.map_map, hname, List.map_map]

theorem names_nodup {fields : List CodedField} {l : List Field}
    (hfields : fields.map CodedField.field = l) (h : (l.map (·.name)).Nodup) :
    (fields.map CodedField.name).Nodup := by
  rw [names_coded hfields] at h
  exact h.of_map

/-- **The text of a struct, written out.**  All its fields are coded. -/
theorem structText_eq_ok {g : Generator} {s : Struct} {text : String}
    (h : g.structText s = .ok text) :
    ∃ (struct args : String) (fields : List CodedField), fields.map CodedField.field = s.fields ∧
      text = structSource struct (parentType s) args fields := by
  obtain ⟨entries, hentries, h⟩ := bind_eq_ok.mp h
  obtain ⟨models, hmodels, hentries⟩ := bind_eq_ok.mp hentries
  obtain ⟨args, -, hentries⟩ := bind_eq_ok.mp hentries
  obtain ⟨values, hvalues, hentries⟩ := bind_eq_ok.mp hentries
  obtain ⟨name, -, hentries⟩ := bind_eq_ok.mp hentries
  cases hentries
  rw [filled_eq_ok, Fragment.render, Fragment.evalWithin_eq] at h
  obtain ⟨⟨struct, hstruct⟩, htypes⟩ := texts_of_evalNodes rfl h
  obtain ⟨fields, hfields, rfl⟩ := exists_coded_fields hmodels fun m hm => ⟨_, htypes m hm⟩
  have hname : name = .text struct := by
    rcases hstruct with ⟨hstruct⟩ | ⟨hstruct, -⟩ <;> cases hstruct
    rfl
  -- the constructor's arguments are the names of the same fields, joined
  have hvalues := used_eq_ok.mp hvalues
  rw [← hfields, constructorArgs_coded] at hvalues
  cases hvalues
  subst hname
  have hsource : Fragment.evalNodes (Fragment.splicer Fragment.spliceLimit) Fragments.struct.body
      (structScope struct (parentType s) args fields) =
        .ok (structSource struct (parentType s) args fields) := evalNodes_struct
  exact ⟨struct, args, fields, hfields, Except.ok.inj (h.symm.trans hsource)⟩

end ThriftScala.Scala
