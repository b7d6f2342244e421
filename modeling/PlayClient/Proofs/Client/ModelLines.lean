import PlayClient.Client.Generation
import PlayClient.Proofs.Schema.TypeText

set_option autoImplicit false

namespace PlayClient

theorem Text.of_lines_append (front back : List String) :
    Text.ofLines (front ++ back) = Text.ofLines front ++ Text.ofLines back := by
  simp [Text.ofLines]

namespace Dialect

open SchemaType

variable (dialect : Dialect) (invokerPackage : String)

theorem type_of_array (standard : dialect.table = .standard invokerPackage) (item : SchemaType) (inner : String)
    (typed : dialect.typeOf item = .ok inner) : dialect.typeOf (.array item) = .ok (applied "Seq" inner) := by
  obtain ⟨resolved, done, same⟩ := (Outcome.bind_ok_iff _ _ _).mp typed
  cases same
  apply dialect.type_of_resolved (.array item) _ (some (applied "ListBuffer" resolved.display))
  rw [resolve, done]
  exact dialect.standard_array invokerPackage standard resolved.display

theorem type_of_map (standard : dialect.table = .standard invokerPackage) (value : SchemaType) (inner : String)
    (typed : dialect.typeOf value = .ok inner) :
    dialect.typeOf (.map value) = .ok (applied "Map" (mapArguments inner)) := by
  obtain ⟨resolved, done, same⟩ := (Outcome.bind_ok_iff _ _ _).mp typed
  cases same
  apply dialect.type_of_resolved (.map value) _ (some (applied "Map" (mapArguments resolved.display)))
  rw [resolve, done]
  exact dialect.standard_map invokerPackage standard (mapArguments resolved.display)

theorem type_of_total (standard : dialect.table = .standard invokerPackage) (type : SchemaType)
    (supported : Supported type) : ∃ name, dialect.typeOf type = .ok name := by
  obtain ⟨core, construction, -, resolved, -⟩ := dialect.resolve_written invokerPackage standard type supported
  exact ⟨_, dialect.type_of_resolved type _ construction resolved⟩

-- The default of a required container is resolved apart from its type, and
-- still starts with the same text.
theorem required_default (standard : dialect.table = .standard invokerPackage) (type : SchemaType) (name : String)
    (supported : Supported type) (typed : dialect.typeOf type = .ok name) :
    dialect.defaultValue true type = .ok (if type.isContainer then emptyOf name else "null") := by
  cases type with
  | array item =>
      obtain ⟨inner, within⟩ := dialect.type_of_total invokerPackage standard item (supported_array item supported)
      rw [dialect.type_of_array invokerPackage standard item inner within] at typed
      rw [← Except.ok.inj typed, defaultValue, within, standard]
      rfl
  | map value =>
      obtain ⟨inner, within⟩ := dialect.type_of_total invokerPackage standard value (supported_map value supported)
      rw [dialect.type_of_map invokerPackage standard value inner within] at typed
      rw [← Except.ok.inj typed, defaultValue, within, standard]
      rfl
  | _ => rfl

end Dialect

/-! ## Fields -/

namespace Field

theorem length_lines (fields : List Field) : (lines fields).length = fields.length := by
  match fields with
  | [] => rfl
  | [_] => rfl
  | _ :: next :: rest => simpa [lines] using length_lines (next :: rest)

-- Every line but the last ends in a comma.
theorem lines_at (fields : List Field) (i : Nat) (field : Field) (found : fields[i]? = some field) :
    (lines fields)[i]? = some (field.text ++ if i + 1 = fields.length then "" else ",") := by
  match fields, i with
  | [], _ => simp at found
  | [only], 0 =>
      have same : only = field := by simpa using found
      simp [lines, same]
  | [only], i + 1 => simp at found
  | first :: next :: rest, 0 =>
      have same : first = field := by simpa using found
      simp [lines, same]
  | first :: next :: rest, i + 1 =>
      have later := lines_at (next :: rest) i field (by simpa using found)
      simpa [lines] using later

end Field

namespace Client

open SchemaType

-- What a field of a type reads behind its name.
def fieldStart (type : String) (property : Property) : String :=
  if !property.required then "Option[" ++ type ++ "] = None"
  else if property.type.isContainer then type ++ " = " ++ type ++ ".empty"
  else type ++ " = null"

variable (client : Client)

-- One line for each property, in order.
def FieldLines (properties : List Property) (lines : List String) : Prop :=
  lines.length = properties.length ∧ ∀ i property, properties[i]? = some property →
    ∃ type, client.dialect.typeOf property.type = .ok type ∧
      lines[i]? = some ("  " ++ client.termName property.baseName ++ ": " ++ fieldStart type property ++
        if i + 1 = properties.length then "" else ",")

def docLines : Option String → List String
  | none => []
  | some text =>
    if text ≠ "" ∧ client.settings.renderJavadoc then
      Source.docOpening ::
        (Source.textLines (Source.commentSafe text).toList).map (Source.docLine ∘ String.ofList) ++ [Source.docClosing]
    else []

def modelLines (model : Model) (imports fields : List String) : List String :=
  ["package " ++ client.settings.modelPackage, "", "import play.api.libs.json.\x7bFormat, Json\x7d"] ++
    imports.map ("import " ++ ·) ++ [""] ++ client.docLines model.description ++
    ["case class " ++ client.dialect.modelName model.name ++ "("] ++ fields ++
    [")", "", "object " ++ client.dialect.modelName model.name ++ " \x7b",
     "  implicit val format: Format[" ++ client.dialect.modelName model.name ++ "] = Json.format[" ++
       client.dialect.modelName model.name ++ "]",
     "\x7d"]

theorem field_default (invokerPackage : String) (standard : client.table = .standard invokerPackage)
    (property : Property) (supported : Supported property.type) (type : String)
    (typed : client.dialect.typeOf property.type = .ok type) :
    ∃ start, client.dialect.defaultValue property.required property.type = .ok start ∧
      fieldStart type property = (if property.required then type else optionOf type) ++ " = " ++ start := by
  cases mandatory : property.required with
  | false =>
      refine ⟨"None", rfl, ?_⟩
      simp [fieldStart, mandatory, optionOf, Dialect.applied, String.append_assoc]
  | true =>
      have start := client.dialect.required_default invokerPackage standard property.type type supported typed
      refine ⟨_, start, ?_⟩
      by_cases container : property.type.isContainer = true
      · simp [fieldStart, mandatory, container, Dialect.emptyOf, String.append_assoc]
      · simp [fieldStart, mandatory, container, String.append_assoc]

theorem field_text (invokerPackage : String) (standard : client.table = .standard invokerPackage)
    (property : Property) (supported : Supported property.type) (unresolved : property.dataType = "") :
    ∃ type field, client.dialect.typeOf property.type = .ok type ∧ client.field property = .ok field ∧
      field.text = "  " ++ client.termName property.baseName ++ ": " ++ fieldStart type property := by
  obtain ⟨type, typed⟩ := client.dialect.type_of_total invokerPackage standard property.type supported
  obtain ⟨start, defaulted, shape⟩ := client.field_default invokerPackage standard property supported type typed
  have resolved : client.dialect.resolveProperty property =
      .ok { property with
        dataType := type
        isPrimitive := property.isPrimitive || client.dialect.isPrimitive property.type } := by
    rw [Dialect.resolveProperty, if_pos unresolved, typed]
    rfl
  have built : client.field property =
      .ok { baseName := property.baseName
            name := client.termName property.baseName
            dataType := type
            defaultValue := start
            required := property.required
            isPrimitive := property.isPrimitive || client.dialect.isPrimitive property.type
            description := property.description } :=
    (Outcome.bind_ok_iff _ _ _).mpr ⟨_, resolved, (Outcome.bind_ok_iff _ _ _).mpr ⟨start, defaulted, rfl⟩⟩
  refine ⟨type, _, typed, built, ?_⟩
  rw [shape, Field.text, Field.type]
  simp only [String.append_assoc]

theorem fields_lines (invokerPackage : String) (standard : client.table = .standard invokerPackage)
    (properties : List Property) (supported : ∀ property ∈ properties, Supported property.type)
    (unresolved : ∀ property ∈ properties, property.dataType = "") :
    ∃ fields, properties.mapM client.field = .ok fields ∧ client.FieldLines properties (Field.lines fields) := by
  have total : ∀ property ∈ properties, ∃ field, client.field property = .ok field := by
    intro property member
    obtain ⟨type, field, -, built, -⟩ :=
      client.field_text invokerPackage standard property (supported property member) (unresolved property member)
    exact ⟨field, built⟩
  obtain ⟨fields, traversed⟩ := Outcome.traverse_total client.field properties total
  have related := (Outcome.traverse_ok_iff _ _ _).mp traversed
  refine ⟨fields, traversed, ?_, ?_⟩
  · rw [Field.length_lines, related.length_eq]
  · intro i property found
    have member := List.mem_of_getElem? found
    obtain ⟨type, field, typed, built, text⟩ :=
      client.field_text invokerPackage standard property (supported property member) (unresolved property member)
    obtain ⟨there, here, built'⟩ := Outcome.related_at _ _ _ related i property found
    have same : field = there := Except.ok.inj (built.symm.trans built')
    refine ⟨type, typed, ?_⟩
    rw [Field.lines_at fields i there here, ← same, text, related.length_eq]

/-! ## The file -/

theorem doc_block_lines (description : Option String) :
    client.docBlock description = Text.ofLines (client.docLines description) := by
  cases description with
  | none => rfl
  | some text =>
      by_cases shown : text ≠ "" ∧ client.settings.renderJavadoc
      · simp only [docBlock, docLines, if_pos shown, Source.docComment]
      · simp only [docBlock, docLines, if_neg shown]
        rfl

theorem page_lines (model : Model) (imports : List String) (fields : List Field) :
    ModelPage.text client ⟨client.settings.modelPackage, imports, client.dialect.modelName model.name, fields,
        model.description⟩ = Text.ofLines (client.modelLines model imports (Field.lines fields)) := by
  rw [ModelPage.text, doc_block_lines, ← Text.of_lines_append, ← Text.of_lines_append]
  simp [modelLines, ModelPage.header, ModelPage.classLines, ModelPage.companion]

theorem model_page_built (model : Model) (imports : List String) (fields : List Field)
    (processed : client.postProcess model = .ok { model with imports := imports })
    (traversed : model.properties.mapM client.field = .ok fields) :
    client.modelPage model =
      .ok ⟨client.settings.modelPackage, imports, client.dialect.modelName model.name, fields, model.description⟩ :=
  (Outcome.bind_ok_iff _ _ _).mpr ⟨_, processed, (Outcome.bind_ok_iff _ _ _).mpr ⟨fields, traversed, rfl⟩⟩

-- A model's file names each property once, with the type of its schema and a
-- default of that type, and imports what the pass over the siblings leaves.
theorem model_file_lines (settings : Settings) (output : Path) (model : Model)
    (supported : ∀ property ∈ model.properties, Supported property.type)
    (unresolved : ∀ property ∈ model.properties, property.dataType = "") :
    ∃ imports fields,
      (ofSettings settings).postProcess model = .ok { model with imports := imports } ∧
      (ofSettings settings).FieldLines model.properties fields ∧
      (ofSettings settings).modelFile output model =
        .ok (((ofSettings settings).packagePath output settings.modelPackage).joinText
              (modelFileName ((ofSettings settings).dialect.modelName model.name)),
            Text.ofLines ((ofSettings settings).modelLines model imports fields)) := by
  obtain ⟨siblings, found⟩ :=
    (ofSettings settings).dialect.sibling_imports_total settings.modelPackage model supported
  have processed : (ofSettings settings).postProcess model =
      .ok { model with imports := model.imports.filter (· ∉ siblings) } :=
    (Outcome.bind_ok_iff _ _ _).mpr ⟨siblings, found, rfl⟩
  obtain ⟨fields, traversed, lines⟩ :=
    (ofSettings settings).fields_lines settings.invokerPackage rfl model.properties supported unresolved
  have page := (ofSettings settings).model_page_built model _ fields processed traversed
  refine ⟨model.imports.filter (· ∉ siblings), Field.lines fields, processed, lines, ?_⟩
  rw [modelFile, page, ← page_lines]
  rfl

def taggedPet : Model :=
  ⟨"pet", [⟨"id", .primitive "long", false, false, "", none⟩,
      ⟨"tags", .array (.object "tag"), true, false, "", none⟩,
      ⟨"type", .primitive "string", true, false, "", none⟩],
    ["io.swagger.client.model.Tag"], some "For sale."⟩

theorem tagged_pet_lines :
    (∀ property ∈ taggedPet.properties, Supported property.type) ∧
      (∀ property ∈ taggedPet.properties, property.dataType = "") ∧
      ∃ imports fields,
        (ofSettings .standard).postProcess taggedPet = .ok { taggedPet with imports := imports } ∧
        fields[1]? = some "  tags: Seq[Tag] = Seq[Tag].empty," ∧
        (ofSettings .standard).modelFile (.ofText "out") taggedPet =
          .ok (.ofText "out/src/main/scala/io/swagger/client/model/Pet.scala",
            Text.ofLines ((ofSettings .standard).modelLines taggedPet imports fields)) := by
  have supported : ∀ property ∈ taggedPet.properties, Supported property.type := by
    simp [taggedPet, supported_iff, innermost]
  have unresolved : ∀ property ∈ taggedPet.properties, property.dataType = "" := by
    simp [taggedPet]
  have path : ((ofSettings .standard).packagePath (.ofText "out") Settings.standard.modelPackage).joinText
        (modelFileName ((ofSettings .standard).dialect.modelName taggedPet.name)) =
      .ofText "out/src/main/scala/io/swagger/client/model/Pet.scala" := by
    decide +kernel
  obtain ⟨imports, fields, processed, lines, written⟩ :=
    model_file_lines .standard (.ofText "out") taggedPet supported unresolved
  rw [path] at written
  refine ⟨supported, unresolved, imports, fields, processed, ?_, written⟩
  obtain ⟨type, typed, line⟩ := lines.2 1 ⟨"tags", .array (.object "tag"), true, false, "", none⟩ rfl
  have tags : type = "Seq[Tag]" := Except.ok.inj (typed.symm.trans (by decide +kernel))
  subst tags
  exact line.trans (by decide +kernel)

end Client

end PlayClient
