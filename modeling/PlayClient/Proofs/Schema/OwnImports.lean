import PlayClient.Client.Basic
import PlayClient.Proofs.Schema.SiblingImports

set_option autoImplicit false

namespace PlayClient.Naming

-- A type name that needs no back quotes: there is something to write, no digit
-- leads it and it is not reserved.
def StandsBare (reserved : List String) (raw : String) : Prop :=
  (∃ c ∈ raw.toList, isWordChar c = true) ∧ ¬ StartsWithDigit (typeName raw) ∧ typeName raw ∉ reserved

theorem normalized_of_stands_bare (reserved : List String) (raw : String) (bare : StandsBare reserved raw) :
    (normalize .type reserved raw).normalized = typeName raw := by
  obtain ⟨some, noDigit, free⟩ := bare
  have word := camel_case_word .type raw some
  have base : baseName .type raw = typeName raw := base_name_camel .type raw some
  have plain := (plain_name_iff (typeName raw) word.1 (fun c member => word_char_part c (word.2 c member))).mpr noDigit
  have kept : (normalize .type reserved raw).isEscaped ≠ true := by
    intro escapes
    rw [normalize_escapes_iff, base] at escapes
    exact escapes ⟨plain, free⟩
  rw [normalize_text, if_neg kept, base]

-- No other raw name comes out as a type name that does not stand bare: it would
-- bring its back quotes along, or the mark of the empty name.
theorem stands_bare_of_normalized (reserved : List String) (other raw : String)
    (same : (normalize .type reserved other).normalized = typeName raw) : StandsBare reserved raw := by
  have letters : ∀ c ∈ (normalize .type reserved other).normalized.toList, isWordChar c = true := by
    intro c member
    rw [same] at member
    exact camel_case_chars .type raw c member
  have kept : (normalize .type reserved other).isEscaped ≠ true := by
    intro escapes
    have marked : escapeMark ∈ (normalize .type reserved other).normalized.toList := by
      simp [normalize_text, escapes, escaped]
    exact absurd (letters _ marked) (by decide)
  have plain : IsPlainName (typeName raw) ∧ typeName raw ∉ reserved := by
    have base := normalize_text .type reserved other
    rw [if_neg kept, same] at base
    rw [base]
    exact Classical.not_not.mp (fun bad => kept ((normalize_escapes_iff .type reserved other).mpr bad))
  obtain ⟨c, rest, chars, -, -⟩ := plain.1
  have filled : (typeName raw).toList ≠ [] := by simp [chars]
  have parts := fun c member => word_char_part c (camel_case_chars .type raw c member)
  refine ⟨?_, (plain_name_iff _ filled parts).mp plain.1, plain.2⟩
  by_cases some : ∃ c ∈ raw.toList, isWordChar c = true
  · exact some
  · have empty := camel_case_empty .type raw (by simpa using some)
    exact absurd (by simp [typeName, empty]) filled

end PlayClient.Naming

namespace PlayClient.Dialect

open SchemaType

variable (dialect : Dialect) (modelPackage : String)

-- A primitive among the properties, not built in and imported from nowhere
-- else, goes by the name.
def SpelledByPrimitive (properties : List Property) (text : String) : Prop :=
  ∃ property ∈ properties, ∃ kind, Within (.primitive kind) property.type ∧
    dialect.isPrimitive (.primitive kind) = false ∧ dialect.primitiveName kind = text ∧
    dialect.table.imports.lookup text = none

theorem same_package_name (name other : String) (same : importOf modelPackage name = importOf modelPackage other) :
    name = other := by
  simpa [importOf] using same

theorem reference_core (property : Property) (name : String)
    (refers : Within (.object name) property.type ∨ Within (.enumeration name) property.type) :
    ∃ core, Within core property.type ∧ core.isContainer = false ∧ dialect.isPrimitive core = false ∧
      dialect.typeOf core = .ok (dialect.modelName name) := by
  cases refers with
  | inl within => exact ⟨.object name, within, rfl, rfl, dialect.type_of_object name⟩
  | inr within => exact ⟨.enumeration name, within, rfl, rfl, dialect.type_of_enumeration name⟩

-- What makes a type name count as that of a sibling, once one property refers to it.
theorem type_name_sibling_iff (properties : List Property) (property : Property) (member : property ∈ properties)
    (name : String) (refers : Within (.object name) property.type ∨ Within (.enumeration name) property.type)
    (unmapped : dialect.table.imports.lookup (dialect.modelName name) = none) :
    dialect.ImportsSiblingOf modelPackage properties (importOf modelPackage (Naming.typeName name)) ↔
      Naming.StandsBare dialect.reserved name ∨ dialect.SpelledByPrimitive properties (Naming.typeName name) := by
  constructor
  · intro sibling
    obtain ⟨other, among, core, text, within, single, notBuiltIn, typed, unmapped', same⟩ := sibling
    have spelled := same_package_name modelPackage _ _ same
    subst spelled
    cases core with
    | primitive kind =>
        rw [type_of_primitive] at typed
        exact Or.inr ⟨other, among, kind, within, notBuiltIn, Except.ok.inj typed, unmapped'⟩
    | object model =>
        rw [type_of_object] at typed
        exact Or.inl (Naming.stands_bare_of_normalized _ model name (Except.ok.inj typed))
    | enumeration model =>
        rw [type_of_enumeration] at typed
        exact Or.inl (Naming.stands_bare_of_normalized _ model name (Except.ok.inj typed))
    | array item => cases single
    | map value => cases single
    | file => cases notBuiltIn
    | foreign text => cases typed
  · intro named
    cases named with
    | inl bare =>
        obtain ⟨core, within, single, notBuiltIn, typed⟩ := dialect.reference_core property name refers
        have same : dialect.modelName name = Naming.typeName name := Naming.normalized_of_stands_bare _ name bare
        rw [same] at typed unmapped
        exact ⟨property, member, core, _, within, single, notBuiltIn, typed, unmapped, rfl⟩
    | inr spelled =>
        obtain ⟨other, among, kind, within, notBuiltIn, same, unmapped'⟩ := spelled
        refine ⟨other, among, .primitive kind, _, within, rfl, notBuiltIn, ?_, unmapped', rfl⟩
        rw [type_of_primitive, same]

theorem drop_removes (model : Model) (supported : ∀ property ∈ model.properties, Supported property.type) :
    ∃ result, dialect.dropSiblingImports modelPackage model = .ok result ∧
      ∀ line, line ∈ result.imports ↔
        line ∈ model.imports ∧ ¬ dialect.ImportsSiblingOf modelPackage model.properties line := by
  obtain ⟨siblings, done⟩ := dialect.sibling_imports_total modelPackage model supported
  refine ⟨_, (Outcome.bind_ok_iff _ _ _).mpr ⟨siblings, done, rfl⟩, ?_⟩
  intro line
  rw [← dialect.sibling_imports_exact modelPackage model siblings done]
  simp

end PlayClient.Dialect

namespace PlayClient.Client

open SchemaType

-- An import under the name that the sibling's class has never survives. An import
-- under its bare type name goes with it exactly when the two names are one, or
-- when a primitive happens to be spelled so.
theorem own_import_dropped_iff (client : Client) (model : Model)
    (supported : ∀ property ∈ model.properties, Supported property.type) (property : Property)
    (member : property ∈ model.properties) (name : String)
    (refers : Within (.object name) property.type ∨ Within (.enumeration name) property.type)
    (unmapped : client.table.imports.lookup (client.dialect.modelName name) = none)
    (declared : client.modelImport (Naming.typeName name) ∈ model.imports) :
    ∃ result, client.postProcess model = .ok result ∧
      client.modelImport (client.dialect.modelName name) ∉ result.imports ∧
      (client.modelImport (Naming.typeName name) ∉ result.imports ↔
        Naming.StandsBare client.reserved name ∨
          client.dialect.SpelledByPrimitive model.properties (Naming.typeName name)) := by
  obtain ⟨result, done, kept⟩ := client.dialect.drop_removes client.settings.modelPackage model supported
  refine ⟨result, done, ?_, ?_⟩
  · intro survives
    obtain ⟨core, within, single, notBuiltIn, typed⟩ := client.dialect.reference_core property name refers
    exact ((kept _).mp survives).2
      ⟨property, member, core, _, within, single, notBuiltIn, typed, unmapped, rfl⟩
  · have named := client.dialect.type_name_sibling_iff client.settings.modelPackage model.properties property member
      name refers unmapped
    have dropped : client.modelImport (Naming.typeName name) ∉ result.imports ↔
        client.dialect.ImportsSiblingOf client.settings.modelPackage model.properties
          (client.modelImport (Naming.typeName name)) := by
      simp [kept, declared]
    exact dropped.trans named

-- A class name that the client reserves: the class is declared between back
-- quotes, the import that the client itself would write for it is not.
def petReserving : Client := .ofSettings { Settings.standard with extraReservedWords := ["Pet"] }

def petOwner : Model :=
  ⟨"Owner", [⟨"pet", .object "Pet", false, false, "", none⟩], ["io.swagger.client.model.Pet"], none⟩

theorem own_import_of_reserved_name :
    (∀ property ∈ petOwner.properties, Supported property.type) ∧
      petReserving.table.imports.lookup (petReserving.dialect.modelName "Pet") = none ∧
      petReserving.modelImport (Naming.typeName "Pet") ∈ petOwner.imports ∧
      ∃ result, petReserving.postProcess petOwner = .ok result ∧
        petReserving.modelImport (petReserving.dialect.modelName "Pet") ∉ result.imports ∧
        (petReserving.modelImport (Naming.typeName "Pet") ∉ result.imports ↔
          Naming.StandsBare petReserving.reserved "Pet" ∨
            petReserving.dialect.SpelledByPrimitive petOwner.properties (Naming.typeName "Pet")) := by
  have supported : ∀ property ∈ petOwner.properties, Supported property.type := by
    simp [petOwner, supported_iff, innermost]
  have unmapped : petReserving.table.imports.lookup (petReserving.dialect.modelName "Pet") = none := by
    decide +kernel
  have declared : petReserving.modelImport (Naming.typeName "Pet") ∈ petOwner.imports := by
    decide +kernel
  refine ⟨supported, unmapped, declared, ?_⟩
  exact own_import_dropped_iff petReserving petOwner supported _ List.mem_cons_self "Pet" (.inl .here) unmapped
    declared

theorem reserved_sibling_import_kept :
    ∃ property ∈ petOwner.properties, Within (.object "Pet") property.type ∧
      petReserving.table.imports.lookup (petReserving.dialect.modelName "Pet") = none ∧
      petReserving.modelImport (Naming.typeName "Pet") ∈ petOwner.imports ∧
      petReserving.postProcess petOwner = .ok petOwner :=
  ⟨_, List.mem_cons_self, .here, by decide +kernel, by decide +kernel, by decide +kernel⟩

end PlayClient.Client
