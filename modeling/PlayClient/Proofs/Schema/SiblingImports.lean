import Mathlib.Data.List.TakeWhile
import PlayClient.Proofs.Naming.Identifier
import PlayClient.Proofs.Outcome
import PlayClient.Proofs.Schema.Containers
import PlayClient.Schema.Imports

set_option autoImplicit false

namespace PlayClient.Dialect

open SchemaType

variable (dialect : Dialect) (modelPackage : String)

-- The line imports the model that a type comes down to: a type that is not built
-- in, under a name that is imported from nowhere else.
def ImportsSibling (type : SchemaType) (line : String) : Prop :=
  ∃ core name, Within core type ∧ core.isContainer = false ∧ dialect.isPrimitive core = false ∧
    dialect.typeOf core = .ok name ∧ dialect.table.imports.lookup name = none ∧ line = importOf modelPackage name

def ImportsSiblingOf (properties : List Property) (line : String) : Prop :=
  ∃ property ∈ properties, dialect.ImportsSibling modelPackage property.type line

-- The same types up to containers, however often and in whatever order.
def SameCores (properties others : List Property) : Prop :=
  (∀ property ∈ properties, ∃ other ∈ others, Rewrapped property.type other.type) ∧
  (∀ other ∈ others, ∃ property ∈ properties, Rewrapped property.type other.type)

theorem type_of_resolved (type : SchemaType) (name : String) (construction : Option String)
    (resolved : dialect.resolve type = .ok ⟨name, construction⟩) : dialect.typeOf type = .ok name := by
  rw [typeOf, resolved]
  rfl

theorem type_of_primitive (kind : String) : dialect.typeOf (.primitive kind) = .ok (dialect.primitiveName kind) :=
  dialect.type_of_resolved (.primitive kind) (dialect.primitiveName kind) none (by rw [resolve])

theorem type_of_object (name : String) : dialect.typeOf (.object name) = .ok (dialect.modelName name) :=
  dialect.type_of_resolved (.object name) (dialect.modelName name) none (by rw [resolve])

theorem type_of_enumeration (name : String) : dialect.typeOf (.enumeration name) = .ok (dialect.modelName name) :=
  dialect.type_of_resolved (.enumeration name) (dialect.modelName name) none (by rw [resolve])

theorem core_type_total (core : SchemaType) (single : core.isContainer = false) (known : ∀ text, core ≠ .foreign text)
    (notBuiltIn : dialect.isPrimitive core = false) : ∃ name, dialect.typeOf core = .ok name := by
  cases core with
  | primitive kind => exact ⟨_, dialect.type_of_primitive kind⟩
  | object name => exact ⟨_, dialect.type_of_object name⟩
  | enumeration name => exact ⟨_, dialect.type_of_enumeration name⟩
  | array item => cases single
  | map value => cases single
  | file => cases notBuiltIn
  | foreign text => exact absurd rfl (known text)

/-! ## What the pass looks for -/

theorem imports_sibling_iff (type : SchemaType) (line : String) :
    dialect.ImportsSibling modelPackage type line ↔
      dialect.isPrimitive type.innermost = false ∧ ∃ name, dialect.typeOf type.innermost = .ok name ∧
        dialect.table.imports.lookup name = none ∧ line = importOf modelPackage name := by
  constructor
  · rintro ⟨core, name, within, single, rest⟩
    have same := (innermost_iff core type).mpr ⟨within, single⟩
    subst same
    exact ⟨rest.1, name, rest.2⟩
  · rintro ⟨notBuiltIn, name, rest⟩
    obtain ⟨within, single⟩ := (innermost_iff _ type).mp rfl
    exact ⟨type.innermost, name, within, single, notBuiltIn, rest⟩

theorem sibling_import_total (type : SchemaType) (supported : Supported type) :
    ∃ found, dialect.siblingImport modelPackage type = .ok found := by
  cases builtIn : dialect.isPrimitive type.innermost with
  | true => exact ⟨none, by rw [siblingImport, if_pos builtIn]; rfl⟩
  | false =>
      have known := (supported_iff type).mp supported
      obtain ⟨name, typed⟩ := dialect.core_type_total type.innermost (innermost_no_container type) known builtIn
      rw [siblingImport, if_neg (by simp [builtIn]), typed]
      exact ⟨_, rfl⟩

theorem sibling_import_exact (type : SchemaType) (found : Option String)
    (done : dialect.siblingImport modelPackage type = .ok found) (line : String) :
    found = some line ↔ dialect.ImportsSibling modelPackage type line := by
  rw [imports_sibling_iff]
  cases builtIn : dialect.isPrimitive type.innermost with
  | true =>
      rw [siblingImport, if_pos builtIn] at done
      cases done
      simp
  | false =>
      rw [siblingImport, if_neg (by simp [builtIn]), Outcome.bind_ok_iff] at done
      obtain ⟨name, typed, same⟩ := done
      cases same
      constructor
      · intro here
        cases mapped : dialect.table.imports.lookup name with
        | some path => simp [mapped] at here
        | none =>
            rw [mapped] at here
            exact ⟨rfl, name, typed, mapped, (Option.some.inj here).symm⟩
      · rintro ⟨-, other, again, unmapped, rfl⟩
        cases typed.symm.trans again
        rw [unmapped]
        rfl

theorem sibling_imports_total (model : Model) (supported : ∀ property ∈ model.properties, Supported property.type) :
    ∃ siblings, dialect.siblingImports modelPackage model = .ok siblings := by
  obtain ⟨found, traversed⟩ := Outcome.traverse_total
    (fun property : Property => dialect.siblingImport modelPackage property.type) model.properties
    (fun property member => dialect.sibling_import_total modelPackage property.type (supported property member))
  exact ⟨found.filterMap id, (Outcome.bind_ok_iff _ _ _).mpr ⟨found, traversed, rfl⟩⟩

theorem sibling_imports_exact (model : Model) (siblings : List String)
    (done : dialect.siblingImports modelPackage model = .ok siblings) (line : String) :
    line ∈ siblings ↔ dialect.ImportsSiblingOf modelPackage model.properties line := by
  obtain ⟨found, traversed, same⟩ := (Outcome.bind_ok_iff _ _ _).mp done
  cases same
  have related := (Outcome.traverse_ok_iff _ _ _).mp traversed
  rw [List.mem_filterMap]
  constructor
  · rintro ⟨result, inside, here⟩
    obtain ⟨property, member, step⟩ := Outcome.related_result _ _ _ related result inside
    exact ⟨property, member, (dialect.sibling_import_exact modelPackage _ result step line).mp here⟩
  · rintro ⟨property, member, sibling⟩
    obtain ⟨result, inside, step⟩ := Outcome.related_item _ _ _ related property member
    exact ⟨result, inside, (dialect.sibling_import_exact modelPackage _ result step line).mpr sibling⟩

/-! ## What the pass leaves -/

theorem drop_filters (model : Model) (supported : ∀ property ∈ model.properties, Supported property.type)
    (drops : String → Bool)
    (decides : ∀ line, drops line = true ↔ dialect.ImportsSiblingOf modelPackage model.properties line) :
    dialect.dropSiblingImports modelPackage model =
      .ok { model with imports := model.imports.filter (fun line => !drops line) } := by
  obtain ⟨siblings, done⟩ := dialect.sibling_imports_total modelPackage model supported
  have same : (fun line => !drops line) = fun line => decide (line ∉ siblings) := by
    funext line
    have agree := (decides line).trans (dialect.sibling_imports_exact modelPackage model siblings done line).symm
    rw [decide_not, Bool.eq_iff_iff.mpr (agree.trans decide_eq_true_iff.symm)]
  rw [same]
  exact (Outcome.bind_ok_iff _ _ _).mpr ⟨siblings, done, rfl⟩

theorem drop_again (model : Model) (supported : ∀ property ∈ model.properties, Supported property.type)
    (drops : String → Bool)
    (decides : ∀ line, drops line = true ↔ dialect.ImportsSiblingOf modelPackage model.properties line) :
    dialect.dropSiblingImports modelPackage { model with imports := model.imports.filter (fun line => !drops line) } =
      .ok { model with imports := model.imports.filter (fun line => !drops line) } := by
  have again := dialect.drop_filters modelPackage
    { model with imports := model.imports.filter (fun line => !drops line) } supported drops decides
  rw [again, List.filter_filter]
  simp only [Bool.and_self]

theorem imports_sibling_rewrapped (type other : SchemaType) (rewrapped : Rewrapped type other) (line : String) :
    dialect.ImportsSibling modelPackage type line ↔ dialect.ImportsSibling modelPackage other line := by
  rw [imports_sibling_iff, imports_sibling_iff, rewrapped_innermost type other rewrapped]

theorem imports_sibling_same_cores (properties others : List Property) (same : SameCores properties others)
    (line : String) : dialect.ImportsSiblingOf modelPackage properties line ↔
      dialect.ImportsSiblingOf modelPackage others line := by
  constructor
  · rintro ⟨property, member, sibling⟩
    obtain ⟨other, among, rewrapped⟩ := same.1 property member
    exact ⟨other, among, (dialect.imports_sibling_rewrapped modelPackage _ _ rewrapped line).mp sibling⟩
  · rintro ⟨other, among, sibling⟩
    obtain ⟨property, member, rewrapped⟩ := same.2 other among
    exact ⟨property, member, (dialect.imports_sibling_rewrapped modelPackage _ _ rewrapped line).mpr sibling⟩

/-! ## Imports from outside the package -/

-- No primitive outside the table brings a dot along in its name.
def PlainPrimitives (properties : List Property) : Prop :=
  ∀ property ∈ properties, ∀ kind, Within (.primitive kind) property.type →
    dialect.table.scalaTypes.lookup kind = none → '.' ∉ kind.toList

-- A dot-free name is what stands after the last dot of its import, whatever
-- dots the package brings.
theorem after_last_dot (front back : List Char) (undotted : '.' ∉ back) :
    (front ++ '.' :: back).reverse.takeWhile (· ≠ '.') = back.reverse := by
  have passes : ∀ c ∈ back.reverse, decide (c ≠ '.') = true := by
    intro c member
    refine decide_eq_true ?_
    rintro rfl
    exact undotted (List.mem_reverse.mp member)
  rw [List.reverse_append, List.reverse_cons, List.append_assoc, List.takeWhile_append_of_pos passes]
  simp

theorem import_name_unique (package other name another : String) (undotted : '.' ∉ name.toList)
    (undotted' : '.' ∉ another.toList) (same : importOf package name = importOf other another) : name = another := by
  have split : ∀ a b : String, (importOf a b).toList = a.toList ++ '.' :: b.toList := by
    intro a b
    simp [importOf]
  have chars := congrArg String.toList same
  rw [split, split] at chars
  have tails := congrArg (fun line => line.reverse.takeWhile (· ≠ '.')) chars
  rw [after_last_dot _ _ undotted, after_last_dot _ _ undotted'] at tails
  exact String.toList_inj.mp (List.reverse_injective tails)

theorem model_name_undotted (name : String) : '.' ∉ (dialect.modelName name).toList := by
  intro dot
  rcases Naming.normalized_chars .type dialect.reserved name '.' dot with part | mark
  · exact absurd part (by decide)
  · exact absurd mark (by decide)

theorem primitive_name_undotted (kind : String)
    (plain : dialect.table.scalaTypes.lookup kind = none → '.' ∉ kind.toList) :
    '.' ∉ (dialect.primitiveName kind).toList := by
  rw [primitiveName]
  cases mapped : dialect.table.scalaTypes.lookup kind with
  | none => exact plain mapped
  | some type =>
      intro dot
      exact absurd (Naming.camel_case_chars .type type '.' dot) (by decide)

theorem core_name_undotted (core : SchemaType) (single : core.isContainer = false)
    (notBuiltIn : dialect.isPrimitive core = false)
    (plain : ∀ kind, core = .primitive kind → dialect.table.scalaTypes.lookup kind = none → '.' ∉ kind.toList)
    (name : String) (typed : dialect.typeOf core = .ok name) : '.' ∉ name.toList := by
  cases core with
  | primitive kind =>
      rw [type_of_primitive] at typed
      rw [← Except.ok.inj typed]
      exact dialect.primitive_name_undotted kind (plain kind rfl)
  | object model =>
      rw [type_of_object] at typed
      rw [← Except.ok.inj typed]
      exact dialect.model_name_undotted model
  | enumeration model =>
      rw [type_of_enumeration] at typed
      rw [← Except.ok.inj typed]
      exact dialect.model_name_undotted model
  | array item => cases single
  | map value => cases single
  | file => cases notBuiltIn
  | foreign text => cases typed

theorem standard_import_shape (invokerPackage name line : String)
    (member : (name, line) ∈ (TypeTable.standard invokerPackage).imports) :
    '.' ∉ name.toList ∧ (TypeTable.standard invokerPackage).imports.lookup name = some line ∧
      ∃ package, line = importOf package name := by
  simp only [TypeTable.standard, List.mem_cons, Prod.mk.injEq, List.not_mem_nil, or_false] at member
  rcases member with ⟨rfl, rfl⟩ | ⟨rfl, rfl⟩ | ⟨rfl, rfl⟩
  · exact ⟨by decide, rfl, "java.time", rfl⟩
  · exact ⟨by decide, rfl, "java.time", rfl⟩
  · exact ⟨by decide, rfl, invokerPackage, rfl⟩

theorem standard_import_kept (invokerPackage : String) (standard : dialect.table = .standard invokerPackage)
    (properties : List Property) (plain : dialect.PlainPrimitives properties) (name line : String)
    (mapped : (name, line) ∈ dialect.table.imports) : ¬ dialect.ImportsSiblingOf modelPackage properties line := by
  rintro ⟨property, member, core, sibling, within, single, notBuiltIn, typed, unmapped, same⟩
  rw [standard] at mapped
  obtain ⟨undotted, found, package, shape⟩ := standard_import_shape invokerPackage name line mapped
  have undotted' := dialect.core_name_undotted core single notBuiltIn
    (fun kind primitive => plain property member kind (primitive ▸ within)) sibling typed
  have equal := import_name_unique package modelPackage name sibling undotted undotted' (shape.symm.trans same)
  rw [standard, ← equal, found] at unmapped
  cases unmapped

/-! ## The pass as a whole -/

-- The pass deletes the sibling imports and nothing else, whatever the form in
-- which the properties name their models, and no import of the standard table.
theorem sibling_imports_dropped (model : Model)
    (supported : ∀ property ∈ model.properties, Supported property.type) :
    ∃ (drops : String → Bool) (result : Model),
      (∀ line, drops line = true ↔ dialect.ImportsSiblingOf modelPackage model.properties line) ∧
      result = { model with imports := model.imports.filter (fun line => !drops line) } ∧
      dialect.dropSiblingImports modelPackage model = .ok result ∧
      dialect.dropSiblingImports modelPackage result = .ok result ∧
      (∀ others, SameCores model.properties others →
        dialect.dropSiblingImports modelPackage { model with properties := others } =
          .ok { result with properties := others }) ∧
      (∀ invokerPackage, dialect.table = .standard invokerPackage → dialect.PlainPrimitives model.properties →
        ∀ name line, (name, line) ∈ dialect.table.imports → line ∈ model.imports → line ∈ result.imports) := by
  obtain ⟨siblings, done⟩ := dialect.sibling_imports_total modelPackage model supported
  have decides : ∀ line, decide (line ∈ siblings) = true ↔
      dialect.ImportsSiblingOf modelPackage model.properties line := by
    intro line
    rw [decide_eq_true_iff]
    exact dialect.sibling_imports_exact modelPackage model siblings done line
  refine ⟨fun line => decide (line ∈ siblings), _, decides, rfl,
    dialect.drop_filters modelPackage model supported _ decides,
    dialect.drop_again modelPackage model supported _ decides, ?_, ?_⟩
  · intro others same
    have supported' : ∀ other ∈ others, Supported other.type := by
      intro other among
      obtain ⟨property, member, rewrapped⟩ := same.2 other among
      exact rewrapped_supported property.type other.type rewrapped (supported property member)
    have decides' := fun line =>
      (decides line).trans (dialect.imports_sibling_same_cores modelPackage model.properties others same line)
    exact dialect.drop_filters modelPackage { model with properties := others } supported' _ decides'
  · intro invokerPackage standard plain name line mapped declared
    have notSibling := dialect.standard_import_kept modelPackage invokerPackage standard model.properties plain name
      line mapped
    refine List.mem_filter.mpr ⟨declared, ?_⟩
    rw [← decides, Bool.not_eq_true] at notSibling
    simp only [notSibling, Bool.not_false]

-- A model in the package of the date that it refers to, next to a sibling.
def datedModel : Model :=
  ⟨"Visit", [⟨"day", .array (.primitive "date"), true, false, "", none⟩,
      ⟨"pet", .map (.array (.object "pet")), true, false, "", none⟩],
    ["java.time.Pet", "java.time.LocalDate", "java.time.Pet"], none⟩

def plainDialect : Dialect := ⟨.standard "client", []⟩

theorem dated_model_plain : plainDialect.PlainPrimitives datedModel.properties := by
  intro property member kind within unmapped
  have core := within_innermost _ _ within
  simp only [datedModel, List.mem_cons, List.not_mem_nil, or_false] at member
  rcases member with rfl | rfl
  · cases core
    exact absurd unmapped (by decide)
  · cases core

theorem dated_model_imports :
    (∀ property ∈ datedModel.properties, Supported property.type) ∧
      ∃ result, plainDialect.dropSiblingImports "java.time" datedModel = .ok result ∧
        "java.time.LocalDate" ∈ result.imports ∧ "java.time.Pet" ∉ result.imports := by
  have supported : ∀ property ∈ datedModel.properties, Supported property.type := by
    simp [datedModel, supported_iff, innermost]
  obtain ⟨drops, result, decides, same, done, -, -, kept⟩ :=
    plainDialect.sibling_imports_dropped "java.time" datedModel supported
  refine ⟨supported, result, done, ?_, ?_⟩
  · exact kept "client" rfl dated_model_plain "LocalDate" "java.time.LocalDate" (by decide) (by decide)
  · have sibling : plainDialect.ImportsSibling "java.time" (.map (.array (.object "pet"))) "java.time.Pet" :=
      ⟨.object "pet", "Pet", .map _ (.array _ .here), rfl, rfl, by decide +kernel, by decide, rfl⟩
    have dropped : drops "java.time.Pet" = true :=
      (decides _).mpr ⟨_, List.mem_cons_of_mem _ List.mem_cons_self, sibling⟩
    rw [same]
    simp [dropped]

end PlayClient.Dialect
