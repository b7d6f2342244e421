import PlayClient.Proofs.Schema.SiblingImports

set_option autoImplicit false

namespace PlayClient

inductive Container where
  | array
  | map
  deriving DecidableEq, Repr

namespace Container

def opening : Container → String
  | .array => "Seq["
  | .map => "Map[String, "

-- The containers from the outside in, what stands at the core, and a bracket
-- for each container.
def written (containers : List Container) (core : String) : String :=
  String.join (containers.map opening) ++ core ++ String.ofList (List.replicate containers.length ']')

theorem written_nil (core : String) : written [] core = core := by
  simp [written]

theorem written_cons (outer : Container) (inner : List Container) (core : String) :
    written (outer :: inner) core = outer.opening ++ written inner core ++ "]" := by
  apply String.toList_inj.mp
  simp [written, List.replicate_succ', List.append_assoc]

theorem bracket_of_written_cons (outer : Container) (inner : List Container) (core : String) :
    '[' ∈ (written (outer :: inner) core).toList := by
  rw [written_cons]
  cases outer <;> simp [opening]

-- Both texts are peeled together: the first letter tells the outer containers
-- apart, and only a core has no bracket.
theorem written_injective (left right : List Container) (a b : String) (bare : '[' ∉ a.toList)
    (bare' : '[' ∉ b.toList) (same : written left a = written right b) : left = right ∧ a = b := by
  induction left generalizing right with
  | nil =>
      cases right with
      | nil => simpa [written_nil] using same
      | cons outer inner =>
          rw [written_nil] at same
          exact absurd (same ▸ bracket_of_written_cons outer inner b) bare
  | cons outer inner ih =>
      cases right with
      | nil =>
          rw [written_nil] at same
          exact absurd (same ▸ bracket_of_written_cons outer inner a) bare'
      | cons other rest =>
          rw [written_cons, written_cons] at same
          have heads : outer = other := by
            have letters := congrArg (·.toList.head?) same
            cases outer <;> cases other <;> simp [opening] at letters ⊢
          subst heads
          have tails : written inner a = written rest b := by simpa using same
          obtain ⟨containers, cores⟩ := ih rest tails
          exact ⟨by rw [containers], cores⟩

end Container

namespace SchemaType

def containers : SchemaType → List Container
  | .array item => .array :: item.containers
  | .map value => .map :: value.containers
  | _ => []

-- How a container that is written in this way is made: a map by its own type, an
-- array by a buffer of the same arguments. Nothing else is made at all.
def ConstructedAs (display : String) (construction : Option String) : SchemaType → Prop
  | .array _ => ∃ arguments, display = "Seq" ++ arguments ∧ construction = some ("ListBuffer" ++ arguments)
  | .map _ => construction = some display
  | _ => construction = none

theorem supported_array (item : SchemaType) (supported : Supported (.array item)) : Supported item :=
  fun text within => supported text (.array item within)

theorem supported_map (value : SchemaType) (supported : Supported (.map value)) : Supported value :=
  fun text within => supported text (.map value within)

end SchemaType

namespace Dialect

open SchemaType

variable (dialect : Dialect) (invokerPackage : String)

theorem container_resolved (kind arguments type constructor : String)
    (typed : entry dialect.table.scalaTypes kind = .ok type)
    (built : entry dialect.table.constructors kind = .ok constructor) :
    dialect.container kind arguments = .ok ⟨applied type arguments, some (applied constructor arguments)⟩ := by
  rw [container, typed, built]
  rfl

theorem standard_array (standard : dialect.table = .standard invokerPackage) (arguments : String) :
    dialect.container arrayKind arguments =
      .ok ⟨applied "Seq" arguments, some (applied "ListBuffer" arguments)⟩ := by
  apply container_resolved
  · rw [standard]
    rfl
  · rw [standard]
    rfl

theorem standard_map (standard : dialect.table = .standard invokerPackage) (arguments : String) :
    dialect.container mapKind arguments = .ok ⟨applied "Map" arguments, some (applied "Map" arguments)⟩ := by
  apply container_resolved
  · rw [standard]
    rfl
  · rw [standard]
    rfl

theorem standard_file (standard : dialect.table = .standard invokerPackage) :
    dialect.resolve .file = .ok ⟨fileTypeName, none⟩ := by
  rw [resolve, standard]
  rfl

/-! ## The text of a resolved type -/

theorem applied_split (container arguments : String) :
    applied container arguments = container ++ ("[" ++ arguments ++ "]") := by
  simp only [applied, String.append_assoc]

theorem applied_array (core : String) (inner : List Container) :
    applied "Seq" (Container.written inner core) = Container.written (.array :: inner) core := by
  apply String.toList_inj.mp
  simp [Container.written_cons, Container.opening, applied]

theorem applied_map (core : String) (inner : List Container) :
    applied "Map" (mapArguments (Container.written inner core)) = Container.written (.map :: inner) core := by
  apply String.toList_inj.mp
  simp [Container.written_cons, Container.opening, applied, mapArguments, mapKeyType]

theorem core_written (core : SchemaType) (name : String) (single : core.isContainer = false)
    (resolved : dialect.resolve core = .ok ⟨name, none⟩) :
    dialect.typeOf core.innermost = .ok name ∧
      dialect.resolve core = .ok ⟨Container.written core.containers name, none⟩ ∧
      core.ConstructedAs (Container.written core.containers name) none := by
  have typed := dialect.type_of_resolved core name none resolved
  rw [no_container_innermost core single]
  cases core with
  | array item => cases single
  | map value => cases single
  | _ => exact ⟨typed, by simpa [containers, Container.written_nil] using resolved, rfl⟩

-- With the standard tables every type resolves, and its text shows the nesting.
theorem resolve_written (standard : dialect.table = .standard invokerPackage) (type : SchemaType)
    (supported : Supported type) :
    ∃ core construction, dialect.typeOf type.innermost = .ok core ∧
      dialect.resolve type = .ok ⟨Container.written type.containers core, construction⟩ ∧
      type.ConstructedAs (Container.written type.containers core) construction := by
  induction type with
  | primitive kind => exact ⟨_, none, dialect.core_written _ _ rfl (by rw [resolve])⟩
  | object name => exact ⟨_, none, dialect.core_written _ _ rfl (by rw [resolve])⟩
  | enumeration name => exact ⟨_, none, dialect.core_written _ _ rfl (by rw [resolve])⟩
  | file => exact ⟨_, none, dialect.core_written _ _ rfl (dialect.standard_file invokerPackage standard)⟩
  | foreign text => exact absurd .here (supported text)
  | array item ih =>
      obtain ⟨core, made, typed, resolved, -⟩ := ih (supported_array item supported)
      have outer := dialect.standard_array invokerPackage standard (Container.written item.containers core)
      rw [applied_array] at outer
      refine ⟨core, some (applied "ListBuffer" (Container.written item.containers core)), typed, ?_, ?_⟩
      · rw [resolve, resolved]
        exact outer
      · refine ⟨"[" ++ Container.written item.containers core ++ "]", ?_, ?_⟩
        · rw [containers, ← applied_array, applied_split]
        · rw [applied_split]
  | map value ih =>
      obtain ⟨core, made, typed, resolved, -⟩ := ih (supported_map value supported)
      have outer := dialect.standard_map invokerPackage standard (mapArguments (Container.written value.containers core))
      rw [applied_map] at outer
      refine ⟨core, some (Container.written (.map :: value.containers) core), typed, ?_, rfl⟩
      rw [resolve, resolved]
      exact outer

/-! ## Texts that tell types apart -/

-- What stands at the core is a model, an enumeration, a file, or a primitive
-- that the table knows.
def IsNamed (core : SchemaType) : Prop :=
  match core with
  | .primitive kind => (dialect.table.scalaTypes.lookup kind).isSome
  | .object _ => True
  | .enumeration _ => True
  | .file => True
  | _ => False

theorem named_supported (type : SchemaType) (named : dialect.IsNamed type.innermost) : Supported type := by
  rw [supported_iff]
  intro text foreign
  rw [foreign] at named
  exact named

theorem known_primitive_letters (kind : String) (known : (dialect.table.scalaTypes.lookup kind).isSome) (c : Char)
    (member : c ∈ (dialect.primitiveName kind).toList) : Naming.isWordChar c = true := by
  cases mapped : dialect.table.scalaTypes.lookup kind with
  | none => simp [mapped] at known
  | some type =>
      rw [primitiveName, mapped] at member
      exact Naming.camel_case_chars .type type c member

theorem model_name_bracket_free (name : String) : '[' ∉ (dialect.modelName name).toList := by
  intro bracket
  have known := Naming.normalized_chars .type dialect.reserved name '[' bracket
  exact absurd known (by decide)

theorem named_bracket_free (standard : dialect.table = .standard invokerPackage) (core : SchemaType) (name : String)
    (named : dialect.IsNamed core) (typed : dialect.typeOf core = .ok name) : '[' ∉ name.toList := by
  cases core with
  | primitive kind =>
      rw [type_of_primitive] at typed
      rw [← Except.ok.inj typed]
      intro bracket
      exact absurd (dialect.known_primitive_letters kind named '[' bracket) (by decide)
  | object model =>
      rw [type_of_object] at typed
      rw [← Except.ok.inj typed]
      exact dialect.model_name_bracket_free model
  | enumeration model =>
      rw [type_of_enumeration] at typed
      rw [← Except.ok.inj typed]
      exact dialect.model_name_bracket_free model
  | file =>
      have resolved := dialect.standard_file invokerPackage standard
      rw [dialect.type_of_resolved .file fileTypeName none resolved] at typed
      cases typed
      decide
  | array item => exact False.elim named
  | map value => exact False.elim named
  | foreign text => exact False.elim named

-- The text of a type spells out its containers around the name of its core, and
-- no other nesting and no other name has the same text.
theorem type_text_unambiguous (standard : dialect.table = .standard invokerPackage) (type : SchemaType)
    (named : dialect.IsNamed type.innermost) :
    ∃ core construction, dialect.typeOf type.innermost = .ok core ∧
      dialect.resolve type = .ok ⟨Container.written type.containers core, construction⟩ ∧
      type.ConstructedAs (Container.written type.containers core) construction ∧
      ∀ other, dialect.IsNamed other.innermost →
        (dialect.typeOf type = dialect.typeOf other ↔
          type.containers = other.containers ∧ dialect.typeOf type.innermost = dialect.typeOf other.innermost) := by
  obtain ⟨core, construction, typed, resolved, constructed⟩ :=
    dialect.resolve_written invokerPackage standard type (dialect.named_supported type named)
  refine ⟨core, construction, typed, resolved, constructed, ?_⟩
  intro other named'
  obtain ⟨core', construction', typed', resolved', -⟩ :=
    dialect.resolve_written invokerPackage standard other (dialect.named_supported other named')
  have bare := dialect.named_bracket_free invokerPackage standard _ core named typed
  have bare' := dialect.named_bracket_free invokerPackage standard _ core' named' typed'
  rw [dialect.type_of_resolved type _ _ resolved, dialect.type_of_resolved other _ _ resolved', typed, typed']
  constructor
  · intro same
    obtain ⟨nesting, cores⟩ := Container.written_injective _ _ _ _ bare bare' (Except.ok.inj same)
    exact ⟨nesting, by rw [cores]⟩
  · intro same
    rw [same.1, Except.ok.inj same.2]

-- A model in an array is told apart from a primitive that has the array's name.
theorem type_text_of_nested_model :
    plainDialect.IsNamed (SchemaType.innermost (.map (.array (.object "pet")))) ∧
      (∃ core construction, plainDialect.typeOf (.object "pet") = .ok core ∧
        plainDialect.resolve (.map (.array (.object "pet"))) =
          .ok ⟨Container.written [.map, .array] core, construction⟩ ∧
        ConstructedAs (Container.written [.map, .array] core) construction (.map (.array (.object "pet")))) ∧
      plainDialect.typeOf (.map (.array (.object "pet"))) ≠ plainDialect.typeOf (.map (.primitive arrayKind)) := by
  obtain ⟨core, construction, typed, resolved, constructed, apart⟩ :=
    plainDialect.type_text_unambiguous "client" rfl (.map (.array (.object "pet"))) trivial
  refine ⟨trivial, ⟨core, construction, typed, resolved, constructed⟩, ?_⟩
  intro same
  have nesting := ((apart (.map (.primitive arrayKind)) rfl).mp same).1
  cases nesting

end Dialect

end PlayClient
