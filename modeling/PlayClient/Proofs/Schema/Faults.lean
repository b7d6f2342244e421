import PlayClient.Proofs.Schema.TypeText

set_option autoImplicit false

namespace PlayClient

namespace Container

def kind : Container → String
  | .array => arrayKind
  | .map => mapKind

def around : Container → SchemaType → SchemaType
  | .array => .array
  | .map => .map

def arguments : Container → String → String
  | .array => id
  | .map => Dialect.mapArguments

theorem innermost_that_holds (holds : Container → Prop) (containers : List Container)
    (present : ∃ container ∈ containers, holds container) :
    ∃ outer container inner, containers = outer ++ container :: inner ∧ holds container ∧
      ∀ other ∈ inner, ¬ holds other := by
  induction containers with
  | nil => simp at present
  | cons first rest ih =>
      by_cases later : ∃ container ∈ rest, holds container
      · obtain ⟨outer, container, inner, split, here, after⟩ := ih later
        exact ⟨first :: outer, container, inner, by rw [split]; rfl, here, after⟩
      · have here : holds first := by
          obtain ⟨container, member, found⟩ := present
          rcases List.mem_cons.mp member with rfl | inside
          · exact found
          · exact absurd ⟨container, inside, found⟩ later
        exact ⟨[], first, rest, rfl, here, by simpa using later⟩

end Container

namespace Dialect

open SchemaType

variable (dialect : Dialect)

-- What stands inside all containers has no Scala type.
inductive CoreFault : SchemaType → ResolutionError → Prop where
  | unsupported (text : Option String) : CoreFault (.foreign text) (.unsupported text)
  | unmapped (missing : dialect.table.scalaTypes.lookup fileKind = none) : CoreFault .file (.unmapped fileKind)

-- A table has no entry for the container. One that is spared needs no constructor.
def Lacks (spared : Bool) (container : Container) : Prop :=
  dialect.table.scalaTypes.lookup container.kind = none ∨
    spared = false ∧ dialect.table.constructors.lookup container.kind = none

-- The core decides before any container, and of the containers the innermost one
-- that lacks an entry. Only the outermost of all can be spared.
inductive Fault (sparing : Bool) (type : SchemaType) : ResolutionError → Prop where
  | core (error : ResolutionError) (wrong : dialect.CoreFault type.innermost error) : Fault sparing type error
  | container (outer : List Container) (container : Container) (inner : List Container)
      (split : type.containers = outer ++ container :: inner)
      (sound : ∀ error, ¬ dialect.CoreFault type.innermost error)
      (lacking : dialect.Lacks (sparing && outer.isEmpty) container)
      (complete : ∀ other ∈ inner, ¬ dialect.Lacks false other) : Fault sparing type (.unmapped container.kind)

/-! ## Types put in one more container -/

theorem around_innermost (container : Container) (item : SchemaType) :
    (container.around item).innermost = item.innermost := by
  cases container <;> rfl

theorem around_containers (container : Container) (item : SchemaType) :
    (container.around item).containers = container :: item.containers := by
  cases container <;> rfl

theorem container_around (type : SchemaType) (contains : type.isContainer = true) :
    ∃ (container : Container) (item : SchemaType), type = container.around item := by
  cases type with
  | array item => exact ⟨.array, item, rfl⟩
  | map value => exact ⟨.map, value, rfl⟩
  | _ => cases contains

theorem resolve_around (container : Container) (item : SchemaType) :
    dialect.resolve (container.around item) =
      dialect.resolve item >>= fun inner => dialect.container container.kind (container.arguments inner.display) := by
  cases container <;> rfl

theorem default_around (container : Container) (item : SchemaType) :
    dialect.defaultValue true (container.around item) =
      dialect.typeOf item >>= fun inner => entry dialect.table.scalaTypes container.kind >>= fun type =>
        .ok (emptyOf (applied type (container.arguments inner))) := by
  cases container <;> rfl

/-! ## Where the tables decide -/

theorem container_error_iff (container : Container) (arguments : String) (error : ResolutionError) :
    dialect.container container.kind arguments = .error error ↔
      dialect.Lacks false container ∧ error = .unmapped container.kind := by
  cases typed : dialect.table.scalaTypes.lookup container.kind with
  | none => simp [Dialect.container, entry, Lacks, typed, bind, Except.bind, eq_comm]
  | some type =>
      cases built : dialect.table.constructors.lookup container.kind <;>
        simp [Dialect.container, entry, Lacks, typed, built, bind, Except.bind, pure, Except.pure, eq_comm]

theorem entry_error_iff (container : Container) (error : ResolutionError) :
    entry dialect.table.scalaTypes container.kind = .error error ↔
      dialect.Lacks true container ∧ error = .unmapped container.kind := by
  cases typed : dialect.table.scalaTypes.lookup container.kind <;> simp [entry, Lacks, typed, eq_comm]

theorem fault_core_iff (sparing : Bool) (core : SchemaType) (error : ResolutionError)
    (single : core.isContainer = false) : dialect.Fault sparing core error ↔ dialect.CoreFault core error := by
  have bare : core.containers = [] := by
    cases core with
    | array item => cases single
    | map value => cases single
    | _ => rfl
  refine ⟨fun fault => ?_, fun wrong => .core error (by rwa [no_container_innermost core single])⟩
  cases fault with
  | core _ wrong => rwa [no_container_innermost core single] at wrong
  | container outer container inner split => simp [bare] at split

theorem faultless_iff (item : SchemaType) :
    (∀ error, ¬ dialect.Fault false item error) ↔
      (∀ error, ¬ dialect.CoreFault item.innermost error) ∧
        ∀ container ∈ item.containers, ¬ dialect.Lacks false container := by
  refine ⟨fun sound => ?_, fun ⟨core, complete⟩ error fault => ?_⟩
  · have core := fun error wrong => sound error (.core error wrong)
    refine ⟨core, fun container member lacking => ?_⟩
    obtain ⟨outer, last, inner, split, here, complete⟩ :=
      Container.innermost_that_holds (dialect.Lacks false) item.containers ⟨container, member, lacking⟩
    exact sound _ (.container outer last inner split core (by rwa [Bool.false_and]) complete)
  · cases fault with
    | core _ wrong => exact core error wrong
    | container outer container inner split _ lacking _ =>
        rw [Bool.false_and] at lacking
        exact complete container (by simp [split]) lacking

-- One more container leaves the fault of the item as it is, and has its own say
-- only where the item has none.
theorem fault_around_iff (sparing : Bool) (container : Container) (item : SchemaType) (error : ResolutionError) :
    dialect.Fault sparing (container.around item) error ↔
      dialect.Fault false item error ∨ (∀ other, ¬ dialect.Fault false item other) ∧
        dialect.Lacks sparing container ∧ error = .unmapped container.kind := by
  constructor
  · intro fault
    cases fault with
    | core _ wrong => exact .inl (.core error (by rwa [around_innermost] at wrong))
    | container outer lacked inner split sound lacking complete =>
        rw [around_innermost] at sound
        rw [around_containers] at split
        cases outer with
        | nil =>
            cases split
            exact .inr ⟨(dialect.faultless_iff item).mpr ⟨sound, complete⟩, by simpa using lacking, rfl⟩
        | cons first rest =>
            obtain ⟨-, within⟩ := List.cons_eq_cons.mp split
            exact .inl (.container rest lacked inner within sound (by simpa using lacking) complete)
  · rintro (fault | ⟨sound, lacking, rfl⟩)
    · cases fault with
      | core _ wrong => exact .core error (by rwa [around_innermost])
      | container outer lacked inner split sound lacking complete =>
          refine .container (container :: outer) lacked inner ?_ ?_ (by simpa using lacking) complete
          · rw [around_containers, split]
            rfl
          · rwa [around_innermost]
    · obtain ⟨core, complete⟩ := (dialect.faultless_iff item).mp sound
      refine .container [] container item.containers ?_ ?_ (by simpa using lacking) complete
      · exact around_containers container item
      · rwa [around_innermost]

/-! ## Types that do not resolve -/

theorem core_error_iff (core : SchemaType) (error : ResolutionError) (single : core.isContainer = false) :
    dialect.resolve core = .error error ↔ dialect.CoreFault core error := by
  cases core with
  | array item => cases single
  | map value => cases single
  | foreign text =>
      rw [resolve, Except.error.injEq]
      exact ⟨fun same => same ▸ .unsupported text, fun wrong => by cases wrong; rfl⟩
  | file =>
      have missing_iff : dialect.CoreFault .file error ↔
          dialect.table.scalaTypes.lookup fileKind = none ∧ error = .unmapped fileKind := by
        constructor
        · intro wrong
          cases wrong with
          | unmapped missing => exact ⟨missing, rfl⟩
        · rintro ⟨missing, rfl⟩
          exact .unmapped missing
      rw [missing_iff]
      cases typed : dialect.table.scalaTypes.lookup fileKind <;>
        simp [resolve, entry, typed, bind, Except.bind, pure, Except.pure, eq_comm]
  | _ =>
      refine ⟨fun failed => ?_, fun wrong => by cases wrong⟩
      rw [resolve] at failed
      cases failed

theorem resolve_around_error (container : Container) (item : SchemaType)
    (known : ∀ error, dialect.resolve item = .error error ↔ dialect.Fault false item error) (error : ResolutionError) :
    dialect.resolve (container.around item) = .error error ↔ dialect.Fault false (container.around item) error := by
  have returns : (∃ inner, dialect.resolve item = .ok inner) ↔ ∀ other, ¬ dialect.Fault false item other := by
    simp only [Outcome.returns_iff, ne_eq, known]
  rw [resolve_around, Outcome.bind_error_iff, fault_around_iff, known]
  simp only [container_error_iff, exists_and_right, returns]

-- The fault of a type is found from the core outwards, as resolving it goes.
theorem resolve_error_iff (type : SchemaType) (error : ResolutionError) :
    dialect.resolve type = .error error ↔ dialect.Fault false type error := by
  induction type generalizing error with
  | array item ih => exact dialect.resolve_around_error .array item ih error
  | map value ih => exact dialect.resolve_around_error .map value ih error
  | _ => rw [fault_core_iff dialect false _ error rfl, core_error_iff dialect _ error rfl]

theorem resolve_ok_iff (type : SchemaType) :
    (∃ resolved, dialect.resolve type = .ok resolved) ↔ ∀ error, ¬ dialect.Fault false type error := by
  simp only [Outcome.returns_iff, ne_eq, resolve_error_iff]

/-! ## Defaults -/

theorem type_of_error_iff (type : SchemaType) (error : ResolutionError) :
    dialect.typeOf type = .error error ↔ dialect.Fault false type error := by
  rw [typeOf, Outcome.bind_error_iff, resolve_error_iff]
  refine or_iff_left ?_
  rintro ⟨_, _, failed⟩
  cases failed

theorem type_of_ok_iff (type : SchemaType) :
    (∃ name, dialect.typeOf type = .ok name) ↔ ∀ error, ¬ dialect.Fault false type error := by
  simp only [Outcome.returns_iff, ne_eq, type_of_error_iff]

theorem default_around_error (container : Container) (item : SchemaType) (error : ResolutionError) :
    dialect.defaultValue true (container.around item) = .error error ↔
      dialect.Fault true (container.around item) error := by
  have last : ∀ inner, (entry dialect.table.scalaTypes container.kind >>= fun type =>
      (.ok (emptyOf (applied type (container.arguments inner))) : Except ResolutionError String)) = .error error ↔
        dialect.Lacks true container ∧ error = .unmapped container.kind := by
    intro inner
    rw [Outcome.bind_error_iff, entry_error_iff]
    refine or_iff_left ?_
    rintro ⟨_, _, failed⟩
    cases failed
  rw [default_around, Outcome.bind_error_iff, fault_around_iff, type_of_error_iff]
  simp only [last, exists_and_right, type_of_ok_iff]

theorem default_around_resolved (container : Container) (item : SchemaType) (resolved : ResolvedType)
    (done : dialect.resolve (container.around item) = .ok resolved) :
    dialect.defaultValue true (container.around item) = .ok (emptyOf resolved.display) := by
  rw [resolve_around, Outcome.bind_ok_iff] at done
  obtain ⟨inner, within, built⟩ := done
  obtain ⟨type, typed, constructed⟩ := (Outcome.bind_ok_iff _ _ _).mp built
  obtain ⟨constructor, -, same⟩ := (Outcome.bind_ok_iff _ _ _).mp constructed
  cases same
  rw [default_around, dialect.type_of_resolved item inner.display inner.construction within, typed]
  rfl

-- Types fail by their innermost fault. Defaults fail in the same way, for required
-- containers only, and are made without the constructor of the outermost one.
theorem resolution_faults (type : SchemaType) :
    (∀ error, dialect.resolve type = .error error ↔ dialect.Fault false type error) ∧
      ((∃ resolved, dialect.resolve type = .ok resolved) ↔ ∀ error, ¬ dialect.Fault false type error) ∧
      (∃ value, dialect.defaultValue false type = .ok value) ∧
      (type.isContainer = false → ∃ value, dialect.defaultValue true type = .ok value) ∧
      (type.isContainer = true →
        (∀ error, dialect.defaultValue true type = .error error ↔ dialect.Fault true type error) ∧
          ∀ resolved, dialect.resolve type = .ok resolved →
            dialect.defaultValue true type = .ok (resolved.display ++ ".empty")) := by
  refine ⟨dialect.resolve_error_iff type, dialect.resolve_ok_iff type, ⟨"None", rfl⟩, ?_, ?_⟩
  · intro single
    cases type with
    | array item => cases single
    | map value => cases single
    | _ => exact ⟨"null", rfl⟩
  · intro contains
    obtain ⟨container, item, rfl⟩ := container_around type contains
    exact ⟨dialect.default_around_error container item, dialect.default_around_resolved container item⟩

-- Maps have a type here and no constructor.
def unbuiltMaps : Dialect := ⟨{ TypeTable.standard "client" with constructors := [(arrayKind, "ListBuffer")] }, []⟩

-- A map needs no constructor for its own default, only for the type of what it is in.
theorem faults_of_nested_maps :
    unbuiltMaps.resolve (.map (.array .file)) = .error (.unmapped mapKind) ∧
      unbuiltMaps.defaultValue true (.map (.array .file)) = .ok "Map[String, Seq[ApiFile]].empty" ∧
      unbuiltMaps.defaultValue true (.array (.map .file)) = .error (.unmapped mapKind) ∧
      ∃ resolved, plainDialect.resolve (.map (.array .file)) = .ok resolved ∧
        plainDialect.defaultValue true (.map (.array .file)) = .ok (resolved.display ++ ".empty") := by
  have sound : ∀ error, ¬ unbuiltMaps.CoreFault .file error := by
    intro error wrong
    cases wrong with
    | unmapped missing => exact absurd missing (by decide)
  have unbuilt : unbuiltMaps.Lacks false .map := .inr ⟨rfl, by decide⟩
  have built : ¬ unbuiltMaps.Lacks false .array := by
    rintro (untyped | ⟨-, missing⟩)
    · exact absurd untyped (by decide)
    · exact absurd missing (by decide)
  obtain ⟨resolves, -⟩ := unbuiltMaps.resolution_faults (.map (.array .file))
  obtain ⟨-, -, -, -, defaults⟩ := unbuiltMaps.resolution_faults (.array (.map .file))
  obtain ⟨-, -, -, -, written⟩ := plainDialect.resolution_faults (.map (.array .file))
  refine ⟨?_, by decide +kernel, ?_, ⟨"Map[String, Seq[ApiFile]]", some "Map[String, Seq[ApiFile]]"⟩,
    by decide +kernel, ?_⟩
  · exact (resolves _).mpr (.container [] .map [.array] rfl sound unbuilt (by simpa using built))
  · exact ((defaults rfl).1 _).mpr (.container [.array] .map [] rfl sound unbuilt (by simp))
  · exact (written rfl).2 _ (by decide +kernel)

end Dialect

end PlayClient
