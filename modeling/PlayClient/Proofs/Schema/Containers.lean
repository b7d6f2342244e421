import PlayClient.Schema.Basic

set_option autoImplicit false

namespace PlayClient.SchemaType

-- The type inside any nesting of containers, none included.
inductive Within (core : SchemaType) : SchemaType → Prop
  | here : Within core core
  | array (item : SchemaType) (inside : Within core item) : Within core (.array item)
  | map (value : SchemaType) (inside : Within core value) : Within core (.map value)

def isContainer : SchemaType → Bool
  | .array _ => true
  | .map _ => true
  | _ => false

-- One of the two is the other, put in containers or taken out of them.
def Rewrapped (type other : SchemaType) : Prop := ∃ core, Within core type ∧ Within core other

-- What stands at the core is a type at all.
def Supported (type : SchemaType) : Prop := ∀ text, ¬ Within (.foreign text) type

theorem innermost_within (type : SchemaType) : Within type.innermost type := by
  induction type with
  | array item ih => exact .array item ih
  | map value ih => exact .map value ih
  | _ => exact .here

theorem innermost_no_container (type : SchemaType) : type.innermost.isContainer = false := by
  induction type with
  | array item ih => exact ih
  | map value ih => exact ih
  | _ => rfl

theorem within_innermost (core type : SchemaType) (within : Within core type) :
    type.innermost = core.innermost := by
  induction within with
  | here => rfl
  | array item _ ih => exact ih
  | map value _ ih => exact ih

theorem no_container_innermost (core : SchemaType) (single : core.isContainer = false) :
    core.innermost = core := by
  cases core with
  | array item => cases single
  | map value => cases single
  | _ => rfl

theorem innermost_iff (core type : SchemaType) :
    type.innermost = core ↔ Within core type ∧ core.isContainer = false := by
  constructor
  · rintro rfl
    exact ⟨innermost_within type, innermost_no_container type⟩
  · rintro ⟨within, single⟩
    rw [within_innermost core type within, no_container_innermost core single]

theorem rewrapped_innermost (type other : SchemaType) (rewrapped : Rewrapped type other) :
    type.innermost = other.innermost := by
  obtain ⟨core, inType, inOther⟩ := rewrapped
  rw [within_innermost core type inType, within_innermost core other inOther]

theorem supported_iff (type : SchemaType) : Supported type ↔ ∀ text, type.innermost ≠ .foreign text := by
  refine forall_congr' (fun text => not_congr ?_)
  rw [innermost_iff]
  exact ⟨fun within => ⟨within, rfl⟩, And.left⟩

theorem rewrapped_supported (type other : SchemaType) (rewrapped : Rewrapped type other) (supported : Supported type) :
    Supported other := by
  rw [supported_iff] at supported ⊢
  rwa [← rewrapped_innermost type other rewrapped]

end PlayClient.SchemaType
