import PlayClient.Naming.Identifier
import PlayClient.Schema.Basic
import PlayClient.Schema.TypeTable

/-!
Scala types of schema types, and the values that properties start with. Containers are resolved
from the inside out.
-/

set_option autoImplicit false

namespace PlayClient

structure Dialect where
  table : TypeTable
  reserved : List String
  deriving DecidableEq, Repr

inductive ResolutionError where
  | unsupported (text : Option String)
  -- A table has no entry for the kind.
  | unmapped (kind : String)
  deriving DecidableEq, Repr

def ResolutionError.message : ResolutionError → String
  | .unsupported none => "Unsupported schema type: None"
  | .unsupported (some text) => "Unsupported schema type: " ++ Text.quoted text
  | .unmapped kind => Text.quoted kind

structure ResolvedType where
  display : String
  construction : Option String
  deriving DecidableEq, Repr

namespace Dialect

def entry (table : List (String × String)) (kind : String) : Except ResolutionError String :=
  match table.lookup kind with
  | some name => .ok name
  | none => .error (.unmapped kind)

-- The Scala type of a primitive; a kind outside the table is its own name.
def primitiveName (dialect : Dialect) (kind : String) : String :=
  match dialect.table.scalaTypes.lookup kind with
  | some name => Naming.typeName name
  | none => kind

def modelName (dialect : Dialect) (name : String) : String :=
  (Naming.normalize .type dialect.reserved name).normalized

def mapArguments (value : String) : String := mapKeyType ++ ", " ++ value

def applied (container arguments : String) : String := container ++ "[" ++ arguments ++ "]"

-- The Scala type comes from the one table, the constructor from the other, looked up in this order.
def container (dialect : Dialect) (kind arguments : String) : Except ResolutionError ResolvedType := do
  let type ← entry dialect.table.scalaTypes kind
  let constructor ← entry dialect.table.constructors kind
  return ⟨applied type arguments, some (applied constructor arguments)⟩

def resolve (dialect : Dialect) : SchemaType → Except ResolutionError ResolvedType
  | .primitive kind => .ok ⟨dialect.primitiveName kind, none⟩
  | .array item => do
    let inner ← dialect.resolve item
    dialect.container arrayKind inner.display
  | .map value => do
    let inner ← dialect.resolve value
    dialect.container mapKind (mapArguments inner.display)
  | .object name => .ok ⟨dialect.modelName name, none⟩
  | .enumeration name => .ok ⟨dialect.modelName name, none⟩
  | .file => do
    let type ← entry dialect.table.scalaTypes fileKind
    return ⟨type, none⟩
  | .foreign text => .error (.unsupported text)

def typeOf (dialect : Dialect) (type : SchemaType) : Except ResolutionError String := do
  return (← dialect.resolve type).display

def constructionOf (dialect : Dialect) (type : SchemaType) : Except ResolutionError (Option String) := do
  return (← dialect.resolve type).construction

-- Files and the primitives whose Scala type is built in.
def isPrimitive (dialect : Dialect) : SchemaType → Bool
  | .primitive kind =>
    match dialect.table.scalaTypes.lookup kind with
    | some name => decide (name ∈ dialect.table.builtins)
    | none => false
  | .file => true
  | _ => false

def emptyOf (type : String) : String := type ++ ".empty"

-- The value a property starts with: optional ones with `None`, required containers empty, the
-- others with `null`.
def defaultValue (dialect : Dialect) (required : Bool) (type : SchemaType) : Except ResolutionError String :=
  if !required then .ok "None"
  else
    match type with
    | .map value => do
      let inner ← dialect.typeOf value
      let map ← entry dialect.table.scalaTypes mapKind
      return emptyOf (applied map (mapArguments inner))
    | .array item => do
      let inner ← dialect.typeOf item
      let array ← entry dialect.table.scalaTypes arrayKind
      return emptyOf (applied array inner)
    | _ => .ok "null"

def resolveProperty (dialect : Dialect) (property : Property) : Except ResolutionError Property := do
  let dataType ← if property.dataType = "" then dialect.typeOf property.type else pure property.dataType
  return { property with
    dataType := dataType
    isPrimitive := property.isPrimitive || dialect.isPrimitive property.type }

end Dialect

end PlayClient
