/-!
What the reader of an API description hands over about data: types, properties and models.
-/

set_option autoImplicit false

namespace PlayClient

-- Models and enumerations are referred to by name, so a type is a finite tree.
inductive SchemaType where
  | primitive (kind : String)
  | array (item : SchemaType)
  | map (value : SchemaType)
  | object (name : String)
  | enumeration (name : String)
  | file
  -- Something else where a type should stand: a text, or nothing.
  | foreign (text : Option String)
  deriving DecidableEq, Repr

def SchemaType.innermost : SchemaType → SchemaType
  | .array item => item.innermost
  | .map value => value.innermost
  | type => type

structure Property where
  baseName : String
  type : SchemaType
  required : Bool
  isPrimitive : Bool
  -- Empty until the type is resolved.
  dataType : String
  description : Option String
  deriving DecidableEq, Repr

structure Model where
  name : String
  properties : List Property
  imports : List String
  description : Option String
  deriving DecidableEq, Repr

end PlayClient
