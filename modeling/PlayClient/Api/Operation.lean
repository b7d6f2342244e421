import PlayClient.Api.Response
import PlayClient.Api.Security

/-!
Operations of an API.
-/

set_option autoImplicit false

namespace PlayClient

structure Parameter where
  baseName : String
  type : SchemaType
  required : Bool
  location : String
  description : Option String
  deriving DecidableEq, Repr

structure Operation where
  operationId : Option String
  httpMethod : String
  path : String
  parameters : List Parameter
  responses : List Response
  security : List SecurityRequirement
  summary : Option String
  deriving DecidableEq, Repr

end PlayClient
