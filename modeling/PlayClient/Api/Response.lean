import PlayClient.Api.StatusCode
import PlayClient.Schema.Resolution

/-!
Responses of operations, as declared and with their Scala types.
-/

set_option autoImplicit false

namespace PlayClient

structure Response where
  code : String
  type : Option SchemaType
  message : String
  deriving DecidableEq, Repr

def Response.isSuccess (response : Response) : Bool := StatusCode.isSuccess response.code

structure ResolvedResponse where
  code : String
  message : String
  dataType : Option String
  isPrimitive : Bool
  deriving DecidableEq, Repr

namespace ResolvedResponse

def isSuccess (response : ResolvedResponse) : Bool := StatusCode.isSuccess response.code

def status (response : ResolvedResponse) : Except Text.NumeralError (Option Nat) :=
  StatusCode.number? response.code

end ResolvedResponse

-- Files are handed to the caller as they are, so they count as primitive.
def Dialect.resolveResponse (dialect : Dialect) (response : Response) :
    Except ResolutionError ResolvedResponse :=
  match response.type with
  | none => .ok ⟨response.code, response.message, none, false⟩
  | some type => do
    let name ← dialect.typeOf type
    return ⟨response.code, response.message, some name, dialect.isPrimitive type⟩

end PlayClient
