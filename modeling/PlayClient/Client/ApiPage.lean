import PlayClient.Client.ModelPage

/-!
The page of an API: a class with a method for each operation. A method builds a request and
declares what it sends, which responses count as success, and its credentials.
-/

set_option autoImplicit false

namespace PlayClient

structure MethodParameter where
  baseName : String
  name : String
  dataType : String
  required : Bool
  location : String
  description : Option String
  deriving DecidableEq, Repr

structure ClientMethod where
  operation : Operation
  name : String
  parameters : List MethodParameter
  security : Option (List SecurityRequirement)
  returnType : String
  successResponses : List ResolvedResponse
  responses : List ResolvedResponse
  deriving DecidableEq, Repr

namespace Client

def methodParameter (client : Client) (parameter : Parameter) :
    Except GenerationError MethodParameter := do
  let type ← (client.dialect.typeOf parameter.type).mapError .type
  return {
    baseName := parameter.baseName
    name := client.termName parameter.baseName
    dataType := type
    required := parameter.required
    location := parameter.location
    description := parameter.description }

def clientMethod (client : Client) (operation : Operation) : Except GenerationError ClientMethod := do
  let parameters ← operation.parameters.mapM client.methodParameter
  let name ← (client.methodName operation.operationId).mapError .methodName
  let returnType ← client.returnType operation
  let successes ← client.successResponses operation
  let responses ← operation.responses.mapM client.resolveResponse
  return {
    operation := operation
    name := name
    parameters := parameters
    security := client.security operation.security
    returnType := returnType
    successResponses := successes
    responses := responses }

end Client

namespace MethodParameter

def signature (parameter : MethodParameter) : String :=
  parameter.name ++ ": " ++
    if parameter.required then parameter.dataType else optionOf parameter.dataType ++ " = None"

def passing (parameter : MethodParameter) : String :=
  if parameter.location = "body" then "      .withBody(" ++ parameter.name ++ ")"
  else
    "      .with" ++ Text.capitalized parameter.location ++ "Param(\"" ++
      Source.withoutQuotes parameter.baseName ++ "\", " ++ parameter.name ++ ")"

end MethodParameter

namespace ClientMethod

def statusLine (status : Nat) : String := "      .withSuccessResponse(" ++ toString status ++ ")"

def credential (requirement : SecurityRequirement) : String :=
  "credentials(\"" ++ Source.withoutQuotes requirement.scheme ++ "\")" ++
    if requirement.isLast then "" else ", "

def credentialLines : Option (List SecurityRequirement) → List String
  | none => []
  | some [] => []
  | some requirements =>
    ["      .withCredentials(" ++ String.join (requirements.map credential) ++ ")"]

def signature (method : ClientMethod) : List String :=
  let request := "ApiRequest[" ++ method.returnType ++ "]"
  ["  def " ++ method.name ++ "(" ++ ", ".intercalate (method.parameters.map (·.signature)) ++ "): " ++
      request ++ " =",
   "    " ++ request ++ "(ApiMethods." ++ Text.uppercase method.operation.httpMethod ++ ", \"" ++
      Source.withoutQuotes method.operation.path ++ "\", \"" ++
      Source.withoutQuotes (method.operation.operationId.getD "") ++ "\")"]

def statuses (method : ClientMethod) : Except Text.NumeralError (List Nat) := do
  let found ← method.successResponses.mapM (·.status)
  return found.filterMap id

def text (client : Client) (method : ClientMethod) : Except GenerationError String := do
  let statuses ← method.statuses.mapError .status
  return "\n" ++ client.docBlock method.operation.summary ++
    Text.ofLines (method.signature ++ method.parameters.map (·.passing) ++ statuses.map statusLine ++
      credentialLines method.security)

end ClientMethod

structure ApiPage where
  package : String
  invokerPackage : String
  className : String
  methods : List ClientMethod
  deriving DecidableEq, Repr

namespace ApiPage

def header (page : ApiPage) : List String :=
  ["package " ++ page.package, "", "import " ++ page.invokerPackage ++ "._", "",
   "class " ++ page.className ++
     "(apiInvoker: ApiInvoker, credentials: Map[String, Credentials] = Map.empty) \x7b"]

def footer : List String := ["\x7d"]

def text (client : Client) (page : ApiPage) : Except GenerationError String := do
  let methods ← page.methods.mapM (·.text client)
  return Text.ofLines page.header ++ String.join methods ++ Text.ofLines footer

end ApiPage

end PlayClient
