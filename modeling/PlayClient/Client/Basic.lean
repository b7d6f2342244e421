import PlayClient.Api.Operation
import PlayClient.Naming.Method
import PlayClient.Schema.Imports
import PlayClient.Settings
import PlayClient.Source.Transform

/-!
A client under generation: its settings, and the type tables and reserved words that follow
from them.
-/

set_option autoImplicit false

namespace PlayClient

structure Client where
  settings : Settings
  table : TypeTable
  deriving DecidableEq, Repr

inductive GenerationError where
  | type (error : ResolutionError)
  | methodName (error : Naming.MethodNameError)
  | status (error : Text.NumeralError)
  deriving DecidableEq, Repr

def GenerationError.message : GenerationError → String
  | .type error => error.message
  | .methodName error => error.message
  | .status error => error.message

def generatorName : String := "play-scala"

def generatorHelp : String := "Generates a Scala client library based on PlayWS."

namespace Client

def ofSettings (settings : Settings) : Client := ⟨settings, .standard settings.invokerPackage⟩

def reserved (client : Client) : List String := Naming.reservedWords ++ client.settings.extraReservedWords

def dialect (client : Client) : Dialect := ⟨client.table, client.reserved⟩

def normalize (client : Client) (style : Naming.NameStyle) (raw : String) : Naming.Identifier :=
  Naming.normalize style client.reserved raw

def termName (client : Client) (raw : String) : String := (client.normalize .term raw).normalized

def enumName (client : Client) (property : Property) : String :=
  (client.normalize .type property.baseName).normalized

def modelImport (client : Client) (name : String) : String := importOf client.settings.modelPackage name

def methodName (client : Client) (operationId : Option String) :
    Except Naming.MethodNameError String := do
  let name ← Naming.methodName client.reserved client.settings.strictOperationNames operationId
  return name.identifier.normalized

def transforms (client : Client) : List (String × (String → String)) :=
  Source.clientTransforms client.settings.renderJavadoc client.reserved

inductive TransformError where
  | unknown (name : String)
  | notTransform (value : Value)

def TransformError.message : TransformError → String
  | .unknown name => Text.quoted name
  | .notTransform (.flag _) => "'bool' object is not callable"
  | .notTransform _ => "'str' object is not callable"

-- Applies what a page knows under a name: a transform, but not the value of an option.
def transform (client : Client) (name text : String) : Except TransformError String :=
  match client.transforms.lookup name, client.settings.toOptions.lookup name with
  | some apply, _ => .ok (apply text)
  | none, some value => .error (.notTransform value)
  | none, none => .error (.unknown name)

def docBlock (client : Client) : Option String → String
  | none => ""
  | some text =>
    if text ≠ "" ∧ client.settings.renderJavadoc then Source.docComment (Source.commentSafe text) else ""

def resolveResponse (client : Client) (response : Response) : Except GenerationError ResolvedResponse :=
  (client.dialect.resolveResponse response).mapError .type

def sortedSuccesses (operation : Operation) : Except GenerationError (List Response) :=
  (StatusCode.sortBy Response.code (operation.responses.filter (·.isSuccess))).mapError .status

-- The responses a method declares: the lowest success alone, or all responses in order.
def successResponses (client : Client) (operation : Operation) :
    Except GenerationError (List ResolvedResponse) := do
  let chosen ←
    if client.settings.onlyOneSuccess then do
      let successes ← sortedSuccesses operation
      pure (successes.take 1)
    else (StatusCode.sortBy Response.code operation.responses).mapError .status
  chosen.mapM client.resolveResponse

def unitType : String := "Unit"

-- The type of what a method returns: the content of the lowest success.
def returnType (client : Client) (operation : Operation) : Except GenerationError String := do
  let successes ← sortedSuccesses operation
  match successes.head?.bind (·.type) with
  | none => return unitType
  | some type => (client.dialect.typeOf type).mapError .type

def security (client : Client) (requirements : List SecurityRequirement) :
    Option (List SecurityRequirement) :=
  SecurityRequirement.rendered client.settings.removeOAuthSecurities requirements

def postProcess (client : Client) (model : Model) : Except ResolutionError Model :=
  client.dialect.dropSiblingImports client.settings.modelPackage model

end Client

end PlayClient
