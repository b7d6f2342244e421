import PlayClient.Naming.Identifier
import PlayClient.Text.Blank

/-!
Method names from operation ids. A reserved name is renamed, or refused when names are strict.
-/

set_option autoImplicit false

namespace PlayClient.Naming

inductive MethodNameError where
  | blank
  | unusable (operationId : String)
  | reserved (operationId : String)
  deriving DecidableEq, Repr

def MethodNameError.message : MethodNameError → String
  | .blank => "Empty method name (operationId) not allowed"
  | .unusable operationId => "Operation id '" ++ operationId ++ "' does not contain any usable character"
  | .reserved operationId => "Operation id '" ++ operationId ++ "' is a reserved word"

structure MethodName where
  identifier : Identifier
  notices : List Notice
  deriving DecidableEq, Repr

-- Method names are escaped only if they are no plain identifiers.
def methodIdentifier (operationId name : String) : Identifier :=
  if isPlain name then .plain operationId name else .quoted operationId name

def renamedMethod (name : String) : String := camelCase .term ("call_" ++ name)

def methodName (reserved : List String) (strict : Bool) : Option String → Except MethodNameError MethodName
  | none => .error .blank
  | some operationId =>
    let name := camelCase .term operationId
    if Text.allBlank operationId then .error .blank
    else if name = "" then .error (.unusable operationId)
    else if name ∉ reserved then .ok ⟨methodIdentifier operationId name, []⟩
    else if strict then .error (.reserved operationId)
    else .ok ⟨methodIdentifier operationId (renamedMethod name), [.renamed name (renamedMethod name)]⟩

end PlayClient.Naming
