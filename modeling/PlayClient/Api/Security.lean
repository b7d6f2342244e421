import PlayClient.Text.Quoted

/-!
Security requirements of operations.
-/

set_option autoImplicit false

namespace PlayClient

inductive SecurityCategory where
  | apiKey
  | basic
  | oauth
  deriving DecidableEq, Repr

def SecurityCategory.name : SecurityCategory → String
  | .apiKey => "apiKey"
  | .basic => "basic"
  | .oauth => "oauth2"

def SecurityCategory.all : List SecurityCategory := [.apiKey, .basic, .oauth]

structure UnknownCategory where
  text : String
  deriving DecidableEq, Repr

def UnknownCategory.message (unknown : UnknownCategory) : String :=
  Text.quoted unknown.text ++ " is not a valid SecuritySchemeCategory"

def SecurityCategory.ofName (text : String) : Except UnknownCategory SecurityCategory :=
  match SecurityCategory.all.find? (·.name == text) with
  | some category => .ok category
  | none => .error ⟨text⟩

structure SecurityRequirement where
  scheme : String
  category : SecurityCategory
  isLast : Bool
  deriving DecidableEq, Repr

namespace SecurityRequirement

def isOAuth (requirement : SecurityRequirement) : Bool := requirement.category == .oauth

def markLast : List SecurityRequirement → List SecurityRequirement
  | [] => []
  | [requirement] => [{ requirement with isLast := true }]
  | requirement :: rest => { requirement with isLast := false } :: markLast rest

theorem length_mark_last (requirements : List SecurityRequirement) :
    (markLast requirements).length = requirements.length := by
  match requirements with
  | [] => rfl
  | [_] => rfl
  | _ :: next :: rest => simpa [markLast] using length_mark_last (next :: rest)

-- The requirements that are rendered. Without OAuth the others are marked anew, and where none
-- is left the operation has no security at all.
def rendered (removeOAuth : Bool) (requirements : List SecurityRequirement) :
    Option (List SecurityRequirement) :=
  if removeOAuth then
    let remaining := markLast (requirements.filter (!·.isOAuth))
    if remaining.isEmpty then none else some remaining
  else some requirements

end SecurityRequirement

end PlayClient
