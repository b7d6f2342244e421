import PlayClient.Naming.Reserved
import PlayClient.Naming.Words
import PlayClient.Text.Quoted
import PlayClient.Text.Trim

/-!
Identifiers of the generated code. A name that is no plain identifier, or is reserved, stands
between back quotes; it is not changed to avoid that.
-/

set_option autoImplicit false

namespace PlayClient.Naming

def escapeMark : Char := '\x60'

def isIdentifierStart (c : Char) : Bool := c.isAlpha || c == '_' || c == '$'

def isIdentifierPart (c : Char) : Bool := c.isAlphanum || c == '_' || c == '$'

-- Letters, digits, `_` and `$`, no digit in front; one line feed after them is let pass.
def isPlain (name : String) : Bool :=
  match Text.dropFinalLineFeed name.toList with
  | [] => false
  | c :: rest => isIdentifierStart c && rest.all isIdentifierPart

def escaped (name : String) : String :=
  String.ofList (escapeMark :: name.toList ++ [escapeMark])

def unescapeChars : List Char → List Char
  | [] => []
  | c :: rest => if c = escapeMark ∧ rest.getLast? = some escapeMark then rest.dropLast else c :: rest

def unescaped (name : String) : String := String.ofList (unescapeChars name.toList)

structure Identifier where
  raw : String
  normalized : String
  isEscaped : Bool
  deriving DecidableEq, Repr

def Identifier.plain (raw name : String) : Identifier := ⟨raw, name, false⟩

def Identifier.quoted (raw name : String) : Identifier := ⟨raw, escaped name, true⟩

inductive Notice where
  | unusable (raw name : String)
  | renamed (name newName : String)
  deriving DecidableEq, Repr

def Notice.message : Notice → String
  | .unusable raw name => "Name " ++ Text.quoted raw ++ " has no usable character. Renamed to " ++ name
  | .renamed name newName =>
      name ++ " (reserved word) cannot be used as method name. Renamed to " ++ newName

-- Stands for names without a letter or digit.
def emptyName : String := "_empty"

def baseName (style : NameStyle) (raw : String) : String :=
  let name := camelCase style raw
  if name = "" then emptyName else name

def normalize (style : NameStyle) (reserved : List String) (raw : String) : Identifier :=
  let name := baseName style raw
  if isPlain name ∧ name ∉ reserved then .plain raw name else .quoted raw name

def normalizeNotices (style : NameStyle) (raw : String) : List Notice :=
  if camelCase style raw = "" then [.unusable raw emptyName] else []

end PlayClient.Naming
