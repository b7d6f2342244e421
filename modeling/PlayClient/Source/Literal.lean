/-!
String literals of the generated code.
-/

set_option autoImplicit false

namespace PlayClient.Source

-- A backslash goes in front of each double quote and each backslash.
def escapeLiteral : List Char → List Char
  | [] => []
  | c :: rest => if c = '"' ∨ c = '\\' then '\\' :: c :: escapeLiteral rest else c :: escapeLiteral rest

def stringLiteral (text : String) : String :=
  String.ofList ('"' :: escapeLiteral text.toList ++ ['"'])

def withoutQuotes (text : String) : String := String.ofList (text.toList.filter (· ≠ '"'))

end PlayClient.Source
