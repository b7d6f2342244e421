/-!
Words that a generated name cannot be.
-/

set_option autoImplicit false

namespace PlayClient.Naming

def keywords : List String :=
  ["abstract", "case", "catch", "class", "def", "do", "else", "extends", "false", "final", "finally",
   "for", "forSome", "if", "implicit", "import", "lazy", "match", "new", "null", "object", "override",
   "package", "private", "protected", "return", "sealed", "super", "this", "throw", "trait", "try",
   "true", "type", "val", "var", "while", "with", "yield"]

def scaffoldingNames : List String := ["apiInvoker", "apiRequest", "wsClient"]

def reservedWords : List String := keywords ++ scaffoldingNames

end PlayClient.Naming
