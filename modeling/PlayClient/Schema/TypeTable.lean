/-!
The tables that lead from schema kinds to Scala types.
-/

set_option autoImplicit false

namespace PlayClient

structure TypeTable where
  scalaTypes : List (String × String)
  -- Scala types that need no import.
  builtins : List String
  constructors : List (String × String)
  imports : List (String × String)
  deriving DecidableEq, Repr

def arrayKind : String := "array"

def mapKind : String := "map"

def fileKind : String := "file"

def mapKeyType : String := "String"

-- The type of files, which the invoker package defines.
def fileTypeName : String := "ApiFile"

def scalarKinds : List String :=
  ["string", "boolean", "int", "integer", "long", "float", "double", "number", "date", "DateTime", "date-time"]

def TypeTable.standard (invokerPackage : String) : TypeTable where
  scalaTypes :=
    [(arrayKind, "Seq"), ("set", "Set"), (mapKind, "Map"), ("boolean", "Boolean"), ("string", "String"),
     ("int", "Int"), ("integer", "Int"), ("long", "Long"), ("float", "Float"), ("byte", "Byte"),
     ("short", "Short"), ("char", "Char"), ("double", "Double"), ("object", "Any"), (fileKind, fileTypeName),
     ("number", "Double"), ("DateTime", "OffsetDateTime"), ("date-time", "OffsetDateTime"),
     ("date", "LocalDate")]
  builtins :=
    ["String", "boolean", "Boolean", "Double", "Int", "Long", "Float", "Object", "List", "Seq", "Map"]
  constructors := [(arrayKind, "ListBuffer"), (mapKind, "Map")]
  imports :=
    [("OffsetDateTime", "java.time.OffsetDateTime"), ("LocalDate", "java.time.LocalDate"),
     (fileTypeName, invokerPackage ++ "." ++ fileTypeName)]

end PlayClient
