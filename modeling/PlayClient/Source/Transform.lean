import PlayClient.Naming.Identifier
import PlayClient.Source.DocComment
import PlayClient.Source.Literal

/-!
The text transforms that pages refer to by name.
-/

set_option autoImplicit false

namespace PlayClient.Source

def enumEntry (reserved : List String) (text : String) : String :=
  (Naming.normalize .type reserved text).normalized

def pageFilters : List (String × (String → String)) :=
  [("capitalize_first", Text.capitalized),
   ("camelize", Naming.camelCase .term),
   ("escape_unsafe_characters", commentSafe),
   ("escape_quotation_mark", withoutQuotes),
   ("scala_string_literal", stringLiteral)]

def clientTransforms (renderDocs : Bool) (reserved : List String) : List (String × (String → String)) :=
  (if renderDocs then [("javadocRenderer", docComment)] else []) ++
    [("fnCapitalize", Text.capitalized),
     ("fnCamelize", Naming.camelCase .term),
     ("fnEnumEntry", enumEntry reserved)]

end PlayClient.Source
