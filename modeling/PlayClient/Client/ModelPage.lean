import PlayClient.Client.Basic

/-!
The page of a model: a case class with a field for each property, and its JSON format.
-/

set_option autoImplicit false

namespace PlayClient

structure Field where
  baseName : String
  name : String
  dataType : String
  defaultValue : String
  required : Bool
  isPrimitive : Bool
  description : Option String
  deriving DecidableEq, Repr

structure ModelPage where
  package : String
  imports : List String
  className : String
  fields : List Field
  description : Option String
  deriving DecidableEq, Repr

namespace Client

def field (client : Client) (property : Property) : Except ResolutionError Field := do
  let resolved ← client.dialect.resolveProperty property
  let start ← client.dialect.defaultValue property.required property.type
  return {
    baseName := property.baseName
    name := client.termName property.baseName
    dataType := resolved.dataType
    defaultValue := start
    required := property.required
    isPrimitive := resolved.isPrimitive
    description := property.description }

def modelPage (client : Client) (model : Model) : Except ResolutionError ModelPage := do
  let processed ← client.postProcess model
  let fields ← processed.properties.mapM client.field
  return {
    package := client.settings.modelPackage
    imports := processed.imports
    className := client.dialect.modelName processed.name
    fields := fields
    description := processed.description }

end Client

def optionOf (type : String) : String := Dialect.applied "Option" type

namespace Field

def type (field : Field) : String := if field.required then field.dataType else optionOf field.dataType

def text (field : Field) : String := "  " ++ field.name ++ ": " ++ field.type ++ " = " ++ field.defaultValue

def lines : List Field → List String
  | [] => []
  | [field] => [field.text]
  | field :: rest => (field.text ++ ",") :: lines rest

end Field

namespace ModelPage

def header (page : ModelPage) : List String :=
  ["package " ++ page.package, "", "import play.api.libs.json.\x7bFormat, Json\x7d"] ++
    page.imports.map ("import " ++ ·) ++ [""]

def classLines (page : ModelPage) : List String :=
  ("case class " ++ page.className ++ "(") :: Field.lines page.fields ++ [")"]

def companion (page : ModelPage) : List String :=
  ["", "object " ++ page.className ++ " \x7b",
   "  implicit val format: Format[" ++ page.className ++ "] = Json.format[" ++ page.className ++ "]",
   "\x7d"]

def text (client : Client) (page : ModelPage) : String :=
  Text.ofLines page.header ++ client.docBlock page.description ++
    Text.ofLines (page.classLines ++ page.companion)

end ModelPage

end PlayClient
