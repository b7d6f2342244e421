import PlayClient.Client.ApiPage
import PlayClient.Client.SupportFile
import PlayClient.Path

/-!
The files of a generated client, by path. A path keeps its first place and its last content.
-/

set_option autoImplicit false

namespace PlayClient

abbrev Files := List (Path × String)

namespace Files

def put (files : Files) (path : Path) (content : String) : Files :=
  match files with
  | [] => [(path, content)]
  | (old, kept) :: rest => if old = path then (old, content) :: rest else (old, kept) :: put rest path content

def merge (files others : Files) : Files := others.foldl (fun all file => put all file.1 file.2) files

def ofList (files : List (Path × String)) : Files := merge [] files

end Files

namespace Client

def supportFile (client : Client) (output : Path) (file : SupportFile) : Path × String :=
  (output.joinText file.destination, file.page.text client.settings.supportValues)

def generateSupport (client : Client) (output : Path) : Files :=
  Files.ofList (client.settings.supportFiles.map (client.supportFile output))

def packagePath (client : Client) (output : Path) (package : String) : Path :=
  output.join (Path.ofTexts client.settings.sourceFolder (Text.splitAt '.' package))

-- The file of a class is named without back quotes.
def modelFileName (className : String) : String :=
  String.ofList (Text.dropAtEnds (· == Naming.escapeMark) className.toList) ++ ".scala"

def modelFile (client : Client) (output : Path) (model : Model) :
    Except GenerationError (Path × String) := do
  let page ← (client.modelPage model).mapError .type
  let folder := client.packagePath output client.settings.modelPackage
  return (folder.joinText (modelFileName page.className), page.text client)

def generateModels (client : Client) (output : Path) (models : List Model) :
    Except GenerationError Files := do
  let files ← models.mapM (client.modelFile output)
  return Files.ofList files

def apiClassName (name : String) : String := Naming.typeName name ++ "Api"

def apiPage (client : Client) (name : String) (operations : List Operation) :
    Except GenerationError ApiPage := do
  let methods ← operations.mapM client.clientMethod
  return {
    package := client.settings.apiPackage
    invokerPackage := client.settings.invokerPackage
    className := apiClassName name
    methods := methods }

def generateApi (client : Client) (output : Path) (name : String) (operations : List Operation) :
    Except GenerationError Files := do
  let page ← client.apiPage name operations
  let text ← page.text client
  let folder := client.packagePath output client.settings.apiPackage
  return [(folder.joinText (page.className ++ ".scala"), text)]

def generate (client : Client) (output : Path) (models : List Model) (apiName : String)
    (operations : List Operation) : Except GenerationError Files := do
  let support := client.generateSupport output
  let models ← client.generateModels output models
  let files := Files.merge support models
  if operations.isEmpty then return files
  let api ← client.generateApi output apiName operations
  return Files.merge files api

end Client

end PlayClient
