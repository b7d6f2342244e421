import PlayClient.Client.SupportPage
import PlayClient.Settings
import PlayClient.Text.Trim

/-!
The files that every generated client has, and where they go.
-/

set_option autoImplicit false

namespace PlayClient

structure SupportFile where
  page : SupportPage
  folder : String
  name : String
  deriving DecidableEq, Repr

def placedIn (folder name : String) : String :=
  if folder = "" then name else String.ofList (Text.dropAtEnd (· == '/') folder.toList) ++ "/" ++ name

def SupportFile.destination (file : SupportFile) : String := placedIn file.folder file.name

def packageFolder (package : String) : String :=
  String.ofList (package.toList.map fun c => if c = '.' then '/' else c)

namespace Settings

-- The folder of the invoker package; the points of the source folder count as well.
def invokerFolder (settings : Settings) : String :=
  packageFolder (settings.sourceFolder ++ "/" ++ settings.invokerPackage)

def modelFolder (settings : Settings) : String :=
  settings.outputFolder ++ "/" ++ settings.sourceFolder ++ "/" ++ packageFolder settings.modelPackage

def apiFolder (settings : Settings) : String :=
  settings.outputFolder ++ "/" ++ settings.sourceFolder ++ "/" ++ packageFolder settings.apiPackage

def supportFiles (settings : Settings) : List SupportFile :=
  [⟨.build, "", "build.sbt"⟩,
   ⟨.reference, settings.resourcesFolder, "reference.conf"⟩,
   ⟨.apiFile, settings.invokerFolder, "ApiFile.scala"⟩,
   ⟨.apiConfig, settings.invokerFolder, "ApiConfig.scala"⟩,
   ⟨.apiRequest, settings.invokerFolder, "ApiRequest.scala"⟩,
   ⟨.apiResponse, settings.invokerFolder, "ApiResponse.scala"⟩,
   ⟨.apiInvoker, settings.invokerFolder, "ApiInvoker.scala"⟩,
   ⟨.apiImplicits, settings.invokerFolder, "ApiImplicits.scala"⟩]

def supportValues (settings : Settings) : SupportValues where
  invokerPackage := settings.invokerPackage
  configPath := settings.configPath
  projectVersion := settings.projectVersion
  projectName := settings.projectName
  projectOrganization := settings.projectOrganization
  scalaVersion := settings.scalaVersion
  playVersion := settings.playVersion
  onlyOneSuccess := settings.onlyOneSuccess

end Settings

end PlayClient
