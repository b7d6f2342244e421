import PlayClient.Text.Blank
import PlayClient.Text.LetterCase
import PlayClient.Value

/-!
Settings of a generated client, read from named options.
-/

set_option autoImplicit false

namespace PlayClient

inductive TextOption where
  | mainPackage
  | invokerPackage
  | apiPackage
  | modelPackage
  | configPath
  | sourceFolder
  | resourcesFolder
  | outputFolder
  | projectOrganization
  | projectName
  | projectVersion
  | scalaVersion
  | playVersion
  deriving DecidableEq, Repr

namespace TextOption

def name : TextOption → String
  | .mainPackage => "mainPackage"
  | .invokerPackage => "invokerPackage"
  | .apiPackage => "apiPackage"
  | .modelPackage => "modelPackage"
  | .configPath => "configPath"
  | .sourceFolder => "sourceFolder"
  | .resourcesFolder => "resourcesFolder"
  | .outputFolder => "outputFolder"
  | .projectOrganization => "projectOrganization"
  | .projectName => "projectName"
  | .projectVersion => "projectVersion"
  | .scalaVersion => "scalaVersion"
  | .playVersion => "playVersion"

def all : List TextOption :=
  [.mainPackage, .invokerPackage, .apiPackage, .modelPackage, .configPath, .sourceFolder, .resourcesFolder,
   .outputFolder, .projectOrganization, .projectName, .projectVersion, .scalaVersion, .playVersion]

def ofName? (text : String) : Option TextOption := all.find? (·.name == text)

def description? : TextOption → Option String
  | .mainPackage => some "root package of the generated client"
  | .invokerPackage => some "package of the invoker scaffolding (ApiInvoker, ApiConfig, ...)"
  | .apiPackage => some "package of the generated API classes"
  | .modelPackage => some "package of the generated model classes"
  | .configPath => some "path under which the config must be defined"
  | .projectOrganization => some "project organization in generated build.sbt"
  | .projectName => some "project name in generated build.sbt"
  | .projectVersion => some "project version in generated build.sbt"
  | .scalaVersion => some "the Scala version to use in generated build.sbt"
  | .playVersion => some "the Play version to use in generated build.sbt"
  | .sourceFolder => none
  | .resourcesFolder => none
  | .outputFolder => none

end TextOption

inductive FlagOption where
  | renderJavadoc
  | removeOAuthSecurities
  | onlyOneSuccess
  | strictOperationNames
  deriving DecidableEq, Repr

namespace FlagOption

def name : FlagOption → String
  | .renderJavadoc => "renderJavadoc"
  | .removeOAuthSecurities => "removeOAuthSecurities"
  | .onlyOneSuccess => "onlyOneSuccess"
  | .strictOperationNames => "strictOperationNames"

def all : List FlagOption := [.renderJavadoc, .removeOAuthSecurities, .onlyOneSuccess, .strictOperationNames]

def ofName? (text : String) : Option FlagOption := all.find? (·.name == text)

end FlagOption

structure Settings where
  mainPackage : String
  invokerPackage : String
  apiPackage : String
  modelPackage : String
  configPath : String
  sourceFolder : String
  resourcesFolder : String
  outputFolder : String
  projectOrganization : String
  projectName : String
  projectVersion : String
  scalaVersion : String
  playVersion : String
  renderJavadoc : Bool
  removeOAuthSecurities : Bool
  onlyOneSuccess : Bool
  strictOperationNames : Bool
  -- Words that this client's names cannot be, besides the usual ones.
  extraReservedWords : List String
  deriving DecidableEq, Repr

inductive SettingsError where
  | unknownOption (name : String)
  | notFlag (option : String) (value : Value)
  | notText (option : String) (value : Value)
  | emptyMainPackage

def SettingsError.message : SettingsError → String
  | .unknownOption name => "Unknown generator option '" ++ name ++ "'"
  | .notFlag option value => "Option '" ++ option ++ "' expects a boolean, got " ++ value.display
  | .notText option value => "Option '" ++ option ++ "' expects a text, got " ++ value.display
  | .emptyMainPackage => "Option '" ++ TextOption.mainPackage.name ++ "' must not be empty"

def trueWords : List String := ["true", "1", "yes", "on"]

def falseWords : List String := ["false", "0", "no", "off"]

-- A flag, or one of the words for on and off in any case and between blanks.
def Value.asFlag? : Value → Option Bool
  | .flag value => some value
  | .text value =>
    let word := Text.lowercase (Text.trimmed value)
    if word ∈ trueWords then some true else if word ∈ falseWords then some false else none
  | _ => none

namespace Settings

-- What holds for options that are not given; the empty texts depend on the main package.
def unset : Settings where
  mainPackage := "io.swagger.client"
  invokerPackage := ""
  apiPackage := ""
  modelPackage := ""
  configPath := ""
  sourceFolder := "src/main/scala"
  resourcesFolder := "src/main/resources"
  outputFolder := "generated-code/scala"
  projectOrganization := "io.swagger"
  projectName := "swagger-client"
  projectVersion := "1.0.0"
  scalaVersion := "2.12.3"
  playVersion := "2.6.6"
  renderJavadoc := true
  removeOAuthSecurities := true
  onlyOneSuccess := true
  strictOperationNames := false
  extraReservedWords := []

def text (settings : Settings) : TextOption → String
  | .mainPackage => settings.mainPackage
  | .invokerPackage => settings.invokerPackage
  | .apiPackage => settings.apiPackage
  | .modelPackage => settings.modelPackage
  | .configPath => settings.configPath
  | .sourceFolder => settings.sourceFolder
  | .resourcesFolder => settings.resourcesFolder
  | .outputFolder => settings.outputFolder
  | .projectOrganization => settings.projectOrganization
  | .projectName => settings.projectName
  | .projectVersion => settings.projectVersion
  | .scalaVersion => settings.scalaVersion
  | .playVersion => settings.playVersion

def setText (settings : Settings) (value : String) : TextOption → Settings
  | .mainPackage => { settings with mainPackage := value }
  | .invokerPackage => { settings with invokerPackage := value }
  | .apiPackage => { settings with apiPackage := value }
  | .modelPackage => { settings with modelPackage := value }
  | .configPath => { settings with configPath := value }
  | .sourceFolder => { settings with sourceFolder := value }
  | .resourcesFolder => { settings with resourcesFolder := value }
  | .outputFolder => { settings with outputFolder := value }
  | .projectOrganization => { settings with projectOrganization := value }
  | .projectName => { settings with projectName := value }
  | .projectVersion => { settings with projectVersion := value }
  | .scalaVersion => { settings with scalaVersion := value }
  | .playVersion => { settings with playVersion := value }

theorem text_set_text (settings : Settings) (value : String) (option other : TextOption) :
    (settings.setText value option).text other = if other = option then value else settings.text other := by
  cases option <;> cases other <;> rfl

def flag (settings : Settings) : FlagOption → Bool
  | .renderJavadoc => settings.renderJavadoc
  | .removeOAuthSecurities => settings.removeOAuthSecurities
  | .onlyOneSuccess => settings.onlyOneSuccess
  | .strictOperationNames => settings.strictOperationNames

def setFlag (settings : Settings) (value : Bool) : FlagOption → Settings
  | .renderJavadoc => { settings with renderJavadoc := value }
  | .removeOAuthSecurities => { settings with removeOAuthSecurities := value }
  | .onlyOneSuccess => { settings with onlyOneSuccess := value }
  | .strictOperationNames => { settings with strictOperationNames := value }

theorem flag_set_flag (settings : Settings) (value : Bool) (option other : FlagOption) :
    (settings.setFlag value option).flag other = if other = option then value else settings.flag other := by
  cases option <;> cases other <;> rfl

theorem text_set_flag (settings : Settings) (value : Bool) (option : FlagOption) (other : TextOption) :
    (settings.setFlag value option).text other = settings.text other := by
  cases option <;> cases other <;> rfl

theorem flag_set_text (settings : Settings) (value : String) (option : TextOption) (other : FlagOption) :
    (settings.setText value option).flag other = settings.flag other := by
  cases option <;> cases other <;> rfl

-- Takes one option in; an option without a value is passed over.
def assign (settings : Settings) : String × Value → Except SettingsError Settings
  | (_, .null) => .ok settings
  | (name, value) =>
    match TextOption.ofName? name, FlagOption.ofName? name with
    | some option, _ =>
      -- A setting that is a text has no other value.
      match value with
      | .text given => .ok (settings.setText given option)
      | _ => .error (.notText name value)
    | none, some option =>
      match value.asFlag? with
      | some given => .ok (settings.setFlag given option)
      | none => .error (.notFlag name value)
    | none, none => .error (.unknownOption name)

def orElse (given other : String) : String := if given = "" then other else given

-- Packages and the path of the configuration follow the main package where they are not given.
def derived (settings : Settings) : Settings :=
  { settings with
    invokerPackage := orElse settings.invokerPackage (settings.mainPackage ++ ".core")
    apiPackage := orElse settings.apiPackage (settings.mainPackage ++ ".api")
    modelPackage := orElse settings.modelPackage (settings.mainPackage ++ ".model")
    configPath := orElse settings.configPath settings.mainPackage }

def complete (settings : Settings) : Except SettingsError Settings :=
  if settings.mainPackage = "" then .error .emptyMainPackage else .ok settings.derived

-- Reads options in their order; the main package is checked after all of them.
def ofOptions (options : List (String × Value)) : Except SettingsError Settings := do
  let settings ← options.foldlM assign unset
  settings.complete

def standard : Settings := unset.derived

def toOptions (settings : Settings) : List (String × Value) :=
  TextOption.all.map (fun option => (option.name, Value.text (settings.text option))) ++
    FlagOption.all.map (fun option => (option.name, Value.flag (settings.flag option)))

end Settings

def optionNames : List String := TextOption.all.map (·.name) ++ FlagOption.all.map (·.name)

def optionDescriptions : List (String × String) :=
  TextOption.all.filterMap fun option => option.description?.map (option.name, ·)

end PlayClient
