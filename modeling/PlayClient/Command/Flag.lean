import PlayClient.Settings

/-!
The flags of the command line and how they are spelled.
-/

set_option autoImplicit false

namespace PlayClient.Command

inductive Effect where
  | help
  | output
  | setText (option : TextOption)
  | setFlag (option : FlagOption) (value : Bool)
  | verbose
  deriving DecidableEq, Repr

structure Flag where
  names : List String
  effect : Effect
  help : String
  deriving DecidableEq, Repr

def Effect.argument? : Effect → Option String
  | .output => some "OUTPUT_DIR"
  | .setText option => some (Text.uppercase option.name)
  | _ => none

def Flag.takesArgument (flag : Flag) : Bool := flag.effect.argument?.isSome

def defaultOutput : String := "generated"

def textFlag (name : String) (option : TextOption) : Flag :=
  ⟨[name], .setText option, option.description?.getD ""⟩

def flags : List Flag :=
  [⟨["-h", "--help"], .help, "show this help message and exit"⟩,
   ⟨["--output", "-o"], .output,
     "Output directory for generated files (default: " ++ defaultOutput ++ ")"⟩,
   textFlag "--main-package" .mainPackage,
   textFlag "--invoker-package" .invokerPackage,
   textFlag "--api-package" .apiPackage,
   textFlag "--model-package" .modelPackage,
   textFlag "--config-path" .configPath,
   textFlag "--project-organization" .projectOrganization,
   textFlag "--project-name" .projectName,
   textFlag "--project-version" .projectVersion,
   textFlag "--scala-version" .scalaVersion,
   textFlag "--play-version" .playVersion,
   ⟨["--no-javadoc"], .setFlag .renderJavadoc false, "Do not render Scaladoc blocks"⟩,
   ⟨["--keep-oauth"], .setFlag .removeOAuthSecurities false,
     "Keep OAuth security requirements on operations"⟩,
   ⟨["--all-success-responses"], .setFlag .onlyOneSuccess false,
     "Treat every 2XX response as a success, not only the lowest one"⟩,
   ⟨["--strict-operation-names"], .setFlag .strictOperationNames true,
     "Fail instead of renaming operation ids that are reserved words"⟩,
   ⟨["--verbose", "-v"], .verbose, "Enable verbose output"⟩]

def spellings : List (String × Flag) := flags.flatMap fun flag => flag.names.map (·, flag)

def Flag.title (flag : Flag) : String := "/".intercalate flag.names

end PlayClient.Command
