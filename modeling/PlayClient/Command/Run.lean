import PlayClient.Client.Generation
import PlayClient.Command.Arguments
import PlayClient.Command.Usage
import PlayClient.FileSystem.Basic

/-!
A run of the command line: it generates the support files of a client and writes them.
-/

set_option autoImplicit false

namespace PlayClient.Command

def successLine (output : Path) : String :=
  "Scala client support files generated successfully in " ++ output.toText ++ "\n"

def summary (files : List Path) (output : Path) : String :=
  let distinct := files.eraseDups
  "Generated " ++ toString distinct.length ++ " files:\n" ++
    Text.ofLines ((Path.sort distinct).map fun file => "  " ++ (file.relativeTo output).toText) ++
    "\n" ++ successLine output

def logLine (reporter message : String) : String :=
  "DEBUG    scala_oas_generator.generator." ++ reporter ++ ": " ++ message ++ "\n"

-- What a run reports about the generation of the support files, up to the pages it gets to.
def log (settings : Settings) (pages : List SupportPage) : String :=
  logLine "codegen" ("Creating " ++ generatorName ++ " codegen for package " ++ settings.mainPackage) ++
    logLine "support_files"
      ("Planned " ++ toString settings.supportFiles.length ++ " support files (invoker folder " ++
        settings.invokerFolder ++ ")") ++
    String.join (pages.map fun page => logLine "template_engine" ("Rendering template " ++ page.id))

def errorLine (message : String) : String := "Error: " ++ message ++ "\n"

def usageError (error : UsageError) : String :=
  usage ++ programName ++ ": error: " ++ error.message ++ "\n"

-- Precedes the trace of an error, which is not part of the outcome.
def traceHeading : String := "Traceback (most recent call last):\n"

inductive Ending where
  | success
  | badSettings
  | badUsage
  | failedGeneration
  deriving DecidableEq, Repr

def Ending.exitCode : Ending → Nat
  | .success => 0
  | .badSettings => 1
  | .badUsage => 2
  | .failedGeneration => 3

structure Verdict where
  ending : Ending
  standardOutput : String
  standardError : String
  deriving DecidableEq, Repr

def failure (log : Option String) (message : String) : Verdict :=
  ⟨.failedGeneration, "", log.getD "" ++ errorLine message ++ if log.isSome then traceHeading else ""⟩

def noOutputMessage : String := "unsupported operand type(s) for /: 'list' and 'str'"

structure Job where
  output : Path
  settings : Settings
  verbose : Bool
  deriving DecidableEq, Repr

namespace Job

def files (job : Job) : Files := (Client.ofSettings job.settings).generateSupport job.output

def log? (job : Job) : Option String :=
  if job.verbose then some (log job.settings (job.settings.supportFiles.map (·.page))) else none

def verdict (job : Job) : Option String → Verdict
  | none =>
    ⟨.success,
      if job.verbose then summary (job.files.map (·.1)) job.output
      else successLine job.output,
      job.log?.getD ""⟩
  | some message => failure job.log? message

end Job

-- Settles a command line as far as that needs no file: it ends there, or leaves a job. Without
-- an output folder it ends at the first page.
def prepare (texts : List String) : Verdict ⊕ Job :=
  match Arguments.ofTexts texts with
  | .error .help => .inl ⟨.success, helpText, ""⟩
  | .error (.refused error) => .inl ⟨.badUsage, "", usageError error⟩
  | .ok arguments =>
    match arguments.settings.complete, arguments.output with
    | .error error, _ => .inl ⟨.badSettings, "", errorLine error.message⟩
    | .ok settings, some output => .inr ⟨output, settings, arguments.verbose⟩
    | .ok settings, none =>
      let reached := (settings.supportFiles.take 1).map (·.page)
      .inl (failure (if arguments.verbose then some (log settings reached) else none) noOutputMessage)

def run (system : FileSystem) (texts : List String) : Verdict × FileSystem :=
  match prepare texts with
  | .inl verdict => (verdict, system)
  | .inr job =>
    let (written, error) := system.saveAll job.files
    (job.verdict (error.map WriteError.message), written)

end PlayClient.Command
