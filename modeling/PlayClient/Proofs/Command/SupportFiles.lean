import PlayClient.Command.Run
import PlayClient.Proofs.Client.SupportPaths
import PlayClient.Proofs.Command.Arguments

set_option autoImplicit false

namespace PlayClient.Command

variable (texts : List String) (arguments : Arguments) (parsed : Arguments.ofTexts texts = .ok arguments)

include parsed

theorem prepared_unnamed (unnamed : arguments.settings.mainPackage = "") :
    prepare texts = .inl ⟨.badSettings, "", errorLine SettingsError.emptyMainPackage.message⟩ := by
  have incomplete : arguments.settings.complete = .error .emptyMainPackage := if_pos unnamed
  rw [prepare, parsed]
  simp only [incomplete]

theorem prepared_job (named : arguments.settings.mainPackage ≠ "") (output : Path)
    (given : arguments.output = some output) :
    prepare texts = .inr ⟨output, arguments.settings.derived, arguments.verbose⟩ := by
  have complete : arguments.settings.complete = .ok arguments.settings.derived := if_neg named
  rw [prepare, parsed]
  simp only [complete, given]

theorem prepared_nowhere (named : arguments.settings.mainPackage ≠ "") (nowhere : arguments.output = none) :
    ∃ log, prepare texts = .inl (failure log noOutputMessage) := by
  have complete : arguments.settings.complete = .ok arguments.settings.derived := if_neg named
  rw [prepare, parsed]
  simp only [complete, nowhere]
  exact ⟨_, rfl⟩

omit parsed in
theorem run_settled (system : FileSystem) (verdict : Verdict) (prepared : prepare texts = .inl verdict) :
    run system texts = (verdict, system) := by
  rw [run, prepared]

theorem run_nowhere (system : FileSystem) (named : arguments.settings.mainPackage ≠ "")
    (nowhere : arguments.output = none) : ∃ log, run system texts = (failure log noOutputMessage, system) := by
  obtain ⟨log, prepared⟩ := prepared_nowhere texts arguments parsed named nowhere
  exact ⟨log, run_settled texts system _ prepared⟩

theorem derived_folders : arguments.settings.derived.DefaultFolders := by
  obtain ⟨source, resources⟩ := folders_unset texts arguments parsed
  exact ⟨source, resources⟩

omit parsed

theorem job_files (output : Path) (settings : Settings) (verbose : Bool) :
    (⟨output, settings, verbose⟩ : Job).files =
      settings.supportFiles.map ((Client.ofSettings settings).supportFile output) :=
  Client.generated_support settings output

def climbing : List String := ["--invoker-package", "/../..a//../b", "-o", "../client"]

end PlayClient.Command
