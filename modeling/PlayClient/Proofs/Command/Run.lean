import PlayClient.Proofs.Command.SupportFiles

set_option autoImplicit false

namespace PlayClient.Command

-- What a job that is done leaves: its support files with their pages, all below the
-- folder of the output, and other files as they were.
structure Delivered (job : Job) (before after : FileSystem) : Prop where
  saved : FileSystem.Saved before job.files after
  held : ∀ file ∈ job.settings.supportFiles,
    after.Holds (job.output.joinText file.destination) (file.page.text job.settings.supportValues)
  below : ∀ file ∈ job.settings.supportFiles,
    FileSystem.Above (before.place (job.output.joinText file.destination)) (before.place job.output)

section

variable (job : Job) (folders : job.settings.DefaultFolders) (system : FileSystem) (grounded : system.Grounded)

include folders grounded

-- The files of a job go to different places, so the later ones leave the earlier ones.
theorem job_saved (after : FileSystem) (done : system.saveAll job.files = (after, none)) :
    FileSystem.Saved system job.files after ∧ ∀ file ∈ job.files, after.Settled file.1 file.2 := by
  refine system.save_all_saves grounded job.files ?_ after done
  rw [job_files job.output job.settings job.verbose, List.map_map]
  exact Client.support_places_distinct job.settings job.output folders system

theorem job_delivered (after : FileSystem) (done : system.saveAll job.files = (after, none)) :
    Delivered job system after := by
  obtain ⟨saved, settled⟩ := job_saved job folders system grounded after done
  refine ⟨saved, ?_, Client.support_above job.settings job.output folders system⟩
  intro file listed
  have rendered : (Client.ofSettings job.settings).supportFile job.output file ∈ job.files := by
    rw [job_files job.output job.settings job.verbose]
    exact List.mem_map_of_mem listed
  exact (settled _ rendered).there

theorem job_again (after : FileSystem) (done : system.saveAll job.files = (after, none)) :
    after.saveAll job.files = (after, none) :=
  after.settled_save_all job.files (job_saved job folders system grounded after done).2

end

/-! ## Runs -/

section

variable (system : FileSystem) (texts : List String)

theorem run_job (job : Job) (prepared : prepare texts = .inr job) :
    run system texts =
      (job.verdict ((system.saveAll job.files).2.map WriteError.message), (system.saveAll job.files).1) := by
  rw [run, prepared]

theorem run_job_done (job : Job) (prepared : prepare texts = .inr job) (after : FileSystem)
    (done : system.saveAll job.files = (after, none)) : run system texts = (job.verdict none, after) := by
  rw [run_job system texts job prepared, done]
  rfl

theorem run_job_stopped (job : Job) (prepared : prepare texts = .inr job) (after : FileSystem) (error : WriteError)
    (stopped : system.saveAll job.files = (after, some error)) :
    run system texts = (failure job.log? error.message, after) := by
  rw [run_job system texts job prepared, stopped]
  rfl

end

-- How the run of a job ends: with all of its files, and then the same run once more changes
-- nothing, or with what writing them has left when it stopped.
structure Ends (system : FileSystem) (texts : List String) (job : Job) : Prop where
  success : (run system texts).1.ending.exitCode = 0 ↔ (system.saveAll job.files).2 = none
  delivered : (run system texts).1.ending.exitCode = 0 → Delivered job system (run system texts).2
  again : (run system texts).1.ending.exitCode = 0 → run (run system texts).2 texts = run system texts
  stopped : (run system texts).1.ending.exitCode ≠ 0 →
    (run system texts).1.ending.exitCode = 3 ∧ (run system texts).2 = (system.saveAll job.files).1

theorem run_job_ends (system : FileSystem) (grounded : system.Grounded) (texts : List String) (job : Job)
    (prepared : prepare texts = .inr job) (folders : job.settings.DefaultFolders) : Ends system texts job := by
  cases result : system.saveAll job.files with
  | mk after error =>
      cases error with
      | none =>
          have here := run_job_done system texts job prepared after result
          have again := run_job_done after texts job prepared after (job_again job folders system grounded after result)
          have delivered := job_delivered job folders system grounded after result
          have code : (run system texts).1.ending.exitCode = 0 := by rw [here]; rfl
          refine ⟨by simp [code, result], ?_, ?_, fun failed => absurd code failed⟩
          · intro _
            rw [here]
            exact delivered
          · intro _
            rw [here, again]
      | some fault =>
          have here := run_job_stopped system texts job prepared after fault result
          have code : (run system texts).1.ending.exitCode = 3 := by rw [here]; rfl
          refine ⟨by simp [code, result], by simp [code], by simp [code], ?_⟩
          intro _
          exact ⟨code, by rw [here, result]⟩

section

variable (system : FileSystem) (texts : List String) (arguments : Arguments)
  (parsed : Arguments.ofTexts texts = .ok arguments)

include parsed

theorem run_unnamed (unnamed : arguments.settings.mainPackage = "") :
    run system texts = (⟨.badSettings, "", errorLine SettingsError.emptyMainPackage.message⟩, system) :=
  run_settled texts system _ (prepared_unnamed texts arguments parsed unnamed)

theorem run_given (grounded : system.Grounded) (named : arguments.settings.mainPackage ≠ "") (output : Path)
    (given : arguments.output = some output) :
    Ends system texts ⟨output, arguments.settings.derived, arguments.verbose⟩ := by
  have prepared := prepared_job texts arguments parsed named output given
  exact run_job_ends system grounded texts _ prepared (derived_folders texts arguments parsed)

theorem run_bad_settings_iff (grounded : system.Grounded) :
    (run system texts).1.ending.exitCode = 1 ↔ arguments.settings.mainPackage = "" := by
  constructor
  · intro bad
    by_contra named
    cases given : arguments.output with
    | none =>
        obtain ⟨log, here⟩ := run_nowhere texts arguments parsed system named given
        rw [here] at bad
        cases bad
    | some output =>
        have ends := run_given system texts arguments parsed grounded named output given
        have failed := (ends.stopped (by omega)).1
        omega
  · intro unnamed
    rw [run_unnamed system texts arguments parsed unnamed]
    rfl

end

-- A command line that is read ends by its main package, and then by what becomes of the
-- files; without an output there are none.
theorem run_ends (system : FileSystem) (grounded : system.Grounded) (texts : List String) (arguments : Arguments)
    (parsed : Arguments.ofTexts texts = .ok arguments) :
    ((run system texts).1.ending.exitCode = 1 ↔ arguments.settings.mainPackage = "") ∧
      (arguments.settings.mainPackage = "" → (run system texts).1.standardOutput = "" ∧ (run system texts).2 = system) ∧
      (arguments.settings.mainPackage ≠ "" → arguments.output = none →
        (run system texts).1.ending.exitCode = 3 ∧ (run system texts).2 = system) ∧
      ∀ output, arguments.settings.mainPackage ≠ "" → arguments.output = some output →
        ∃ job : Job, job.output = output ∧ job.settings = arguments.settings.derived ∧ Ends system texts job := by
  refine ⟨run_bad_settings_iff system texts arguments parsed grounded, ?_, ?_, ?_⟩
  · intro unnamed
    rw [run_unnamed system texts arguments parsed unnamed]
    exact ⟨rfl, rfl⟩
  · intro named nowhere
    obtain ⟨log, here⟩ := run_nowhere texts arguments parsed system named nowhere
    rw [here]
    exact ⟨rfl, rfl⟩
  · intro output named given
    exact ⟨_, rfl, rfl, run_given system texts arguments parsed grounded named output given⟩

def blocked : List String := ["--main-package", "com.example", "--output=notes/client"]

theorem study_runs :
    FileSystem.study.Grounded ∧
      (∃ arguments job, Arguments.ofTexts climbing = .ok arguments ∧ arguments.output = some job.output ∧
        (run FileSystem.study climbing).1.ending.exitCode = 0 ∧ Ends FileSystem.study climbing job) ∧
      ∃ arguments job, Arguments.ofTexts blocked = .ok arguments ∧ arguments.output = some job.output ∧
        (run FileSystem.study blocked).1.ending.exitCode = 3 ∧ Ends FileSystem.study blocked job := by
  have grounded : FileSystem.study.Grounded := by
    rw [FileSystem.Grounded]
    decide +kernel
  have climbing_parsed : Arguments.ofTexts climbing =
      .ok ⟨some (.ofText "../client"), [.text .invokerPackage (some "/../..a//../b")], false⟩ := by
    decide +kernel
  have blocked_parsed : Arguments.ofTexts blocked =
      .ok ⟨some (.ofText "notes/client"), [.text .mainPackage (some "com.example")], false⟩ := by
    decide +kernel
  obtain ⟨-, -, -, climbing_ends⟩ := run_ends FileSystem.study grounded climbing _ climbing_parsed
  obtain ⟨-, -, -, blocked_ends⟩ := run_ends FileSystem.study grounded blocked _ blocked_parsed
  obtain ⟨job, output, -, ends⟩ := climbing_ends _ (by decide +kernel) rfl
  obtain ⟨other, place, -, stopped⟩ := blocked_ends _ (by decide +kernel) rfl
  have written : (run FileSystem.study climbing).1.ending.exitCode = 0 := by decide +kernel
  have refused : (run FileSystem.study blocked).1.ending.exitCode = 3 := by decide +kernel
  exact ⟨grounded, ⟨_, job, climbing_parsed, by rw [output], written, ends⟩, _, other, blocked_parsed, by rw [place],
    refused, stopped⟩

end PlayClient.Command
