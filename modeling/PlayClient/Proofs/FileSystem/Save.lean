import PlayClient.Proofs.FileSystem.MakeFolders

set_option autoImplicit false

namespace PlayClient.FileSystem

-- What writing files in order leaves: the files, the folders on their ways, and for the
-- rest what was there.
structure Saved (before : FileSystem) (files : List (Path × String)) (after : FileSystem) : Prop where
  working : after.working = before.working
  folders : ∀ place, before.entryAt place = some .folder → after.entryAt place = some .folder
  written : ∀ file ∈ files, after.entryAt (before.place file.1) = some (.file file.2)
  around : ∀ file ∈ files, ∀ place, before.Leads file.1.parent place → after.entryAt place = some .folder
  kept : ∀ place content, before.entryAt place = some (.file content) →
    (∀ file ∈ files, before.place file.1 ≠ place) → after.entryAt place = some (.file content)
  added : ∀ place, before.entryAt place = none → after.entryAt place ≠ none →
    ∃ file ∈ files, before.place file.1 = place ∨ before.Leads file.1.parent place

def Holds (system : FileSystem) (path : Path) (content : String) : Prop :=
  ∃ place, system.locate path = .ok place ∧ system.entryAt place = some (.file content)

-- The file is there already, and all that saving it asks for.
structure Settled (system : FileSystem) (path : Path) (content : String) : Prop where
  parent_clean : holdsNull path.parent = false
  clean : holdsNull path = false
  stands : system.Stands path.parent
  there : system.Holds path content

variable (system : FileSystem)

theorem Saved.continues (before after : FileSystem) (files : List (Path × String)) (saved : Saved before files after) :
    Continues before after :=
  ⟨saved.working, saved.folders⟩

theorem Stands.kept (other : FileSystem) (continues : Continues system other) (path : Path)
    (stands : system.Stands path) : other.Stands path := by
  obtain ⟨place, located, folder⟩ := stands
  exact ⟨place, system.locate_kept other continues path place located, continues.folders place folder⟩

theorem Stands.leads (path : Path) (stands : system.Stands path) (place : List String)
    (leads : system.Leads path place) : system.entryAt place = some .folder := by
  obtain ⟨found, located, folder⟩ := stands
  obtain ⟨front, within, landed⟩ := leads
  by_cases whole : front = path.segments
  · rw [← landed, whole, ← FileSystem.place, ← system.locate_place path found located]
    exact folder
  · rw [← landed]
    exact system.locate_fronts path found located front within whole

/-! ## One file -/

theorem write_file_ok_iff (path : Path) (content : String) (after : FileSystem) :
    system.writeFile path content = .ok after ↔
      ∃ place, system.locate path = .ok place ∧ system.entryAt place ≠ some .folder ∧
        after = system.put place (.file content) := by
  rw [writeFile, Outcome.bind_ok_iff]
  refine exists_congr fun place => and_congr_right fun _ => ?_
  rw [ne_eq, ← is_folder_iff]
  cases system.isFolder place with
  | true => simp [throw, throwThe, MonadExceptOf.throw, bind, Except.bind]
  | false => exact ⟨fun done => ⟨by simp, (Except.ok.inj done).symm⟩, fun same => congrArg Except.ok same.2.symm⟩

theorem write_file_writes (grounded : system.Grounded) (path : Path) (content : String) (after : FileSystem)
    (done : system.writeFile path content = .ok after) :
    Continues system after ∧
      ∀ other, after.entryAt other =
        if other = system.place path then some (.file content) else system.entryAt other := by
  obtain ⟨place, located, free, same⟩ := (system.write_file_ok_iff path content after).mp done
  obtain ⟨around, name, whole, folder⟩ := system.locate_new grounded path place located free
  have view : ∀ other, after.entryAt other =
      if other = system.place path then some (.file content) else system.entryAt other := by
    intro other
    rw [same, ← system.locate_place path place located, whole]
    exact system.entry_put around other name _ (Node.file_bare content) folder (whole ▸ free)
  refine ⟨⟨by rw [same, put], ?_⟩, view⟩
  intro other there
  have apart : other ≠ system.place path := by
    intro equal
    rw [equal, ← system.locate_place path place located] at there
    exact free there
  rw [view, if_neg apart, there]

theorem save_ok_iff (path : Path) (content : String) (after : FileSystem) :
    system.save path content = (after, none) ↔
      holdsNull path.parent = false ∧ holdsNull path = false ∧
        ∃ made, system.makeFolders path.parent = (made, none) ∧ made.writeFile path content = .ok after := by
  rw [save]
  cases holdsNull path.parent with
  | true => simp
  | false =>
      obtain ⟨made, error⟩ := system.makeFolders path.parent
      cases error with
      | some error => simp
      | none =>
          cases holdsNull path with
          | true => simp
          | false =>
              cases written : made.writeFile path content with
              | error fault => simp [written]
              | ok after => simp [written]

theorem save_saves (grounded : system.Grounded) (path : Path) (content : String) (after : FileSystem)
    (done : system.save path content = (after, none)) :
    Saved system [(path, content)] after ∧ after.Settled path content := by
  obtain ⟨parent_clean, clean, made, folders, written⟩ := (system.save_ok_iff path content after).mp done
  obtain ⟨added, stands⟩ := system.make_folders_adds grounded path.parent
  rw [folders] at added stands
  have ground := added.continues.grounded system made grounded
  obtain ⟨onward, view⟩ := made.write_file_writes ground path content after written
  rw [added.continues.place] at view
  have continues := Continues.trans system made after added.continues onward
  have standing := Stands.kept made after onward path.parent (stands rfl)
  have here : after.entryAt (system.place path) = some (.file content) := by rw [view, if_pos rfl]
  constructor
  · refine ⟨continues.working, continues.folders, by simpa using here, ?_, ?_, ?_⟩
    · simp only [List.forall_mem_singleton]
      rw [← Leads.same_start system after continues]
      exact Stands.leads after path.parent standing
    · simp only [List.forall_mem_singleton]
      intro place old there apart
      rw [view, if_neg (Ne.symm apart)]
      exact added.kept place _ there
    · intro place absent there
      refine ⟨_, List.mem_singleton_self _, ?_⟩
      by_cases equal : place = system.place path
      · exact .inl equal.symm
      · rw [view, if_neg equal] at there
        exact .inr (added.added place absent there).2
  · obtain ⟨place, located, -, -⟩ := (made.write_file_ok_iff path content after).mp written
    refine ⟨parent_clean, clean, standing, place, made.locate_kept after onward path place located, ?_⟩
    rw [made.locate_place path place located, added.continues.place, here]

theorem save_failed (grounded : system.Grounded) (path : Path) (content : String) (after : FileSystem)
    (error : WriteError) (failed : system.save path content = (after, some error)) :
    FoldersAdded system (system.Leads path.parent) after := by
  have added := (system.make_folders_adds grounded path.parent).1
  rw [save] at failed
  generalize system.makeFolders path.parent = result at failed added
  obtain ⟨made, fault⟩ := result
  by_cases parent_null : holdsNull path.parent = true
  · rw [if_pos parent_null] at failed
    rw [← (Prod.mk.inj failed).1]
    exact .refl system _
  · rw [if_neg parent_null] at failed
    have same : made = after := by
      cases fault with
      | some early => exact (Prod.mk.inj failed).1
      | none =>
          by_cases path_null : holdsNull path = true
          · simp only [if_pos path_null] at failed
            exact (Prod.mk.inj failed).1
          · simp only [if_neg path_null] at failed
            cases written : made.writeFile path content with
            | ok last => simp [written] at failed
            | error late =>
                rw [written] at failed
                exact (Prod.mk.inj failed).1
    exact same ▸ added

/-! ## Once more -/

theorem stands_make_folders (path : Path) (stands : system.Stands path) : system.makeFolders path = (system, none) := by
  obtain ⟨place, located, folder⟩ := stands
  obtain ⟨inner, found⟩ := (system.entry_folder_iff place).mp folder
  have refused : system.makeFolder path = .error .exists := by
    rw [makeFolder, located]
    simp [found, bind, Except.bind, throw, throwThe, MonadExceptOf.throw]
  have accepted : system.accepts path .exists = true := by
    rw [accepts, located]
    simp [(system.is_folder_iff place).mpr folder]
  rw [makeFolders, refused]
  simp only [accepted, if_true]

theorem settled_save (path : Path) (content : String) (settled : system.Settled path content) :
    system.save path content = (system, none) := by
  obtain ⟨place, located, there⟩ := settled.there
  have below : place ≠ [] := by
    intro root
    rw [root, entry_root] at there
    cases there
  have same := system.put_same place _ below ((system.entry_file_iff place content).mp there)
  have written : system.writeFile path content = .ok system :=
    (system.write_file_ok_iff path content system).mpr ⟨place, located, by simp [there], same.symm⟩
  exact (system.save_ok_iff path content system).mpr
    ⟨settled.parent_clean, settled.clean, system, system.stands_make_folders path.parent settled.stands, written⟩

theorem Settled.kept (other : FileSystem) (continues : Continues system other) (path : Path) (content : String)
    (settled : system.Settled path content) (there : other.entryAt (system.place path) = some (.file content)) :
    other.Settled path content := by
  obtain ⟨place, located, -⟩ := settled.there
  refine ⟨settled.parent_clean, settled.clean, Stands.kept system other continues _ settled.stands, place,
    system.locate_kept other continues path place located, ?_⟩
  rw [system.locate_place path place located]
  exact there

theorem settled_save_all (files : List (Path × String)) (settled : ∀ file ∈ files, system.Settled file.1 file.2) :
    system.saveAll files = (system, none) := by
  induction files with
  | nil => rfl
  | cons file rest ih =>
      obtain ⟨here, later⟩ := List.forall_mem_cons.mp settled
      rw [saveAll, system.settled_save file.1 file.2 here]
      exact ih later

/-! ## All files -/

theorem Saved.nil : Saved system [] system :=
  ⟨rfl, fun _ there => there, by simp, by simp, fun _ _ there _ => there, fun _ absent there => absurd absent there⟩

theorem Saved.cons (middle after : FileSystem) (file : Path × String) (rest : List (Path × String))
    (first : Saved system [file] middle) (later : Saved middle rest after)
    (apart : ∀ other ∈ rest, system.place other.1 ≠ system.place file.1) : Saved system (file :: rest) after := by
  have places : ∀ path, middle.place path = system.place path := first.continues.place
  have leads := Leads.same_start system middle first.continues
  refine ⟨later.working.trans first.working, fun place there => later.folders place (first.folders place there),
    ?_, ?_, ?_, ?_⟩
  · rw [List.forall_mem_cons]
    constructor
    · apply later.kept
      · exact first.written file (List.mem_singleton_self file)
      · intro other member
        rw [places]
        exact apart other member
    · intro other member
      rw [← places]
      exact later.written other member
  · rw [List.forall_mem_cons]
    constructor
    · intro place way
      exact later.folders place (first.around file (List.mem_singleton_self file) place way)
    · intro other member
      rw [← leads]
      exact later.around other member
  · intro place content there others
    rw [List.forall_mem_cons] at others
    apply later.kept
    · exact first.kept place content there (by simpa using others.1)
    · intro other member
      rw [places]
      exact others.2 other member
  · intro place absent there
    by_cases between : middle.entryAt place = none
    · obtain ⟨other, member, found⟩ := later.added place between there
      rw [places, leads] at found
      exact ⟨other, List.mem_cons_of_mem file member, found⟩
    · obtain ⟨other, member, found⟩ := first.added place absent between
      exact ⟨other, List.mem_cons.mpr (.inl (List.mem_singleton.mp member)), found⟩

theorem save_all_cons_ok (file : Path × String) (rest : List (Path × String)) (after : FileSystem)
    (done : system.saveAll (file :: rest) = (after, none)) :
    ∃ middle, system.save file.1 file.2 = (middle, none) ∧ middle.saveAll rest = (after, none) := by
  rw [saveAll] at done
  cases step : system.save file.1 file.2 with
  | mk middle fault =>
      rw [step] at done
      cases fault with
      | none => exact ⟨middle, rfl, done⟩
      | some error => cases done

-- The run, by its steps: each file stands, and the files after it leave it as it is.
theorem save_all_saves (grounded : system.Grounded) (files : List (Path × String))
    (apart : (files.map fun file => system.place file.1).Nodup) (after : FileSystem)
    (done : system.saveAll files = (after, none)) :
    Saved system files after ∧ ∀ file ∈ files, after.Settled file.1 file.2 := by
  induction files generalizing system with
  | nil =>
      rw [← (Prod.mk.inj done).1]
      exact ⟨.nil system, by simp⟩
  | cons file rest ih =>
      obtain ⟨middle, step, remaining⟩ := system.save_all_cons_ok file rest after done
      obtain ⟨first, settled⟩ := system.save_saves grounded file.1 file.2 middle step
      have onward := first.continues
      rw [List.map_cons, List.nodup_cons] at apart
      have places : (fun other : Path × String => middle.place other.1) = fun other => system.place other.1 :=
        funext fun other => Continues.place system middle onward other.1
      obtain ⟨later, kept⟩ := ih middle (onward.grounded system middle grounded) (places ▸ apart.2) remaining
      have others : ∀ other ∈ rest, system.place other.1 ≠ system.place file.1 := by
        intro other member same
        exact apart.1 (List.mem_map.mpr ⟨other, member, same⟩)
      have saved := Saved.cons system middle after file rest first later others
      refine ⟨saved, List.forall_mem_cons.mpr ⟨?_, kept⟩⟩
      apply Settled.kept middle after later.continues file.1 file.2 settled
      rw [onward.place]
      exact saved.written file List.mem_cons_self

-- A run that fails leaves what the files before the failing one leave, and folders
-- on the way of that file.
theorem save_all_failed (grounded : system.Grounded) (files : List (Path × String)) (after : FileSystem)
    (error : WriteError) (failed : system.saveAll files = (after, some error)) :
    ∃ earlier path content later before, files = earlier ++ (path, content) :: later ∧
      system.saveAll earlier = (before, none) ∧ before.save path content = (after, some error) ∧
        Continues system before ∧ FoldersAdded before (before.Leads path.parent) after := by
  induction files generalizing system with
  | nil => cases failed
  | cons file rest ih =>
      rw [saveAll] at failed
      cases step : system.save file.1 file.2 with
      | mk middle fault =>
          rw [step] at failed
          cases fault with
          | some early =>
              have stopped : system.save file.1 file.2 = (after, some error) := step.trans failed
              exact ⟨[], file.1, file.2, rest, system, rfl, rfl, stopped, ⟨rfl, fun _ there => there⟩,
                system.save_failed grounded file.1 file.2 after error stopped⟩
          | none =>
              have onward := (system.save_saves grounded file.1 file.2 middle step).1.continues
              obtain ⟨earlier, path, content, later, before, whole, done, last, continues, added⟩ :=
                ih middle (onward.grounded system middle grounded) failed
              refine ⟨file :: earlier, path, content, later, before, by rw [whole, List.cons_append], ?_, last,
                .trans system middle before onward continues, added⟩
              rw [saveAll, step]
              exact done

end PlayClient.FileSystem
