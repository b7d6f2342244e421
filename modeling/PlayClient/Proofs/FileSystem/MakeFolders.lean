import PlayClient.Proofs.FileSystem.Walks

set_option autoImplicit false

namespace PlayClient.FileSystem

-- The place is one that the path comes through, or its own.
def Leads (system : FileSystem) (path : Path) (place : List String) : Prop :=
  ∃ front, front <+: path.segments ∧ landing (system.start path) front = place

-- All that was there is kept, and what is new are folders on the way.
structure FoldersAdded (before : FileSystem) (way : List String → Prop) (after : FileSystem) : Prop where
  working : after.working = before.working
  kept : ∀ place entry, before.entryAt place = some entry → after.entryAt place = some entry
  added : ∀ place, before.entryAt place = none → after.entryAt place ≠ none →
    after.entryAt place = some .folder ∧ way place

-- The path leads to a folder.
def Stands (system : FileSystem) (path : Path) : Prop :=
  ∃ place, system.locate path = .ok place ∧ system.entryAt place = some .folder

variable (system : FileSystem)

theorem FoldersAdded.refl (way : List String → Prop) : FoldersAdded system way system :=
  ⟨rfl, fun _ _ there => there, fun _ absent there => absurd absent there⟩

theorem FoldersAdded.continues (before after : FileSystem) (way : List String → Prop)
    (added : FoldersAdded before way after) : Continues before after :=
  ⟨added.working, fun place there => added.kept place _ there⟩

theorem FoldersAdded.trans (first second third : FileSystem) (way : List String → Prop)
    (front : FoldersAdded first way second) (back : FoldersAdded second way third) : FoldersAdded first way third := by
  refine ⟨back.working.trans front.working, fun place entry there => back.kept _ _ (front.kept _ _ there), ?_⟩
  intro place absent there
  cases between : second.entryAt place with
  | some entry =>
      obtain ⟨folder, here⟩ := front.added place absent (by simp [between])
      exact ⟨back.kept place _ folder, here⟩
  | none => exact back.added place between there

theorem FoldersAdded.widen (before after : FileSystem) (way wider : List String → Prop)
    (added : FoldersAdded before way after)
    (within : ∀ place, before.entryAt place = none → way place → wider place) : FoldersAdded before wider after := by
  refine ⟨added.working, added.kept, ?_⟩
  intro place absent there
  obtain ⟨folder, here⟩ := added.added place absent there
  exact ⟨folder, within place absent here⟩

theorem Leads.of_parent (path : Path) (place : List String) (leads : system.Leads path.parent place) :
    system.Leads path place := by
  obtain ⟨front, within, landed⟩ := leads
  exact ⟨front, within.trans (List.dropLast_prefix path.segments), landed⟩

theorem Leads.same_start (other : FileSystem) (continues : Continues system other) (path : Path) :
    other.Leads path = system.Leads path := by
  funext place
  rw [Leads, Leads, continues.start]

theorem make_folder_ok_iff (path : Path) (made : FileSystem) :
    system.makeFolder path = .ok made ↔
      ∃ place, system.locate path = .ok place ∧ system.entryAt place = none ∧
        made = system.put place (.folder .empty) := by
  rw [makeFolder, Outcome.bind_ok_iff]
  refine exists_congr fun place => and_congr_right fun _ => ?_
  rw [entry_none_iff]
  cases system.node? place with
  | none => exact ⟨fun done => ⟨rfl, (Except.ok.inj done).symm⟩, fun same => congrArg Except.ok same.2.symm⟩
  | some node => simp [throw, throwThe, MonadExceptOf.throw, bind, Except.bind]

-- One call makes one folder, where nothing was.
theorem make_folder_adds (grounded : system.Grounded) (path : Path) (made : FileSystem)
    (done : system.makeFolder path = .ok made) : FoldersAdded system (system.Leads path) made ∧ made.Stands path := by
  obtain ⟨place, located, absent, same⟩ := (system.make_folder_ok_iff path made).mp done
  obtain ⟨around, name, whole, folder⟩ := system.locate_new grounded path place located (by simp [absent])
  have view : ∀ other, made.entryAt other = if other = place then some .folder else system.entryAt other := by
    intro other
    rw [same, whole]
    exact system.entry_put around other name _ Node.empty_folder_bare folder (by simp [← whole, absent])
  have added : FoldersAdded system (system.Leads path) made := by
    refine ⟨by rw [same, put], ?_, ?_⟩
    · intro other entry there
      have apart : other ≠ place := by
        intro equal
        simp [equal, absent] at there
      rw [view, if_neg apart, there]
    · intro other none there
      rw [view] at there ⊢
      by_cases here : other = place
      · rw [if_pos here]
        exact ⟨rfl, path.segments, List.prefix_rfl, by rw [here, system.locate_place path place located]; rfl⟩
      · rw [if_neg here] at there
        exact absurd none there
  refine ⟨added, place, system.locate_kept made added.continues path place located, ?_⟩
  rw [view, if_pos rfl]

theorem accepts_stands (path : Path) (fault : Fault) (accepted : system.accepts path fault = true) :
    system.Stands path := by
  rw [accepts, Bool.and_eq_true] at accepted
  cases located : system.locate path with
  | error other => simp [located] at accepted
  | ok place =>
      rw [located] at accepted
      exact ⟨place, located, (system.is_folder_iff place).mp accepted.2⟩

-- Whether it ends well or not, the call adds nothing but folders on the way.
theorem make_folders_adds (grounded : system.Grounded) (path : Path) :
    FoldersAdded system (system.Leads path) (system.makeFolders path).1 ∧
      ((system.makeFolders path).2 = none → (system.makeFolders path).1.Stands path) := by
  fun_induction system.makeFolders path with
  | case1 path made done =>
      obtain ⟨added, stands⟩ := system.make_folder_adds grounded path made done
      exact ⟨added, fun _ => stands⟩
  | case2 path fault refused accepted =>
      exact ⟨.refl system _, fun _ => system.accepts_stands path fault accepted⟩
  | case3 path fault refused unaccepted other => exact ⟨.refl system _, by simp⟩
  | case4 path fault refused unaccepted missing empty => exact ⟨.refl system _, by simp⟩
  | case5 path fault refused unaccepted missing below around error failed ih =>
      rw [failed] at ih
      exact ⟨ih.1.widen system around _ _ fun place _ => Leads.of_parent system path place, by simp⟩
  | case6 path fault refused unaccepted missing below around done made last ih =>
      rw [done] at ih
      have above := ih.1.widen system around _ _ fun place _ => Leads.of_parent system path place
      have ground := above.continues.grounded system around grounded
      obtain ⟨added, stands⟩ := around.make_folder_adds ground path made last
      rw [Leads.same_start system around above.continues] at added
      exact ⟨.trans system around made _ above added, fun _ => stands⟩
  | case7 path fault refused unaccepted missing below around done again last ih =>
      rw [done] at ih
      refine ⟨ih.1.widen system around _ _ fun place _ => Leads.of_parent system path place, ?_⟩
      intro fine
      by_cases accepted : around.accepts path again = true
      · exact around.accepts_stands path again accepted
      · simp [accepted] at fine

end PlayClient.FileSystem
