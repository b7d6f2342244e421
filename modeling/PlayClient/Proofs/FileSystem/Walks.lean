import PlayClient.Proofs.FileSystem.Places
import PlayClient.Proofs.Outcome

set_option autoImplicit false

namespace PlayClient.FileSystem

-- Where names lead, whatever stands on the way.
def move (place : List String) (name : String) : List String :=
  if name = ".." then place.dropLast else place ++ [name]

def landing (place names : List String) : List String := names.foldl move place

def place (system : FileSystem) (path : Path) : List String := landing (system.start path) path.segments

-- Relative paths start from a folder that is there.
def Grounded (system : FileSystem) : Prop := system.entryAt system.working = some .folder

-- No folder is lost from one state to the other.
structure Continues (before after : FileSystem) : Prop where
  working : after.working = before.working
  folders : ∀ place, before.entryAt place = some .folder → after.entryAt place = some .folder

theorem Continues.trans (first second third : FileSystem) (front : Continues first second)
    (back : Continues second third) : Continues first third :=
  ⟨back.working.trans front.working, fun place there => back.folders place (front.folders place there)⟩

theorem Continues.grounded (before after : FileSystem) (continues : Continues before after)
    (grounded : before.Grounded) : after.Grounded := by
  rw [Grounded, continues.working]
  exact continues.folders _ grounded

theorem Continues.start (before after : FileSystem) (continues : Continues before after) (path : Path) :
    after.start path = before.start path := by
  rw [FileSystem.start, FileSystem.start, continues.working]

theorem Continues.place (before after : FileSystem) (continues : Continues before after) (path : Path) :
    after.place path = before.place path := by
  rw [FileSystem.place, FileSystem.place, continues.start]

variable (system : FileSystem)

theorem start_folder (grounded : system.Grounded) (path : Path) : system.entryAt (system.start path) = some .folder := by
  rw [start]
  cases path.anchor with
  | relative => exact grounded
  | slash => exact system.entry_root
  | doubleSlash => exact system.entry_root

theorem landing_append (place front back : List String) :
    landing place (front ++ back) = landing (landing place front) back :=
  List.foldl_append

theorem landing_plain (place names : List String) (plain : ".." ∉ names) : landing place names = place ++ names := by
  induction names generalizing place with
  | nil => rw [List.append_nil]; rfl
  | cons name rest ih =>
      obtain ⟨here, later⟩ := not_or.mp (List.mem_cons.not.mp plain)
      rw [landing, List.foldl_cons, move, if_neg (Ne.symm here), ← landing, ih _ later, List.append_assoc,
        List.singleton_append]

theorem step_ok_iff (place next : List String) (name : String) :
    system.step place name = .ok next ↔
      system.entryAt place = some .folder ∧ name.utf8ByteSize ≤ nameLimit ∧ next = move place name := by
  have around : (".." : String).utf8ByteSize ≤ nameLimit := by decide
  rw [entry_folder_iff, step, move, node?]
  cases system.root.at? place with
  | none => simp
  | some node =>
      cases node with
      | file content => simp
      | folder inner =>
          by_cases up : name = ".."
          · subst up
            simp [around, eq_comm]
          · by_cases long : nameLimit < name.utf8ByteSize
            · simp [up, long, Nat.not_le.mpr long]
            · simp [up, long, Nat.not_lt.mp long, eq_comm]

theorem walk_cons_iff (place found : List String) (name : String) (rest : List String) :
    system.walk place (name :: rest) = .ok found ↔
      system.entryAt place = some .folder ∧ name.utf8ByteSize ≤ nameLimit ∧
        system.walk (move place name) rest = .ok found := by
  rw [walk, List.foldlM_cons, Outcome.bind_ok_iff]
  constructor
  · rintro ⟨next, stepped, walked⟩
    obtain ⟨folder, short, same⟩ := (system.step_ok_iff place next name).mp stepped
    exact ⟨folder, short, same ▸ walked⟩
  · rintro ⟨folder, short, walked⟩
    exact ⟨_, (system.step_ok_iff place _ name).mpr ⟨folder, short, rfl⟩, walked⟩

theorem walk_landing (place names found : List String) (walked : system.walk place names = .ok found) :
    found = landing place names := by
  induction names generalizing place with
  | nil => exact (Except.ok.inj walked).symm
  | cons name rest ih => exact ih _ ((system.walk_cons_iff place found name rest).mp walked).2.2

theorem walk_fronts (place found front back : List String) (name : String)
    (walked : system.walk place (front ++ name :: back) = .ok found) :
    system.entryAt (landing place front) = some .folder := by
  induction front generalizing place with
  | nil => exact ((system.walk_cons_iff place found name back).mp walked).1
  | cons first others ih => exact ih _ ((system.walk_cons_iff place found first _).mp walked).2.2

theorem walk_kept (other : FileSystem) (continues : Continues system other) (place names found : List String)
    (walked : system.walk place names = .ok found) : other.walk place names = .ok found := by
  induction names generalizing place with
  | nil => exact walked
  | cons name rest ih =>
      obtain ⟨folder, short, later⟩ := (system.walk_cons_iff place found name rest).mp walked
      exact (other.walk_cons_iff place found name rest).mpr ⟨continues.folders place folder, short, ih _ later⟩

theorem locate_ok_iff (path : Path) (found : List String) :
    system.locate path = .ok found ↔
      path.toText.utf8ByteSize ≤ pathLimit ∧ system.walk (system.start path) path.segments = .ok found := by
  rw [locate]
  by_cases long : pathLimit < path.toText.utf8ByteSize
  · simp [long, Nat.not_le.mpr long]
  · simp [long, Nat.not_lt.mp long]

theorem locate_place (path : Path) (found : List String) (located : system.locate path = .ok found) :
    found = system.place path :=
  system.walk_landing _ _ found ((system.locate_ok_iff path found).mp located).2

theorem locate_kept (other : FileSystem) (continues : Continues system other) (path : Path) (found : List String)
    (located : system.locate path = .ok found) : other.locate path = .ok found := by
  obtain ⟨short, walked⟩ := (system.locate_ok_iff path found).mp located
  rw [locate_ok_iff, continues.start]
  exact ⟨short, system.walk_kept other continues _ _ found walked⟩

theorem locate_fronts (path : Path) (found : List String) (located : system.locate path = .ok found)
    (front : List String) (within : front <+: path.segments) (proper : front ≠ path.segments) :
    system.entryAt (landing (system.start path) front) = some .folder := by
  obtain ⟨-, walked⟩ := (system.locate_ok_iff path found).mp located
  obtain ⟨back, whole⟩ := within
  cases back with
  | nil => exact absurd (by simpa using whole) proper
  | cons name rest =>
      rw [← whole] at walked
      exact system.walk_fronts _ found front rest name walked

-- Where no folder stands, the last name of the path is that of an entry to be made.
theorem locate_new (grounded : system.Grounded) (path : Path) (found : List String)
    (located : system.locate path = .ok found) (free : system.entryAt found ≠ some .folder) :
    ∃ around name, found = around ++ [name] ∧ system.entryAt around = some .folder := by
  have landed := system.locate_place path found located
  have start := system.start_folder grounded path
  rcases List.eq_nil_or_concat' path.segments with empty | ⟨front, name, whole⟩
  · rw [landed, place, empty] at free
    exact absurd start free
  · have fronts := system.locate_fronts path found located front (whole ▸ List.prefix_append front [name])
      (by simp [whole])
    have last : found = move (landing (system.start path) front) name := by
      rw [landed, place, whole, landing_append]
      rfl
    by_cases up : name = ".."
    · rw [move, if_pos up] at last
      have above : system.entryAt found = some .folder := by
        rw [last]
        rcases List.eq_nil_or_concat' (landing (system.start path) front) with root | ⟨around, inner, deeper⟩
        · rw [root]
          exact system.entry_root
        · rw [deeper] at fronts ⊢
          rw [List.dropLast_concat]
          exact system.entry_around around [inner] (by simp) (by simp [fronts])
      exact absurd above free
    · rw [move, if_neg up] at last
      exact ⟨_, name, last, fronts⟩

end PlayClient.FileSystem
