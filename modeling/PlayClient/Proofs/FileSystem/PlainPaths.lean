import Mathlib.Data.List.Nodup
import PlayClient.Proofs.FileSystem.Save

set_option autoImplicit false

namespace PlayClient.FileSystem

-- Paths that only lead down from where relative paths start.
def Plain (path : Path) : Prop := path.anchor = .relative ∧ ".." ∉ path.segments

def target (system : FileSystem) (path : Path) : List String := system.working ++ path.segments

def Above (target place : List String) : Prop := place <+: target ∧ place ≠ target

-- The files with their contents, the folders above them, and for the rest what was there.
structure LaidOut (before : FileSystem) (files : List (Path × String)) (after : FileSystem) : Prop where
  working : after.working = before.working
  written : ∀ file ∈ files, after.entryAt (before.target file.1) = some (.file file.2)
  around : ∀ file ∈ files, ∀ place, Above (before.target file.1) place → after.entryAt place = some .folder
  kept : ∀ place entry, before.entryAt place = some entry → (∀ file ∈ files, before.target file.1 ≠ place) →
    after.entryAt place = some entry
  nothing_else : ∀ place, before.entryAt place = none → (∀ file ∈ files, ¬place <+: before.target file.1) →
    after.entryAt place = none

variable (system : FileSystem)

theorem plain_place (path : Path) (plain : Plain path) : system.place path = system.target path := by
  rw [place, landing_plain _ _ plain.2, start, plain.1, target]

theorem plain_leads (path : Path) (plain : Plain path) (place : List String) :
    system.Leads path.parent place ↔ ∃ front, front <+: path.segments.dropLast ∧ system.working ++ front = place := by
  refine exists_congr fun front => and_congr_right fun within => ?_
  have inside : ".." ∉ front := fun up => plain.2 (List.mem_of_mem_dropLast (within.subset up))
  rw [landing_plain _ _ inside, start, Path.parent, plain.1]

-- A plain path leads from wherever it is joined to straight down.
theorem place_join (base path : Path) (plain : Plain path) :
    system.place (base.join path) = system.place base ++ path.segments := by
  rw [Path.join, plain.1, place, landing_append, landing_plain _ _ plain.2]
  rfl

theorem front_of_dropLast (front names : List String) (below : front ≠ []) (within : front <+: names.dropLast) :
    Above names front := by
  refine ⟨within.trans (List.dropLast_prefix names), ?_⟩
  intro same
  have short := within.length_le
  have long := List.length_pos_of_ne_nil below
  rw [same] at short long
  rw [List.length_dropLast] at short
  omega

theorem front_dropLast (front names : List String) (above : Above names front) : front <+: names.dropLast := by
  obtain ⟨⟨back, whole⟩, proper⟩ := above
  have longer : back ≠ [] := by
    intro empty
    exact proper (by rw [← whole, empty, List.append_nil])
  rw [← whole, List.dropLast_append_of_ne_nil longer]
  exact List.prefix_append front _

theorem leads_above (path : Path) (plain : Plain path) (place : List String) (other : place ≠ system.working)
    (leads : system.Leads path.parent place) : Above (system.target path) place := by
  obtain ⟨front, within, same⟩ := (system.plain_leads path plain place).mp leads
  have below : front ≠ [] := by
    intro empty
    exact other (by rw [← same, empty, List.append_nil])
  obtain ⟨shorter, proper⟩ := front_of_dropLast front path.segments below within
  rw [← same, target]
  exact ⟨(List.prefix_append_right_inj _).mpr shorter, fun equal => proper (List.append_cancel_left equal)⟩

theorem above_leads (path : Path) (plain : Plain path) (place : List String) (above : Above (system.target path) place) :
    place <+: system.working ∨ system.Leads path.parent place := by
  obtain ⟨within, proper⟩ := above
  rcases List.prefix_or_prefix_of_prefix within (List.prefix_append system.working path.segments) with up | down
  · exact .inl up
  · obtain ⟨front, same⟩ := down
    rw [← same, target] at within proper
    refine .inr ((system.plain_leads path plain place).mpr ⟨front, front_dropLast front path.segments ⟨?_, ?_⟩, same⟩)
    · exact (List.prefix_append_right_inj _).mp within
    · intro equal
      exact proper (by rw [equal])

theorem folders_above (place target : List String) (folder : system.entryAt target = some .folder)
    (within : place <+: target) : system.entryAt place = some .folder := by
  obtain ⟨more, whole⟩ := within
  cases more with
  | nil => rw [← List.append_nil place, whole, folder]
  | cons name rest => exact system.entry_around place (name :: rest) (by simp) (by simp [whole, folder])

theorem plain_places_distinct (files : List (Path × String)) (plain : ∀ file ∈ files, Plain file.1)
    (distinct : (files.map Prod.fst).Nodup) : (files.map fun file => system.place file.1).Nodup := by
  have same_path : ∀ path ∈ files.map Prod.fst, ∀ other ∈ files.map Prod.fst,
      system.place path = system.place other → path = other := by
    simp only [List.forall_mem_map]
    intro file member other among same
    obtain ⟨relative, -⟩ := plain file member
    obtain ⟨relative', -⟩ := plain other among
    rw [plain_place system _ (plain file member), plain_place system _ (plain other among)] at same
    rw [Path.mk.injEq, relative, relative']
    exact ⟨rfl, List.append_cancel_left same⟩
  have apart := List.Nodup.map_on same_path distinct
  rwa [List.map_map] at apart

theorem Saved.laid_out (grounded : system.Grounded) (files : List (Path × String)) (after : FileSystem)
    (plain : ∀ file ∈ files, Plain file.1) (saved : Saved system files after) : LaidOut system files after := by
  refine ⟨saved.working, ?_, ?_, ?_, ?_⟩
  · intro file member
    rw [← plain_place system _ (plain file member)]
    exact saved.written file member
  · intro file member place above
    rcases system.above_leads file.1 (plain file member) place above with up | leads
    · exact after.folders_above place _ (saved.folders _ grounded) up
    · exact saved.around file member place leads
  · intro place entry there others
    cases entry with
    | folder => exact saved.folders place there
    | file content =>
        apply saved.kept place content there
        intro file member
        rw [plain_place system _ (plain file member)]
        exact others file member
  · intro place absent others
    by_contra there
    obtain ⟨file, member, found⟩ := saved.added place absent there
    apply others file member
    rcases found with here | leads
    · rw [← here, plain_place system _ (plain file member)]
    · have other : place ≠ system.working := by
        intro same
        rw [same, grounded] at absent
        cases absent
      exact (system.leads_above file.1 (plain file member) place other leads).1

-- Files at plain paths are written all as asked, or up to the first that cannot be:
-- then nothing but folders above that file is new.
theorem save_all_outcome (files : List (Path × String)) (grounded : system.Grounded)
    (plain : ∀ file ∈ files, Plain file.1) (distinct : (files.map Prod.fst).Nodup) :
    (∀ after, system.saveAll files = (after, none) →
        LaidOut system files after ∧ after.saveAll files = (after, none)) ∧
      ∀ after error, system.saveAll files = (after, some error) →
        ∃ earlier path content later before, files = earlier ++ (path, content) :: later ∧
          system.saveAll earlier = (before, none) ∧ before.save path content = (after, some error) ∧
            FoldersAdded before (Above (system.target path)) after := by
  constructor
  · intro after done
    obtain ⟨saved, settled⟩ :=
      system.save_all_saves grounded files (system.plain_places_distinct files plain distinct) after done
    exact ⟨saved.laid_out system grounded files after plain, after.settled_save_all files settled⟩
  · intro after error failed
    obtain ⟨earlier, path, content, later, before, whole, done, stopped, continues, added⟩ :=
      system.save_all_failed grounded files after error failed
    refine ⟨earlier, path, content, later, before, whole, done, stopped, added.widen before after _ _ ?_⟩
    intro place absent leads
    have member : (path, content) ∈ files := by simp [whole]
    have ground := continues.grounded system before grounded
    have other : place ≠ before.working := by
      intro same
      rw [same, ground] at absent
      cases absent
    have above := before.leads_above path (plain _ member) place other leads
    rwa [target, continues.working, ← target] at above

def study : FileSystem := ⟨.entry "home" (.folder (.entry "notes" (.file "old") .empty)) .empty, ["home"]⟩

def letters : List (Path × String) :=
  [(.ofText "notes", "new"), (.ofText "drafts/may/first", "one"), (.ofText "drafts/second", "two")]

-- The last of these goes below a file.
def misplaced : List (Path × String) := [(.ofText "drafts/first", "one"), (.ofText "notes/may/second", "two")]

theorem letters_in_study :
    study.Grounded ∧ (∀ file ∈ letters ++ misplaced, Plain file.1) ∧
      (letters.map Prod.fst).Nodup ∧ (misplaced.map Prod.fst).Nodup ∧
      (∃ after, study.saveAll letters = (after, none) ∧ LaidOut study letters after ∧
        after.saveAll letters = (after, none)) ∧
      ∃ after, study.saveAll misplaced = (after, some (.failed .notFolder (.ofText "notes/may"))) ∧
        ∃ earlier path content later before, misplaced = earlier ++ (path, content) :: later ∧
          study.saveAll earlier = (before, none) ∧ FoldersAdded before (Above (study.target path)) after := by
  have grounded : study.Grounded := by
    rw [Grounded]
    decide +kernel
  have plain : ∀ file ∈ letters ++ misplaced, Plain file.1 := by
    unfold Plain
    decide +kernel
  have distinct : (letters.map Prod.fst).Nodup := by decide +kernel
  have apart : (misplaced.map Prod.fst).Nodup := by decide +kernel
  obtain ⟨plain_letters, plain_misplaced⟩ := List.forall_mem_append.mp plain
  have written : study.saveAll letters = ((study.saveAll letters).1, none) := Prod.ext rfl (by decide +kernel)
  have stopped : study.saveAll misplaced =
      ((study.saveAll misplaced).1, some (.failed .notFolder (.ofText "notes/may"))) :=
    Prod.ext rfl (by decide +kernel)
  have laid := (study.save_all_outcome letters grounded plain_letters distinct).1 _ written
  obtain ⟨earlier, path, content, later, before, whole, done, -, added⟩ :=
    (study.save_all_outcome misplaced grounded plain_misplaced apart).2 _ _ stopped
  exact ⟨grounded, plain, distinct, apart, ⟨_, written, laid⟩, _, stopped, earlier, path, content, later, before, whole,
    done, added⟩

end PlayClient.FileSystem
