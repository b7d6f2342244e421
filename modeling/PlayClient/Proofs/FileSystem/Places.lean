import Mathlib.Data.List.Infix
import PlayClient.FileSystem.Basic

set_option autoImplicit false

namespace PlayClient

-- What stands at a place, apart from what a folder holds.
inductive Entry where
  | file (content : String)
  | folder
  deriving DecidableEq, Repr

namespace Node

def entry : Node → Entry
  | .file content => .file content
  | .folder _ => .folder

def within? : Node → List String → Option Node
  | .folder inner, names => inner.at? names
  | .file content, [] => some (.file content)
  | .file _, _ :: _ => none

def Bare (node : Node) : Prop := ∀ name rest, node.within? (name :: rest) = none

theorem within_nil (node : Node) : node.within? [] = some node := by
  cases node <;> rfl

theorem file_bare (content : String) : (Node.file content).Bare := fun _ _ => rfl

theorem empty_folder_bare : (Node.folder .empty).Bare := fun _ _ => rfl

end Node

namespace Folder

theorem at_cons (folder : Folder) (name : String) (rest : List String) :
    folder.at? (name :: rest) = (folder.get? name).bind (·.within? rest) := by
  rw [at?]
  cases folder.get? name with
  | none => rfl
  | some node =>
      cases node with
      | folder inner => rfl
      | file content => cases rest <;> rfl

theorem at_append (folder : Folder) (front back : List String) :
    folder.at? (front ++ back) = (folder.at? front).bind (·.within? back) := by
  induction front generalizing folder with
  | nil => rfl
  | cons name rest ih =>
      rw [List.cons_append, at_cons, at_cons]
      cases folder.get? name with
      | none => rfl
      | some node =>
          cases node with
          | folder inner => exact ih inner
          | file content => cases rest <;> rfl

theorem put_same (folder : Folder) (name : String) (node : Node) (there : folder.get? name = some node) :
    folder.put name node = folder := by
  match folder with
  | .empty => simp [get?] at there
  | .entry old kept rest =>
      by_cases same : old = name
      · rw [get?, if_pos same] at there
        rw [put, if_pos same, Option.some.inj there]
      · rw [get?, if_neg same] at there
        rw [put, if_neg same, put_same rest name node there]

theorem put_at_step (folder inner : Folder) (name : String) (names : List String) (node : Node) (longer : names ≠ [])
    (found : folder.get? name = some (.folder inner)) :
    folder.putAt (name :: names) node = folder.put name (.folder (inner.putAt names node)) := by
  cases names with
  | nil => exact absurd rfl longer
  | cons next rest => simp only [putAt, found]

theorem put_at_blocked (folder : Folder) (name : String) (names : List String) (node : Node) (longer : names ≠ [])
    (blocked : ∀ inner, folder.get? name ≠ some (.folder inner)) : folder.putAt (name :: names) node = folder := by
  cases names with
  | nil => exact absurd rfl longer
  | cons next rest =>
      cases found : folder.get? name with
      | none => simp only [putAt, found]
      | some there =>
          cases there with
          | folder inner => exact absurd found (blocked inner)
          | file content => simp only [putAt, found]

theorem at_folder_cons (folder inner : Folder) (name : String) (rest : List String)
    (found : folder.at? (name :: rest) = some (.folder inner)) :
    ∃ next, folder.get? name = some (.folder next) ∧ next.at? rest = some (.folder inner) := by
  rw [at_cons] at found
  cases there : folder.get? name with
  | none => simp [there] at found
  | some node =>
      rw [there] at found
      cases node with
      | folder next => exact ⟨next, rfl, found⟩
      | file content => cases rest <;> simp [Node.within?] at found

theorem at_put_within (folder inner : Folder) (place : List String) (name : String) (rest : List String) (node : Node)
    (around : folder.at? place = some (.folder inner)) :
    (folder.putAt (place ++ [name]) node).at? (place ++ name :: rest) = node.within? rest := by
  induction place generalizing folder with
  | nil => rw [List.nil_append, List.nil_append, putAt, at_cons, get_put_self, Option.bind_some]
  | cons first others ih =>
      obtain ⟨next, found, deeper⟩ := at_folder_cons folder inner first others around
      rw [List.cons_append, put_at_step folder next first _ node (by simp) found, List.cons_append, at_cons,
        get_put_self]
      exact ih next deeper

theorem entry_put_apart (folder : Folder) (place other : List String) (node : Node) (apart : ¬place <+: other) :
    ((folder.putAt place node).at? other).map Node.entry = (folder.at? other).map Node.entry := by
  induction place generalizing folder other with
  | nil => exact absurd List.nil_prefix apart
  | cons name rest ih =>
      cases other with
      | nil => rfl
      | cons first others =>
          cases rest with
          | nil =>
              have different : name ≠ first := by
                intro same
                exact apart (by simp [same])
              rw [putAt, at_cons, at_cons, get_put_other folder name first node different]
          | cons next deeper =>
              by_cases folded : ∃ inner, folder.get? name = some (.folder inner)
              · obtain ⟨inner, found⟩ := folded
                rw [put_at_step folder inner name _ node (by simp) found, at_cons, at_cons]
                by_cases same : name = first
                · subst same
                  rw [get_put_self, found]
                  refine ih inner others ?_
                  intro within
                  exact apart (List.cons_prefix_cons.mpr ⟨rfl, within⟩)
                · rw [get_put_other folder name first _ same]
              · rw [put_at_blocked folder name _ node (by simp) (fun inner found => folded ⟨inner, found⟩)]

theorem put_at_same (folder : Folder) (place : List String) (node : Node) (below : place ≠ [])
    (there : folder.at? place = some node) : folder.putAt place node = folder := by
  induction place generalizing folder with
  | nil => exact absurd rfl below
  | cons name rest ih =>
      rw [at_cons] at there
      cases rest with
      | nil =>
          obtain ⟨kept, found, same⟩ := Option.bind_eq_some_iff.mp there
          rw [Node.within_nil] at same
          rw [putAt, put_same folder name node (same ▸ found)]
      | cons next deeper =>
          obtain ⟨kept, found, inside⟩ := Option.bind_eq_some_iff.mp there
          cases kept with
          | file content => simp [Node.within?] at inside
          | folder inner =>
              rw [put_at_step folder inner name _ node (by simp) found, ih inner (by simp) inside]
              exact put_same folder name _ found

end Folder

namespace FileSystem

def entryAt (system : FileSystem) (place : List String) : Option Entry := (system.node? place).map Node.entry

def put (system : FileSystem) (place : List String) (node : Node) : FileSystem :=
  { system with root := system.root.putAt place node }

variable (system : FileSystem)

theorem entry_root : system.entryAt [] = some .folder := rfl

theorem entry_folder_iff (place : List String) :
    system.entryAt place = some .folder ↔ ∃ inner, system.node? place = some (.folder inner) := by
  rw [entryAt]
  cases system.node? place with
  | none => simp
  | some node => cases node <;> simp [Node.entry]

theorem entry_file_iff (place : List String) (content : String) :
    system.entryAt place = some (.file content) ↔ system.node? place = some (.file content) := by
  rw [entryAt]
  cases system.node? place with
  | none => simp
  | some node => cases node <;> simp [Node.entry]

theorem is_folder_iff (place : List String) : system.isFolder place = true ↔ system.entryAt place = some .folder := by
  rw [entry_folder_iff, isFolder]
  cases system.node? place with
  | none => simp
  | some node => cases node <;> simp

theorem entry_none_iff (place : List String) : system.entryAt place = none ↔ system.node? place = none := by
  rw [entryAt, Option.map_eq_none_iff]

-- What is somewhere stands in a folder.
theorem entry_around (place more : List String) (below : more ≠ []) (there : system.entryAt (place ++ more) ≠ none) :
    system.entryAt place = some .folder := by
  rw [ne_eq, entry_none_iff, node?, Folder.at_append] at there
  rw [entry_folder_iff, node?]
  cases found : system.root.at? place with
  | none => simp [found] at there
  | some node =>
      cases node with
      | folder inner => exact ⟨inner, rfl⟩
      | file content =>
          rw [found] at there
          cases more with
          | nil => exact absurd rfl below
          | cons name rest => exact absurd rfl there

-- A file, or a folder that is empty, changes what stands at its own place only.
theorem entry_put (place other : List String) (name : String) (node : Node) (bare : node.Bare)
    (around : system.entryAt place = some .folder) (free : system.entryAt (place ++ [name]) ≠ some .folder) :
    (system.put (place ++ [name]) node).entryAt other =
      if other = place ++ [name] then some node.entry else system.entryAt other := by
  obtain ⟨inner, folded⟩ := (system.entry_folder_iff place).mp around
  by_cases within : place ++ [name] <+: other
  · obtain ⟨rest, same⟩ := within
    have found : (system.put (place ++ [name]) node).node? other = node.within? rest := by
      rw [← same, List.append_assoc]
      exact Folder.at_put_within system.root inner place name rest node folded
    rw [entryAt, found]
    cases rest with
    | nil => rw [Node.within_nil, if_pos (by rw [← same, List.append_nil])]; rfl
    | cons first others =>
        have deeper : other ≠ place ++ [name] := by
          intro equal
          simp [← same] at equal
        have absent : system.entryAt other = none := by
          by_contra there
          rw [← same] at there
          exact free (system.entry_around _ _ (by simp) there)
        rw [if_neg deeper, absent, bare]
        rfl
  · have apart : other ≠ place ++ [name] := by
      intro equal
      exact within (equal ▸ List.prefix_rfl)
    rw [if_neg apart]
    exact Folder.entry_put_apart system.root _ other node within

theorem put_same (place : List String) (node : Node) (below : place ≠ []) (there : system.node? place = some node) :
    system.put place node = system := by
  rw [put, Folder.put_at_same system.root place node below there]

end FileSystem

end PlayClient
