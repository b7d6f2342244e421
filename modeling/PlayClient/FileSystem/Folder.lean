import PlayClient.Text.Order

/-!
Folders as values: named entries that are files or folders again.
-/

set_option autoImplicit false

namespace PlayClient

mutual

inductive Node where
  | file (content : String)
  | folder (entries : Folder)

inductive Folder where
  | empty
  | entry (name : String) (node : Node) (rest : Folder)

end

namespace Folder

def get? : Folder → String → Option Node
  | .empty, _ => none
  | .entry name node rest, wanted => if name = wanted then some node else rest.get? wanted

def put : Folder → String → Node → Folder
  | .empty, name, node => .entry name node .empty
  | .entry old kept rest, name, node =>
    if old = name then .entry old node rest else .entry old kept (rest.put name node)

theorem get_put_self (folder : Folder) (name : String) (node : Node) :
    (folder.put name node).get? name = some node := by
  match folder with
  | .empty => simp [put, get?]
  | .entry old kept rest =>
      by_cases same : old = name
      · simp [put, get?, same]
      · simpa [put, get?, same] using get_put_self rest name node

theorem get_put_other (folder : Folder) (name other : String) (node : Node) (different : name ≠ other) :
    (folder.put name node).get? other = folder.get? other := by
  match folder with
  | .empty => simp [put, get?, different]
  | .entry old kept rest =>
      by_cases same : old = name
      · subst same
        simp [put, get?, different]
      · rw [put, if_neg same]
        by_cases found : old = other
        · simp [get?, found]
        · simpa [get?, found] using get_put_other rest name other node different

def at? (folder : Folder) : List String → Option Node
  | [] => some (.folder folder)
  | name :: rest =>
    match folder.get? name with
    | none => none
    | some (.folder inner) => inner.at? rest
    | some (.file content) => if rest = [] then some (.file content) else none

def putAt (folder : Folder) : List String → Node → Folder
  | [], _ => folder
  | [name], node => folder.put name node
  | name :: rest, node =>
    match folder.get? name with
    | some (.folder inner) => folder.put name (.folder (inner.putAt rest node))
    | _ => folder

end Folder

mutual

-- The files below a path, and the folders that hold nothing, with a slash at their end.
def Node.listing (path : String) : Node → List (String × Option String)
  | .file content => [(path, some content)]
  | .folder .empty => [(path ++ "/", none)]
  | .folder entries => entries.listing (path ++ "/")

def Folder.listing (start : String) : Folder → List (String × Option String)
  | .empty => []
  | .entry name node rest => node.listing (start ++ name) ++ rest.listing start

end

def Folder.contents (folder : Folder) : List (String × Option String) :=
  (folder.listing "").mergeSort fun a b => decide (a.1 ≤ b.1)

end PlayClient
