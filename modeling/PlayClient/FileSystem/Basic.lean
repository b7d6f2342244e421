import PlayClient.FileSystem.Folder
import PlayClient.Path
import PlayClient.Text.Quoted

/-!
A file system without links: creating folders and writing files by path, each step with the
faults it can meet. A failed step changes nothing.
-/

set_option autoImplicit false

namespace PlayClient

structure FileSystem where
  root : Folder
  -- Where relative paths start, as names from the root.
  working : List String

inductive Fault where
  | missing
  | exists
  | notFolder
  | isFolder
  | nameTooLong
  deriving DecidableEq, Repr

def Fault.number : Fault → Nat
  | .missing => 2
  | .exists => 17
  | .notFolder => 20
  | .isFolder => 21
  | .nameTooLong => 36

def Fault.text : Fault → String
  | .missing => "No such file or directory"
  | .exists => "File exists"
  | .notFolder => "Not a directory"
  | .isFolder => "Is a directory"
  | .nameTooLong => "File name too long"

def Fault.all : List Fault := [.missing, .exists, .notFolder, .isFolder, .nameTooLong]

def Fault.ofNumber? (number : Nat) : Option Fault := Fault.all.find? (·.number == number)

inductive WriteError where
  | failed (fault : Fault) (path : Path)
  -- No path holds the null character.
  | nullCharacter
  deriving DecidableEq, Repr

def WriteError.message : WriteError → String
  | .failed fault path =>
      "[Errno " ++ toString fault.number ++ "] " ++ fault.text ++ ": " ++ Text.quoted path.toText
  | .nullCharacter => "embedded null byte"

def nameLimit : Nat := 255

def pathLimit : Nat := 4095

namespace FileSystem

def start (system : FileSystem) (path : Path) : List String :=
  match path.anchor with
  | .relative => system.working
  | _ => []

-- One step from a place, which has to be a folder: `..` leads to the folder around it.
def step (system : FileSystem) (place : List String) (name : String) : Except Fault (List String) :=
  match system.root.at? place with
  | none => .error .missing
  | some (.file _) => .error .notFolder
  | some (.folder _) =>
    if name = ".." then .ok place.dropLast
    else if nameLimit < name.utf8ByteSize then .error .nameTooLong
    else .ok (place ++ [name])

-- The place that names lead to. The last name need not be there, the others have to.
def walk (system : FileSystem) (place : List String) (names : List String) : Except Fault (List String) :=
  names.foldlM system.step place

def locate (system : FileSystem) (path : Path) : Except Fault (List String) :=
  if pathLimit < path.toText.utf8ByteSize then .error .nameTooLong
  else system.walk (system.start path) path.segments

def node? (system : FileSystem) (place : List String) : Option Node := system.root.at? place

def isFolder (system : FileSystem) (place : List String) : Bool :=
  match system.node? place with
  | some (.folder _) => true
  | _ => false

-- Makes one folder, whose parent has to be there.
def makeFolder (system : FileSystem) (path : Path) : Except Fault FileSystem := do
  let place ← system.locate path
  if (system.node? place).isSome then throw .exists
  return { system with root := system.root.putAt place (.folder .empty) }

def writeFile (system : FileSystem) (path : Path) (content : String) : Except Fault FileSystem := do
  let place ← system.locate path
  if system.isFolder place then throw .isFolder
  return { system with root := system.root.putAt place (.file content) }

-- A folder that is there already need not be made.
def accepts (system : FileSystem) (path : Path) (fault : Fault) : Bool :=
  decide (fault = .exists) &&
    match system.locate path with
    | .ok place => system.isFolder place
    | .error _ => false

-- Makes a folder and, before it, those around it that are missing.
def makeFolders (system : FileSystem) (path : Path) : FileSystem × Option WriteError :=
  match system.makeFolder path with
  | .ok made => (made, none)
  | .error fault =>
    if system.accepts path fault then (system, none)
    else if fault ≠ .missing then (system, some (.failed fault path))
    else if _ : path.segments = [] then (system, some (.failed fault path))
    else
      match system.makeFolders path.parent with
      | (around, some error) => (around, some error)
      | (around, none) =>
        match around.makeFolder path with
        | .ok made => (made, none)
        | .error again => (around, if around.accepts path again then none else some (.failed again path))
termination_by path.segments.length
decreasing_by
  have : path.segments.length ≠ 0 := by simp_all
  simp [Path.parent]
  omega

def holdsNull (path : Path) : Bool := path.toText.toList.contains '\x00'

def save (system : FileSystem) (path : Path) (content : String) : FileSystem × Option WriteError :=
  if holdsNull path.parent then (system, some .nullCharacter)
  else
    match system.makeFolders path.parent with
    | (made, some error) => (made, some error)
    | (made, none) =>
      if holdsNull path then (made, some .nullCharacter)
      else
        match made.writeFile path content with
        | .ok written => (written, none)
        | .error fault => (made, some (.failed fault path))

-- Writes files in order up to the first error; what was written before it stays.
def saveAll (system : FileSystem) : List (Path × String) → FileSystem × Option WriteError
  | [] => (system, none)
  | (path, content) :: rest =>
    match system.save path content with
    | (saved, none) => saved.saveAll rest
    | failed => failed

end FileSystem

end PlayClient
