import PlayClient.Command.Run

/-!
The command line on the files of the machine.
-/

set_option autoImplicit false

namespace PlayClient.Machine

-- The number that the operating system gives an error, or zero.
def errorNumber : IO.Error → Nat
  | .alreadyExists _ number _ => number.toNat
  | .noFileOrDirectory _ number _ => number.toNat
  | .inappropriateType _ number _ => number.toNat
  | .invalidArgument _ number _ => number.toNat
  | .illegalOperation number _ => number.toNat
  | .otherError number _ => number.toNat
  | _ => 0

def fault? (error : IO.Error) : Option Fault := Fault.ofNumber? (errorNumber error)

def message (path : Path) (error : IO.Error) : String :=
  match fault? error with
  | some fault => (WriteError.failed fault path).message
  | none => toString error

def isFolder (path : Path) : IO Bool := do
  try
    IO.FS.createDirAll path.toText
    return true
  catch _ => return false

partial def makeFolders (path : Path) (mayRetry : Bool) : IO (Option String) := do
  try
    IO.FS.createDir path.toText
    return none
  catch error =>
    if fault? error = some .missing ∧ mayRetry ∧ path.segments ≠ [] then
      match ← makeFolders path.parent true with
      | none => makeFolders path false
      | failed => return failed
    else if fault? error = some .exists then
      return if ← isFolder path then none else some (message path error)
    else return some (message path error)

def save (path : Path) (content : String) : IO (Option String) := do
  if FileSystem.holdsNull path then return some WriteError.nullCharacter.message
  match ← makeFolders path.parent true with
  | some failed => return some failed
  | none =>
    try
      IO.FS.writeFile path.toText content
      return none
    catch error => return some (message path error)

def saveAll : Files → IO (Option String)
  | [] => return none
  | (path, content) :: rest => do
    match ← save path content with
    | none => saveAll rest
    | failed => return failed

def report (verdict : Command.Verdict) : IO UInt32 := do
  IO.print verdict.standardOutput
  IO.eprint verdict.standardError
  return verdict.ending.exitCode.toUInt32

def run (arguments : List String) : IO UInt32 := do
  match Command.prepare arguments with
  | .inl verdict => report verdict
  | .inr job => report (job.verdict (← saveAll job.files))

end PlayClient.Machine

def main (arguments : List String) : IO UInt32 := PlayClient.Machine.run arguments
