import PlayClient.Text.Split

/-!
Paths of files as lists of segments. Empty segments and `.` vanish, `..` stays.
-/

set_option autoImplicit false

namespace PlayClient

-- What a path starts from. Two slashes in front are kept, more are one.
inductive Anchor where
  | relative
  | slash
  | doubleSlash
  deriving DecidableEq, Repr

def Anchor.text : Anchor → String
  | .relative => ""
  | .slash => "/"
  | .doubleSlash => "//"

structure Path where
  anchor : Anchor
  segments : List String
  deriving DecidableEq, Repr

namespace Path

def isSegment (segment : String) : Bool := segment != "" && segment != "."

def anchorOf (cs : List Char) : Anchor :=
  match (cs.takeWhile (· == '/')).length with
  | 0 => .relative
  | 2 => .doubleSlash
  | _ => .slash

def ofText (text : String) : Path :=
  ⟨anchorOf text.toList, (Text.splitAt '/' text).filter isSegment⟩

-- The empty path is written as a single point.
def toText (path : Path) : String :=
  match path.anchor, path.segments with
  | .relative, [] => "."
  | anchor, segments => anchor.text ++ "/".intercalate segments

def join (base path : Path) : Path :=
  match path.anchor with
  | .relative => ⟨base.anchor, base.segments ++ path.segments⟩
  | _ => path

def joinText (base : Path) (text : String) : Path := base.join (ofText text)

def ofTexts (first : String) (rest : List String) : Path := rest.foldl joinText (ofText first)

def parent (path : Path) : Path := ⟨path.anchor, path.segments.dropLast⟩

-- What paths are ordered by: their segments, the anchor in front of them.
def key (path : Path) : List String :=
  match path.anchor with
  | .relative => path.segments
  | anchor => anchor.text :: path.segments

-- Lists are compared at the first place where they differ; a shorter one comes first.
def keyPrecedes : List String → List String → Bool
  | [], _ => true
  | _ :: _, [] => false
  | a :: as, b :: bs => if a = b then keyPrecedes as bs else decide (a ≤ b)

def precedes (a b : Path) : Bool := keyPrecedes a.key b.key

def sort (paths : List Path) : List Path := paths.mergeSort precedes

def rest? : List String → List String → Option (List String)
  | [], segments => some segments
  | _ :: _, [] => none
  | a :: base, b :: segments => if a = b then rest? base segments else none

theorem rest_append (base segments : List String) : rest? base (base ++ segments) = some segments := by
  induction base with
  | nil => rfl
  | cons first others ih => simpa [rest?] using ih

theorem eq_append_of_rest (base segments rest : List String) (found : rest? base segments = some rest) :
    segments = base ++ rest := by
  induction base generalizing segments with
  | nil => simpa [rest?] using found
  | cons first others ih =>
      cases segments with
      | nil => simp [rest?] at found
      | cons head tail =>
          by_cases same : first = head
          · rw [rest?, if_pos same] at found
            rw [ih tail found, same, List.cons_append]
          · simp [rest?, same] at found

def relativeTo? (path base : Path) : Option Path :=
  if path.anchor = base.anchor then (rest? base.segments path.segments).map (⟨.relative, ·⟩) else none

def relativeTo (path base : Path) : Path := (path.relativeTo? base).getD path

end Path

end PlayClient
