/-!
Sets of characters written as ranges of code points.
-/

set_option autoImplicit false

namespace PlayClient.Text

-- A range holds its two ends and the code points between them.
def inRange (c : Char) (range : Nat × Nat) : Bool :=
  decide (range.1 ≤ c.toNat) && decide (c.toNat ≤ range.2)

def inRanges (ranges : List (Nat × Nat)) (c : Char) : Bool :=
  ranges.any (inRange c)

end PlayClient.Text
