import PlayClient.Text.Ranges
import PlayClient.Text.Trim

/-!
White space: which characters are blank, and texts without their outer blanks.
-/

set_option autoImplicit false

namespace PlayClient.Text

-- The four information separators count as blank, zero-width characters do not.
def blankRanges : List (Nat × Nat) :=
  [(0x9, 0xD), (0x1C, 0x20), (0x85, 0x85), (0xA0, 0xA0), (0x1680, 0x1680), (0x2000, 0x200A),
   (0x2028, 0x2029), (0x202F, 0x202F), (0x205F, 0x205F), (0x3000, 0x3000)]

def isBlank (c : Char) : Bool := inRanges blankRanges c

-- Blank texts are the empty one and those of blank characters only.
def allBlank (text : String) : Bool := text.toList.all isBlank

def trimmed (text : String) : String := String.ofList (dropAtEnds isBlank text.toList)

end PlayClient.Text
