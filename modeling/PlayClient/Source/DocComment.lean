import PlayClient.Text.Split

/-!
Documentation comments of the generated code.
-/

set_option autoImplicit false

namespace PlayClient.Source

-- Puts an underscore between two characters wherever the one follows the other.
def breakMark (first second : Char) : List Char → List Char
  | a :: b :: rest =>
    if a = first ∧ b = second then a :: '_' :: b :: breakMark first second rest
    else a :: breakMark first second (b :: rest)
  | cs => cs

-- A text that can stand in a comment: first its closings are broken, then its openings.
def commentSafe (text : String) : String :=
  String.ofList (breakMark '/' '*' (breakMark '*' '/' text.toList))

-- The lines of a text; a carriage return before a line feed belongs to the line break.
def textLines : List Char → List (List Char)
  | [] => [[]]
  | '\r' :: '\n' :: rest => [] :: textLines rest
  | '\n' :: rest => [] :: textLines rest
  | c :: rest => Text.pushFront c (textLines rest)

def docOpening : String := "  /**"

def docLine (line : String) : String := "   * " ++ line

def docClosing : String := "   */"

def docComment (text : String) : String :=
  Text.ofLines (docOpening :: (textLines text.toList).map (docLine ∘ String.ofList) ++ [docClosing])

end PlayClient.Source
