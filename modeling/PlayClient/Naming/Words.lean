import PlayClient.Text.LetterCase
import PlayClient.Text.Split

/-!
Names made of words. A word is a run of letters and digits of the first 128 code points;
every other character separates words.
-/

set_option autoImplicit false

namespace PlayClient.Naming

-- A term name starts with a small letter (`userId`), a type name with a capital (`UserId`).
inductive NameStyle where
  | term
  | type
  deriving DecidableEq, Repr

def isWordChar (c : Char) : Bool := c.isAlphanum

def words (cs : List Char) : List (List Char) :=
  (Text.pieces (fun c => !isWordChar c) cs).filter (· ≠ [])

def NameStyle.recase : NameStyle → List Char → List Char
  | .term, word => Text.decapitalize word
  | .type, word => Text.capitalize word

-- Joins the words, each after the first capitalized; inner letters keep their case.
def joinWords (style : NameStyle) : List (List Char) → List Char
  | [] => []
  | word :: rest => style.recase word ++ rest.flatMap Text.capitalize

def camelCase (style : NameStyle) (text : String) : String :=
  String.ofList (joinWords style (words text.toList))

def typeName (text : String) : String := camelCase .type text

end PlayClient.Naming
