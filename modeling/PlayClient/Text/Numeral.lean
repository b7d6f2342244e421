import PlayClient.Text.Digit
import PlayClient.Text.Quoted

/-!
Reading decimal numerals of any script, up to a limit on their length.
-/

set_option autoImplicit false

namespace PlayClient.Text

inductive NumeralError where
  -- More digits than the limit; holds their number.
  | tooLong (digits : Nat)
  | unreadable (text : String)
  deriving DecidableEq, Repr

def digitLimit : Nat := 4300

def quotedExcerpt (text : String) : String := String.ofList ((quoted text).toList.take 200)

def NumeralError.message : NumeralError → String
  | .tooLong digits =>
      "Exceeds the limit (" ++ toString digitLimit ++ " digits) for integer string conversion: value has " ++
        toString digits ++ " digits; use sys.set_int_max_str_digits() to increase the limit"
  | .unreadable text => "invalid literal for int() with base 10: " ++ quotedExcerpt text

def numeralValue (digits : List Char) : Nat :=
  digits.foldl (fun value c => 10 * value + (digitValue? c).getD 0) 0

-- The limit is on the decimal digits before the first other character, and comes first.
def readNumeral (text : String) : Except NumeralError Nat :=
  let digits := text.toList.takeWhile isDecimal
  if digitLimit < digits.length then .error (.tooLong digits.length)
  else if digits = [] ∨ digits ≠ text.toList then .error (.unreadable text)
  else .ok (numeralValue digits)

end PlayClient.Text
