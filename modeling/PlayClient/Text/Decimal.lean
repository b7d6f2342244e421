/-!
Decimal fractions as messages show them: positional for numbers of moderate size, with an
exponent of at least two digits for the others.
-/

set_option autoImplicit false

namespace PlayClient.Text

-- The number `digits * 10 ^ exponent`, with a minus sign in front if it is `negative`.
structure Decimal where
  negative : Bool
  digits : Nat
  exponent : Int
  deriving DecidableEq, Repr

-- Moves trailing zeros of the digits into the exponent, at most as many as `fuel`.
def dropZeros : Nat → Nat → Int → Nat × Int
  | 0, digits, exponent => (digits, exponent)
  | fuel + 1, digits, exponent =>
      if digits ≠ 0 ∧ digits % 10 = 0 then dropZeros fuel (digits / 10) (exponent + 1) else (digits, exponent)

def exponentText (exponent : Int) : String :=
  let size := toString exponent.natAbs
  (if exponent < 0 then "-" else "+") ++ (if size.length < 2 then "0" ++ size else size)

def zeros (count : Nat) : String := String.ofList (List.replicate count '0')

-- The digits with the point after `point` of them; positional for `-4 < point ≤ 16`.
def placePoint (digits : String) (point : Int) : String :=
  if point ≤ -4 ∨ 16 < point then
    let whole := String.ofList (digits.toList.take 1)
    let fraction := String.ofList (digits.toList.drop 1)
    whole ++ (if fraction = "" then "" else "." ++ fraction) ++ "e" ++ exponentText (point - 1)
  else if point ≤ 0 then "0." ++ zeros (-point).toNat ++ digits
  else if (digits.length : Int) ≤ point then digits ++ zeros (point.toNat - digits.length) ++ ".0"
  else
    String.ofList (digits.toList.take point.toNat) ++ "." ++ String.ofList (digits.toList.drop point.toNat)

def Decimal.display (value : Decimal) : String :=
  let sign := if value.negative then "-" else ""
  if value.digits = 0 then sign ++ "0.0"
  else
    let (digits, exponent) := dropZeros (toString value.digits).length value.digits value.exponent
    let text := toString digits
    sign ++ placePoint text (text.length + exponent)

end PlayClient.Text
