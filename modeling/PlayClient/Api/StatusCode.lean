import PlayClient.Text.LetterCase
import PlayClient.Text.Numeral

/-!
Status codes of responses: numbers, ranges such as `2XX`, and names such as `default`.
-/

set_option autoImplicit false

namespace PlayClient.StatusCode

open PlayClient.Text (NumeralError)

def allDigits (text : String) : Bool := !text.toList.isEmpty && text.toList.all Text.isDigit

-- The lowest code of a range; other codes in upper case.
def rangeBase (code : String) : String :=
  String.ofList ((Text.uppercase code).toList.map fun c => if c = 'X' then '0' else c)

def nameRank : Nat := 1000

-- The place of a code among others: its number, or the number of its range's base.
def rank (code : String) : Except NumeralError Nat :=
  if allDigits (rangeBase code) then Text.readNumeral (rangeBase code) else .ok nameRank

def precedes (a b : Nat × String) : Bool :=
  decide (a.1 < b.1) || (decide (a.1 = b.1) && decide (a.2 ≤ b.2))

-- The items in the order of their codes; items of one code stay as they are.
def sortBy {α : Type} (code : α → String) (items : List α) : Except NumeralError (List α) := do
  let ranked ← items.mapM fun item => do return ((← rank (code item), code item), item)
  return (ranked.mergeSort fun a b => precedes a.1 b.1).map (·.2)

def sort (codes : List String) : Except NumeralError (List String) := sortBy id codes

-- The number of a code; ranges and names have none.
def number? (code : String) : Except NumeralError (Option Nat) :=
  if allDigits code then some <$> Text.readNumeral code else .ok none

def isSuccess (code : String) : Bool := code.toList.head? == some '2'

end PlayClient.StatusCode
