import PlayClient.Text.Decimal
import PlayClient.Text.Quoted

/-!
The values that options and pages are given: texts and flags, and in a faulty configuration
anything else that a configuration file can hold.
-/

set_option autoImplicit false

namespace PlayClient

inductive Value where
  | null
  | flag (value : Bool)
  | text (value : String)
  | integer (value : Int)
  | decimal (value : Text.Decimal)
  -- Above all numbers, or below them.
  | infinity (negative : Bool)
  | notANumber
  | list (items : List Value)
  | record (entries : List (String × Value))

mutual

def Value.display : Value → String
  | .null => "None"
  | .flag true => "True"
  | .flag false => "False"
  | .text value => Text.quoted value
  | .integer value => toString value
  | .decimal value => value.display
  | .infinity negative => if negative then "-inf" else "inf"
  | .notANumber => "nan"
  | .list items => "[" ++ ", ".intercalate (displayItems items) ++ "]"
  | .record entries => "\x7b" ++ ", ".intercalate (displayEntries entries) ++ "\x7d"

def displayItems : List Value → List String
  | [] => []
  | item :: rest => item.display :: displayItems rest

def displayEntries : List (String × Value) → List String
  | [] => []
  | (key, item) :: rest => (Text.quoted key ++ ": " ++ item.display) :: displayEntries rest

end

def Value.printed : Value → String
  | .text value => value
  | value => value.display

-- Whether a condition on the value holds: it is not empty, zero or absent.
def Value.holds : Value → Bool
  | .null => false
  | .flag value => value
  | .text value => value != ""
  | .integer value => value != 0
  | .decimal value => value.digits != 0
  | .infinity _ => true
  | .notANumber => true
  | .list items => !items.isEmpty
  | .record entries => !entries.isEmpty

end PlayClient
