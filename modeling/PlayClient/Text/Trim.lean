/-!
Texts without what stands at their ends.
-/

set_option autoImplicit false

namespace PlayClient.Text

def dropAtEnd (isDropped : Char → Bool) (cs : List Char) : List Char :=
  (cs.reverse.dropWhile isDropped).reverse

def dropAtEnds (isDropped : Char → Bool) (cs : List Char) : List Char :=
  dropAtEnd isDropped (cs.dropWhile isDropped)

-- The text without one line feed at its end.
def dropFinalLineFeed (cs : List Char) : List Char :=
  if cs.getLast? = some '\n' then cs.dropLast else cs

end PlayClient.Text
