/-!
Texts in order of their code points.
-/

set_option autoImplicit false

namespace PlayClient.Text

def sorted (texts : List String) : List String := texts.mergeSort (fun a b => decide (a ≤ b))

def sortedDistinct (texts : List String) : List String := sorted texts.eraseDups

end PlayClient.Text
