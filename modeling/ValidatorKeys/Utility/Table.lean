import ValidatorKeys.Utility.Calculating
import ValidatorKeys.Utility.Counting
import ValidatorKeys.Utility.Deciding
import ValidatorKeys.Utility.Exchanging
import ValidatorKeys.Utility.Listing
import ValidatorKeys.Utility.Showing
import ValidatorKeys.Utility.Starting
import ValidatorKeys.Utility.Trees

/-!
# The utilities by name
-/

namespace ValidatorKeys.Utility

open Kernel (Bytes)

/-- The utilities that are known, each with what it does with its arguments. -/
def table : List (String × (List Bytes → Run Unit)) :=
  [("cat", cat), ("tee", tee), ("head", head), ("wc", wc), ("tr", tr), ("sort", sort),
    ("echo", echo), ("printf", printf), ("basename", basename), ("pwd", pwd), ("sleep", sleep),
    ("true", idle 0), ("false", idle 1), ("test", test false), ("[", test true), ("expr", expr),
    ("ls", ls), ("mkdir", mkdir), ("chmod", chmod), ("env", env)]

/-- What the utility of a name does, if there is one. -/
def find? (program : String) : Option (List Bytes → Run Unit) :=
  (table.find? fun u => u.1 == program).map Prod.snd

end ValidatorKeys.Utility
