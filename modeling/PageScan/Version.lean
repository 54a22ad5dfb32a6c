/-!
# The version of the program

It is told to services and stands at the end of exported documents.
-/

namespace PageScan

/-- The version of this program. -/
def version : String := "0.4.0"

end PageScan
