/-!
# Version of the library
-/

namespace ForkSchedule

/-- The version that a node reports for its schedule service. -/
def version : String := "0.1.0"

end ForkSchedule
