import ForkSchedule.Error
import ForkSchedule.Json.Reader
import ForkSchedule.Json.Writer
import ForkSchedule.Network

/-!
# Names of networks and axes

Networks and axes stand in documents by their lower case names. Outside documents a network may be
named in letters of either case.
-/

namespace ForkSchedule

open Document

namespace Network

/-- The networks by their names in documents. -/
def options : List (String × Network) := all.map fun network => (network.name, network)

/-- Reads the name of a network from a JSON text. -/
def ofJson (text : String) : Except Fault Network := Json.whole (Json.choice options) text

/-- The document text of a network's name. -/
def document (network : Network) : String := String.ofList (Json.plainText network.name.toList)

/-- The network with a name, or the error that there is none. -/
def named (name : String) : Except Error Network :=
  match ofName? name with
  | some network => .ok network
  | none => .error (.unknownNetwork name)

end Network

namespace Axis

/-- The axes by their names in documents. -/
def options : List (String × Axis) := all.map fun axis => (axis.name, axis)

/-- Reads the name of an axis from a JSON text. -/
def ofJson (text : String) : Except Fault Axis := Json.whole (Json.choice options) text

/-- The document text of an axis. -/
def document (axis : Axis) : String := String.ofList (Json.plainText axis.name.toList)

end Axis

end ForkSchedule
