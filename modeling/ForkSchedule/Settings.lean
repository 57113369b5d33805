import ForkSchedule.Document.Name
import ForkSchedule.Toml.Document

/-!
# Settings of the service

Which network's schedule applies when none is given, and how careful the service is with the stored
chain. Settings are read from the same formats as schedules; what is left out keeps its default.
-/

namespace ForkSchedule

open Document

/-- The settings of a service. -/
structure Settings where
  /-- The network whose schedule applies when none is given. -/
  network : Network := .default
  /-- Rewind the stored chain when a new schedule rewrites its history, instead of refusing it. -/
  autoRewind : Bool := true
  /-- Compare the upgrades by timestamp as well. -/
  checkTimestamps : Bool := true
  deriving DecidableEq, Repr

/-- Settings for tests: the local network and no rewinding. -/
def Settings.testing : Settings := { network := .localNet, autoRewind := false }

namespace Settings

/-- How settings are read from a document. -/
def layout : Record Settings where
  title := "ChainConfigServiceConfig"
  empty := {}
  slots := [
    { name := "network",
      content := .choice (Network.options.map fun (name, network) =>
        (name, fun settings => { settings with network })) },
    { name := "auto_rewind",
      content := .scalar fun found =>
        (takeFlag found).map fun flag settings => { settings with autoRewind := flag } },
    { name := "check_upgrade_timestamps",
      content := .scalar fun found =>
        (takeFlag found).map fun flag settings => { settings with checkTimestamps := flag } }]

/-- Reads settings from a JSON text. -/
def ofJson (text : String) : Except Fault Settings := Json.whole (Json.record layout) text

/-- Reads settings from a TOML text. -/
def ofToml (text : String) : Except Fault Settings := Toml.record layout text

/-- The document text of settings. -/
def document (settings : Settings) : String :=
  String.ofList (Json.objectText [
    ("network", Json.plainText settings.network.name.toList),
    ("auto_rewind", Json.flagText settings.autoRewind),
    ("check_upgrade_timestamps", Json.flagText settings.checkTimestamps)])

end Settings

end ForkSchedule
