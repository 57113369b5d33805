import ForkSchedule.Schedule.Field
import ForkSchedule.Document.Record
import ForkSchedule.Json.Reader
import ForkSchedule.Json.Writer
import ForkSchedule.Toml.Document

/-!
# Schedule documents

A schedule is written as compact JSON. Fields without data are left out, so that an absent fork
comes back absent and not as a fork at zero. How a schedule is read is given by its slots, whatever
the format.
-/

namespace ForkSchedule

open Document

namespace Field

/-- Takes the data of a kind from a document. -/
def Kind.take : (kind : Kind) → Found → Except Fault kind.Data
  | .number => takeNumber
  | .flag => takeFlag
  | .hash => takeHash

/-- The text of data, or nothing if there is none. -/
def Kind.text? : (kind : Kind) → kind.Data → Option (List Char)
  | .number, value => value.map Json.numberText
  | .flag, value => if value then some (Json.flagText true) else none
  | .hash, value => value.map fun hash => Json.plainText hash.text

/-- The slot of a field. -/
def slot (field : Field) : Slot Schedule where
  name := field.name
  content := .scalar fun found =>
    (field.kind.take found).map fun data schedule => schedule.set field data

end Field

namespace Schedule

/-- The members of a schedule's document. -/
def members (schedule : Schedule) : List (String × List Char) :=
  Field.all.filterMap fun field =>
    (field.kind.text? (schedule.get field)).map fun text => (field.name, text)

/-- The document text of a schedule. -/
def document (schedule : Schedule) : String := String.ofList (Json.objectText schedule.members)

/-- How a schedule is read from a document. -/
def layout : Record Schedule where
  title := "ChainConfig"
  empty := {}
  slots := Field.all.map Field.slot

/-- Reads a schedule from a JSON text. -/
def ofJson (text : String) : Except Fault Schedule := Json.whole (Json.record layout) text

/-- Reads a schedule from a TOML text. -/
def ofToml (text : String) : Except Fault Schedule := Toml.record layout text

end Schedule

end ForkSchedule
