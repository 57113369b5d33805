import ForkSchedule.Error
import ForkSchedule.Schedule.Document

/-!
# Schedule files

A schedule is loaded from a file as TOML if the name of the file says so and as JSON otherwise. A
loaded schedule has its forks in order, so that it is safe to activate.
-/

namespace ForkSchedule

/-- What lies at a path. -/
inductive File where
  | missing
  | directory
  | holding (bytes : ByteArray)

/-- The text of a file. -/
def File.text : File → Except ReadFault String
  | missing => .error .missing
  | directory => .error .isDirectory
  | holding bytes =>
    match String.fromUTF8? bytes with
    | some text => .ok text
    | none => .error .notUtf8

namespace File

/-- The parts of a path, without those that stay where they are. -/
def parts (path : List Char) : List (List Char) :=
  (path.splitOn '/').filter fun part => part ≠ [] ∧ part ≠ ['.']

/-- The name of the file that a path leads to. A path that ends by going up has none. -/
def name? (path : List Char) : Option (List Char) :=
  (parts path).getLast?.filter (· ≠ ['.', '.'])

/-- The part of a name after its last dot. A dot at the front starts no extension. -/
def extensionOfName? (name : List Char) : Option (List Char) :=
  if '.' ∈ name.tail then some (name.reverse.takeWhile (· ≠ '.')).reverse else none

/-- The extension of the file that a path leads to. -/
def extension? (path : String) : Option (List Char) := (name? path.toList).bind extensionOfName?

/-- Whether a file is read as TOML: its extension is `toml`, in lower case. -/
def isToml (path : String) : Bool := extension? path = some "toml".toList

end File

namespace Schedule

/-- Reads a schedule in the format that goes with a path. -/
def ofText (path text : String) : Except Document.Fault Schedule :=
  if File.isToml path then ofToml text else ofJson text

/-- Loads a schedule from what lies at a path. -/
def load (path : String) (file : File) : Except Error Schedule :=
  match file.text with
  | .error fault => .error (.unreadable path fault)
  | .ok text =>
    match ofText path text with
    | .error fault => .error (.document fault)
    | .ok schedule =>
      match schedule.checkOrder with
      | .error offence => .error (.invalidSchedule offence)
      | .ok () => .ok schedule

end Schedule

end ForkSchedule
