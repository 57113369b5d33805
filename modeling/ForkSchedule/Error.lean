import ForkSchedule.Conflict
import ForkSchedule.Fork.Order
import ForkSchedule.Document.Fault

/-!
# Errors

Everything that can go wrong when a schedule is read, checked or applied, by cause.
-/

namespace ForkSchedule

/-- Why a file has no text. -/
inductive ReadFault where
  | missing
  | isDirectory
  | notUtf8
  deriving DecidableEq, Repr

/-- The wording of a file without a text. -/
def ReadFault.message : ReadFault → String
  | missing => "No such file or directory (os error 2)"
  | isDirectory => "Is a directory (os error 21)"
  | notUtf8 => "stream did not contain valid UTF-8"

/-- What can go wrong with a schedule. -/
inductive Error where
  /-- The forks of the schedule are not in order. -/
  | invalidSchedule (cause : OrderError)
  /-- The stored chain does not fit the schedule and may not be rewound. -/
  | incompatible (conflict : Conflict)
  | document (fault : Document.Fault)
  | unreadable (path : String) (fault : ReadFault)
  | unknownNetwork (name : String)
  | store (message : String)
  deriving DecidableEq, Repr

/-- The wording of an error. A document's fault is worded by itself, if at all. -/
def Error.message? : Error → Option String
  | invalidSchedule cause => some ("invalid fork schedule: " ++ cause.message)
  | incompatible conflict => some ("incompatible chain configuration: " ++ conflict.message)
  | document fault => fault.message?
  | unreadable path fault => some ("Failed to read " ++ path ++ ": " ++ fault.message)
  | unknownNetwork name => some ("Unknown network: " ++ name)
  | store message => some ("Chain store error: " ++ message)

end ForkSchedule
