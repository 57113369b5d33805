import ForkSchedule.Document.Fault

/-!
# Records in documents

What a reader has to know of a record in order to read it from any format: the names of its slots
in their order, how the value of each slot is taken, and the record in which every slot is still
empty. Slots that a document leaves out keep the value they have in the empty record.
-/

namespace ForkSchedule.Document

/-- How the value of a slot is given, and what it does to the record. -/
inductive Content (ρ : Type) where
  /-- A single value. -/
  | scalar (take : Found → Except Fault (ρ → ρ))
  /-- A name out of a fixed list. -/
  | choice (options : List (String × (ρ → ρ)))

/-- A named part of a record. -/
structure Slot (ρ : Type) where
  name : String
  content : Content ρ

/-- What a reader has to know of a record. -/
structure Record (ρ : Type) where
  /-- The name under which errors mention the record. -/
  title : String
  /-- The record of which nothing has been given yet. -/
  empty : ρ
  /-- The slots in the order in which they are read without their names. -/
  slots : List (Slot ρ)

/-- The slot with a name. -/
def Record.slot? {ρ : Type} (record : Record ρ) (name : List Char) : Option (Slot ρ) :=
  record.slots.find? (·.name.toList = name)

/-- The option with a name, or the fault of a name that is none of them. -/
def choose {α : Type} (options : List (String × α)) (name : List Char) : Except Fault α :=
  match options.find? (·.1.toList = name) with
  | some (_, chosen) => .ok chosen
  | none => .error (.unknownVariant name (options.map (·.1)))

/-- A number that may be absent. -/
def takeNumber : Found → Except Fault (Option Nat)
  | .null => .ok none
  | .integer (.ofNat value) => .ok (some value)
  | .integer value => .error (.negative value)
  | found => .error (.wrongKind found .number)

/-- A flag. -/
def takeFlag : Found → Except Fault Bool
  | .boolean value => .ok value
  | found => .error (.wrongKind found .flag)

/-- A hash that may be absent. -/
def takeHash : Found → Except Fault (Option Hash)
  | .null => .ok none
  | .text content =>
    match Hash.ofText content with
    | .ok hash => .ok (some hash)
    | .error fault => .error (.hash fault)
  | found => .error (.wrongKind found .text)

end ForkSchedule.Document
