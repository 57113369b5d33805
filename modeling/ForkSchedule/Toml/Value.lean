/-!
# TOML values and tables

A table is a list of entries in the order in which they were first given. How a table came about
decides what may still be added to it: a table that a header or an inline value has defined is
complete, one that was only passed through on the way to another may be defined once.
-/

namespace ForkSchedule.Toml

/-- How a table came about. -/
inductive Origin where
  /-- Defined by a header, or the document itself. -/
  | header
  /-- Passed through by a header for a table inside it. -/
  | path
  /-- Passed through by a dotted key. -/
  | dottedKey
  /-- Written as an inline value. -/
  | inline
  deriving DecidableEq, Repr

/-- A value of a document. -/
inductive Value where
  | text (content : List Char)
  /-- An integer of 64 bits with a sign. -/
  | integer (value : Int)
  /-- A floating point number, infinity or the like. -/
  | decimal
  | boolean (value : Bool)
  /-- A date, a time or both. -/
  | moment
  | array (items : List Value)
  | table (origin : Origin) (entries : List (List Char × Value))
  /-- An array whose elements are tables with headers of their own. -/
  | tables (elements : List (List (List Char × Value)))

/-- The entries of a table in order. No key occurs twice. -/
abbrev Entries := List (List Char × Value)

/-- How a path leads from table to table. -/
inductive Route where
  /-- The keys of a header. -/
  | header
  /-- The dotted keys before an entry. -/
  | dottedKey
  deriving DecidableEq, Repr

/-- The origin of a table that a route brings about. -/
def Route.origin : Route → Origin
  | header => .path
  | dottedKey => .dottedKey

/-- Whether a route may lead into a table. A header may pass through every table but an inline one;
a dotted key only through tables that nothing has defined yet. -/
def Route.enters : Route → Origin → Bool
  | _, .inline => false
  | header, _ => true
  | dottedKey, .header => false
  | dottedKey, _ => true

namespace Entries

/-- The entries with the value of a key replaced in its place. -/
def replace (key : List Char) (value : Value) (entries : Entries) : Entries :=
  entries.map fun entry => if entry.1 = key then (key, value) else entry

/-- The entries without a key. -/
def remove (key : List Char) (entries : Entries) : Entries :=
  entries.filter (·.1 ≠ key)

/-- The entries with one more at the end, unless its key is taken. -/
def add (key : List Char) (value : Value) (entries : Entries) : Option Entries :=
  match entries.lookup key with
  | some _ => none
  | none => some (entries ++ [(key, value)])

/-- Changes the table at the end of a path, bringing about the tables on the way that are missing.
An array of tables stands for its last element. `change` is told how the table came about. -/
def change (route : Route) (action : Origin → Entries → Option Entries) :
    (path : List (List Char)) → Origin → Entries → Option Entries
  | [], origin, entries => action origin entries
  | key :: path, _, entries =>
    match entries.lookup key with
    | none =>
      match change route action path route.origin [] with
      | some inner => some (entries ++ [(key, .table route.origin inner)])
      | none => none
    | some (.table origin inner) =>
      if route.enters origin then
        match change route action path origin inner with
        | some inner => some (entries.replace key (.table origin inner))
        | none => none
      else none
    | some (.tables elements) =>
      match elements.getLast? with
      | some last =>
        match change route action path .header last with
        | some last => some (entries.replace key (.tables (elements.dropLast ++ [last])))
        | none => none
      | none => none
    | some _ => none

/-- The entries with one more, given by a possibly dotted key. The dotted part must lead to a table
that dotted keys have brought about. -/
def put (path : List (List Char)) (key : List Char) (value : Value) (entries : Entries) :
    Option Entries :=
  match path with
  | [] => entries.add key value
  | _ =>
    change .dottedKey
      (fun origin inner => if origin = .dottedKey then inner.add key value else none)
      path .header entries

/-- The entries after a header has opened a table. A table that headers have only passed through is
defined now and moves to the end; any other entry of that name is in the way. -/
def openTable (key : List Char) (entries : Entries) : Option Entries :=
  match entries.lookup key with
  | none => some (entries ++ [(key, .table .header [])])
  | some (.table .path inner) => some (entries.remove key ++ [(key, .table .header inner)])
  | some _ => none

/-- The entries after a header has opened one more element of an array of tables. -/
def openElement (key : List Char) (entries : Entries) : Option Entries :=
  match entries.lookup key with
  | none => some (entries ++ [(key, .tables [[]])])
  | some (.tables elements) => some (entries.replace key (.tables (elements ++ [[]])))
  | some _ => none

end Entries

end ForkSchedule.Toml
