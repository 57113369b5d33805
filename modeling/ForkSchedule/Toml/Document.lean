import ForkSchedule.Toml.Expression
import ForkSchedule.Document.Record

/-!
# TOML documents

A document is a list of statements: pairs, and headers that say to which table the pairs after them
belong. The whole document is read and its table put together before any entry is looked at. The
slots of a record are then taken from the entries in their order.
-/

namespace ForkSchedule.Toml

open Document

/-- A line of a document, if it says anything. -/
inductive Statement where
  /-- An entry of the table at hand. -/
  | pair (pair : Pair)
  /-- The table with this key is at hand from here on. -/
  | table (key : Key)
  /-- A new element of the array of tables with this key is at hand from here on. -/
  | element (key : Key)

/-- One line with its end; a value may make it several lines. -/
def line (cs : List Char) : Option (Option Statement × List Char) :=
  match skipBlank cs with
  | '[' :: '[' :: rest =>
    match key.read rest with
    | some (key, ']' :: ']' :: rest) => (lineEnd rest).map (some (.element key), ·)
    | _ => none
  | '[' :: rest =>
    match key.read rest with
    | some (key, ']' :: rest) => (lineEnd rest).map (some (.table key), ·)
    | _ => none
  | start =>
    match lineEnd start with
    | some rest => some (none, rest)
    | none =>
      match (pair (value depthLimit)).read start with
      | some (pair, rest) => (lineEnd rest).map (some (.pair pair), ·)
      | none => none

/-- A line takes something from every text that has something left. -/
theorem line_length {cs left : List Char} {found : Option Statement}
    (hline : line cs = some (found, left)) (hne : cs ≠ []) : left.length < cs.length := by
  have hpos := List.length_pos_iff.2 hne
  have hle := skipBlank_length cs
  unfold line at hline
  split at hline
  next rest hstart =>
    rw [hstart, List.length_cons, List.length_cons] at hle
    split at hline
    next key' rest' hkey =>
      obtain ⟨left', hend, heq⟩ := Option.map_eq_some_iff.1 hline
      obtain ⟨-, rfl⟩ := by simpa using heq
      have hkeep := key.shortens hkey
      rw [List.length_cons, List.length_cons] at hkeep
      have := lineEnd_length hend
      omega
    · simp at hline
  next rest _ hstart =>
    rw [hstart, List.length_cons] at hle
    split at hline
    next key' rest' hkey =>
      obtain ⟨left', hend, heq⟩ := Option.map_eq_some_iff.1 hline
      obtain ⟨-, rfl⟩ := by simpa using heq
      have hkeep := key.shortens hkey
      rw [List.length_cons] at hkeep
      have := lineEnd_length hend
      omega
    · simp at hline
  · split at hline
    next hend =>
      obtain ⟨-, rfl⟩ := by simpa using hline
      have := lineEnd_length hend
      omega
    · split at hline
      next pair' rest hpair =>
        obtain ⟨left', hend, heq⟩ := Option.map_eq_some_iff.1 hline
        obtain ⟨-, rfl⟩ := by simpa using heq
        have := (pair (value depthLimit)).shortens hpair
        have := lineEnd_length hend
        omega
      · simp at hline

/-- The statements of a text. -/
def statements (cs : List Char) : Option (List Statement) :=
  if _ : cs = [] then some []
  else
    match _ : line cs with
    | none => none
    | some (found, rest) => (statements rest).map (found.toList ++ ·)
termination_by cs.length
decreasing_by
  rename_i hne hline
  exact line_length hline hne

/-! ## Putting the tables together -/

/-- A document being put together. -/
structure Draft where
  entries : Entries
  /-- The path to the table at hand. -/
  place : List (List Char)

/-- The draft after one more statement, unless something is defined twice. -/
def Draft.add (draft : Draft) : Statement → Option Draft
  | .pair pair =>
    (Entries.change .header (fun _ inner => inner.put pair.key.path pair.key.last pair.value)
      draft.place .header draft.entries).map fun entries => { draft with entries }
  | .table key =>
    (Entries.change .header (fun _ inner => inner.openTable key.last)
      key.path .header draft.entries).map fun entries => ⟨entries, key.path ++ [key.last]⟩
  | .element key =>
    (Entries.change .header (fun _ inner => inner.openElement key.last)
      key.path .header draft.entries).map fun entries => ⟨entries, key.path ++ [key.last]⟩

/-- The entries of the document that statements describe. -/
def entriesOf (statements : List Statement) : Option Entries :=
  (statements.foldlM Draft.add ⟨[], []⟩).map (·.entries)

/-- The text without a byte order mark at the front. -/
def dropByteOrderMark : List Char → List Char
  | '\ufeff' :: rest => rest
  | rest => rest

/-- The entries of a text. -/
def entries? (text : String) : Option Entries :=
  (statements (dropByteOrderMark text.toList)).bind entriesOf

/-! ## Reading records -/

/-- What a value shows of itself. A moment counts as a map. -/
def Value.found : Value → Found
  | .text content => .text content
  | .integer value => .integer value
  | .decimal => .decimal
  | .boolean value => .boolean value
  | .moment => .map
  | .array _ => .sequence
  | .table _ _ => .map
  | .tables _ => .sequence

/-- Whether nothing is in an array or a table. -/
def Value.isHollow : Value → Bool
  | .array [] => true
  | .table _ [] => true
  | .tables [] => true
  | _ => false

/-- A name out of a list, as a text or as a table with that name and nothing in it. -/
def choice {α : Type} (options : List (String × α)) : Value → Except Fault α
  | .text name => choose options name
  | .table _ [(name, value)] =>
    match choose options name with
    | .ok chosen => if value.isHollow then .ok chosen else .error .noChoice
    | .error fault => .error fault
  | _ => .error .noChoice

/-- The value of a slot. -/
def content {ρ : Type} : Content ρ → Value → Except Fault (ρ → ρ)
  | .scalar take, value => take value.found
  | .choice options, value => choice options value

/-- The record after one more entry. Entries that no slot asks for are passed over. -/
def takeEntry {ρ : Type} (shape : Record ρ) (built : ρ) (entry : List Char × Value) :
    Except Fault ρ :=
  match shape.slot? entry.1 with
  | none => .ok built
  | some slot =>
    match content slot.content entry.2 with
    | .ok update => .ok (update built)
    | .error fault => .error fault

/-- Reads a record from a text. -/
def record {ρ : Type} (shape : Record ρ) (text : String) : Except Fault ρ :=
  match entries? text with
  | none => .error .malformed
  | some entries => entries.foldlM (takeEntry shape) shape.empty

end ForkSchedule.Toml
