import ForkSchedule.Json.Skip
import ForkSchedule.Document.Record

/-!
# Reading JSON

Records, choices and single values, read from the tokens of a text. Tokens are taken from the
front and a fault is reported where it stands, before anything after it is looked at. A record is
an object with named members or an array of the slots in their order.
-/

namespace ForkSchedule.Json

open Document

/-- The tokens that a reader leaves are fewer than those it was given. -/
abbrev Left (tokens : List Token) := { left : List Token // left.length < tokens.length }

/-- What follows the first token. -/
def Left.tail {token : Token} {rest : List Token} : Left (token :: rest) :=
  ⟨rest, Nat.lt_succ_self _⟩

/-- What is left after one more token at the front. -/
def Left.cons {token : Token} {rest : List Token} (left : Left rest) : Left (token :: rest) :=
  ⟨left.val, Nat.lt_succ_of_lt left.property⟩

/-- What is left of fewer tokens. -/
def Left.ofFewer {few tokens : List Token} (hfew : few.length < tokens.length) (left : Left few) :
    Left tokens :=
  ⟨left.val, Nat.lt_trans left.property hfew⟩

/-- A reader takes a value from the front of a list of tokens. -/
abbrev Reader (α : Type) := (tokens : List Token) → Except Fault (α × Left tokens)

/-- What a token shows of the value that starts with it. -/
def Token.found? : Token → Option Found
  | .null => some .null
  | .boolean value => some (.boolean value)
  | .number (.integer value) => some (.integer value)
  | .number .decimal => some .decimal
  | .text content => content.map .text
  | .openBracket => some .sequence
  | .openBrace => some .map
  | _ => none

/-- The fault of a value that is not the expected one. -/
def mismatch (expected : Expected) : List Token → Fault
  | token :: _ =>
    match token.found? with
    | some found => .wrongKind found expected
    | none => .malformed
  | [] => .malformed

/-- A value that is a single token. Arrays and objects are never taken. -/
def scalar {α : Type} (take : Found → Except Fault α) : Reader α
  | [] => .error .malformed
  | token :: _ =>
    match token.found? with
    | none => .error .malformed
    | some found =>
      match take found with
      | .ok value => .ok (value, Left.tail)
      | .error fault => .error fault

/-- The empty value that goes with a chosen name, and the end of the object around both. -/
def endOfChoice : Reader Unit
  | .colon :: .null :: .closeBrace :: _ => .ok ((), Left.tail.cons.cons)
  | .colon :: .null :: _ => .error .malformed
  | .colon :: rest => .error (mismatch .unit rest)
  | _ => .error .malformed

/-- A name out of a list, as a string or as an object with that name and nothing in it. -/
def choice {α : Type} (options : List (String × α)) : Reader α
  | .text (some name) :: _ =>
    match choose options name with
    | .ok chosen => .ok (chosen, Left.tail)
    | .error fault => .error fault
  | .openBrace :: .text (some name) :: rest =>
    match choose options name with
    | .error fault => .error fault
    | .ok chosen =>
      match endOfChoice rest with
      | .ok ((), left) => .ok (chosen, left.cons.cons)
      | .error fault => .error fault
  | .openBrace :: _ => .error .noChoice
  | _ => .error .malformed

/-- The value of a slot. -/
def content {ρ : Type} : Content ρ → Reader (ρ → ρ)
  | .scalar take => scalar take
  | .choice options => choice options

/-- A record of which some slots have been given. -/
structure Filling (ρ : Type) where
  value : ρ
  /-- The names of the slots that were given. -/
  given : List String

/-- The colon and the value of a member that no slot asks for. -/
def unknownMember : Reader Unit
  | .colon :: rest =>
    match hskip : skip rest with
    | some left => .ok ((), Left.cons ⟨left, skip_length hskip⟩)
    | none => .error .malformed
  | _ => .error .malformed

/-- The colon and the value of a member for a slot. -/
def knownMember {ρ : Type} (slot : Slot ρ) : Reader (ρ → ρ)
  | .colon :: rest =>
    match content slot.content rest with
    | .ok (update, left) => .ok (update, left.cons)
    | .error fault => .error fault
  | _ => .error .malformed

/-- One member of an object. A slot that is given again is refused before its value is read. -/
def member {ρ : Type} (record : Record ρ) (built : Filling ρ) : Reader (Filling ρ)
  | .text (some name) :: rest =>
    match record.slot? name with
    | none =>
      match unknownMember rest with
      | .ok ((), left) => .ok (built, left.cons)
      | .error fault => .error fault
    | some slot =>
      if slot.name ∈ built.given then .error (.duplicate slot.name)
      else
        match knownMember slot rest with
        | .ok (update, left) =>
          .ok (⟨update built.value, slot.name :: built.given⟩, left.cons)
        | .error fault => .error fault
  | _ => .error .malformed

/-- The members of an object up to its end, of which there is at least one. -/
def members {ρ : Type} (record : Record ρ) (built : Filling ρ) (tokens : List Token) :
    Except Fault (ρ × Left tokens) :=
  match member record built tokens with
  | .error fault => .error fault
  | .ok (next, ⟨.comma :: rest, hrest⟩) =>
    match members record next rest with
    | .ok (value, left) => .ok (value, Left.ofFewer (Nat.lt_of_succ_lt hrest) left)
    | .error fault => .error fault
  | .ok (next, ⟨.closeBrace :: rest, hrest⟩) =>
    .ok (next.value, ⟨rest, Nat.lt_of_succ_lt hrest⟩)
  | .ok _ => .error .malformed
termination_by tokens.length
decreasing_by exact Nat.lt_of_succ_lt hrest

/-- The elements of an array up to its end, one for each slot until they run out. -/
def elements {ρ : Type} : List (Slot ρ) → ρ → Reader ρ
  | [], _, _ => .error .malformed
  | slot :: slots, built, tokens =>
    match content slot.content tokens with
    | .error fault => .error fault
    | .ok (update, ⟨.comma :: rest, hrest⟩) =>
      match elements slots (update built) rest with
      | .ok (value, left) => .ok (value, Left.ofFewer (Nat.lt_of_succ_lt hrest) left)
      | .error fault => .error fault
    | .ok (update, ⟨.closeBracket :: rest, hrest⟩) =>
      .ok (update built, ⟨rest, Nat.lt_of_succ_lt hrest⟩)
    | .ok _ => .error .malformed

/-- A record, as an object or as an array. -/
def record {ρ : Type} (shape : Record ρ) : Reader ρ
  | .openBrace :: .closeBrace :: _ => .ok (shape.empty, Left.tail.cons)
  | .openBrace :: rest =>
    match members shape ⟨shape.empty, []⟩ rest with
    | .ok (value, left) => .ok (value, left.cons)
    | .error fault => .error fault
  | .openBracket :: .closeBracket :: _ => .ok (shape.empty, Left.tail.cons)
  | .openBracket :: rest =>
    match elements shape.slots shape.empty rest with
    | .ok (value, left) => .ok (value, left.cons)
    | .error fault => .error fault
  | tokens => .error (mismatch (.record shape.title) tokens)

/-- What a reader makes of tokens that are one value and nothing else. -/
def onlyValue {α : Type} (reader : Reader α) (tokens : List Token) : Except Fault α :=
  match reader tokens with
  | .ok (value, ⟨[], _⟩) => .ok value
  | .ok _ => .error .malformed
  | .error fault => .error fault

/-- What a reader makes of a text that is one value and nothing else. -/
def whole {α : Type} (reader : Reader α) (text : String) : Except Fault α :=
  onlyValue reader (tokens text.toList)

end ForkSchedule.Json
