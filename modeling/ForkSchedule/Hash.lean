/-!
# Hashes and their hexadecimal text

A hash is 32 bytes. It is written as `0x` and two lower case digits for each byte, and read with
digits of either case and with or without the `0x`. Text that is no hash is refused for the first
of three reasons that holds: an odd length, a character that is no digit, a wrong number of bytes.
-/

namespace ForkSchedule

/-- A hash of 32 bytes. -/
structure Hash where
  bytes : List UInt8
  length_bytes : bytes.length = 32
  deriving DecidableEq

/-- Why a text is no hash. -/
inductive HashFault where
  /-- The bytes of the text do not pair up. -/
  | oddLength
  /-- The byte at this position is the first that is no hexadecimal digit. -/
  | badDigit (byte : UInt8) (position : Nat)
  /-- The text spells this many bytes. -/
  | wrongSize (bytes : Nat)
  deriving DecidableEq, Repr

namespace Hash

/-- The lower case digit of a number below sixteen. -/
def digit (value : UInt8) : Char :=
  if value < 10 then Char.ofNat (48 + value.toNat) else Char.ofNat (87 + value.toNat)

/-- The two digits of a byte, high half first. -/
def digitPair (byte : UInt8) : List Char := [digit (byte / 16), digit (byte % 16)]

/-- The digits of a list of bytes. -/
def digits (bytes : List UInt8) : List Char := bytes.flatMap digitPair

/-- The text of a hash. -/
def text (hash : Hash) : List Char := '0' :: 'x' :: digits hash.bytes

/-- The value of a hexadecimal digit of either case. -/
def digitValue? (byte : UInt8) : Option UInt8 :=
  if 48 ≤ byte ∧ byte ≤ 57 then some (byte - 48)
  else if 97 ≤ byte ∧ byte ≤ 102 then some (byte - 87)
  else if 65 ≤ byte ∧ byte ≤ 70 then some (byte - 55)
  else none

/-- The values of digits, or the first byte that is none. The first byte stands at `position`. -/
def digitValues (position : Nat) : List UInt8 → Except HashFault (List UInt8)
  | [] => .ok []
  | byte :: rest =>
    match digitValue? byte with
    | none => .error (.badDigit byte position)
    | some value => (digitValues (position + 1) rest).map (value :: ·)

/-- Two values below sixteen make a byte, high half first. -/
def joinPairs : List UInt8 → List UInt8
  | high :: low :: rest => (16 * high + low) :: joinPairs rest
  | _ => []

/-- Text without a leading `0x`, one of which is taken off. -/
def withoutMark : List Char → List Char
  | '0' :: 'x' :: rest => rest
  | text => text

/-- The bytes of a text in UTF-8. -/
def utf8 (text : List Char) : List UInt8 := text.flatMap String.utf8EncodeChar

/-- The bytes that digits spell. -/
def spelled (text : List UInt8) : Except HashFault (List UInt8) :=
  if text.length % 2 = 1 then .error .oddLength
  else (digitValues 0 text).map joinPairs

/-- A hash from a list of bytes of any length. -/
def ofBytes (bytes : List UInt8) : Except HashFault Hash :=
  if hlength : bytes.length = 32 then .ok ⟨bytes, hlength⟩ else .error (.wrongSize bytes.length)

/-- The hash that a text spells. -/
def ofText (text : List Char) : Except HashFault Hash :=
  match spelled (utf8 (withoutMark text)) with
  | .ok bytes => ofBytes bytes
  | .error fault => .error fault

end Hash

end ForkSchedule
