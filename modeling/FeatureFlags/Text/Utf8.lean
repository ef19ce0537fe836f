/-! Text as bytes. A character is a leading byte and as many following ones as it announces; the
leading byte also narrows the range of the first one that follows. Bytes that are no text are
refused with the place, the extent and the reason of the first fault.
-/

namespace FeatureFlags.Utf8

/-- Why bytes are no text. -/
inductive Reason where
  /-- No character begins with this byte. -/
  | invalidStart
  /-- The byte after these does not continue the character. -/
  | invalidContinuation
  /-- The bytes end within a character. -/
  | unexpectedEnd
deriving DecidableEq, Repr

def Reason.text : Reason → String
  | .invalidStart => "invalid start byte"
  | .invalidContinuation => "invalid continuation byte"
  | .unexpectedEnd => "unexpected end of data"

/-- The first fault of a sequence of bytes. -/
structure Fault where
  reason : Reason
  /-- The number of bytes before the fault. -/
  position : Nat
  /-- The number of bytes at fault. -/
  length : Nat
  /-- The first byte at fault. -/
  byte : Nat
deriving DecidableEq, Repr

/-- The two digits of a byte to base sixteen. -/
def byteText (byte : Nat) : String :=
  String.ofList [Nat.digitChar (byte / 16), Nat.digitChar (byte % 16)]

def Fault.message (f : Fault) : String :=
  "'utf-8' codec can't decode " ++
  (if f.length = 1 then "byte 0x" ++ byteText f.byte ++ " in position " ++ toString f.position
    else "bytes in position " ++ toString f.position ++ "-" ++
      toString (f.position + f.length - 1)) ++
  ": " ++ f.reason.text

/-- The range of a byte that continues a character. -/
def tail : Nat × Nat := (0x80, 0xBF)

/-- The bits that a leading byte contributes, and the ranges of the bytes that follow it. -/
def lead? (byte : Nat) : Option (Nat × List (Nat × Nat)) :=
  if byte < 0x80 then some (byte, [])
  else if byte < 0xC2 then none
  else if byte < 0xE0 then some (byte - 0xC0, [tail])
  else if byte = 0xE0 then some (0, [(0xA0, 0xBF), tail])
  else if byte = 0xED then some (13, [(0x80, 0x9F), tail])
  else if byte < 0xF0 then some (byte - 0xE0, [tail, tail])
  else if byte = 0xF0 then some (0, [(0x90, 0xBF), tail, tail])
  else if byte < 0xF4 then some (byte - 0xF0, [tail, tail, tail])
  else if byte = 0xF4 then some (4, [(0x80, 0x8F), tail, tail])
  else none

/-- Reads following bytes into `value`; `length` counts the bytes of the character so far. -/
def follow (value length : Nat) : List (Nat × Nat) → List Nat → Except (Reason × Nat) (Nat × Nat)
  | [], _ => .ok (value, length)
  | _ :: _, [] => .error (.unexpectedEnd, length)
  | (low, high) :: ranges, byte :: rest =>
    if low ≤ byte ∧ byte ≤ high then follow (value * 64 + (byte - 0x80)) (length + 1) ranges rest
    else .error (.invalidContinuation, length)

/-- The text of bytes of which `position` others come before. -/
def decodeFrom (position : Nat) (bytes : List Nat) : Except Fault (List Char) :=
  match bytes with
  | [] => .ok []
  | byte :: rest =>
    match lead? byte with
    | none => .error ⟨.invalidStart, position, 1, byte⟩
    | some (value, ranges) =>
      match follow value 1 ranges rest with
      | .error (reason, length) => .error ⟨reason, position, length, byte⟩
      | .ok (value, length) => do
        let chars ← decodeFrom (position + length) (rest.drop (length - 1))
        return Char.ofNat value :: chars
termination_by bytes.length
decreasing_by simp only [List.length_drop, List.length_cons]; omega

/-- The text that the bytes encode. -/
def decode (bytes : List Nat) : Except Fault (List Char) := decodeFrom 0 bytes

/-- The bytes of a text. -/
def encode (text : String) : List Nat := text.toUTF8.toList.map UInt8.toNat

end FeatureFlags.Utf8
