/-!
# UTF-8

Decoding of byte sequences. Every maximal prefix of a character that the next byte makes
impossible is one fault; a lossy reading shows a replacement character for each.
-/

namespace SessionScript.Text.Utf8

/-- What the decoder still waits for inside a character: the range of the next byte, how many
    bytes of the general continuation range follow it, and the bits read so far. -/
structure Pending where
  low : Nat
  high : Nat
  more : Nat
  bits : Nat
  deriving DecidableEq, Repr

/-- What a byte means between characters. -/
inductive Lead where
  | whole (n : Nat)
  | opens (p : Pending)
  | fault
  deriving DecidableEq, Repr

/-- The meaning of a byte between characters. Overlong forms, surrogates and code points above
    the last one are ruled out by the range of the second byte. -/
def lead (b : UInt8) : Lead :=
  let n := b.toNat
  if n < 0x80 then .whole n
  else if n < 0xC2 then .fault
  else if n < 0xE0 then .opens ⟨0x80, 0xBF, 0, n - 0xC0⟩
  else if n == 0xE0 then .opens ⟨0xA0, 0xBF, 1, 0⟩
  else if n == 0xED then .opens ⟨0x80, 0x9F, 1, n - 0xE0⟩
  else if n < 0xF0 then .opens ⟨0x80, 0xBF, 1, n - 0xE0⟩
  else if n == 0xF0 then .opens ⟨0x90, 0xBF, 2, 0⟩
  else if n < 0xF4 then .opens ⟨0x80, 0xBF, 2, n - 0xF0⟩
  else if n == 0xF4 then .opens ⟨0x80, 0x8F, 2, 4⟩
  else .fault

/-- Decodes the bytes after an unfinished character, if there is one. A fault is `none`. -/
def decodeFrom : Option Pending → List UInt8 → List (Option Char)
  | none, [] => []
  | some _, [] => [none]
  | none, b :: bs =>
    match lead b with
    | .whole n => some (Char.ofNat n) :: decodeFrom none bs
    | .opens p => decodeFrom (some p) bs
    | .fault => none :: decodeFrom none bs
  | some p, b :: bs =>
    if p.low ≤ b.toNat && b.toNat ≤ p.high then
      let bits := p.bits * 64 + (b.toNat - 0x80)
      match p.more with
      | 0 => some (Char.ofNat bits) :: decodeFrom none bs
      | k + 1 => decodeFrom (some ⟨0x80, 0xBF, k, bits⟩) bs
    else
      none :: match lead b with
        | .whole n => some (Char.ofNat n) :: decodeFrom none bs
        | .opens q => decodeFrom (some q) bs
        | .fault => none :: decodeFrom none bs

/-- The replacement character, shown for a fault. -/
def replacement : Char := '\uFFFD'

/-- Reads bytes as text with a replacement character for every fault. -/
def decodeLossy (bs : List UInt8) : String :=
  String.ofList ((decodeFrom none bs).map fun c => c.getD replacement)

/-- Reads bytes as text if they have no fault. -/
def decode? (bs : List UInt8) : Option String :=
  ((decodeFrom none bs).mapM id).map String.ofList

/-- What is wrong with a byte sequence. -/
inductive FaultKind where
  | badStart
  | badContinuation
  | cutShort
  deriving DecidableEq, Repr

/-- The first fault of a byte sequence: where it starts and how many bytes it takes. -/
structure Fault where
  kind : FaultKind
  start : Nat
  length : Nat
  deriving DecidableEq, Repr

/-- The first fault from a position on. A character that is not complete is given with the number
    of its bytes so far. -/
def faultFrom : Nat → Option (Pending × Nat) → List UInt8 → Option Fault
  | _, none, [] => none
  | at', some (_, n), [] => some ⟨.cutShort, at' - n, n⟩
  | at', none, b :: bs =>
    match lead b with
    | .whole _ => faultFrom (at' + 1) none bs
    | .opens p => faultFrom (at' + 1) (some (p, 1)) bs
    | .fault => some ⟨.badStart, at', 1⟩
  | at', some (p, n), b :: bs =>
    if p.low ≤ b.toNat && b.toNat ≤ p.high then
      match p.more with
      | 0 => faultFrom (at' + 1) none bs
      | k + 1 => faultFrom (at' + 1) (some (⟨0x80, 0xBF, k, 0⟩, n + 1)) bs
    else some ⟨.badContinuation, at' - n, n⟩

/-- The first fault of a byte sequence. -/
def fault? (bs : List UInt8) : Option Fault := faultFrom 0 none bs

/-- The bytes of a text. -/
def encode (s : String) : List UInt8 :=
  s.toUTF8.toList

end SessionScript.Text.Utf8
