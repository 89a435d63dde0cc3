import SessionScript.Text.Digits

/-!
# Base64

The written form of bytes in documents. The reader is lenient: it passes over characters outside
the alphabet and stops at a pad that completes a group of four.
-/

namespace SessionScript.Text.Base64

/-- The character of a number below sixty-four. -/
def letter (n : Nat) : Char :=
  if n < 26 then Char.ofNat (65 + n)
  else if n < 52 then Char.ofNat (71 + n)
  else if n < 62 then Char.ofNat (n - 4)
  else if n == 62 then '+' else '/'

/-- The number of a character of the alphabet. -/
def value? (c : Char) : Option Nat :=
  let n := c.val.toNat
  if 65 ≤ n && n ≤ 90 then some (n - 65)
  else if 97 ≤ n && n ≤ 122 then some (n - 71)
  else if 48 ≤ n && n ≤ 57 then some (n + 4)
  else if c == '+' then some 62
  else if c == '/' then some 63
  else none

/-- The characters of bytes, four for every three and a padded group for the rest. -/
def encode : List UInt8 → List Char
  | a :: b :: c :: rest =>
    let n := a.toNat * 65536 + b.toNat * 256 + c.toNat
    letter (n / 262144) :: letter (n / 4096 % 64) :: letter (n / 64 % 64) :: letter (n % 64) ::
      encode rest
  | [a, b] =>
    let n := a.toNat * 1024 + b.toNat * 4
    [letter (n / 4096), letter (n / 64 % 64), letter (n % 64), '=']
  | [a] =>
    let n := a.toNat * 16
    [letter (n / 64), letter (n % 64), '=', '=']
  | [] => []

/-- Ends every line of a width with a line feed, the last and shorter one too. -/
def wrapFrom (width : Nat) : Nat → List Char → List Char
  | 0, [] => []
  | _ + 1, [] => ['\n']
  | column, c :: cs =>
    if column = width then '\n' :: c :: wrapFrom width 1 cs else c :: wrapFrom width (column + 1) cs

/-- The characters of bytes in lines of seventy-six. -/
def encodeLines (bs : List UInt8) : String :=
  String.ofList (wrapFrom 76 0 (encode bs))

/-- Why a text is not the written form of bytes. -/
inductive DecodeError where
  | loneCharacter (count : Nat)
  | missingPad
  deriving DecidableEq, Repr

/-- The wording of a fault. -/
def DecodeError.message : DecodeError → String
  | .loneCharacter n =>
    "Invalid base64-encoded string: number of data characters (" ++ ofNat n ++
      ") cannot be 1 more than a multiple of 4"
  | .missingPad => "Incorrect padding"

/-- Reads the rest of a text: `group` is the number of characters of the current group of four,
    `left` holds the bits of it that are not yet a byte, `pads` the pads just seen and `out` the
    bytes so far in reverse. -/
def decodeFrom : Nat → Nat → Nat → List UInt8 → List Char → Except DecodeError (List UInt8)
  | group, _, _, out, [] =>
    if group = 0 then .ok out.reverse
    else if group = 1 then .error (.loneCharacter (out.length / 3 * 4 + 1))
    else .error .missingPad
  | group, left, pads, out, c :: cs =>
    if c == '=' then
      if 2 ≤ group then
        if 4 ≤ group + (pads + 1) then .ok out.reverse else decodeFrom group left (pads + 1) out cs
      else decodeFrom group left pads out cs
    else
      match value? c with
      | none => decodeFrom group left pads out cs
      | some v =>
        if group = 0 then decodeFrom 1 v 0 out cs
        else if group = 1 then decodeFrom 2 (v % 16) 0 (UInt8.ofNat (left * 4 + v / 16) :: out) cs
        else if group = 2 then decodeFrom 3 (v % 4) 0 (UInt8.ofNat (left * 16 + v / 4) :: out) cs
        else decodeFrom 0 0 0 (UInt8.ofNat (left * 64 + v) :: out) cs

/-- The bytes that a text denotes. -/
def decode (cs : List Char) : Except DecodeError (List UInt8) :=
  decodeFrom 0 0 0 [] cs

end SessionScript.Text.Base64
