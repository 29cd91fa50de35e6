/-!
# UTF-8

Decoding of bytes, with the place and the kind of the first fault. The bounds of the second byte
rule out overlong forms, surrogates and codes that are too large.
-/

namespace Conformance.Text.Utf8

inductive Fault where
  | badStart
  | badContinuation
  | cutOff
  deriving DecidableEq, Repr

def Fault.message : Fault → String
  | badStart => "invalid start byte"
  | badContinuation => "invalid continuation byte"
  | cutOff => "unexpected end of data"

/-- A fault, the number of bytes in front of it, and the bytes it is about. -/
structure Error where
  fault : Fault
  start : Nat
  bytes : List UInt8
  deriving DecidableEq, Repr

def hexDigit (n : Nat) : Char := "0123456789abcdef".toList.getD n '0'

def hexByte (b : UInt8) : String := String.ofList [hexDigit (b.toNat / 16), hexDigit (b.toNat % 16)]

def Error.subject (e : Error) : String :=
  match e.bytes with
  | [b] => s!"byte 0x{hexByte b} in position {e.start}"
  | bytes => s!"bytes in position {e.start}-{e.start + bytes.length - 1}"

def Error.message (e : Error) : String :=
  s!"'utf-8' codec can't decode {e.subject}: {e.fault.message}"

/-- The number of bytes after a first byte, and the least and greatest second byte. -/
def shape? (first : Nat) : Option (Nat × Nat × Nat) :=
  if first < 0x80 then some (0, 0, 0)
  else if first < 0xc2 then none
  else if first < 0xe0 then some (1, 0x80, 0xbf)
  else if first == 0xe0 then some (2, 0xa0, 0xbf)
  else if first == 0xed then some (2, 0x80, 0x9f)
  else if first < 0xf0 then some (2, 0x80, 0xbf)
  else if first == 0xf0 then some (3, 0x90, 0xbf)
  else if first < 0xf4 then some (3, 0x80, 0xbf)
  else if first == 0xf4 then some (3, 0x80, 0x8f)
  else none

/-- What the bits of a first byte are worth before any other byte is read. -/
def firstBits (size first : Nat) : Nat :=
  match size with
  | 0 => first
  | 1 => first % 0x20
  | 2 => first % 0x10
  | _ => first % 0x08

inductive Tail where
  | code (n : Nat) (rest : List UInt8)
  | fault (f : Fault) (good : List UInt8)

/-- Reads `size` further bytes, the next of which lies between the bounds. -/
def tail (soFar : Nat) (good : List UInt8) : (size low high : Nat) → List UInt8 → Tail
  | 0, _, _, rest => .code soFar rest
  | _ + 1, _, _, [] => .fault .cutOff good
  | size + 1, low, high, b :: rest =>
    if low ≤ b.toNat && b.toNat ≤ high then
      tail (soFar * 0x40 + b.toNat % 0x40) (good ++ [b]) size 0x80 0xbf rest
    else .fault .badContinuation good

def step (first : UInt8) (rest : List UInt8) : Except (Fault × List UInt8) (Char × List UInt8) :=
  match shape? first.toNat with
  | none => .error (.badStart, [first])
  | some (size, low, high) =>
    match tail (firstBits size first.toNat) [first] size low high rest with
    | .code n rest => .ok (Char.ofNat n, rest)
    | .fault f good => .error (f, good)

def decodeFrom (start : Nat) : (fuel : Nat) → List UInt8 → Except Error (List Char)
  | 0, _ => .ok []
  | _ + 1, [] => .ok []
  | fuel + 1, first :: rest =>
    match step first rest with
    | .error (fault, bytes) => .error { fault, start, bytes }
    | .ok (c, after) => do
      return c :: (← decodeFrom (start + (rest.length + 1 - after.length)) fuel after)

def decode (bytes : List UInt8) : Except Error (List Char) := decodeFrom 0 bytes.length bytes

/-- The characters of a piece of bytes, and the bytes at its end that may belong to a character
which goes on in the next piece. -/
def decodePiece (bytes : List UInt8) : Except Error (List Char × List UInt8) :=
  match decode bytes with
  | .ok cs => .ok (cs, [])
  | .error e =>
    if e.fault == .cutOff then do return (← decode (bytes.take e.start), bytes.drop e.start)
    else .error e

end Conformance.Text.Utf8
