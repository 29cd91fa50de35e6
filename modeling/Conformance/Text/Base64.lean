/-!
# Base 64

Bytes written with sixty-four letters, four of them for three bytes. Reading is lenient: what is no
letter is passed over, and padding ends the text as soon as it fills up a group of four.
-/

namespace Conformance.Text.Base64

def letterValue? (c : Char) : Option Nat :=
  if 'A' ≤ c && c ≤ 'Z' then some (c.toNat - 'A'.toNat)
  else if 'a' ≤ c && c ≤ 'z' then some (c.toNat - 'a'.toNat + 26)
  else if '0' ≤ c && c ≤ '9' then some (c.toNat - '0'.toNat + 52)
  else if c == '+' then some 62
  else if c == '/' then some 63
  else none

/-- Reads letters: `place` is how many of a group were read before, `left` the bits of the last one
that belong to the next byte, and `pads` the number of padding marks after it. Nothing is read if a
group is left open. -/
def decodeFrom (place left pads : Nat) : List Char → Option (List UInt8)
  | [] => if place == 0 then some [] else none
  | '=' :: rest =>
    if place < 2 then decodeFrom place left pads rest
    else if 4 ≤ place + pads + 1 then some []
    else decodeFrom place left (pads + 1) rest
  | c :: rest =>
    match letterValue? c with
    | none => decodeFrom place left pads rest
    | some v =>
      match place with
      | 0 => decodeFrom 1 v 0 rest
      | 1 => (decodeFrom 2 (v % 16) 0 rest).map (UInt8.ofNat (left * 4 + v / 16) :: ·)
      | 2 => (decodeFrom 3 (v % 4) 0 rest).map (UInt8.ofNat (left * 16 + v / 4) :: ·)
      | _ => (decodeFrom 0 0 0 rest).map (UInt8.ofNat (left * 64 + v) :: ·)

def decode? (cs : List Char) : Option (List UInt8) := decodeFrom 0 0 0 cs

end Conformance.Text.Base64
