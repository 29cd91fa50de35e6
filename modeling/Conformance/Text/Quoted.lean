import Conformance.Text.CodePoint
import Conformance.Text.Printable

/-!
# Quoted text

The literal form of a text in messages: single quotes, unless the text holds a single quote and no
double quote; the quote in use and the backslash escaped; characters that cannot be printed written
by their code point.
-/

namespace Conformance.Text

def hexDigit (n : Nat) : Char :=
  if n < 10 then Char.ofNat ('0'.toNat + n) else Char.ofNat ('a'.toNat + (n - 10))

def hexDigits : (width : Nat) → Nat → List Char
  | 0, _ => []
  | width + 1, n => hexDigits width (n / 16) ++ [hexDigit (n % 16)]

@[simp] theorem hexDigits_length (width n : Nat) : (hexDigits width n).length = width := by
  induction width generalizing n with
  | zero => rfl
  | succ width ih => simp [hexDigits, ih]

/-- A code point as an escape of two, four or eight hexadecimal digits. -/
def escapeCode (n : Nat) : List Char :=
  if n < 0x100 then '\\' :: 'x' :: hexDigits 2 n
  else if n < 0x10000 then '\\' :: 'u' :: hexDigits 4 n
  else '\\' :: 'U' :: hexDigits 8 n

/-- One character inside quotes; `plain` says which characters need no escape. -/
def quoteChar (plain : Char → Bool) (quote c : Char) : List Char :=
  if c == quote || c == '\\' then ['\\', c]
  else if c == '\n' then ['\\', 'n']
  else if c == '\r' then ['\\', 'r']
  else if c == '\t' then ['\\', 't']
  else if plain c then [c]
  else escapeCode (codeOf c)

def quoteFor (cs : List Char) : Char :=
  if cs.contains '\'' && !cs.contains '"' then '"' else '\''

def quoteChars (plain : Char → Bool) (cs : List Char) : List Char :=
  quoteFor cs :: cs.flatMap (quoteChar plain (quoteFor cs)) ++ [quoteFor cs]

def quoted (s : String) : String :=
  String.ofList (quoteChars isPrintable s.toList)

def escapeNonAscii (s : String) : String :=
  String.ofList (s.toList.flatMap fun c => if c.toNat < 0x80 then [c] else escapeCode (codeOf c))

/-- The literal form of bytes: a mark, and quotes around what the bytes are in ASCII. -/
def quotedBytes (bs : List UInt8) : String :=
  let plain (c : Char) : Bool := 0x20 ≤ c.toNat && c.toNat < 0x7f
  String.ofList ('b' :: quoteChars plain (bs.map fun b => Char.ofNat b.toNat))

end Conformance.Text
