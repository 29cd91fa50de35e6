import Conformance.Document.Literal
import Conformance.Text.Blank
import Conformance.Text.Digit

/-!
# Integers in documents

Where an integer is expected a document may also give a truth value, a number with a fraction, which
is cut off, or a text of digits. Texts may be in any base; a decimal one may not be too long.
-/

namespace Conformance

inductive IntegerError where
  /-- A text that is no integer literal of the base, in its own literal form. -/
  | badLiteral (base : Nat) (shown : String)
  | longLiteral (digits : Nat)
  | badKind (kind : String)
  | notANumber
  | infinite
  deriving DecidableEq, Repr

def IntegerError.message : IntegerError → String
  | badLiteral base shown =>
    s!"invalid literal for int() with base {base}: " ++ String.ofList (shown.toList.take 200)
  | longLiteral digits =>
    "Exceeds the limit (4300 digits) for integer string conversion: " ++
      s!"value has {digits} digits; use sys.set_int_max_str_digits() to increase the limit"
  | badKind kind =>
    s!"int() argument must be a string, a bytes-like object or a real number, not '{kind}'"
  | notANumber => "cannot convert float NaN to integer"
  | infinite => "cannot convert float infinity to integer"

namespace Text

def isNumberBlank (c : Char) : Bool :=
  isBlank c && !(0x1c ≤ c.toNat && c.toNat ≤ 0x1f)

def trimNumber (cs : List Char) : List Char :=
  ((cs.dropWhile isNumberBlank).reverse.dropWhile isNumberBlank).reverse

def letterValue? (c : Char) : Option Nat :=
  if 'a' ≤ c && c ≤ 'z' then some (c.toNat - 'a'.toNat + 10)
  else if 'A' ≤ c && c ≤ 'Z' then some (c.toNat - 'A'.toNat + 10)
  else none

def numeralValue? (base : Nat) (c : Char) : Option Nat :=
  ((digitValue? c).or (letterValue? c)).filter (· < base)

/-- The digits in front and what follows them; `awaited` says that a digit has to come next. Single
low lines may stand between digits, and nothing is read if one stands elsewhere. -/
def leadingNumerals (base : Nat) : (awaited : Bool) → List Char → Option (List Nat × List Char)
  | awaited, [] => if awaited then none else some ([], [])
  | awaited, c :: rest =>
    if c == '_' then
      if awaited then none else leadingNumerals base true rest
    else
      match numeralValue? base c with
      | some d => (leadingNumerals base false rest).map fun (more, after) => (d :: more, after)
      | none => if awaited then none else some ([], c :: rest)

def dropBaseMark (base : Nat) (cs : List Char) : List Char :=
  let marks := if base == 16 then ['x', 'X'] else if base == 8 then ['o', 'O']
    else if base == 2 then ['b', 'B'] else []
  match cs with
  | '0' :: mark :: rest =>
    if marks.contains mark then
      match rest with
      | '_' :: rest => rest
      | rest => rest
    else cs
  | cs => cs

/-- The integer that characters stand for in a base, blanks around it allowed; `shown` is their
literal form. -/
def readInteger (base : Nat) (shown : String) (cs : List Char) : Except IntegerError Int :=
  let (negative, rest) := match trimNumber cs with
    | '-' :: rest => (true, rest)
    | '+' :: rest => (false, rest)
    | rest => (false, rest)
  match leadingNumerals base true (dropBaseMark base rest) with
  | none => .error (.badLiteral base shown)
  | some (digits, after) =>
    if base == 10 && digitLimit < digits.length then .error (.longLiteral digits.length)
    else if !after.isEmpty then .error (.badLiteral base shown)
    else
      let magnitude : Int := Int.ofNat (digits.foldl (fun n d => base * n + d) 0)
      .ok (if negative then -magnitude else magnitude)

def integerOf (base : Nat) (s : String) : Except IntegerError Int :=
  readInteger base (quoted s) s.toList

/-- The characters of bytes; those that are not in ASCII become a question mark. -/
def asciiChars (bs : List UInt8) : List Char :=
  bs.map fun b => if b < 0x80 then Char.ofNat b.toNat else '?'

end Text

def Value.toInteger : Value → Except IntegerError Int
  | .bool b => .ok (if b then 1 else 0)
  | .int n => .ok n
  | .float x =>
    match Decimal.Binary.ofFloat x with
    | .notANumber => .error .notANumber
    | .infinite _ => .error .infinite
    | .finite negative mantissa exponent =>
      let n : Int := Decimal.truncateMagnitude mantissa exponent
      .ok (if negative then -n else n)
  | .nan _ => .error .notANumber
  | .str s => Text.integerOf 10 s
  | .bytes bs => Text.readInteger 10 (Text.quotedBytes bs) (Text.asciiChars bs)
  | v => .error (.badKind v.fullKind)

@[simp] theorem Value.toInteger_int (n : Int) : (Value.int n).toInteger = .ok n := rfl

end Conformance
