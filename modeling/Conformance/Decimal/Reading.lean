import Conformance.Decimal.Binary
import Conformance.Text.Digit

/-!
# Reading decimal numbers

The double that a decimal text stands for: digits of any script with a point, an exponent, or the
name of a number that is not finite.
-/

namespace Conformance.Decimal

def leadingDigits : List Char → List Nat × List Char
  | [] => ([], [])
  | c :: rest =>
    match Text.digitValue? c with
    | some d =>
      let (more, after) := leadingDigits rest
      (d :: more, after)
    | none => ([], c :: rest)

def digitsNumber (digits : List Nat) : Nat := digits.foldl (fun n d => 10 * n + d) 0

def signOf : List Char → Bool × List Char
  | '-' :: rest => (true, rest)
  | '+' :: rest => (false, rest)
  | cs => (false, cs)

/-- The exponent that a text is, if it is empty or well formed. -/
def exponent? : List Char → Option Int
  | [] => some 0
  | mark :: rest =>
    if mark == 'e' || mark == 'E' then
      let (negative, rest) := signOf rest
      match leadingDigits rest with
      | ([], _) => none
      | (digits, []) =>
        let n : Int := digitsNumber digits
        some (if negative then -n else n)
      | _ => none
    else none

def magnitude? (negative : Bool) (cs : List Char) : Option Float :=
  let (whole, rest) := leadingDigits cs
  let (fraction, rest) := match rest with
    | '.' :: rest => leadingDigits rest
    | rest => ([], rest)
  if whole.isEmpty && fraction.isEmpty then none
  else
    (exponent? rest).map fun exponent =>
      nearestFloat negative (digitsNumber (whole ++ fraction)) (exponent - fraction.length)

def parse? (cs : List Char) : Option Float :=
  let (negative, rest) := signOf cs
  if rest == "inf".toList || rest == "infinity".toList then
    some (if negative then -1.0 / 0.0 else 1.0 / 0.0)
  else if rest == "nan".toList then some (0.0 / 0.0)
  else magnitude? negative rest

end Conformance.Decimal
