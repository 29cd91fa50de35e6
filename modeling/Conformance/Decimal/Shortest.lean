import Conformance.Decimal.Binary

/-!
# The shortest decimal that reads back

The decimal text of a double has the fewest digits for which rounding to the nearest double gives
the number back, and of those the digits nearest to it.
-/

namespace Conformance.Decimal

structure Scientific where
  digits : Nat
  exponent : Int
  deriving DecidableEq, Repr

def onScale (numerator : Nat) (two : Int) (digits : Nat) (ten : Int) : Nat × Nat :=
  (numerator * twoTo two.toNat * tenTo (-ten).toNat, digits * tenTo ten.toNat * twoTo (-two).toNat)

/-- The numbers that round to a double, in quarters of its last place: the value, and the two ends
of the interval, which belong to it if the mantissa is even. -/
structure Rounding where
  low : Nat
  value : Nat
  high : Nat
  two : Int
  closed : Bool

/-- Below a power of two the doubles stand twice as close, so the interval is shorter there. -/
def Rounding.of (mantissa : Nat) (exponent : Int) : Rounding where
  low :=
    if mantissa == twoTo 52 && decide (-1074 < exponent) then 4 * mantissa - 1
    else 4 * mantissa - 2
  value := 4 * mantissa
  high := 4 * mantissa + 2
  two := exponent - 2
  closed := mantissa % 2 == 0

def Rounding.admits (r : Rounding) (digits : Nat) (ten : Int) : Bool :=
  let (low, fromLow) := onScale r.low r.two digits ten
  let (high, fromHigh) := onScale r.high r.two digits ten
  if r.closed then low ≤ fromLow && fromHigh ≤ high else low < fromLow && fromHigh < high

/-- The decimal of the given last place that rounds to the double and is nearest to it, an even
digit deciding between two that are equally near. -/
def Rounding.atPlace? (r : Rounding) (ten : Int) : Option Scientific :=
  let (value, unit) := onScale r.value r.two 1 ten
  let below := value / unit
  let rest := value % unit
  match r.admits below ten && below != 0, r.admits (below + 1) ten with
  | true, true =>
    if 2 * rest < unit || (2 * rest == unit && below % 2 == 0) then some ⟨below, ten⟩
    else some ⟨below + 1, ten⟩
  | true, false => some ⟨below, ten⟩
  | false, true => some ⟨below + 1, ten⟩
  | false, false => none

/-- The first place, from `ten` downwards, at which a decimal rounds to the double. -/
def Rounding.firstPlace (r : Rounding) : (fuel : Nat) → (ten : Int) → Scientific
  | 0, ten => ⟨0, ten⟩
  | fuel + 1, ten =>
    match r.atPlace? ten with
    | some found => found
    | none => r.firstPlace fuel (ten - 1)

/-- The least power of ten that is above `mantissa * 2 ^ exponent`, searched from `ten` downwards.
-/
def leadingPlace (mantissa : Nat) (exponent : Int) : (fuel : Nat) → (ten : Int) → Int
  | 0, ten => ten
  | fuel + 1, ten =>
    let (value, power) := onScale mantissa exponent 1 (ten - 1)
    if power ≤ value then ten else leadingPlace mantissa exponent fuel (ten - 1)

def Scientific.strip (fuel : Nat) (s : Scientific) : Scientific :=
  match fuel with
  | 0 => s
  | fuel + 1 =>
    if s.digits % 10 == 0 && s.digits != 0 then strip fuel ⟨s.digits / 10, s.exponent + 1⟩ else s

def shortest (mantissa : Nat) (exponent : Int) : Scientific :=
  if mantissa == 0 then ⟨0, 0⟩
  else
    let start := ((exponent + Nat.log2 mantissa + 1) * 30103) / 100000 + 2
    let ten := leadingPlace mantissa exponent 8 start
    ((Rounding.of mantissa exponent).firstPlace 18 (ten - 1)).strip 20

/-- Digits with a decimal point after the first `point` of them; zeros fill what is missing. -/
def positional (digits : List Char) (point : Int) : List Char :=
  if point ≤ 0 then '0' :: '.' :: (List.replicate (-point).toNat '0' ++ digits)
  else
    let n := point.toNat
    if digits.length ≤ n then digits ++ List.replicate (n - digits.length) '0' ++ ['.', '0']
    else digits.take n ++ '.' :: digits.drop n

def exponentText (e : Int) : List Char :=
  let digits := Nat.toDigits 10 e.natAbs
  'e' :: (if e < 0 then '-' else '+') :: (if digits.length < 2 then '0' :: digits else digits)

def scientificText (digits : List Char) (e : Int) : List Char :=
  match digits with
  | [] => []
  | [d] => d :: exponentText e
  | d :: rest => d :: '.' :: rest ++ exponentText e

/-- The text of a double: positional from four zeros after the point up to sixteen digits before
it, with an exponent beyond. -/
def floatText (x : Float) : String :=
  match Binary.ofFloat x with
  | .notANumber => "nan"
  | .infinite negative => if negative then "-inf" else "inf"
  | .finite negative mantissa exponent =>
    let s := shortest mantissa exponent
    let digits := Nat.toDigits 10 s.digits
    let point := s.exponent + digits.length
    let text :=
      if -4 < point && point ≤ 16 then positional digits point
      else scientificText digits (point - 1)
    String.ofList (if negative then '-' :: text else text)

end Conformance.Decimal
