/-!
# The exact value of a floating-point number

A finite double is a natural number times a power of two. Comparisons with integers and conversions
between the two kinds of number go through this exact value.
-/

namespace Conformance.Decimal

/-- What a double stands for. A finite one is `mantissa * 2 ^ exponent`, with a sign. -/
inductive Binary where
  | notANumber
  | infinite (negative : Bool)
  | finite (negative : Bool) (mantissa : Nat) (exponent : Int)
  deriving DecidableEq, Repr

def twoTo (n : Nat) : Nat := Nat.pow 2 n

def tenTo (n : Nat) : Nat := Nat.pow 10 n

def Binary.ofFloat (x : Float) : Binary :=
  let bits := x.toBits.toNat
  let negative := bits / twoTo 63 == 1
  let field : Nat := bits / twoTo 52 % twoTo 11
  let fraction : Nat := bits % twoTo 52
  if field == 2047 then if fraction == 0 then .infinite negative else .notANumber
  else if field == 0 then .finite negative fraction (-1074)
  else .finite negative (fraction + twoTo 52) (Int.ofNat field - 1075)

/-- The integer next to `mantissa * 2 ^ exponent` in the direction of zero. -/
def truncateMagnitude (mantissa : Nat) (exponent : Int) : Nat :=
  if 0 ≤ exponent then mantissa * twoTo exponent.toNat else mantissa / twoTo (-exponent).toNat

def Binary.equalsInt : Binary → Int → Bool
  | .finite negative mantissa exponent, n =>
    (mantissa == 0 || (decide (n < 0) == negative)) &&
      (if 0 ≤ exponent then n.natAbs == mantissa * twoTo exponent.toNat
       else n.natAbs * twoTo (-exponent).toNat == mantissa)
  | _, _ => false

def Binary.isZero : Binary → Bool
  | .finite _ mantissa _ => mantissa == 0
  | _ => false

/-- The double nearest to `digits * 10 ^ exponent`; the bounds on the exponent keep the arithmetic
small where the answer is zero or infinite in any case. -/
def nearestFloat (negative : Bool) (digits : Nat) (exponent : Int) : Float :=
  let size := (Nat.toDigits 10 digits).length
  let magnitude : Float :=
    if digits == 0 || exponent + size < -400 then 0.0
    else if exponent + size > 400 then 1.0 / 0.0
    else if 0 ≤ exponent then Float.ofScientific digits false exponent.toNat
    else Float.ofScientific digits true (-exponent).toNat
  if negative then -magnitude else magnitude

end Conformance.Decimal
