import Conformance.Document.Value
import Conformance.Text.CodePoint

/-!
# The order of values

Numbers are ordered by size across kinds, texts by code points, bytes, days and moments each among
themselves; other pairs of values have no order, and neither has a list with such a pair in it as
soon as the two are compared. Sorting looks for a run at the front of the list and places the other
items one by one, each by halving.
-/

namespace Conformance

inductive OrderError where
  | kinds (left right : String)
  | momentAndDay
  /-- Two moments of which only one has a known distance from universal time. -/
  | zones
  deriving DecidableEq, Repr

def OrderError.message : OrderError → String
  | kinds left right => s!"'<' not supported between instances of '{left}' and '{right}'"
  | momentAndDay => "can't compare datetime.datetime to datetime.date"
  | zones => "can't compare offset-naive and offset-aware datetimes"

namespace Value

def codesPrecede : List Nat → List Nat → Bool
  | [], ys => !ys.isEmpty
  | _ :: _, [] => false
  | x :: xs, y :: ys => x < y || (x == y && codesPrecede xs ys)

def intPrecedesFloat (n : Int) (x : Float) : Bool :=
  match Decimal.Binary.ofFloat x with
  | .notANumber => false
  | .infinite negative => !negative
  | .finite negative mantissa exponent =>
    let m : Int := if negative then -(mantissa : Int) else mantissa
    if 0 ≤ exponent then n < m * Decimal.twoTo exponent.toNat
    else n * Decimal.twoTo (-exponent).toNat < m

def floatPrecedesInt (x : Float) (n : Int) : Bool := intPrecedesFloat (-n) (-x)

def momentPrecedes (m n : Moment) : Except OrderError Bool :=
  match m.offset, n.offset with
  | some a, some b => .ok (m.clock - a * 60000000 < n.clock - b * 60000000)
  | none, none => .ok (m.clock < n.clock)
  | _, _ => .error .zones

def precedes : Value → Value → Except OrderError Bool
  | str s, str t => .ok (codesPrecede (s.toList.map Text.codeOf) (t.toList.map Text.codeOf))
  | bytes bs, bytes cs => .ok (codesPrecede (bs.map UInt8.toNat) (cs.map UInt8.toNat))
  | date d, date e => .ok (d.ordinal < e.ordinal)
  | moment m, moment n => momentPrecedes m n
  | date _, moment _ => .error .momentAndDay
  | moment _, date _ => .error .momentAndDay
  | float x, float y => .ok (x < y)
  | v, w =>
    match v, v.asInt?, w, w.asInt? with
    | _, some m, _, some n => .ok (m < n)
    | _, some m, float y, _ => .ok (intPrecedesFloat m y)
    | float x, _, _, some n => .ok (floatPrecedesInt x n)
    | nan _, _, nan _, _ => .ok false
    | nan _, _, float _, _ => .ok false
    | nan _, _, _, some _ => .ok false
    | float _, _, nan _, _ => .ok false
    | _, some _, nan _, _ => .ok false
    | _, _, _, _ => .error (.kinds v.fullKind w.fullKind)

/-- The number of items that go on with a run after `last`. -/
def runLength (descending : Bool) (last : Value) : List Value → Except OrderError Nat
  | [] => .ok 0
  | v :: rest => do
    if (← v.precedes last) == descending then return (← runLength descending v rest) + 1
    else return 0

/-- The place of a value in an ordered list between two bounds, behind all that it does not come
before. -/
def placeIn (sorted : List Value) (v : Value) : (fuel low high : Nat) → Except OrderError Nat
  | 0, low, _ => .ok low
  | fuel + 1, low, high =>
    if low < high then do
      let middle := low + (high - low) / 2
      if ← v.precedes (sorted.getD middle v) then placeIn sorted v fuel low middle
      else placeIn sorted v fuel (middle + 1) high
    else .ok low

def insertInto (sorted : List Value) (v : Value) : Except OrderError (List Value) := do
  let place ← placeIn sorted v (sorted.length + 1) 0 sorted.length
  return sorted.take place ++ v :: sorted.drop place

def sorted : List Value → Except OrderError (List Value)
  | first :: second :: rest => do
    let descending ← second.precedes first
    let length := (← runLength descending second rest) + 2
    let run := (first :: second :: rest).take length
    (rest.drop (length - 2)).foldlM insertInto (if descending then run.reverse else run)
  | vs => .ok vs

end Value

end Conformance
