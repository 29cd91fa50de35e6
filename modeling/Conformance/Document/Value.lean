import Conformance.Decimal.Binary

/-!
# Document values

A document, in either of its written forms, is a tree of scalars and collections. Mappings keep
the order in which their keys first appear. The module gives truth, kinds and equality of values:
numbers are equal across kinds when they are the same number, moments when they are the same
instant, and mappings are equal whatever their order.

A collection of a document may hold itself. It is unrolled as often as anyone looks, and each of its
unrollings is a `knot` with the same name, so that it can be told where it is met again.

Values are compared at any depth: the bound that an interpreter has on the depth of its calls is
left out.
-/

namespace Conformance

structure Date where
  year : Nat
  month : Nat
  day : Nat
  deriving DecidableEq, Repr

/-- A day with a time of day, and the distance from universal time in minutes if it is known. -/
structure Moment where
  date : Date
  hour : Nat
  minute : Nat
  second : Nat
  microsecond : Nat
  offset : Option Int
  deriving DecidableEq, Repr

/-- The number of days from the first of March of the year zero to a day. -/
def Date.ordinal (d : Date) : Int :=
  let year : Int := if d.month ≤ 2 then (d.year : Int) - 1 else d.year
  let month : Int := if d.month ≤ 2 then d.month + 9 else (d.month : Int) - 3
  365 * year + year / 4 - year / 100 + year / 400 + (153 * month + 2) / 5 + d.day - 1

def Moment.clock (m : Moment) : Int :=
  (((m.date.ordinal * 24 + m.hour) * 60 + m.minute) * 60 + m.second) * 1000000 + m.microsecond

/-- Whether two moments are one instant; one with a known distance from universal time is never
the same as one without. -/
def Moment.sameInstant (m n : Moment) : Bool :=
  match m.offset, n.offset with
  | some a, some b => m.clock - a * 60000000 == n.clock - b * 60000000
  | none, none => m.clock == n.clock
  | _, _ => false

inductive Value where
  | null
  | bool (b : Bool)
  | int (n : Int)
  | float (x : Float)
  /-- No number. Values with one mark are one thing, though not one number. -/
  | nan (mark : Nat)
  | str (s : String)
  | bytes (bs : List UInt8)
  | date (d : Date)
  | moment (m : Moment)
  | list (items : List Value)
  | tuple (items : List Value)
  | set (items : List Value)
  | map (entries : List (Value × Value))
  /-- A collection that holds itself, and one unrolling of it. -/
  | knot (name : Nat) (unrolled : Value)
  deriving Inhabited, Repr

abbrev Entries := List (Value × Value)

namespace Value

def bare : Value → Value
  | knot _ v => bare v
  | v => v

/-- A value counts as false when it is null, false, zero or empty. -/
def isTruthy : Value → Bool
  | null => false
  | bool b => b
  | int n => n != 0
  | float x => !(Decimal.Binary.ofFloat x).isZero
  | nan _ => true
  | str s => !s.isEmpty
  | bytes bs => !bs.isEmpty
  | date _ => true
  | moment _ => true
  | list items => !items.isEmpty
  | tuple items => !items.isEmpty
  | set items => !items.isEmpty
  | map entries => !entries.isEmpty
  | knot _ v => isTruthy v

def kind : Value → String
  | null => "NoneType"
  | bool _ => "bool"
  | int _ => "int"
  | float _ => "float"
  | nan _ => "float"
  | str _ => "str"
  | bytes _ => "bytes"
  | date _ => "date"
  | moment _ => "datetime"
  | list _ => "list"
  | tuple _ => "tuple"
  | set _ => "set"
  | map _ => "dict"
  | knot _ v => kind v

def fullKind : Value → String
  | date _ => "datetime.date"
  | moment _ => "datetime.datetime"
  | v => v.kind

mutual

/-- The kind of the first part of a value that keeps it from being a key: lists, sets and mappings
are no keys. -/
def keyFault? : Value → Option String
  | list _ => some "list"
  | set _ => some "set"
  | map _ => some "dict"
  | tuple items => firstKeyFault? items
  | knot _ v => keyFault? v
  | _ => none

def firstKeyFault? : List Value → Option String
  | [] => none
  | v :: rest => (keyFault? v).or (firstKeyFault? rest)

end

def isKey (v : Value) : Bool := v.keyFault?.isNone

def isText (name : String) : Value → Bool
  | str s => s == name
  | _ => false

@[simp] theorem isText_str (name s : String) : isText name (str s) = (s == name) := rfl

/-- The integer that a value is, a truth value counting as zero or one. -/
def asInt? : Value → Option Int
  | bool b => some (if b then 1 else 0)
  | int n => some n
  | _ => none

def sameScalar : Value → Value → Bool
  | null, null => true
  | nan m, nan n => m == n
  | str s, str t => s == t
  | bytes bs, bytes cs => bs == cs
  | date d, date e => d == e
  | moment m, moment n => m.sameInstant n
  | float x, float y => x == y
  | float x, v => (v.asInt?.map (Decimal.Binary.ofFloat x).equalsInt).getD false
  | v, float x => (v.asInt?.map (Decimal.Binary.ofFloat x).equalsInt).getD false
  | v, w =>
    match v.asInt?, w.asInt? with
    | some m, some n => m == n
    | _, _ => false

mutual

def sameKey : Value → Value → Bool
  | tuple xs, v =>
    match v with
    | tuple ys => sameKeys xs ys
    | _ => false
  | v, w => sameScalar v w

def sameKeys : List Value → List Value → Bool
  | [], ys => ys.isEmpty
  | x :: xs, ys =>
    match ys with
    | [] => false
    | y :: ys => sameKey x y && sameKeys xs ys

end

/-- Two values hold themselves in such a way that comparing them has no end. -/
inductive Endless where
  | comparison
  deriving DecidableEq, Repr

mutual

/-- Equality of values inside collections; `met` holds the pairs of knots that are being compared
already. -/
def equal (met : List (Nat × Nat)) : Value → Value → Except Endless Bool
  | knot name v, w =>
    match w with
    | knot other w =>
      if met.contains (name, other) then .error .comparison
      else equal ((name, other) :: met) v w
    | w => equal met v w
  | list xs, v =>
    match v.bare with
    | list ys => if xs.length == ys.length then equalItems met xs ys else .ok false
    | _ => .ok false
  | tuple xs, v =>
    match v.bare with
    | tuple ys => if xs.length == ys.length then equalItems met xs ys else .ok false
    | _ => .ok false
  | set xs, v =>
    match v.bare with
    | set ys => .ok (xs.length == ys.length && xs.all fun x => ys.any x.sameKey)
    | _ => .ok false
  | map xs, v =>
    match v.bare with
    | map ys => if xs.length == ys.length then equalEntries met xs ys else .ok false
    | _ => .ok false
  | v, w => .ok (sameScalar v w.bare)

/-- Equality of lists of one length, item by item up to the first difference. -/
def equalItems (met : List (Nat × Nat)) : List Value → List Value → Except Endless Bool
  | x :: xs, y :: ys => do
    if ← equal met x y then equalItems met xs ys else return false
  | _, _ => .ok true

def equalEntries (met : List (Nat × Nat)) :
    List (Value × Value) → List (Value × Value) → Except Endless Bool
  | [], _ => .ok true
  | (key, value) :: rest, others =>
    match others.find? fun other => key.sameKey other.1 with
    | none => .ok false
    | some other => do
      if ← equal met value other.2 then equalEntries met rest others else return false

end

/-- Equality of values: a value that is no number differs from itself. -/
def same : Value → Value → Except Endless Bool
  | nan _, _ => .ok false
  | v, w => equal [] v w

end Value

namespace Entries

def get? (entries : Entries) (name : String) : Option Value :=
  (entries.find? fun entry => entry.1.isText name).map Prod.snd

def find? (entries : Entries) (key : Value) : Option Value :=
  (List.find? (fun entry : Value × Value => entry.1.sameKey key) entries).map Prod.snd

def has (entries : Entries) (name : String) : Bool :=
  entries.any fun entry => entry.1.isText name

/-- A key that is present keeps its place and takes the new value; another goes to the end. -/
def put : Entries → Value → Value → Entries
  | [], key, value => [(key, value)]
  | entry :: rest, key, value =>
    if entry.1.sameKey key then (entry.1, value) :: rest else entry :: put rest key value

@[simp] theorem get?_nil (name : String) : get? [] name = none := rfl

theorem get?_cons (entry : Value × Value) (rest : Entries) (name : String) :
    get? (entry :: rest) name = if entry.1.isText name then some entry.2 else get? rest name := by
  simp only [get?, List.find?_cons]
  cases entry.1.isText name <;> rfl

end Entries

end Conformance
