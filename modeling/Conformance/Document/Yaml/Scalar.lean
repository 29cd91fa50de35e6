import Conformance.Document.Integer
import Conformance.Document.Yaml.Cursor
import Conformance.Document.Yaml.Schema
import Conformance.Text.Base64
import Conformance.Text.LowerCase

/-!
# The values of scalars

The value of a text of a given type. A type that was named by a tag may not fit the text.
-/

namespace Conformance.Yaml

inductive StampFault where
  | year
  | month
  | day
  | hour
  | minute
  | second
  | zone (minutes : Int)
  deriving DecidableEq, Repr

def StampFault.message : StampFault → String
  | year => "year 0 is out of range"
  | month => "month must be in 1..12"
  | day => "day is out of range for month"
  | hour => "hour must be in 0..23"
  | minute => "minute must be in 0..59"
  | second => "second must be in 0..59"
  | zone minutes =>
    "offset must be a timedelta strictly between -timedelta(hours=24) and " ++
      "timedelta(hours=24), not " ++ Moment.distanceLiteral minutes ++ "."

inductive Error where
  | trouble (t : Trouble)
  | badInteger (e : IntegerError)
  | badFloat (text : String)
  /-- A place of a number in base sixty that is worth more than any number. -/
  | hugePlace
  | badStamp (fault : StampFault)
  | unknownBool (text : String)
  | emptyNumber
  | noStamp
  /-- A moment whose text is the value of a mapping. -/
  | stampInMapping
  /-- A mapping that is its own value. -/
  | endless
  deriving DecidableEq, Repr

inductive ErrorFamily where
  | document
  | encoding
  | value
  | key
  | index
  | feature
  | kind
  | overflow
  | recursion
  deriving DecidableEq, Repr

namespace Error

def defect (d : Defect) : Error := .trouble (.defect d)

def family : Error → ErrorFamily
  | trouble (.defect _) => .document
  | trouble .badCode => .value
  | trouble .hugeCode => .overflow
  | trouble (.longNumber _) => .value
  | trouble (.encoding _) => .encoding
  | badInteger _ => .value
  | badFloat _ => .value
  | hugePlace => .overflow
  | badStamp _ => .value
  | unknownBool _ => .key
  | emptyNumber => .index
  | noStamp => .feature
  | stampInMapping => .kind
  | endless => .recursion

def message : Error → String
  | trouble (.defect d) => d.message
  | trouble .badCode => "chr() arg not in range(0x110000)"
  | trouble .hugeCode => "Python int too large to convert to C int"
  | trouble (.longNumber digits) => (IntegerError.longLiteral digits).message
  | trouble (.encoding e) => e.message
  | badInteger e => e.message
  | badFloat text => s!"could not convert string to float: {Text.quoted text}"
  | hugePlace => "int too large to convert to float"
  | badStamp fault => fault.message
  | unknownBool text => Text.quoted text
  | emptyNumber => "string index out of range"
  | noStamp => "'NoneType' object has no attribute 'groupdict'"
  | stampInMapping => "expected string or bytes-like object, got 'list'"
  | endless => "maximum recursion depth exceeded"

end Error

/-! ## Numbers -/

def baseInteger (base : Nat) (cs : List Char) : Except Error Int :=
  match Text.readInteger base (Text.quoted (String.ofList cs)) cs with
  | .ok n => .ok n
  | .error e => .error (.badInteger e)

def signed (cs : List Char) : Except Error (Bool × List Char) :=
  if cs.isEmpty then .error .emptyNumber else .ok (Decimal.signOf cs)

def naturalValue (cs : List Char) : Except Error Int :=
  match cs with
  | [] => .error .emptyNumber
  | ['0'] => .ok 0
  | '0' :: 'b' :: rest => baseInteger 2 rest
  | '0' :: 'x' :: rest => baseInteger 16 rest
  | '0' :: _ => baseInteger 8 cs
  | _ =>
    if cs.contains ':' then do
      let parts ← (Text.splitChars ':' cs).mapM (baseInteger 10)
      return parts.foldl (fun n part => 60 * n + part) 0
    else baseInteger 10 cs

def integerValue (text : String) : Except Error Value := do
  let (negative, rest) ← signed (text.toList.filter (· != '_'))
  let n ← naturalValue rest
  return .int (if negative then -n else n)

def floatPart (cs : List Char) : Except Error Float :=
  match Decimal.parse? (Text.trimNumber cs) with
  | some x => .ok x
  | none => .error (.badFloat (String.ofList cs))

/-- The value of parts in base sixty, the last one first; `place` is what the next part counts. -/
def sixties (place : Nat) (sum : Float) : List Float → Except Error Float
  | [] => .ok sum
  | part :: rest =>
    let worth := Decimal.nearestFloat false place 0
    match Decimal.Binary.ofFloat worth with
    | .infinite _ => .error .hugePlace
    | _ => sixties (60 * place) (sum + part * worth) rest

def ofFloat (mark : Nat) (x : Float) : Value := if x.isNaN then .nan mark else .float x

/-- The mark of what is written as no number; whatever else turns out as none has a mark of its own.
-/
def sharedMark : Nat := 1

def floatValue (mark : Nat) (text : String) : Except Error Value := do
  let (negative, rest) ← signed (Text.lower text |>.toList.filter (· != '_'))
  if rest == ".nan".toList then return .nan sharedMark
  else
    let x : Float ←
      if rest == ".inf".toList then .ok (1.0 / 0.0)
      else if rest.contains ':' then do
        let parts ← (Text.splitChars ':' rest).mapM floatPart
        sixties 1 0.0 parts.reverse
      else floatPart rest
    return ofFloat mark (if negative then -x else x)

/-! ## Truth values, dates and bytes -/

def boolValue (text : String) : Except Error Value :=
  let name := Text.lower text
  if ["yes", "true", "on"].contains name then .ok (.bool true)
  else if ["no", "false", "off"].contains name then .ok (.bool false)
  else .error (.unknownBool name)

def isLeapYear (year : Nat) : Bool := (year % 4 == 0 && year % 100 != 0) || year % 400 == 0

def monthLength (year month : Nat) : Nat :=
  if month == 2 then if isLeapYear year then 29 else 28
  else if month == 4 || month == 6 || month == 9 || month == 11 then 30
  else 31

def dateOf (stamp : Stamp) : Except StampFault Date :=
  let year := Json.digitsValue stamp.year
  let month := Json.digitsValue stamp.month
  let day := Json.digitsValue stamp.day
  if year == 0 then .error .year
  else if month == 0 || 12 < month then .error .month
  else if day == 0 || monthLength year month < day then .error .day
  else .ok { year, month, day }

/-- The microseconds that the digits of a fraction give. -/
def microseconds (fraction : List Char) : Nat :=
  let digits := fraction.take 6
  Json.digitsValue (digits ++ List.replicate (6 - digits.length) '0')

def stampOf (stamp : Stamp) : Except StampFault Value := do
  match stamp.time with
  | none => return .date (← dateOf stamp)
  | some (hour, minute, second, fraction) =>
    let far := match stamp.zone with
      | some minutes => if 1440 ≤ minutes.natAbs then some minutes else none
      | none => none
    match far with
    | some minutes => .error (.zone minutes)
    | none =>
      let date ← dateOf stamp
      let m : Moment := {
        date
        hour := Json.digitsValue hour
        minute := Json.digitsValue minute
        second := Json.digitsValue second
        microsecond := microseconds fraction
        offset := stamp.zone }
      if 23 < m.hour then .error .hour
      else if 59 < m.minute then .error .minute
      else if 59 < m.second then .error .second
      else return .moment m

def stampValue (text : String) : Except Error Value :=
  match Stamp.parse? text.toList with
  | none => .error .noStamp
  | some stamp =>
    match stampOf stamp with
    | .ok v => .ok v
    | .error fault => .error (.badStamp fault)

def binaryValue (text : String) : Except Error Value :=
  match Text.Base64.decode? text.toList with
  | some bytes =>
    if text.toList.all fun c => decide (c.toNat < 0x80) then .ok (.bytes bytes)
    else .error (.defect .badBinary)
  | none => .error (.defect .badBinary)

end Conformance.Yaml
