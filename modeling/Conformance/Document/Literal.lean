import Conformance.Decimal.Shortest
import Conformance.Document.Value
import Conformance.Text.Quoted

/-!
# Values in messages

The text of a value and its literal form. They differ for texts only, which are bare in the one and
quoted in the other; inside collections everything is in literal form. A collection inside itself is
written as an ellipsis, and an integer with too many digits is not written at all. Collections are
written at any depth: the bound that an interpreter has on the depth of its calls is left out.
-/

namespace Conformance

def padded (width n : Nat) : String :=
  let digits := Nat.toDigits 10 n
  String.ofList (List.replicate (width - digits.length) '0' ++ digits)

namespace Date

def text (d : Date) : String :=
  padded 4 d.year ++ "-" ++ padded 2 d.month ++ "-" ++ padded 2 d.day

/-- The day as a call that makes it. -/
def literal (d : Date) : String :=
  s!"datetime.date({d.year}, {d.month}, {d.day})"

end Date

namespace Moment

def offsetText (minutes : Int) : String :=
  (if minutes < 0 then "-" else "+") ++ padded 2 (minutes.natAbs / 60) ++ ":" ++
    padded 2 (minutes.natAbs % 60)

/-- Day and time, the fraction only if there is one. -/
def textWith (separator : String) (m : Moment) : String :=
  m.date.text ++ separator ++ padded 2 m.hour ++ ":" ++ padded 2 m.minute ++ ":" ++
    padded 2 m.second ++ (if m.microsecond == 0 then "" else "." ++ padded 6 m.microsecond) ++
    (m.offset.map offsetText).getD ""

def distanceLiteral (minutes : Int) : String :=
  let seconds := minutes * 60
  let days := seconds.fdiv 86400
  let rest := seconds.fmod 86400
  let parts := (if days == 0 then [] else [s!"days={days}"]) ++
    (if rest == 0 then [] else [s!"seconds={rest}"])
  let shown := if parts.isEmpty then "0" else ", ".intercalate parts
  s!"datetime.timedelta({shown})"

def zoneLiteral (minutes : Int) : String :=
  if minutes == 0 then "datetime.timezone.utc"
  else s!"datetime.timezone({distanceLiteral minutes})"

/-- The moment as a call that makes it, without trailing parts that are zero. -/
def literal (m : Moment) : String :=
  let parts := [m.date.year, m.date.month, m.date.day, m.hour, m.minute]
  let tail :=
    if m.microsecond != 0 then [m.second, m.microsecond]
    else if m.second != 0 then [m.second] else []
  let shown := (parts ++ tail).map fun n : Nat => toString n
  let zone := (m.offset.map fun minutes => ["tzinfo=" ++ zoneLiteral minutes]).getD []
  "datetime.datetime(" ++ ", ".intercalate (shown ++ zone) ++ ")"

end Moment

inductive Unwritable where
  | longInteger
  deriving DecidableEq, Repr

def Unwritable.message : Unwritable → String
  | longInteger =>
    "Exceeds the limit (4300 digits) for integer string conversion; " ++
      "use sys.set_int_max_str_digits() to increase the limit"

/-- The greatest number of decimal digits that are read or written. -/
def digitLimit : Nat := 4300

def integerText (n : Int) : Except Unwritable String :=
  if n.natAbs < Decimal.tenTo digitLimit then .ok (toString n) else .error .longInteger

namespace Value

def ellipsis : Value → String
  | map _ => "\x7b...\x7d"
  | _ => "[...]"

mutual

/-- The literal form of a value; `met` holds the names of the knots around it. -/
def literalWithin (met : List Nat) : Value → Except Unwritable String
  | null => .ok "None"
  | bool b => .ok (if b then "True" else "False")
  | int n => integerText n
  | float x => .ok (Decimal.floatText x)
  | nan _ => .ok "nan"
  | str s => .ok (Text.quoted s)
  | bytes bs => .ok (Text.quotedBytes bs)
  | date d => .ok d.literal
  | moment m => .ok m.literal
  | list items => do return "[" ++ ", ".intercalate (← itemLiterals met items) ++ "]"
  | tuple items => do
    match ← itemLiterals met items with
    | [item] => return "(" ++ item ++ ",)"
    | items => return "(" ++ ", ".intercalate items ++ ")"
  | set items => do
    match ← itemLiterals met items with
    | [] => return "set()"
    | items => return "\x7b" ++ ", ".intercalate items ++ "\x7d"
  | map entries => do
    return "\x7b" ++ ", ".intercalate (← entryLiterals met entries) ++ "\x7d"
  | knot name v => if met.contains name then .ok v.ellipsis else literalWithin (name :: met) v

def itemLiterals (met : List Nat) : List Value → Except Unwritable (List String)
  | [] => .ok []
  | v :: rest => do return (← literalWithin met v) :: (← itemLiterals met rest)

def entryLiterals (met : List Nat) : List (Value × Value) → Except Unwritable (List String)
  | [] => .ok []
  | (key, value) :: rest => do
    let first := (← literalWithin met key) ++ ": " ++ (← literalWithin met value)
    return first :: (← entryLiterals met rest)

end

def literal (v : Value) : Except Unwritable String := v.literalWithin []

def text : Value → Except Unwritable String
  | str s => .ok s
  | date d => .ok d.text
  | moment m => .ok (m.textWith " ")
  | v => v.literal

@[simp] theorem text_str (s : String) : text (str s) = .ok s := rfl

end Value

end Conformance
