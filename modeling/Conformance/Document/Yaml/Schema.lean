import Conformance.Decimal.Reading
import Conformance.Document.Json.Reader

/-!
# The types of scalars

A plain scalar is given its type by its form: null, one of the two truth values, an integer in one
of five bases, a number with a fraction, a date or a moment, or else a text. Other types have to be
named by a tag.
-/

namespace Conformance.Yaml

inductive Tag where
  | null
  | bool
  | int
  | float
  | timestamp
  | binary
  | merge
  | value
  | str
  | seq
  | map
  | set
  /-- A list of pairs in which no key is repeated. -/
  | omap
  | pairs
  | other
  deriving DecidableEq, Repr, Inhabited

namespace Form

/-- A text without the line feed at its end, which no form minds. -/
def unended (cs : List Char) : List Char :=
  if cs.getLast? == some '\n' then cs.dropLast else cs

def isSpaced (c : Char) : Bool := c.isDigit || c == '_'

/-- A part after a colon of a number in base sixty. -/
def isSixtieth : List Char → Bool
  | [d] => d.isDigit
  | [t, d] => '0' ≤ t && t ≤ '5' && d.isDigit
  | _ => false

def unsigned (cs : List Char) : List Char := (Decimal.signOf cs).2

def isNatural : List Char → Bool
  | '0' :: 'b' :: rest => !rest.isEmpty && rest.all fun c => c == '0' || c == '1' || c == '_'
  | '0' :: 'x' :: rest => !rest.isEmpty && rest.all fun c => (Json.hexValue? c).isSome || c == '_'
  | '0' :: rest => rest.all fun c => ('0' ≤ c && c ≤ '7') || c == '_'
  | c :: rest =>
    match Text.splitChars ':' rest with
    | [] => false
    | first :: parts => c.isDigit && first.all isSpaced && parts.all isSixtieth
  | [] => false

def isInteger (cs : List Char) : Bool := isNatural (unsigned cs)

def isExponent : List Char → Bool
  | [] => true
  | mark :: sign :: digits =>
    (mark == 'e' || mark == 'E') && (sign == '+' || sign == '-') && !digits.isEmpty &&
      digits.all Char.isDigit
  | _ => false

def isDecimal : List Char → Bool
  | [] => false
  | c :: rest =>
    match rest.dropWhile isSpaced with
    | '.' :: fraction => c.isDigit && isExponent (fraction.dropWhile isSpaced)
    | _ => false

def isFraction : List Char → Bool
  | '.' :: c :: rest => c.isDigit && isExponent (rest.dropWhile isSpaced)
  | _ => false

def isSexagesimal (cs : List Char) : Bool :=
  let whole := cs.takeWhile (· != '.')
  match cs.dropWhile (· != '.'), Text.splitChars ':' whole with
  | '.' :: fraction, (c :: first) :: part :: parts =>
    c.isDigit && first.all isSpaced && (part :: parts).all isSixtieth && fraction.all isSpaced
  | _, _ => false

def isInfinity (cs : List Char) : Bool :=
  cs == ".inf".toList || cs == ".Inf".toList || cs == ".INF".toList

def isNotANumber (cs : List Char) : Bool :=
  cs == ".nan".toList || cs == ".NaN".toList || cs == ".NAN".toList

def isFloat (cs : List Char) : Bool :=
  let body := unsigned cs
  isDecimal body || isFraction cs || isSexagesimal body || isInfinity body || isNotANumber cs

end Form

structure Stamp where
  year : List Char
  month : List Char
  day : List Char
  /-- Hour, minute, second and fraction. -/
  time : Option (List Char × List Char × List Char × List Char) := none
  /-- The distance from universal time in minutes. -/
  zone : Option Int := none

namespace Stamp

def shortNumber? : List Char → Option (List Char × List Char)
  | a :: b :: rest =>
    if a.isDigit then if b.isDigit then some ([a, b], rest) else some ([a], b :: rest) else none
  | [a] => if a.isDigit then some ([a], []) else none
  | [] => none

def twoDigits? : List Char → Option (List Char × List Char)
  | a :: b :: rest => if a.isDigit && b.isDigit then some ([a, b], rest) else none
  | _ => none

def after? (c : Char) : List Char → Option (List Char)
  | d :: rest => if c == d then some rest else none
  | [] => none

/-- The zone at the end of a moment; none at all if there is only a mark of universal time. -/
def zone? (cs : List Char) : Option (Option Int) :=
  match cs.dropWhile isZoneBlank with
  | [] => if cs.isEmpty then some none else none
  | ['Z'] => some (some 0)
  | sign :: rest =>
    if sign != '+' && sign != '-' then none
    else
      match shortNumber? rest with
      | none => none
      | some (hours, rest) =>
        let minutes := match rest with
          | [] => some []
          | ':' :: rest =>
            match twoDigits? rest with
            | some (minutes, []) => some minutes
            | _ => none
          | _ => none
        minutes.map fun minutes =>
          let size : Int := Json.digitsValue hours * 60 + Json.digitsValue minutes
          some (if sign == '-' then -size else size)
where
  isZoneBlank (c : Char) : Bool := c == ' ' || c == '\t'

def time? (cs : List Char) :
    Option ((List Char × List Char × List Char × List Char) × Option Int) :=
  do
    let (hour, cs) ← shortNumber? cs
    let (minute, cs) ← twoDigits? (← after? ':' cs)
    let (second, cs) ← twoDigits? (← after? ':' cs)
    let (fraction, cs) := match cs with
      | '.' :: rest => (rest.takeWhile Char.isDigit, rest.dropWhile Char.isDigit)
      | cs => ([], cs)
    let zone ← zone? cs
    return ((hour, minute, second, fraction), zone)

/-- What stands between a day and a time: a letter, or blanks. -/
def timePart? : List Char → Option (List Char)
  | 'T' :: rest => some rest
  | 't' :: rest => some rest
  | c :: rest =>
    if c == ' ' || c == '\t' then some (rest.dropWhile fun d => d == ' ' || d == '\t') else none
  | [] => none

def parts? (cs : List Char) : Option Stamp := do
  let (century, cs) ← twoDigits? cs
  let (year, cs) ← twoDigits? cs
  let (month, cs) ← shortNumber? (← after? '-' cs)
  let (day, cs) ← shortNumber? (← after? '-' cs)
  let date : Stamp := { year := century ++ year, month, day }
  if cs.isEmpty then return date
  else
    let (time, zone) ← time? (← timePart? cs)
    return { date with time, zone }

def parse? (cs : List Char) : Option Stamp := parts? (Form.unended cs)

/-- Whether a plain scalar has the form of a date or a moment: without a time, month and day have
two digits each. -/
def isStamp (cs : List Char) : Bool :=
  match parts? cs with
  | none => false
  | some stamp => stamp.time.isSome || (stamp.month.length == 2 && stamp.day.length == 2)

end Stamp

namespace Tag

def family : String := "tag:yaml.org,2002:"

def ofForm (text : String) : Tag :=
  if ["~", "null", "Null", "NULL"].contains text then .null
  else if ["true", "True", "TRUE", "false", "False", "FALSE"].contains text then .bool
  else if text == "<<" then .merge
  else if text == "=" then .value
  else if ["!", "&", "*"].contains text then .other
  else
    let cs := text.toList
    if Form.isFloat cs then .float
    else if Form.isInteger cs then .int
    else if Stamp.isStamp cs then .timestamp
    else .str

def ofPlain (text : String) : Tag :=
  if text.isEmpty then .null else ofForm (String.ofList (Form.unended text.toList))

def ofShortName : String → Tag
  | "null" => .null
  | "bool" => .bool
  | "int" => .int
  | "float" => .float
  | "timestamp" => .timestamp
  | "binary" => .binary
  | "merge" => .merge
  | "value" => .value
  | "str" => .str
  | "seq" => .seq
  | "map" => .map
  | "set" => .set
  | "omap" => .omap
  | "pairs" => .pairs
  | _ => .other

def ofName (name : String) : Tag :=
  let cs := name.toList
  if family.toList.isPrefixOf cs then ofShortName (String.ofList (cs.drop family.length))
  else .other

def ofScalar (tag : Option String) (plain : Bool) (text : String) : Tag :=
  match tag with
  | none => if plain then ofPlain text else .str
  | some "!" => ofPlain text
  | some name => ofName name

def ofSequence : Option String → Tag
  | none => .seq
  | some "!" => .seq
  | some name => ofName name

def ofMapping : Option String → Tag
  | none => .map
  | some "!" => .map
  | some name => ofName name

end Tag

end Conformance.Yaml
