import Conformance.Decimal.Shortest
import Conformance.Document.Literal
import Conformance.Text.CodePoint
import Conformance.Text.Digit

/-!
# Formats of template fields

A format says how a value is laid out: fill and alignment, sign, alternate form, width, separators
between groups of digits, precision and presentation. Texts, integers and numbers with a fraction
take different parts of it.
-/

namespace Conformance.Template

/-- A character in messages, written by its code point unless it is below the bound. -/
def codeText (bound : Nat) (c : Char) : String :=
  if 32 < c.toNat && c.toNat < bound then String.ofList [c]
  else "\\x" ++ String.ofList (Nat.toDigits 16 (Text.codeOf c))

inductive FormatError where
  | tooManyDigits
  | missingPrecision
  | bothSeparators
  | badFormat (format kind : String)
  | unknownCode (code : Char) (kind : String)
  | separatorWithCode (separator code : Char)
  | notForText (what : String)
  | precisionForInteger
  | negativeZeroForInteger
  | notForCharacter (what : String)
  | unsupported (kind : String)
  | notCharacter
  | outsideCodes
  | tooLarge
  | precisionTooBig
  | tooWide
  | unwritable (cause : Unwritable)
  deriving DecidableEq, Repr

def FormatError.message : FormatError → String
  | tooManyDigits => "Too many decimal digits in format string"
  | missingPrecision => "Format specifier missing precision"
  | bothSeparators => "Cannot specify both ',' and '_'."
  | badFormat format kind => s!"Invalid format specifier '{format}' for object of type '{kind}'"
  | unknownCode code kind =>
    s!"Unknown format code '{codeText 128 code}' for object of type '{kind}'"
  | separatorWithCode separator code =>
    s!"Cannot specify '{separator}' with '{codeText 128 code}'."
  | notForText what => s!"{what} not allowed in string format specifier"
  | precisionForInteger => "Precision not allowed in integer format specifier"
  | negativeZeroForInteger =>
    "Negative zero coercion (z) not allowed in integer format specifier"
  | notForCharacter what => s!"{what} not allowed with integer format specifier 'c'"
  | unsupported kind => s!"unsupported format string passed to {kind}.__format__"
  | notCharacter => "%c arg not in range(0x110000)"
  | outsideCodes => "Python int too large to convert to C long"
  | tooLarge => "int too large to convert to float"
  | precisionTooBig => "precision too big"
  | tooWide => ""
  | unwritable cause => cause.message

structure Format where
  fill : Char := ' '
  align : Char
  sign : Option Char := none
  noNegativeZero : Bool := false
  alternate : Bool := false
  width : Option Nat := none
  separator : Option Char := none
  precision : Option Nat := none
  code : Option Char := none
  deriving DecidableEq, Repr

def maxFormatNumber : Nat := 0x7fffffffffffffff

def maxPrecision : Nat := 0x7fffffff

def widthCapacity : Nat := 0x100000000

/-- The value of a number in a format and what follows it; none if no digit stands there. -/
def scanNumber (cs : List Char) : Except FormatError (Option Nat × List Char) :=
  let rec go (soFar : Nat) : List Char → Except FormatError (Nat × List Char)
    | [] => .ok (soFar, [])
    | c :: rest =>
      match Text.digitValue? c with
      | none => .ok (soFar, c :: rest)
      | some d =>
        if soFar * 10 + d > maxFormatNumber then .error .tooManyDigits
        else go (soFar * 10 + d) rest
  match cs with
  | [] => .ok (none, [])
  | c :: rest =>
    match Text.digitValue? c with
    | none => .ok (none, c :: rest)
    | some _ => do
      let (n, rest) ← go 0 (c :: rest)
      return (some n, rest)

def isAlignment (c : Char) : Bool := c == '<' || c == '>' || c == '=' || c == '^'

def scanAlignment : List Char → Option (Option Char × Char) × List Char
  | fill :: align :: rest =>
    if isAlignment align then (some (some fill, align), rest)
    else if isAlignment fill then (some (none, fill), align :: rest)
    else (none, fill :: align :: rest)
  | [align] => if isAlignment align then (some (none, align), []) else (none, [align])
  | [] => (none, [])

def scanOne (choices : List Char) : List Char → Option Char × List Char
  | c :: rest => if choices.contains c then (some c, rest) else (none, c :: rest)
  | [] => (none, [])

def scanSeparator (cs : List Char) : Except FormatError (Option Char × List Char) :=
  match cs with
  | ',' :: '_' :: _ => .error .bothSeparators
  | ',' :: rest => .ok (some ',', rest)
  | '_' :: ',' :: _ => .error .bothSeparators
  | '_' :: rest => .ok (some '_', rest)
  | cs => .ok (none, cs)

def scanPrecision (cs : List Char) : Except FormatError (Option Nat × List Char) :=
  match cs with
  | '.' :: rest => do
    match ← scanNumber rest with
    | (none, _) => .error .missingPrecision
    | found => return found
  | cs => .ok (none, cs)

/-- The codes that group digits by three, and those that group them by four. -/
def allowsSeparator (separator : Char) (code : Option Char) : Bool :=
  match code with
  | none => true
  | some c => "defgEG%F".toList.contains c || (separator == '_' && "boxX".toList.contains c)

def Format.read (kind : String) (defaultAlign : Char) (defaultCode : Option Char)
    (cs : List Char) : Except FormatError Format := do
  let (aligned, rest) := scanAlignment cs
  let (sign, rest) := scanOne [' ', '+', '-'] rest
  let (coercion, rest) := scanOne ['z'] rest
  let (alternate, rest) := scanOne ['#'] rest
  let (fill?, align?) : Option Char × Option Char :=
    match aligned with
    | some (fill, align) => (fill, some align)
    | none => (none, none)
  let (zero, rest) := if fill?.isNone then scanOne ['0'] rest else (none, rest)
  let align :=
    match align? with
    | some align => align
    | none => if zero.isSome && defaultAlign == '>' then '=' else defaultAlign
  let (width, rest) ← scanNumber rest
  let (separator, rest) ← scanSeparator rest
  let (precision, rest) ← scanPrecision rest
  let code ← match rest with
    | [] => .ok defaultCode
    | [c] => .ok (some c)
    | _ => .error (.badFormat (String.ofList cs) kind)
  match separator, code with
  | some s, some c => if allowsSeparator s code then pure () else .error (.separatorWithCode s c)
  | _, _ => pure ()
  return {
    fill := fill?.getD (zero.getD ' '), align, sign, noNegativeZero := coercion.isSome
    alternate := alternate.isSome, width, separator, precision, code }

def Format.pad (f : Format) (text : List Char) : List Char :=
  let missing := f.width.getD 0 - text.length
  match f.align with
  | '>' => List.replicate missing f.fill ++ text
  | '^' =>
    List.replicate (missing / 2) f.fill ++ text ++ List.replicate (missing - missing / 2) f.fill
  | _ => text ++ List.replicate missing f.fill

def Format.checkWidth (f : Format) : Except FormatError Unit :=
  if widthCapacity ≤ f.width.getD 0 then .error .tooWide else .ok ()

def formatText (s : String) (format : List Char) : Except FormatError String := do
  let f ← Format.read "str" '<' (some 's') format
  match f.code with
  | some 's' => pure ()
  | some c => .error (.unknownCode c "str")
  | none => pure ()
  match f.sign with
  | some ' ' => .error (.notForText "Space")
  | some _ => .error (.notForText "Sign")
  | none => pure ()
  if f.noNegativeZero then .error (.notForText "Negative zero coercion (z)")
  if f.alternate then .error (.notForText "Alternate form (#)")
  if f.align == '=' then .error (.notForText "'=' alignment")
  let shown := match f.precision with
    | some n => s.toList.take n
    | none => s.toList
  f.checkWidth
  return String.ofList (f.pad shown)

structure NumberText where
  negative : Bool
  base : List Char := []
  whole : List Char
  rest : List Char := []

/-- Digits with a separator after every `size` of them, counted from the right. -/
def groupDigits (size : Nat) (separator : Char) (digits : List Char) : List Char :=
  let rec go : (count : Nat) → List Char → List Char
    | _, [] => []
    | count, c :: rest =>
      if count == size then separator :: c :: go 1 rest else c :: go (count + 1) rest
  (go 0 digits.reverse).reverse

def groupToWidth (size : Nat) (separator : Option Char) (width : Nat) (digits : List Char) :
    List Char :=
  let grouped (digits : List Char) :=
    match separator with
    | some s => groupDigits size s digits
    | none => digits
  let rec go : (fuel : Nat) → List Char → List Char
    | 0, digits => grouped digits
    | fuel + 1, digits =>
      if (grouped digits).length < width then go fuel ('0' :: digits) else grouped digits
  go width digits

def Format.layOut (f : Format) (groupSize : Nat) (n : NumberText) : List Char :=
  let sign : List Char :=
    if n.negative then ['-']
    else
      match f.sign with
      | some '+' => ['+']
      | some ' ' => [' ']
      | _ => []
  let fixed := sign.length + n.base.length + n.rest.length
  let zeroFilled := f.fill == '0' && f.align == '='
  let digits :=
    groupToWidth groupSize f.separator (if zeroFilled then f.width.getD 0 - fixed else 0) n.whole
  if f.align == '=' then
    let missing := f.width.getD 0 - (fixed + digits.length)
    sign ++ n.base ++ List.replicate missing f.fill ++ digits ++ n.rest
  else f.pad (sign ++ n.base ++ digits ++ n.rest)

/-- The quotient rounded to the nearest integer, halves to the even one. -/
def roundQuotient (numerator denominator : Nat) : Nat :=
  let q := numerator / denominator
  let r := numerator % denominator
  if 2 * r < denominator || (2 * r == denominator && q % 2 == 0) then q else q + 1

def zeroFill (count : Nat) (digits : List Char) : List Char :=
  List.replicate (count - digits.length) '0' ++ digits

def fixedDigits (mantissa : Nat) (exponent : Int) (places : Nat) : List Char × List Char :=
  let (value, unit) := Decimal.onScale mantissa exponent 1 (-places)
  let digits := zeroFill (places + 1) (Nat.toDigits 10 (roundQuotient value unit))
  (digits.take (digits.length - places), digits.drop (digits.length - places))

/-- `count` significant digits of `mantissa * 2 ^ exponent` and the exponent of the first one. -/
def significantDigits (mantissa : Nat) (exponent : Int) (count : Nat) : List Char × Int :=
  if mantissa == 0 then (List.replicate count '0', 0)
  else
    let start := ((exponent + Nat.log2 mantissa + 1) * 30103) / 100000 + 2
    let ten := Decimal.leadingPlace mantissa exponent 8 start
    let (value, unit) := Decimal.onScale mantissa exponent 1 (ten - count)
    let digits := Nat.toDigits 10 (roundQuotient value unit)
    if digits.length > count then (digits.take count, ten) else (digits, ten - 1)

def dropTrailingZeros (cs : List Char) : List Char :=
  (cs.reverse.dropWhile (· == '0')).reverse

/-- A fraction behind its point; the point alone only in the alternate form. -/
def withPoint (alternate : Bool) (fraction : List Char) : List Char :=
  if fraction.isEmpty then if alternate then ['.'] else [] else '.' :: fraction

def exponentMark (upper : Bool) (e : Int) : List Char :=
  (Decimal.exponentText e).map fun c => if upper && c == 'e' then 'E' else c

/-- The digits of a finite number in a presentation: `f`, `e` or `g`. With `keepPoint` a number
without a fraction shows one zero. -/
def finiteDigits (f : Format) (code : Char) (upper keepPoint : Bool) (mantissa : Nat)
    (exponent : Int) (precision : Nat) : List Char × List Char :=
  if code == 'f' then
    let (whole, fraction) := fixedDigits mantissa exponent precision
    (whole, withPoint f.alternate fraction)
  else if code == 'e' then
    let (digits, e) := significantDigits mantissa exponent (precision + 1)
    (digits.take 1, withPoint f.alternate (digits.drop 1) ++ exponentMark upper e)
  else
    let count := max precision 1
    let (digits, e) := significantDigits mantissa exponent count
    let limit : Int := if keepPoint then count - 1 else count
    if e < -4 || limit ≤ e then
      let fraction := digits.drop 1
      let fraction := if f.alternate then fraction else dropTrailingZeros fraction
      (digits.take 1, withPoint f.alternate fraction ++ exponentMark upper e)
    else
      let whole := if e < 0 then ['0'] else digits.take (e + 1).toNat
      let fraction :=
        if e < 0 then List.replicate (-e - 1).toNat '0' ++ digits else digits.drop (e + 1).toNat
      let fraction := if f.alternate then fraction else dropTrailingZeros fraction
      let fraction := if keepPoint && fraction.isEmpty then ['0'] else fraction
      (whole, withPoint f.alternate fraction)

def hundredfold (x : Float) : Float := x * 100.0

def layOutFloat (f : Format) (x : Float) : List Char :=
  let code := f.code.getD 'r'
  let upper := code == 'E' || code == 'G' || code == 'F'
  let percent := code == '%'
  let x := if percent then hundredfold x else x
  let shown (negative : Bool) (whole rest : List Char) : List Char :=
    f.layOut 3 { negative, whole, rest := rest ++ (if percent then ['%'] else []) }
  let named (negative : Bool) (name : String) : List Char :=
    let rest := name.toList ++ (if percent then ['%'] else [])
    { f with separator := none }.layOut 3 { negative, whole := [], rest }
  match Decimal.Binary.ofFloat x with
  | .notANumber => named false (if upper then "NAN" else "nan")
  | .infinite negative => named negative (if upper then "INF" else "inf")
  | .finite negative mantissa exponent =>
    let (whole, rest) :=
      if code == 'r' then
        match f.precision with
        | some precision => finiteDigits f 'g' false true mantissa exponent precision
        | none =>
          let text := (Decimal.floatText (Float.abs x)).toList
          let rest := text.dropWhile Char.isDigit
          let point := if f.alternate && !rest.contains '.' then ['.'] else []
          (text.takeWhile Char.isDigit, point ++ rest)
      else
        let lower := if percent then 'f' else if code == 'n' then 'g' else code.toLower
        finiteDigits f lower upper false mantissa exponent (f.precision.getD 6)
    let isZero := (whole ++ rest.takeWhile (fun c => c != 'e' && c != 'E')).all
      fun c => c == '0' || c == '.'
    shown (negative && !(f.noNegativeZero && isZero)) whole rest

def floatInFormat (f : Format) (x : Float) : Except FormatError String := do
  if maxPrecision < f.precision.getD 0 then .error .precisionTooBig
  f.checkWidth
  return String.ofList (layOutFloat f x)

def formatFloat (x : Float) (format : List Char) : Except FormatError String := do
  let f ← Format.read "float" '>' none format
  match f.code with
  | none => floatInFormat f x
  | some c =>
    if "eEfFgGn%".toList.contains c then floatInFormat f x
    else .error (.unknownCode c "float")

def decimalDigits (n : Int) : Except FormatError (List Char) :=
  match integerText n.natAbs with
  | .ok text => .ok text.toList
  | .error cause => .error (.unwritable cause)

def layOutInt (f : Format) (code : Char) (n : Int) : Except FormatError (List Char) := do
  if f.precision.isSome then .error .precisionForInteger
  if f.noNegativeZero then .error .negativeZeroForInteger
  if code == 'c' then
    if f.sign.isSome then .error (.notForCharacter "Sign")
    if f.alternate then .error (.notForCharacter "Alternate form (#)")
    if n < -0x8000000000000000 || 0x7fffffffffffffff < n then .error .outsideCodes
    if n < 0 || 0x110000 ≤ n then .error .notCharacter
    f.checkWidth
    return f.layOut 3 { negative := false, whole := [Text.ofCode n.toNat] }
  else
    let (radix, mark) : Nat × List Char :=
      match code with
      | 'b' => (2, ['0', 'b'])
      | 'o' => (8, ['0', 'o'])
      | 'x' => (16, ['0', 'x'])
      | 'X' => (16, ['0', 'X'])
      | _ => (10, [])
    let digits ← if radix == 10 then decimalDigits n else pure (Nat.toDigits radix n.natAbs)
    f.checkWidth
    let whole := if code == 'X' then digits.map Char.toUpper else digits
    return f.layOut (if radix == 10 then 3 else 4)
      { negative := n < 0, base := if f.alternate then mark else [], whole }

def formatInt (kind : String) (n : Int) (format : List Char) : Except FormatError String := do
  let f ← Format.read kind '>' (some 'd') format
  let code := f.code.getD 'd'
  if "bcdoxXn".toList.contains code then return String.ofList (← layOutInt f code n)
  else if "eEfFgG%".toList.contains code then
    let x := Decimal.nearestFloat (n < 0) n.natAbs 0
    match Decimal.Binary.ofFloat x with
    | .infinite _ => .error .tooLarge
    | _ => floatInFormat f x
  else .error (.unknownCode code kind)

def noNumber : Float := 0.0 / 0.0

def formatValue (v : Value) (format : List Char) : Except FormatError String :=
  match v with
  | .str s => formatText s format
  | .int n => formatInt "int" n format
  | .bool b => formatInt "bool" (if b then 1 else 0) format
  | .float x => formatFloat x format
  | .nan _ => formatFloat noNumber format
  | v => .error (.unsupported v.kind)

end Conformance.Template
