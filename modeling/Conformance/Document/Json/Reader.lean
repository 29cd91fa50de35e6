import Conformance.Document.Integer
import Conformance.Text.CodePoint

/-!
# Reading JSON

A reader of JSON text that keeps the order of members, tells integers from numbers with a fraction
or an exponent, and accepts the three names of numbers that are not finite. A repeated name keeps
its first place and takes its last value. The reader works on the list of characters that are left,
so the place of a problem is the number of characters left there. Integers with too many digits and
collections that are nested too deeply are refused wherever they stand.
-/

namespace Conformance.Json

inductive Problem where
  | byteOrderMark
  | expectingValue
  | expectingName
  | expectingColon
  | expectingComma
  | extraData
  | unterminated
  | controlCharacter
  | badEscape
  | badCode
  deriving DecidableEq, Repr

def Problem.message : Problem → String
  | byteOrderMark => "Unexpected UTF-8 BOM (decode using utf-8-sig)"
  | expectingValue => "Expecting value"
  | expectingName => "Expecting property name enclosed in double quotes"
  | expectingColon => "Expecting ':' delimiter"
  | expectingComma => "Expecting ',' delimiter"
  | extraData => "Extra data"
  | unterminated => "Unterminated string starting at"
  | controlCharacter => "Invalid control character at"
  | badEscape => "Invalid \\escape"
  | badCode => "Invalid \\uXXXX escape"

inductive Stop where
  /-- A problem, and the number of characters left where it is. -/
  | problem (p : Problem) (left : Nat)
  | longInteger (digits : Nat)
  | deepList
  | deepMapping
  deriving DecidableEq, Repr

inductive Error where
  | problem (p : Problem) (offset line column : Nat)
  | longInteger (digits : Nat)
  | deepList
  | deepMapping
  deriving DecidableEq, Repr

/-- Line and column of the character that follows `before`, both counted from one. -/
def place (before : List Char) : Nat × Nat :=
  (before.count '\n' + 1, (before.reverse.takeWhile (· != '\n')).length + 1)

def Error.of (text : List Char) : Stop → Error
  | .problem p left =>
    let offset := text.length - left
    let (line, column) := place (text.take offset)
    .problem p offset line column
  | .longInteger digits => .longInteger digits
  | .deepList => .deepList
  | .deepMapping => .deepMapping

def Error.message : Error → String
  | problem p offset line column => s!"{p.message}: line {line} column {column} (char {offset})"
  | longInteger digits => (IntegerError.longLiteral digits).message
  | deepList => "maximum recursion depth exceeded while decoding a JSON array from a unicode string"
  | deepMapping =>
    "maximum recursion depth exceeded while decoding a JSON object from a unicode string"

/-- A part of the text that was read, with the characters after it, or why there is none. -/
abbrev Read (α : Type) := Except Stop (α × List Char)

def fail {α : Type} (p : Problem) (left : Nat) : Except Stop α := .error (.problem p left)

/-- The greatest number of collections around a value. -/
def depthLimit : Nat := 985

def skipBlank (cs : List Char) : List Char :=
  cs.dropWhile fun c => c == ' ' || c == '\t' || c == '\n' || c == '\r'

def hexValue? (c : Char) : Option Nat :=
  if '0' ≤ c && c ≤ '9' then some (c.toNat - '0'.toNat)
  else if 'a' ≤ c && c ≤ 'f' then some (c.toNat - 'a'.toNat + 10)
  else if 'A' ≤ c && c ≤ 'F' then some (c.toNat - 'A'.toNat + 10)
  else none

def codeUnit? (a b c d : Char) : Option Nat := do
  return (((← hexValue? a) * 16 + (← hexValue? b)) * 16 + (← hexValue? c)) * 16 + (← hexValue? d)

def escaped? : Char → Option Char
  | '"' => some '"'
  | '\\' => some '\\'
  | '/' => some '/'
  | 'b' => some '\x08'
  | 'f' => some '\x0c'
  | 'n' => some '\n'
  | 'r' => some '\r'
  | 't' => some '\t'
  | _ => none

/-- Reads the inside of a string that starts with the characters `opening`; `done` holds what was
read, last character first. -/
def stringBody (opening : List Char) (done : List Char) : List Char → Read String
  | [] => fail .unterminated (opening.length + 1)
  | '"' :: rest => .ok (String.ofList done.reverse, rest)
  | '\\' :: [] => fail .unterminated (opening.length + 1)
  | '\\' :: 'u' :: a :: b :: c :: d :: next :: rest =>
    match codeUnit? a b c d with
    | none => fail .badCode (rest.length + 6)
    | some high =>
      if 0xd800 ≤ high && high ≤ 0xdbff then
        match next, rest with
        | '\\', 'u' :: e :: f :: g :: h :: last :: tail =>
          match codeUnit? e f g h with
          | none => fail .badCode (tail.length + 6)
          | some low =>
            if 0xdc00 ≤ low && low ≤ 0xdfff then
              let code := 0x10000 + (high - 0xd800) * 0x400 + (low - 0xdc00)
              stringBody opening (Char.ofNat code :: done) (last :: tail)
            else
              stringBody opening (Text.ofCode high :: done)
                ('\\' :: 'u' :: e :: f :: g :: h :: last :: tail)
        | next, rest => stringBody opening (Text.ofCode high :: done) (next :: rest)
      else stringBody opening (Text.ofCode high :: done) (next :: rest)
  | '\\' :: 'u' :: rest => fail .badCode (rest.length + 1)
  | '\\' :: c :: rest =>
    match escaped? c with
    | some e => stringBody opening (e :: done) rest
    | none => fail .badEscape (rest.length + 2)
  | c :: rest =>
    if c.toNat ≤ 0x1f then fail .controlCharacter (rest.length + 1)
    else stringBody opening (c :: done) rest
termination_by cs => cs.length

def digitsValue (cs : List Char) : Nat :=
  cs.foldl (fun n c => 10 * n + (c.toNat - '0'.toNat)) 0

/-- The integer part of a number: a zero alone, or digits that start with another one. -/
def integerPart? : List Char → Option (List Char × List Char)
  | '0' :: rest => some (['0'], rest)
  | cs =>
    match cs.takeWhile Char.isDigit with
    | [] => none
    | digits => some (digits, cs.dropWhile Char.isDigit)

def fractionPart : List Char → List Char × List Char
  | '.' :: rest =>
    match rest.takeWhile Char.isDigit with
    | [] => ([], '.' :: rest)
    | digits => (digits, rest.dropWhile Char.isDigit)
  | cs => ([], cs)

def exponentPart? (cs : List Char) : Option (Int × List Char) :=
  match cs with
  | mark :: rest =>
    if mark == 'e' || mark == 'E' then
      let (negative, unsigned) :=
        match rest with
        | '-' :: tail => (true, tail)
        | '+' :: tail => (false, tail)
        | _ => (false, rest)
      match unsigned.takeWhile Char.isDigit with
      | [] => none
      | digits =>
        let n : Int := digitsValue digits
        some (if negative then -n else n, unsigned.dropWhile Char.isDigit)
    else none
  | [] => none

def number (cs : List Char) : Read Value :=
  let (negative, unsigned) :=
    match cs with
    | '-' :: rest => (true, rest)
    | _ => (false, cs)
  match integerPart? unsigned with
  | none => fail .expectingValue cs.length
  | some (whole, afterWhole) =>
    let (fraction, afterFraction) := fractionPart afterWhole
    match fraction, exponentPart? afterFraction with
    | [], none =>
      if digitLimit < whole.length then .error (.longInteger whole.length)
      else
        let n : Int := digitsValue whole
        .ok (.int (if negative then -n else n), afterFraction)
    | fraction, exponent =>
      let (e, rest) := exponent.getD (0, afterFraction)
      let digits := digitsValue (whole ++ fraction)
      .ok (.float (Decimal.nearestFloat negative digits (e - fraction.length)), rest)

def scalar (cs : List Char) : Read Value :=
  match cs with
  | 'n' :: 'u' :: 'l' :: 'l' :: rest => .ok (.null, rest)
  | 't' :: 'r' :: 'u' :: 'e' :: rest => .ok (.bool true, rest)
  | 'f' :: 'a' :: 'l' :: 's' :: 'e' :: rest => .ok (.bool false, rest)
  | 'N' :: 'a' :: 'N' :: rest => .ok (.nan 0, rest)
  | 'I' :: 'n' :: 'f' :: 'i' :: 'n' :: 'i' :: 't' :: 'y' :: rest => .ok (.float (1.0 / 0.0), rest)
  | '-' :: 'I' :: 'n' :: 'f' :: 'i' :: 'n' :: 'i' :: 't' :: 'y' :: rest =>
    .ok (.float (-1.0 / 0.0), rest)
  | cs => number cs

mutual

/-- Reads a value in which collections may be nested up to `room` deep. -/
def value : (fuel room : Nat) → List Char → Read Value
  | 0, _, cs => fail .expectingValue cs.length
  | _ + 1, _, '"' :: rest =>
    match stringBody rest [] rest with
    | .ok (s, rest) => .ok (.str s, rest)
    | .error e => .error e
  | _ + 1, 0, '[' :: _ => .error .deepList
  | fuel + 1, room + 1, '[' :: rest =>
    match skipBlank rest with
    | ']' :: rest => .ok (.list [], rest)
    | rest => items fuel room [] rest
  | _ + 1, 0, '\x7b' :: _ => .error .deepMapping
  | fuel + 1, room + 1, '\x7b' :: rest =>
    match skipBlank rest with
    | '\x7d' :: rest => .ok (.map [], rest)
    | rest => members fuel room [] rest
  | _ + 1, _, cs => scalar cs

def items : (fuel room : Nat) → (done : List Value) → List Char → Read Value
  | 0, _, _, cs => fail .expectingValue cs.length
  | fuel + 1, room, done, cs =>
    match value fuel room cs with
    | .error e => .error e
    | .ok (item, rest) =>
      match skipBlank rest with
      | ']' :: rest => .ok (.list (item :: done).reverse, rest)
      | ',' :: rest => items fuel room (item :: done) (skipBlank rest)
      | rest => fail .expectingComma rest.length

def members : (fuel room : Nat) → (done : Entries) → List Char → Read Value
  | 0, _, _, cs => fail .expectingName cs.length
  | fuel + 1, room, done, '"' :: rest =>
    match stringBody rest [] rest with
    | .error e => .error e
    | .ok (name, rest) =>
      match skipBlank rest with
      | ':' :: rest =>
        match value fuel room (skipBlank rest) with
        | .error e => .error e
        | .ok (member, rest) =>
          let done := Entries.put done (.str name) member
          match skipBlank rest with
          | '\x7d' :: rest => .ok (.map done, rest)
          | ',' :: rest => members fuel room done (skipBlank rest)
          | rest => fail .expectingComma rest.length
      | rest => fail .expectingColon rest.length
  | _ + 1, _, _, cs => fail .expectingName cs.length

end

/-- Reads a whole text as one value. Each step of the reader takes a character or goes one level
down, so twice the length of the text is fuel enough. -/
def read (text : String) : Except Error Value :=
  let cs := text.toList
  match cs with
  | '\ufeff' :: _ => .error (.of cs (.problem .byteOrderMark cs.length))
  | _ =>
    match value (2 * cs.length + 2) depthLimit (skipBlank cs) with
    | .error stop => .error (.of cs stop)
    | .ok (v, rest) =>
      match skipBlank rest with
      | [] => .ok v
      | rest => .error (.of cs (.problem .extraData rest.length))

end Conformance.Json
