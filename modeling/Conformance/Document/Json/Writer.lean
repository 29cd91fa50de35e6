import Conformance.Document.Literal

/-!
# Writing JSON

The JSON text of a value in ASCII, on one line or with an indentation of two blanks a level. Values
of kinds that JSON lacks are written as the nearest kind that it has.
-/

namespace Conformance.Json

/-- One character inside a JSON string; those outside ASCII are written by their code units. -/
def stringChar (c : Char) : List Char :=
  let unit (n : Nat) : List Char := '\\' :: 'u' :: Text.hexDigits 4 n
  if c == '"' then ['\\', '"']
  else if c == '\\' then ['\\', '\\']
  else if c == '\n' then ['\\', 'n']
  else if c == '\r' then ['\\', 'r']
  else if c == '\t' then ['\\', 't']
  else if c == '\x0c' then ['\\', 'f']
  else if c == '\x08' then ['\\', 'b']
  else if 0x20 ≤ c.toNat && c.toNat ≤ 0x7e then [c]
  else if Text.codeOf c < 0x10000 then unit (Text.codeOf c)
  else
    let n := c.toNat - 0x10000
    unit (0xd800 + n / 0x400) ++ unit (0xdc00 + n % 0x400)

def string (s : String) : String :=
  String.ofList ('"' :: s.toList.flatMap stringChar ++ ['"'])

def float (x : Float) : String :=
  match Decimal.Binary.ofFloat x with
  | .notANumber => "NaN"
  | .infinite negative => if negative then "-Infinity" else "Infinity"
  | .finite _ _ _ => Decimal.floatText x

inductive Layout where
  | oneLine
  | indented
  deriving DecidableEq, Repr

def Layout.break (layout : Layout) (depth : Nat) : String :=
  match layout with
  | oneLine => ""
  | indented => "\n" ++ String.ofList (List.replicate (2 * depth) ' ')

def Layout.separator (layout : Layout) (depth : Nat) : String :=
  match layout with
  | oneLine => ", "
  | indented => "," ++ layout.break depth

/-- Parts between brackets, nothing between them if there are none. -/
def Layout.enclose (layout : Layout) (depth : Nat) (opening closing : String)
    (parts : List String) : String :=
  if parts.isEmpty then opening ++ closing
  else
    opening ++ layout.break (depth + 1) ++ (layout.separator (depth + 1)).intercalate parts ++
      layout.break depth ++ closing

def keyText : Value → String
  | .null => "null"
  | .bool b => if b then "true" else "false"
  | .int n => toString n
  | .float x => float x
  | .nan _ => "NaN"
  | .str s => s
  | .bytes bs => Text.quotedBytes bs
  | .date d => d.text
  | .moment m => m.textWith " "
  | _ => ""

mutual

def write (layout : Layout) (depth : Nat) : Value → String
  | .null => "null"
  | .bool b => if b then "true" else "false"
  | .int n => toString n
  | .float x => float x
  | .nan _ => "NaN"
  | .str s => string s
  | .bytes bs => string (Text.quotedBytes bs)
  | .date d => string d.text
  | .moment m => string (m.textWith " ")
  | .list items => layout.enclose depth "[" "]" (writeItems layout (depth + 1) items)
  | .tuple items => layout.enclose depth "[" "]" (writeItems layout (depth + 1) items)
  | .set items => layout.enclose depth "[" "]" (writeItems layout (depth + 1) items)
  | .map entries => layout.enclose depth "\x7b" "\x7d" (writeEntries layout (depth + 1) entries)
  | .knot _ v => write layout depth v

def writeItems (layout : Layout) (depth : Nat) : List Value → List String
  | [] => []
  | v :: rest => write layout depth v :: writeItems layout depth rest

def writeEntries (layout : Layout) (depth : Nat) : List (Value × Value) → List String
  | [] => []
  | (key, v) :: rest =>
    (string (keyText key) ++ ": " ++ write layout depth v) :: writeEntries layout depth rest

end

end Conformance.Json
