import Conformance.Document.Json.Reader
import Conformance.Document.Yaml.Cursor

/-!
# Quoted scalars

Text between single or double quotes. A line break inside is folded: the blanks around it vanish,
and a single break becomes a space. Between double quotes a backslash starts an escape.
-/

namespace Conformance.Yaml

namespace Quoted

def escaped? : Char → Option Char
  | '0' => some '\x00'
  | 'a' => some '\x07'
  | 'b' => some '\x08'
  | 't' => some '\t'
  | '\t' => some '\t'
  | 'n' => some '\n'
  | 'v' => some '\x0b'
  | 'f' => some '\x0c'
  | 'r' => some '\r'
  | 'e' => some '\x1b'
  | ' ' => some ' '
  | '"' => some '"'
  | '\\' => some '\\'
  | '/' => some '/'
  | 'N' => some '\u0085'
  | '_' => some ' '
  | 'L' => some ' '
  | 'P' => some ' '
  | _ => none

def codeLength? : Char → Option Nat
  | 'x' => some 2
  | 'u' => some 4
  | 'U' => some 8
  | _ => none

def hexNumber? (digits : List Char) : Option Nat :=
  digits.foldlM (fun n c => (Json.hexValue? c).map (16 * n + ·)) 0

def breaks : (fuel : Nat) → Cursor → Except Trouble (List Char × Cursor)
  | 0, c => c.reject .openQuote
  | fuel + 1, c =>
    if c.isAtSeparator then c.reject .separatorInQuote
    else
      let c := c.skip isSpace
      match c.lineBreak? with
      | some (b, c) => do
        let (more, c) ← breaks fuel c
        return (b :: more, c)
      | none => .ok ([], c)

def gap (c : Cursor) : Except Trouble (List Char × Cursor) :=
  let blanks := c.run isSpace
  let c := c.skip isSpace
  match c.lineBreak? with
  | some (b, c) => do
    let (more, c) ← breaks (c.rest.length + 1) c
    return (foldBreaks b more, c)
  | none => if c.rest.isEmpty then c.reject .openQuote else .ok (blanks, c)

/-- A character that is not just itself inside quotes. -/
def isSpecial (c : Char) : Bool :=
  c == '\'' || c == '"' || c == '\\' || isSpace c || isBreak c

def greatestCode : Nat := 0x7fffffff

def codeChar (code : Nat) : Except Trouble Char :=
  if greatestCode < code then .error .hugeCode
  else if Text.isCode code then .ok (Text.ofCode code)
  else .error .badCode

def escape (c : Cursor) : Except Trouble (List Char × Cursor) :=
  match c.rest with
  | [] => c.reject .badEscape
  | letter :: rest =>
    match escaped? letter, codeLength? letter with
    | some ch, _ => .ok ([ch], c.next)
    | none, some size =>
      let digits := (rest.take size).takeWhile fun ch => (Json.hexValue? ch).isSome
      match hexNumber? digits with
      | none => c.reject .badEscape
      | some code =>
        if digits.length < size then (c.advance (digits.length + 1)).reject .badEscape
        else do return ([← codeChar code], c.advance (size + 1))
    | none, none =>
      match c.lineBreak? with
      | some (_, c) => breaks (c.rest.length + 1) c
      | none => c.reject .badEscape

def word (double : Bool) : (fuel : Nat) → Cursor → Except Trouble (List Char × Cursor)
  | 0, c => c.reject .openQuote
  | fuel + 1, c => do
    let text := c.run fun ch => !isSpecial ch
    let c := c.advance text.length
    match double, c.rest with
    | false, '\'' :: '\'' :: _ => do
      let (more, c) ← word double fuel (c.advance 2)
      return (text ++ '\'' :: more, c)
    | true, '\'' :: _ => do
      let (more, c) ← word double fuel c.next
      return (text ++ '\'' :: more, c)
    | false, '"' :: _ => do
      let (more, c) ← word double fuel c.next
      return (text ++ '"' :: more, c)
    | false, '\\' :: _ => do
      let (more, c) ← word double fuel c.next
      return (text ++ '\\' :: more, c)
    | true, '\\' :: _ => do
      let (ch, c) ← escape c.next
      let (more, c) ← word double fuel c
      return (text ++ ch ++ more, c)
    | _, _ => return (text, c)

def remainder (double : Bool) (quote : Char) :
    (fuel : Nat) → Cursor → Except Trouble (List Char × Cursor)
  | 0, c => c.reject .openQuote
  | fuel + 1, c => do
    let (text, c) ← word double (c.rest.length + 1) c
    if c.isAt quote then return (text, c.next)
    else
      let (blanks, c) ← gap c
      let (more, c) ← remainder double quote fuel c
      return (text ++ blanks ++ more, c)

def scan (quote : Char) (c : Cursor) : Except Trouble (String × Cursor) := do
  let (text, c) ← remainder (quote == '"') quote (c.rest.length + 1) c.next
  return (String.ofList text, c)

end Quoted

end Conformance.Yaml
