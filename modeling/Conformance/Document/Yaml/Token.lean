import Conformance.Document.Yaml.Unquoted
import Conformance.Text.Utf8

/-!
# Tokens

The marks, names and scalars that a YAML text consists of, and the reading of those that do not
depend on where they stand: directives, anchors and tags.
-/

namespace Conformance.Yaml

inductive Directive where
  | version (major : Nat)
  | handle (name expansion : String)
  | other
  deriving DecidableEq, Repr

/-- A token. The marks of blocks stand for changes of indentation. -/
inductive Token where
  | directive (d : Directive)
  | documentStart
  | documentEnd
  | blockSequence
  | blockMapping
  | blockEnd
  | blockEntry
  | flowSequence
  | flowSequenceEnd
  | flowMapping
  | flowMappingEnd
  | flowEntry
  | key
  | value
  | alias (name : String)
  | anchor (name : String)
  | tag (handle : Option String) (suffix : String)
  | scalar (text : String) (plain : Bool)
  deriving DecidableEq, Repr

namespace Token

def anchorName (c : Cursor) : Except Trouble (String × Cursor) :=
  let name := c.run isNameChar
  let c := c.advance name.length
  if name.isEmpty ||
    !endOr (fun ch => isSpace ch || isBreak ch || "?:,]\x7d%@`".toList.contains ch) c.peek
  then c.reject .badAnchor
  else .ok (String.ofList name, c)

def isTagChar (c : Char) : Bool := c.isAlphanum || "-;/?:@&=+$,_.!~*'()[]%".toList.contains c

def tagEscapes : (fuel : Nat) → Cursor → Except Trouble ((List UInt8) × Cursor)
  | 0, c => .ok ([], c)
  | fuel + 1, c =>
    match c.rest with
    | '%' :: high :: low :: _ =>
      match Quoted.hexNumber? [high, low] with
      | some n => do
        let (more, c) ← tagEscapes fuel (c.advance 3)
        return (UInt8.ofNat n :: more, c)
      | none => c.reject .badTag
    | '%' :: rest => (c.advance (rest.length + 1)).reject .badTag
    | _ => .ok ([], c)

def tagChars : (fuel : Nat) → Cursor → Except Trouble ((List Char) × Cursor)
  | 0, c => .ok ([], c)
  | fuel + 1, c => do
    let text := c.run fun ch => isTagChar ch && ch != '%'
    let c := c.advance text.length
    if c.isAt '%' then
      let (bytes, c) ← tagEscapes (c.rest.length + 1) c
      match Text.Utf8.decode bytes with
      | .ok chars =>
        let (more, c) ← tagChars fuel c
        return (text ++ chars ++ more, c)
      | .error _ => c.reject .badTag
    else return (text, c)

def tagSuffix (c : Cursor) : Except Trouble (String × Cursor) := do
  let (text, after) ← tagChars (c.rest.length + 1) c
  if after.index == c.index then after.reject .badTag else return (String.ofList text, after)

/-- The handle of a tag: an exclamation mark, or a name between two of them. -/
def tagHandle (c : Cursor) : Except Trouble (String × Cursor) :=
  if !c.isAt '!' then c.reject .badTag
  else if c.next.isAt ' ' then .ok ("!", c.next)
  else
    let name := c.next.run isNameChar
    let after := c.advance (name.length + 1)
    if after.isAt '!' then .ok (String.ofList ('!' :: name ++ ['!']), after.next)
    else after.reject .badTag

def tagParts (c : Cursor) : Except Trouble ((Option String × String) × Cursor) :=
  if c.next.isAt '<' then do
    let (suffix, c) ← tagSuffix (c.advance 2)
    if c.isAt '>' then return ((none, suffix), c.next) else c.reject .badTag
  else if isGap c.next.peek then .ok ((none, "!"), c.next)
  else do
    let word := c.next.run fun ch => ch != ' ' && !isBreak ch
    let (handle, c) ← if word.contains '!' then tagHandle c else .ok ("!", c.next)
    let (suffix, c) ← tagSuffix c
    return ((some handle, suffix), c)

def scanTag (c : Cursor) : Except Trouble (Token × Cursor) := do
  let ((handle, suffix), c) ← tagParts c
  if isWordEnd c.peek then return (.tag handle suffix, c) else c.reject .badTag

def versionNumber (c : Cursor) : Except Trouble (Nat × Cursor) :=
  match c.run Char.isDigit with
  | [] => c.reject .badDirective
  | digits =>
    let after := c.advance digits.length
    match after.trouble? with
    | some t => .error t
    | none =>
      if digitLimit < digits.length then .error (.longNumber digits.length)
      else .ok (Json.digitsValue digits, after)

def versionDirective (c : Cursor) : Except Trouble (Directive × Cursor) := do
  let (major, c) ← versionNumber (c.skip (· == ' '))
  if !c.isAt '.' then c.reject .badDirective
  else
    let (_, c) ← versionNumber c.next
    if isWordEnd c.peek then return (.version major, c) else c.reject .badDirective

def handleDirective (c : Cursor) : Except Trouble (Directive × Cursor) := do
  let (name, c) ← tagHandle (c.skip (· == ' '))
  if !c.isAt ' ' then c.reject .badDirective
  else
    let (expansion, c) ← tagSuffix (c.skip (· == ' '))
    if isWordEnd c.peek then return (.handle name expansion, c) else c.reject .badDirective

def scanDirective (c : Cursor) : Except Trouble (Token × Cursor) := do
  let name := c.next.run isNameChar
  let c := c.advance (name.length + 1)
  if name.isEmpty || !isWordEnd c.peek then c.reject .badDirective
  else
    let (found, c) ←
      if name == "YAML".toList then versionDirective c
      else if name == "TAG".toList then handleDirective c
      else .ok (Directive.other, c.skip fun ch => !isBreak ch)
    match c.skipLineRest? with
    | some c => return (.directive found, c)
    | none => c.reject .badDirective

end Token

end Conformance.Yaml
