import Conformance.Document.Yaml.Token

/-!
# From text to tokens

The tokens of a text in order. In a block the column of a token decides which blocks it ends or
starts. A scalar is known to be a key only when the colon after it is met: until then it is kept as
a pending key, of which there is at most one for each depth of brackets, and which has to be
followed by its colon on the same line and within 1024 characters. Where the text is in trouble, the
tokens that were certain before are still handed on.
-/

namespace Conformance.Yaml

/-- A token that may turn out to start a key: the number of tokens in front of it, and its place. A
key that stands where a further entry of a block has to start is required. -/
structure PendingKey where
  position : Nat
  required : Bool
  index : Nat
  line : Nat
  column : Nat
  deriving DecidableEq, Repr

structure Layout where
  cursor : Cursor
  tokens : List Token := []
  depth : Nat := 0
  /-- The column of the innermost block, one less than zero outside of all. -/
  indent : Int := -1
  outer : List Int := []
  keyAllowed : Bool := true
  pending : List (Nat × PendingKey) := []

namespace Layout

def inFlow (s : Layout) : Bool := s.depth != 0

def push (s : Layout) (t : Token) : Layout := { s with tokens := t :: s.tokens }

def moveTo (s : Layout) (c : Cursor) : Layout := { s with cursor := c }

def allowKey (s : Layout) (allowed : Bool) : Layout := { s with keyAllowed := allowed }

/-- Whether a pending key can no longer be followed by its colon. -/
def isStale (s : Layout) (key : PendingKey) : Bool :=
  key.line != s.cursor.line || s.cursor.index - key.index > 1024

def dropStale (s : Layout) : Except Trouble Layout :=
  if s.pending.any fun p => s.isStale p.2 && p.2.required then
    .error (.defect .keyWithoutValue)
  else .ok { s with pending := s.pending.filter fun p => !s.isStale p.2 }

def dropKey (s : Layout) : Except Trouble Layout :=
  if s.pending.any fun p => p.1 == s.depth && p.2.required then
    .error (.defect .keyWithoutValue)
  else .ok { s with pending := s.pending.filter fun p => p.1 != s.depth }

def saveKey (s : Layout) : Except Trouble Layout := do
  if s.keyAllowed then
    let s ← s.dropKey
    let key : PendingKey := {
      position := s.tokens.length
      required := !s.inFlow && s.indent == s.cursor.column
      index := s.cursor.index
      line := s.cursor.line
      column := s.cursor.column }
    return { s with pending := (s.depth, key) :: s.pending }
  else return s

/-- Ends the blocks that stand further to the right than the column. -/
def unwindFrom (column indent : Int) : List Int → List Token → Int × List Int × List Token
  | [], tokens => (indent, [], tokens)
  | next :: outer, tokens =>
    if indent > column then unwindFrom column next outer (.blockEnd :: tokens)
    else (indent, next :: outer, tokens)

/-- Ends the blocks that stand further to the right than the column; brackets have no columns. -/
def unwind (s : Layout) (column : Int) : Layout :=
  if s.inFlow then s
  else
    let (indent, outer, tokens) := unwindFrom column s.indent s.outer s.tokens
    { s with indent, outer, tokens }

def isDeeper (s : Layout) (column : Nat) : Bool := s.indent < column

def indentTo (s : Layout) (column : Nat) : Layout :=
  { s with indent := column, outer := s.indent :: s.outer }

/-- The state at the next token: spaces, comments and line breaks are skipped, and outside of
brackets a key may start on a new line. -/
def skipToToken : (fuel : Nat) → Layout → Layout
  | 0, s => s
  | fuel + 1, s =>
    let c := s.cursor.skip (· == ' ')
    let c := if c.isAt '#' then c.skip fun ch => !isBreak ch else c
    match c.lineBreak? with
    | some (_, c) =>
      skipToToken fuel { s with cursor := c, keyAllowed := s.keyAllowed || !s.inFlow }
    | none => s.moveTo c

def mark (s : Layout) (t : Token) : Layout := (s.moveTo s.cursor.next).push t

def separator (s : Layout) (t : Token) : Except Trouble Layout := do
  let s ← (s.unwind (-1)).dropKey
  return ((s.allowKey false).moveTo (s.cursor.advance 3)).push t

def directive (s : Layout) : Except Trouble Layout := do
  let s ← (s.unwind (-1)).dropKey
  let (t, c) ← Token.scanDirective s.cursor
  return ((s.allowKey false).moveTo c).push t

def opening (s : Layout) (t : Token) : Except Trouble Layout := do
  let s ← s.saveKey
  return { (s.mark t).allowKey true with depth := s.depth + 1 }

def closing (s : Layout) (t : Token) : Except Trouble Layout := do
  if s.depth == 0 then s.cursor.reject .unopenedBracket
  else
    let s ← s.dropKey
    return { (s.mark t).allowKey false with depth := s.depth - 1 }

def flowEntry (s : Layout) : Except Trouble Layout := do
  let s ← s.dropKey
  return (s.allowKey true).mark .flowEntry

/-- The mark of an entry or of a key, which starts a block where none stands in its column. -/
def blockMark (s : Layout) (t start : Token) (d : Defect) (keyAfter : Bool) :
    Except Trouble Layout := do
  if !s.inFlow && !s.keyAllowed then s.cursor.reject d
  else
    let s := if !s.inFlow && s.isDeeper s.cursor.column then
        (s.indentTo s.cursor.column).push start
      else s
    let s ← s.dropKey
    return (s.allowKey keyAfter).mark t

/-- Puts tokens in front of the last `after` ones of a reversed list. -/
def insertBefore (added : List Token) : (after : Nat) → List Token → List Token
  | 0, tokens => added ++ tokens
  | _ + 1, [] => added
  | after + 1, t :: tokens => t :: insertBefore added after tokens

/-- The colon after a key. A pending key is confirmed, and starts a mapping if none stands in its
column. -/
def valueMark (s : Layout) : Except Trouble Layout := do
  match s.pending.find? fun p => p.1 == s.depth with
  | some (_, key) =>
    let starts := !s.inFlow && s.isDeeper key.column
    let added := if starts then [.key, .blockMapping] else [Token.key]
    let tokens := insertBefore added (s.tokens.length - key.position) s.tokens
    let s := if starts then s.indentTo key.column else s
    let s := { s with tokens, pending := s.pending.filter fun p => p.1 != s.depth }
    return (s.allowKey false).mark .value
  | none => s.blockMark .value .blockMapping .misplacedValue (!s.inFlow)

def keyed (s : Layout) (scan : Cursor → Except Trouble (Token × Cursor)) :
    Except Trouble Layout := do
  let s ← s.saveKey
  let (t, c) ← scan s.cursor
  return ((s.allowKey false).moveTo c).push t

/-- A plain scalar; a key may follow it only after a line break. -/
def plain (s : Layout) : Except Trouble Layout := do
  let s ← s.saveKey
  let (text, broken, c) := Plain.scan s.inFlow (s.indent + 1).toNat s.cursor
  return ((s.allowKey broken).moveTo c).push (.scalar text true)

def block (s : Layout) (folded : Bool) : Except Trouble Layout := do
  let s ← s.dropKey
  let (text, c) ← Block.scan folded s.indent s.cursor
  return ((s.allowKey true).moveTo c).push (.scalar text false)

def isIndicator (c : Char) : Bool :=
  isSpace c || isBreak c || "-?:,[]\x7b\x7d#&*!|>'\"%@`".toList.contains c

def startsPlain (s : Layout) (c : Char) : Bool :=
  !isIndicator c ||
    (!isGap (s.cursor.peekAt 1) && (c == '-' || (!s.inFlow && (c == '?' || c == ':'))))

def token (s : Layout) (c : Char) : Except Trouble Layout :=
  let apart := isGap (s.cursor.peekAt 1)
  let atStart := s.cursor.column == 0
  if c == '%' && atStart then s.directive
  else if atStart && s.cursor.isAtMark '-' then s.separator .documentStart
  else if atStart && s.cursor.isAtMark '.' then s.separator .documentEnd
  else if c == '[' then s.opening .flowSequence
  else if c == '\x7b' then s.opening .flowMapping
  else if c == ']' then s.closing .flowSequenceEnd
  else if c == '\x7d' then s.closing .flowMappingEnd
  else if c == ',' then s.flowEntry
  else if c == '-' && apart then s.blockMark .blockEntry .blockSequence .misplacedEntry true
  else if c == '?' && (s.inFlow || apart) then
    s.blockMark .key .blockMapping .misplacedKey (!s.inFlow)
  else if c == ':' && (s.inFlow || apart) then s.valueMark
  else if c == '*' then
    s.keyed fun c => do
      let (name, c) ← Token.anchorName c.next
      return (.alias name, c)
  else if c == '&' then
    s.keyed fun c => do
      let (name, c) ← Token.anchorName c.next
      return (.anchor name, c)
  else if c == '!' then s.keyed Token.scanTag
  else if c == '|' && !s.inFlow then s.block false
  else if c == '>' && !s.inFlow then s.block true
  else if c == '\'' || c == '"' then
    s.keyed fun start => do
      let (text, after) ← Quoted.scan c start
      return (.scalar text false, after)
  else if s.startsPlain c then s.plain
  else s.cursor.reject .badToken

def step (s : Layout) : Except Trouble (Layout × Bool) := do
  let s := skipToToken (s.cursor.rest.length + 1) s
  match s.cursor.peek, s.cursor.trouble with
  | none, some t => .error t
  | none, none =>
    let s := (← s.dropStale).unwind s.cursor.column
    return (← (s.unwind (-1)).dropKey, true)
  | some c, _ =>
    let s ← ((← s.dropStale).unwind s.cursor.column).token c
    match s.cursor.trouble? with
    | some t => .error t
    | none => return (← s.dropStale, false)

/-- The tokens that stand in front of all pending keys, and are certain therefore. -/
def settled (s : Layout) : List Token :=
  s.tokens.reverse.take ((s.pending.map fun p => p.2.position).foldl min s.tokens.length)

end Layout

structure Supply where
  tokens : List Token
  trouble : Option Trouble := none

namespace Layout

def finish : (fuel : Nat) → Layout → Supply
  | 0, s => { tokens := s.settled, trouble := some (.defect .badToken) }
  | fuel + 1, s =>
    match s.step with
    | .error t => { tokens := s.settled, trouble := some t }
    | .ok (s, true) => { tokens := s.tokens.reverse }
    | .ok (s, false) => finish fuel s

end Layout

namespace Supply

def ofChars (cs : List Char) (trouble : Option Trouble) : Supply :=
  let start : Cursor := { rest := cs, trouble }
  let start := if start.isAt byteOrderMark then start.next else start
  Layout.finish (cs.length + 1) { cursor := start }

end Supply

end Conformance.Yaml
