import Conformance.Text.CodePoint
import Conformance.Text.Utf8

/-!
# Places in a YAML text

A cursor holds the characters that are left, and the number of characters, lines and columns in
front of them. Columns decide how blocks are nested; a byte order mark takes no column. What can be
read of a text may end with trouble, which is met by whoever gets there.
-/

namespace Conformance.Yaml

inductive Defect where
  | unprintable
  | badToken
  | keyWithoutValue
  | misplacedEntry
  | misplacedKey
  | misplacedValue
  | unopenedBracket
  | badDirective
  | badAnchor
  | badTag
  | badScalarHeader
  | badEscape
  | openQuote
  | separatorInQuote
  | duplicateDirective
  | unknownVersion
  | missingDocumentStart
  | severalDocuments
  | unknownHandle
  | missingContent
  | missingBlockEnd
  | missingFlowEnd
  | duplicateAnchor
  | unknownAlias
  | unknownTag
  | wrongNode
  | badMerge
  | badKey
  | badBinary
  deriving DecidableEq, Repr

def Defect.message : Defect → String
  | unprintable => "special characters are not allowed"
  | badToken => "found character that cannot start any token"
  | keyWithoutValue => "could not find expected ':'"
  | misplacedEntry => "sequence entries are not allowed here"
  | misplacedKey => "mapping keys are not allowed here"
  | misplacedValue => "mapping values are not allowed here"
  | unopenedBracket => "found closing bracket without opening bracket"
  | badDirective => "found malformed directive"
  | badAnchor => "expected alphabetic or numeric character"
  | badTag => "found malformed tag"
  | badScalarHeader => "expected chomping or indentation indicators"
  | badEscape => "found unknown escape character"
  | openQuote => "found unexpected end of stream"
  | separatorInQuote => "found unexpected document separator"
  | duplicateDirective => "found duplicate directive"
  | unknownVersion => "found incompatible YAML document (version 1.* is required)"
  | missingDocumentStart => "expected document start"
  | severalDocuments => "expected a single document in the stream"
  | unknownHandle => "found undefined tag handle"
  | missingContent => "expected the node content"
  | missingBlockEnd => "expected block end"
  | missingFlowEnd => "expected ',' or closing bracket"
  | duplicateAnchor => "found duplicate anchor"
  | unknownAlias => "found undefined alias"
  | unknownTag => "could not determine a constructor for the tag"
  | wrongNode => "found a node of another kind than expected"
  | badMerge => "expected a mapping or list of mappings for merging"
  | badKey => "found unhashable key"
  | badBinary => "failed to decode base64 data"

inductive Trouble where
  | defect (d : Defect)
  /-- An escape with a number that no character has. -/
  | badCode
  /-- An escape with a number that no character could have. -/
  | hugeCode
  | longNumber (digits : Nat)
  | encoding (e : Text.Utf8.Error)
  deriving DecidableEq, Repr

def isBreak (c : Char) : Bool :=
  c == '\n' || c == '\r' || c == '\u0085' || c == ' ' || c == ' '

def isSpace (c : Char) : Bool := c == ' ' || c == '\t'

def isNameChar (c : Char) : Bool := c.isAlphanum || c == '-' || c == '_'

def isPrintable (c : Char) : Bool :=
  let n := c.toNat
  n == 0x9 || n == 0xa || n == 0xd || (0x20 ≤ n && n ≤ 0x7e) || n == 0x85 ||
    (0xa0 ≤ n && n ≤ 0xfffd) || 0x10000 ≤ n

def endOr (p : Char → Bool) : Option Char → Bool
  | none => true
  | some c => p c

/-- The end of the text, a space, a tab or the end of a line. -/
def isGap (next : Option Char) : Bool := endOr (fun c => isSpace c || isBreak c) next

/-- The end of the text, a space or the end of a line. -/
def isWordEnd (next : Option Char) : Bool := endOr (fun c => c == ' ' || isBreak c) next

def isLineEnd (next : Option Char) : Bool := endOr isBreak next

def byteOrderMark : Char := '﻿'

structure Cursor where
  rest : List Char
  index : Nat := 0
  line : Nat := 0
  column : Nat := 0
  /-- What goes wrong behind the last character. -/
  trouble : Option Trouble := none

namespace Cursor

def trouble? (c : Cursor) : Option Trouble := if c.rest.isEmpty then c.trouble else none

/-- Rejects the text at the place, where trouble counts more than what is wrong with the text. -/
def reject {α : Type} (c : Cursor) (d : Defect) : Except Trouble α :=
  .error (c.trouble?.getD (.defect d))

def peek (c : Cursor) : Option Char := c.rest.head?

def peekAt (c : Cursor) (n : Nat) : Option Char := c.rest[n]?

def isAt (c : Cursor) (wanted : Char) : Bool := c.peek == some wanted

def next (c : Cursor) : Cursor :=
  match c.rest with
  | [] => c
  | ch :: rest =>
    if isBreak ch then { c with rest, index := c.index + 1, line := c.line + 1, column := 0 }
    else if ch == byteOrderMark then { c with rest, index := c.index + 1 }
    else { c with rest, index := c.index + 1, column := c.column + 1 }

def advance (c : Cursor) : Nat → Cursor
  | 0 => c
  | n + 1 => c.next.advance n

def run (c : Cursor) (p : Char → Bool) : List Char := c.rest.takeWhile p

def skip (c : Cursor) (p : Char → Bool) : Cursor := c.advance (c.run p).length

/-- The place after a line break, and the break: the separators of lines and of paragraphs stand for
themselves, all others for a line feed. -/
def lineBreak? (c : Cursor) : Option (Char × Cursor) :=
  match c.rest with
  | '\r' :: '\n' :: _ => some ('\n', c.advance 2)
  | ch :: _ =>
    if ch == ' ' || ch == ' ' then some (ch, c.next)
    else if isBreak ch then some ('\n', c.next)
    else none
  | [] => none

/-- Whether a mark of three equal characters stands at the place, with a gap behind it. -/
def isAtMark (c : Cursor) (mark : Char) : Bool :=
  c.rest.take 3 == [mark, mark, mark] && isGap (c.peekAt 3)

def isAtSeparator (c : Cursor) : Bool := c.isAtMark '-' || c.isAtMark '.'

def skipLineRest? (c : Cursor) : Option Cursor :=
  let c := c.skip (· == ' ')
  let c := if c.isAt '#' then c.skip fun ch => !isBreak ch else c
  if isLineEnd c.peek then some ((c.lineBreak?.map Prod.snd).getD c) else none

end Cursor

/-- The text that a line break and the breaks after it give: one break is a space, each further one
a break. -/
def foldBreaks (first : Char) (others : List Char) : List Char :=
  if first != '\n' then first :: others else if others.isEmpty then [' '] else others

end Conformance.Yaml
