import Conformance.Document.Integer
import Conformance.Text.Quoted

/-!
# What can be wrong with a written pattern

Each defect is a constructor, and the wording of all of them is in one place. Most defects are at a
place in the pattern.
-/

namespace Conformance.Pattern

inductive Defect where
  | openGroup
  | unbalanced
  | openClass
  | badRange (low high : String)
  | nothingToRepeat
  | multipleRepeat
  | leastAboveMost
  | badEscape (text : String)
  | incompleteEscape (text : String)
  | largeOctal (text : String)
  | escapeAtEnd
  | badReference (number : Nat)
  | openReference
  | referenceBehind
  | unexpectedEnd
  | unknownExtension (text : String)
  | missingName (what : String)
  | openName (terminator : Char)
  | badName (name : String)
  | unknownName (name : String)
  | repeatedName (name : String) (number earlier : Nat)
  | openComment
  | zeroReference
  | thirdBranch
  | lateFlags
  | localeFlag
  | unicodeFlag
  | mixedAlphabets
  | flagEnd
  | unknownFlag
  | turnOnGlobal
  | missingFlag
  | turnOffAlphabet
  | missingColon
  | turnOffGlobal
  | turnedOnAndOff
  | missingBrace
  | unknownCharacter (name : String)
  | openWidth
  | farBehind
  | plainRepeat (greed : String)
  deriving DecidableEq, Repr

def Defect.message : Defect → String
  | openGroup => "missing ), unterminated subpattern"
  | unbalanced => "unbalanced parenthesis"
  | openClass => "unterminated character set"
  | badRange low high => s!"bad character range {low}-{high}"
  | nothingToRepeat => "nothing to repeat"
  | multipleRepeat => "multiple repeat"
  | leastAboveMost => "min repeat greater than max repeat"
  | badEscape text => s!"bad escape {text}"
  | incompleteEscape text => s!"incomplete escape {text}"
  | largeOctal text => s!"octal escape value {text} outside of range 0-0o377"
  | escapeAtEnd => "bad escape (end of pattern)"
  | badReference number => s!"invalid group reference {number}"
  | openReference => "cannot refer to an open group"
  | referenceBehind => "cannot refer to group defined in the same lookbehind subpattern"
  | unexpectedEnd => "unexpected end of pattern"
  | unknownExtension text => s!"unknown extension ?{text}"
  | missingName what => s!"missing {what}"
  | openName terminator => s!"missing {terminator}, unterminated name"
  | badName name => s!"bad character in group name {Text.quoted name}"
  | unknownName name => s!"unknown group name {Text.quoted name}"
  | repeatedName name number earlier =>
    s!"redefinition of group name {Text.quoted name} as group {number}; was group {earlier}"
  | openComment => "missing ), unterminated comment"
  | zeroReference => "bad group number"
  | thirdBranch => "conditional backref with more than two branches"
  | lateFlags => "global flags not at the start of the expression"
  | localeFlag => "bad inline flags: cannot use 'L' flag with a str pattern"
  | unicodeFlag => "bad inline flags: cannot use 'u' flag with a bytes pattern"
  | mixedAlphabets => "bad inline flags: flags 'a', 'u' and 'L' are incompatible"
  | flagEnd => "missing -, : or )"
  | unknownFlag => "unknown flag"
  | turnOnGlobal => "bad inline flags: cannot turn on global flag"
  | missingFlag => "missing flag"
  | turnOffAlphabet => "bad inline flags: cannot turn off flags 'a', 'u' and 'L'"
  | missingColon => "missing :"
  | turnOffGlobal => "bad inline flags: cannot turn off global flag"
  | turnedOnAndOff => "bad inline flags: flag turned on and off"
  | missingBrace => "missing \x7b"
  | unknownCharacter name => s!"undefined character name {Text.quoted name}"
  | openWidth => "look-behind requires fixed-width pattern"
  | farBehind => "looks too much behind"
  | plainRepeat greed => s!"internal: unsupported template operator {greed}"

/-- A place in a pattern: the offset, and line and column if the pattern has several lines. -/
structure Place where
  offset : Nat
  lineColumn : Option (Nat × Nat)
  deriving DecidableEq, Repr

/-- The place in a text where so many characters are left. -/
def Place.of (text : List Char) (left : Nat) : Place :=
  let offset := text.length - left
  let before := text.take offset
  let lineColumn :=
    if text.contains '\n' then
      some (before.count '\n' + 1, (before.reverse.takeWhile (· != '\n')).length + 1)
    else none
  { offset, lineColumn }

def Place.text (p : Place) : String :=
  let lineColumn := match p.lineColumn with
    | some (line, column) => s!" (line {line}, column {column})"
    | none => ""
  s!" at position {p.offset}{lineColumn}"

inductive Error where
  | defect (d : Defect) (place : Option Place)
  | largeRepetition
  | largeCode
  | longRepetition (digits : Nat)
  | mixedFlags (first second : String)
  | flagOnBytes
  deriving DecidableEq, Repr

def Error.message : Error → String
  | defect d none => d.message
  | defect d (some place) => d.message ++ place.text
  | largeRepetition => "the repetition number is too large"
  | largeCode => "Python int too large to convert to C int"
  | longRepetition digits => (IntegerError.longLiteral digits).message
  | mixedFlags first second => s!"{first} and {second} flags are incompatible"
  | flagOnBytes => "cannot use UNICODE flag with a bytes pattern"

end Conformance.Pattern
