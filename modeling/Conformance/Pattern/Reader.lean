import Conformance.Pattern.Defect
import Conformance.Pattern.Item
import Conformance.Text.CharacterName
import Conformance.Text.Identifier

/-!
# Reading patterns

Patterns are read from left to right, a backslash together with the character after it. A backslash
that ends the pattern is noticed as soon as it comes next.
-/

namespace Conformance.Pattern

inductive Token where
  | char (c : Char)
  | escape (c : Char)
  /-- A backslash with nothing after it. -/
  | dangling
  deriving DecidableEq, Repr

namespace Token

def ofChars : List Char → List Token
  | [] => []
  | '\\' :: [] => [dangling]
  | '\\' :: c :: rest => escape c :: ofChars rest
  | c :: rest => char c :: ofChars rest

def written : Token → List Char
  | char c => [c]
  | escape c => ['\\', c]
  | dangling => ['\\']

def size (tokens : List Token) : Nat :=
  tokens.foldl (fun n t => n + t.written.length) 0

def digit? (test : Char → Bool) : Token → Option Char
  | char c => if test c then some c else none
  | _ => none

end Token

inductive Stop where
  /-- A defect, and the number of characters left where it is. -/
  | defect (d : Defect) (left : Nat)
  | other (e : Error)
  deriving DecidableEq, Repr

structure Reader where
  rest : List Token
  /-- Whether the pattern is text, and not bytes. -/
  isText : Bool
  flags : Flags := {}
  names : List (String × Nat) := []
  /-- The widths of the groups by number; none for the whole pattern and for groups that are still
  open. -/
  widths : List (Option Width) := [none]
  /-- The number of groups in front of the lookbehind around the place. -/
  behind : Option Nat := none
  /-- The groups that conditions ask for, with the number of characters left at the first mention.
  -/
  mentions : List (Nat × Nat) := []

abbrev Parse := StateT Reader (Except Stop)

namespace Parse

/-- Stops at a defect that is the given number of characters before the next token. -/
def fail {α : Type} (d : Defect) (back : Nat) : Parse α := do
  throw (.defect d (Token.size (← get).rest + back))

def refuse {α : Type} (e : Error) : Parse α := throw (.other e)

def peek : Parse (Option Token) := return (← get).rest.head?

def left : Parse Nat := return Token.size (← get).rest

def goTo (rest : List Token) : Parse Unit :=
  match rest with
  | .dangling :: _ => throw (.defect .escapeAtEnd 1)
  | rest => modify fun r => { r with rest }

def next : Parse (Option Token) := do
  match (← get).rest with
  | [] => return none
  | token :: rest =>
    goTo rest
    return some token

def accept (c : Char) : Parse Bool := do
  if (← peek) == some (.char c) then
    let _ ← next
    return true
  else return false

def takeSome (test : Char → Bool) : (count : Nat) → Parse (List Char)
  | 0 => return []
  | count + 1 => do
    match (← peek).bind (·.digit? test) with
    | none => return []
    | some c =>
      let _ ← next
      return c :: (← takeSome test count)

def takeAll (test : Char → Bool) : Parse (List Char) := do
  takeSome test (← get).rest.length

/-- Takes the tokens up to a terminator, which is taken as well; `soFar` are those taken before. -/
def takeUntil (terminator : Char) (what : String) : (fuel : Nat) → (soFar : List Char) →
    Parse (List Char)
  | 0, soFar => return soFar
  | fuel + 1, soFar => do
    match ← next with
    | none =>
      if soFar.isEmpty then fail (.missingName what) 0 else fail (.openName terminator) soFar.length
    | some token =>
      if token == .char terminator then
        if soFar.isEmpty then fail (.missingName what) 1 else return soFar
      else takeUntil terminator what fuel (soFar ++ token.written)

def nameUntil (terminator : Char) (what : String) : Parse String := do
  return String.ofList (← takeUntil terminator what ((← get).rest.length + 1) [])

def groupCount : Parse Nat := return (← get).widths.length

def isClosed (number : Nat) : Parse Bool := return (((← get).widths[number]?).join).isSome

def checkBehind (number : Nat) : Parse Unit := do
  match (← get).behind with
  | none => return ()
  | some count =>
    if !(← isClosed number) then fail .openReference 0
    else if count ≤ number then fail .referenceBehind 0

end Parse

open Parse

def isOctal (c : Char) : Bool := '0' ≤ c && c ≤ '7'

def isHex (c : Char) : Bool := c.isDigit || ('a' ≤ c && c ≤ 'f') || ('A' ≤ c && c ≤ 'F')

def valueInBase (base : Nat) (cs : List Char) : Nat :=
  cs.foldl (fun n c => base * n + (Text.numeralValue? 36 c).getD 0) 0

def classEscape? : Char → Option ClassItem
  | 'd' => some (.kind .digit false)
  | 'D' => some (.kind .digit true)
  | 's' => some (.kind .blank false)
  | 'S' => some (.kind .blank true)
  | 'w' => some (.kind .word false)
  | 'W' => some (.kind .word true)
  | _ => none

def controlEscape? : Char → Option Nat
  | 'a' => some 0x07
  | 'b' => some 0x08
  | 'f' => some 0x0c
  | 'n' => some 0x0a
  | 'r' => some 0x0d
  | 't' => some 0x09
  | 'v' => some 0x0b
  | '\\' => some 0x5c
  | _ => none

def anchorEscape? : Char → Option Anchor
  | 'A' => some .textStart
  | 'Z' => some .textEnd
  | 'b' => some (.wordEdge false false)
  | 'B' => some (.wordEdge true false)
  | _ => none

def hexEscape (mark : Char) (count : Nat) : Parse Nat := do
  let digits ← takeSome isHex count
  let text := String.ofList ('\\' :: mark :: digits)
  let code := valueInBase 16 digits
  if digits.length != count then fail (.incompleteEscape text) text.length
  else if 0x7fffffff < code then refuse .largeCode
  else if !Text.isCode code then fail (.badEscape text) text.length
  else return code

def namedEscape : Parse Nat := do
  if !(← accept '\x7b') then fail .missingBrace 0
  else
    let name ← nameUntil '\x7d' "character name"
    match Text.characterNamed? name with
    | some n => return n
    | none => fail (.unknownCharacter name) (name.length + 4)

/-- The code point of an escape that means the same everywhere, after those with digits. -/
def commonEscape (c : Char) : Parse Nat := do
  let isText := (← get).isText
  if c == 'x' then hexEscape c 2
  else if c == 'u' && isText then hexEscape c 4
  else if c == 'U' && isText then hexEscape c 8
  else if c == 'N' && isText then namedEscape
  else if c.isAlpha || c.isDigit then fail (.badEscape (String.ofList ['\\', c])) 2
  else return Text.codeOf c

def octal (digits : List Char) : Parse Nat := do
  let code := valueInBase 8 digits
  if 0xff < code then
    fail (.largeOctal (String.ofList ('\\' :: digits))) (digits.length + 1)
  else return code

def memberEscape (c : Char) : Parse ClassItem := do
  match controlEscape? c, classEscape? c with
  | some n, _ => return .code n
  | none, some item => return item
  | none, none =>
    if isOctal c then
      return .code (← octal (c :: (← takeSome isOctal 2)))
    else return .code (← commonEscape c)

def numberedReference (digits : List Char) : Parse Item := do
  let number := valueInBase 10 digits
  if number < (← groupCount) then
    if !(← isClosed number) then fail .openReference (digits.length + 1)
    else
      checkBehind number
      return .again number
  else fail (.badReference number) digits.length

def itemEscape (c : Char) : Parse Item := do
  match anchorEscape? c, classEscape? c, controlEscape? c with
  | some a, _, _ => return .anchor a
  | none, some item, _ => return .oneOf false [item]
  | none, none, some n => return .code n
  | none, none, none =>
    if c == '0' then
      return .code (valueInBase 8 (← takeSome isOctal 2))
    else if c.isDigit then
      match ← takeSome Char.isDigit 1 with
      | [] => numberedReference [c]
      | more =>
        let digits := c :: more
        if digits.all isOctal then
          match ← takeSome isOctal 1 with
          | [] => numberedReference digits
          | last => return .code (← octal (digits ++ last))
        else numberedReference digits
    else return .code (← commonEscape c)

def member : Token → Parse (ClassItem × List Char)
  | .escape c => do return (← memberEscape c, ['\\', c])
  | .char c => return (.code (Text.codeOf c), [c])
  | .dangling => throw (.defect .escapeAtEnd 1)

/-- The members of a class up to its end; `opening` characters were left at its start. -/
def members (opening : Nat) : (fuel : Nat) → (done : List ClassItem) → Parse (List ClassItem)
  | 0, done => return done.reverse
  | fuel + 1, done => do
    match ← next with
    | none => throw (.defect .openClass opening)
    | some token =>
      if token == .char ']' && !done.isEmpty then return done.reverse
      else
        let (low, lowText) ← member token
        if ← accept '-' then
          match ← next with
          | none => throw (.defect .openClass opening)
          | some (.char ']') => return (.code 0x2d :: low :: done).reverse
          | some token =>
            let (high, highText) ← member token
            let bad := Defect.badRange (String.ofList lowText) (String.ofList highText)
            let back := lowText.length + 1 + highText.length
            match low, high with
            | .code m, .code n =>
              if m ≤ n then members opening fuel (.range m n :: done) else fail bad back
            | _, _ => fail bad back
        else members opening fuel (low :: done)

def charClass : Parse Item := do
  let opening := (← left) + 1
  let negated ← accept '^'
  let items := (← members opening ((← get).rest.length + 1) []).eraseDups
  match items with
  | [.code n] => return if negated then .otherThan n else .code n
  | items => return .oneOf negated items

/-- The number of repetitions that is refused, with all greater ones. -/
def repetitionBound : Nat := 4294967295

def repetitionNumber (digits : List Char) : Parse Nat := do
  if digitLimit < digits.length then refuse (.longRepetition digits.length)
  else
    let n := valueInBase 10 digits
    if repetitionBound ≤ n then refuse .largeRepetition else return n

/-- The bounds of a repetition in braces, after the opening one; none if the brace stands for
itself. -/
def bounds? : Parse (Option (Nat × Option Nat)) := do
  let start := (← get).rest
  if start.head? == some (.char '\x7d') then return none
  else
    let low ← takeAll Char.isDigit
    let high ← if ← accept ',' then takeAll Char.isDigit else pure low
    if !(← accept '\x7d') then
      goTo start
      return none
    else
      let least ← if low.isEmpty then pure 0 else repetitionNumber low
      if high.isEmpty then return some (least, none)
      else
        let most ← repetitionNumber high
        if most < least then throw (.defect .leastAboveMost (Token.size start))
        else return some (least, some most)

def greedMark : Parse Greed := do
  if ← accept '?' then return .reluctant
  let eager ← accept '+'
  return if eager then .possessive else .greedy

/-- Puts a repetition on the last of the items read, which come last first; `sign` characters were
left in front of its sign. -/
def repeatLast (sign least : Nat) (most : Option Nat) (done : List Item) : Parse (List Item) := do
  match done with
  | [] => throw (.defect .nothingToRepeat sign)
  | last :: earlier =>
    if last.isAnchor then throw (.defect .nothingToRepeat sign)
    else if last.isRepetition then throw (.defect .multipleRepeat sign)
    else
      return .repetition (← greedMark) least most last.opened :: earlier

def groupName (terminator : Char) : Parse String := do
  let name ← nameUntil terminator "group name"
  if !Text.isName name.toList then fail (.badName name) (name.length + 1) else return name

def groupNamed (name : String) : Parse Nat := do
  match (← get).names.lookup name with
  | some number => return number
  | none => fail (.unknownName name) (name.length + 1)

def namedReference : Parse Item := do
  let name ← groupName ')'
  let number ← groupNamed name
  if !(← isClosed number) then fail .openReference (name.length + 1)
  else
    checkBehind number
    return .again number

/-- One more than the greatest number of a group that a condition can ask for. -/
def groupBound : Nat := 1073741823

def conditionGroup : Parse Nat := do
  let name ← nameUntil ')' "group name"
  if Text.isName name.toList then groupNamed name
  else
    match Text.integerOf 10 name with
    | .ok (.ofNat 0) => fail .zeroReference (name.length + 1)
    | .ok (.ofNat number) =>
      if groupBound ≤ number then fail (.badReference number) (name.length + 1)
      else
        let place := (← left) + name.length + 1
        modify fun r =>
          if r.mentions.any (·.1 == number) then r
          else { r with mentions := r.mentions ++ [(number, place)] }
        return number
    | _ => fail (.badName name) (name.length + 1)

def comment (start : Nat) : (fuel : Nat) → Parse Unit
  | 0 => return ()
  | fuel + 1 => do
    match ← peek with
    | none => throw (.defect .openComment start)
    | some _ =>
      if (← next) == some (.char ')') then return () else comment start fuel

def badFlag {α : Type} (token : Token) (otherwise : Defect) : Parse α :=
  match token with
  | .char c =>
    fail (if Text.startsName c && c != '_' then .unknownFlag else otherwise) 1
  | token => fail otherwise token.written.length

/-- The flags that are turned on, from the given letter on, and the character that ends them. -/
def addedFlags : (fuel : Nat) → (soFar : Flags) → (c : Char) → Parse (Flags × Char)
  | 0, soFar, c => return (soFar, c)
  | fuel + 1, soFar, c => do
    let isText := (← get).isText
    if c == 'L' && isText then fail .localeFlag 0
    else if c == 'u' && !isText then fail .unicodeFlag 0
    else
      let flag := (Flags.ofLetter? c).getD {}
      let flags := soFar.union flag
      let isAlphabet := !(flag.common Flags.alphabets).isEmpty
      if isAlphabet && flags.common Flags.alphabets != flag then fail .mixedAlphabets 0
      else
        match ← next with
        | none => fail .flagEnd 0
        | some (.char d) =>
          if d == ')' || d == '-' || d == ':' then return (flags, d)
          else if (Flags.ofLetter? d).isSome then addedFlags fuel flags d
          else badFlag (.char d) .flagEnd
        | some token => badFlag token .flagEnd

def droppedFlags : (fuel : Nat) → (soFar : Flags) → (c : Char) → Parse Flags
  | 0, soFar, _ => return soFar
  | fuel + 1, soFar, c => do
    let flag := (Flags.ofLetter? c).getD {}
    if !(flag.common Flags.alphabets).isEmpty then fail .turnOffAlphabet 0
    else
      let flags := soFar.union flag
      match ← next with
      | none => fail .missingColon 0
      | some (.char d) =>
        if d == ':' then return flags
        else if (Flags.ofLetter? d).isSome then droppedFlags fuel flags d
        else badFlag (.char d) .missingColon
      | some token => badFlag token .missingColon

/-- The flags of a group, from their first letter or the minus sign on; none if they hold for the
whole pattern. -/
def groupFlags (c : Char) : Parse (Option (Flags × Flags)) := do
  let fuel := (← get).rest.length + 1
  let (added, ending) ← if c == '-' then pure (({} : Flags), '-') else addedFlags fuel {} c
  if ending == ')' then
    modify fun r => { r with flags := r.flags.union added }
    return none
  else if added.plain then fail .turnOnGlobal 1
  else
    let dropped ←
      if ending == '-' then
        match ← next with
        | none => fail .missingFlag 0
        | some (.char d) =>
          if (Flags.ofLetter? d).isSome then droppedFlags fuel {} d
          else badFlag (.char d) .missingFlag
        | some token => badFlag token .missingFlag
      else pure {}
    if dropped.plain then fail .turnOffGlobal 1
    else if !(added.common dropped).isEmpty then fail .turnedOnAndOff 1
    else return some (added, dropped)

inductive Opening where
  /-- A group, remembered under a name, a number or not at all. -/
  | group (remembered : Bool) (name : Option String) (added dropped : Flags)
  | atomic
  | look (backward negated : Bool)
  | condition
  | reference (item : Item)
  | comment
  | flags

def opening (start : Nat) : Parse Opening := do
  if !(← accept '?') then return .group true none {} {}
  else
    match ← next with
    | none => fail .unexpectedEnd 0
    | some (.char 'P') =>
      if ← accept '<' then return .group true (some (← groupName '>')) {} {}
      if ← accept '=' then return .reference (← namedReference)
      match ← next with
      | none => fail .unexpectedEnd 0
      | some token =>
        fail (.unknownExtension (String.ofList ('P' :: token.written))) (token.written.length + 2)
    | some (.char ':') => return .group false none {} {}
    | some (.char '#') =>
      comment start ((← get).rest.length + 1)
      return .comment
    | some (.char '=') => return .look false false
    | some (.char '!') => return .look false true
    | some (.char '<') =>
      match ← next with
      | none => fail .unexpectedEnd 0
      | some (.char '=') => return .look true false
      | some (.char '!') => return .look true true
      | some token =>
        fail (.unknownExtension (String.ofList ('<' :: token.written))) (token.written.length + 2)
    | some (.char '(') => return .condition
    | some (.char '>') => return .atomic
    | some token =>
      match token.digit? fun c => c == '-' || (Flags.ofLetter? c).isSome with
      | none => fail (.unknownExtension (String.ofList token.written)) (token.written.length + 1)
      | some c =>
        match ← groupFlags c with
        | none => return .flags
        | some (added, dropped) => return .group false none added dropped

def openGroup (name : Option String) : Parse Nat := do
  let r ← get
  let number := r.widths.length
  match name with
  | none => set { r with widths := r.widths ++ [none] }
  | some name =>
    match r.names.lookup name with
    | some earlier => fail (.repeatedName name number earlier) (name.length + 1)
    | none =>
      set { r with widths := r.widths ++ [none], names := r.names ++ [(name, number)] }
  return number

def closeGroup (number : Nat) (body : List Item) : Parse Unit :=
  modify fun r => { r with widths := r.widths.set number (some (widthOf r.widths body)) }

def closing (start : Nat) : Parse Unit := do
  if !(← accept ')') then throw (.defect .openGroup start)

/-- The items that all alternatives start with, and what is left of the alternatives. -/
def commonStart : (fuel : Nat) → List (List Item) → List Item × List (List Item)
  | 0, alternatives => ([], alternatives)
  | fuel + 1, alternatives =>
    match alternatives with
    | (first :: _) :: _ =>
      if alternatives.all fun body => body.head?.any first.sameSimple then
        let (shared, left) := commonStart fuel (alternatives.map List.tail)
        (first :: shared, left)
      else ([], alternatives)
    | alternatives => ([], alternatives)

def classOf? (alternatives : List (List Item)) : Option (List ClassItem) := do
  let found ← alternatives.mapM fun body =>
    match body with
    | [item] => item.members?
    | _ => none
  return found.flatten.eraseDups

/-- The items that stand for several alternatives: what they share, and a class or a branch. -/
def joined (alternatives : List (List Item)) : List Item :=
  match alternatives with
  | [body] => body
  | alternatives =>
    let fuel := (alternatives.head?.map List.length).getD 0
    let (shared, left) := commonStart fuel alternatives
    match classOf? left with
    | some members => shared ++ [.oneOf false members]
    | none => shared ++ [.branch left]

def skipLine : (fuel : Nat) → Parse Unit
  | 0 => return ()
  | fuel + 1 => do
    match ← next with
    | none => return ()
    | some token => if token == .char '\n' then return () else skipLine fuel

def isSkipped (c : Char) : Bool := c == ' ' || (0x9 ≤ c.toNat && c.toNat ≤ 0xd)

mutual

/-- Reads alternatives up to the end of the group or of the pattern; `top` says that they are the
whole pattern. -/
def alternatives : (fuel : Nat) → (verbose top : Bool) → (done : List (List Item)) →
    Parse (List Item)
  | 0, _, _, done => return joined done.reverse
  | fuel + 1, verbose, top, done => do
    let body ← items fuel verbose (top && done.isEmpty) []
    let done := body :: done
    if ← accept '|' then
      let r ← get
      alternatives fuel (if top then r.flags.verbose else verbose) top done
    else return joined done.reverse

/-- Reads one alternative; `done` holds the items read, last first, and `first` says that it starts
the pattern. -/
def items : (fuel : Nat) → (verbose first : Bool) → (done : List Item) → Parse (List Item)
  | 0, _, _, done => return done.reverse.flatMap Item.opened
  | fuel + 1, verbose, first, done => do
    let start ← left
    match ← peek with
    | none => return done.reverse.flatMap Item.opened
    | some (.char '|') => return done.reverse.flatMap Item.opened
    | some (.char ')') => return done.reverse.flatMap Item.opened
    | some token =>
      let _ ← next
      match token with
      | .dangling => throw (.defect .escapeAtEnd 1)
      | .escape c => items fuel verbose first ((← itemEscape c) :: done)
      | .char c =>
        if verbose && isSkipped c then items fuel verbose first done
        else if verbose && c == '#' then
          skipLine ((← get).rest.length + 1)
          items fuel verbose first done
        else if c == '[' then items fuel verbose first ((← charClass) :: done)
        else if c == '*' then items fuel verbose first (← repeatLast start 0 none done)
        else if c == '+' then items fuel verbose first (← repeatLast start 1 none done)
        else if c == '?' then items fuel verbose first (← repeatLast start 0 (some 1) done)
        else if c == '\x7b' then
          match ← bounds? with
          | none => items fuel verbose first (.code 0x7b :: done)
          | some (least, most) => items fuel verbose first (← repeatLast start least most done)
        else if c == '.' then items fuel verbose first (.any :: done)
        else if c == '^' then items fuel verbose first (.anchor .lineStart :: done)
        else if c == '$' then items fuel verbose first (.anchor .textClose :: done)
        else if c == '(' then
          match ← opening start with
          | .comment => items fuel verbose first done
          | .reference item => items fuel verbose first (item :: done)
          | .flags =>
            if !first || !done.isEmpty then throw (.defect .lateFlags start)
            else
              let r ← get
              items fuel r.flags.verbose first done
          | .atomic =>
            let body ← alternatives fuel verbose false []
            closing start
            items fuel verbose first (.atomic body :: done)
          | .look backward negated =>
            let outer := (← get).behind
            if backward && outer.isNone then
              modify fun r => { r with behind := some r.widths.length }
            let body ← alternatives fuel verbose false []
            modify fun r => { r with behind := outer }
            closing start
            items fuel verbose first (.look backward negated body :: done)
          | .condition =>
            let number ← conditionGroup
            checkBehind number
            let yes ← items fuel verbose false []
            let no ← if ← accept '|' then some <$> items fuel verbose false [] else pure none
            if no.isSome && (← peek) == some (.char '|') then fail .thirdBranch 0
            else
              closing start
              items fuel verbose first (.conditional number yes no :: done)
          | .group remembered name added dropped =>
            let number ← if remembered then some <$> openGroup name else pure none
            let inner := (verbose || added.verbose) && !dropped.verbose
            let body ← alternatives fuel inner false []
            closing start
            match number with
            | some number => closeGroup number body
            | none => pure ()
            items fuel verbose first (.group number added dropped body :: done)
        else items fuel verbose first (.code (Text.codeOf c) :: done)

end

structure Written where
  items : List Item
  flags : Flags
  widths : List (Option Width)

def settleFlags : Parse Unit := do
  let r ← get
  if r.isText then
    if !r.flags.ascii then set { r with flags := { r.flags with unicode := true } }
    else if r.flags.unicode then refuse (.mixedFlags "ASCII" "UNICODE")
  else if r.flags.unicode then refuse .flagOnBytes
  else if r.flags.locale && r.flags.ascii then refuse (.mixedFlags "ASCII" "LOCALE")

def wholePattern (fuel : Nat) : Parse (List Item) := do
  goTo (← get).rest
  let body ← alternatives fuel false true []
  settleFlags
  if (← peek).isSome then fail .unbalanced 0
  else
    let r ← get
    match r.mentions.find? fun mention => r.widths.length ≤ mention.1 with
    | some (number, place) => throw (.defect (.badReference number) place)
    | none => return body

/-- Reads the characters of a pattern, which is text or bytes. Each step takes a token or goes one
level down. -/
def read (isText : Bool) (text : List Char) : Except Error Written :=
  let tokens := Token.ofChars text
  match (wholePattern (3 * tokens.length + 3)).run { rest := tokens, isText } with
  | .ok (items, r) => .ok { items, flags := r.flags, widths := r.widths }
  | .error (.defect d left) => .error (.defect d (some (.of text left)))
  | .error (.other e) => .error e

end Conformance.Pattern
