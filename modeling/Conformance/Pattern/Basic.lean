import Conformance.Text.Blank
import Conformance.Text.CaseFold
import Conformance.Text.Digit
import Conformance.Text.Word

/-!
# Patterns

Regular expressions over characters, and the texts that they match. The meaning of a pattern is
given by trying: it goes on from a place in a text, in the order of its alternatives, to what is to
come after it, and gives the first place where all of that succeeds. Order matters only for groups
that are remembered and for parts that are not tried again.
-/

namespace Conformance

inductive CharKind where
  | digit
  | blank
  | word
  deriving DecidableEq, Repr

inductive ClassItem where
  | code (n : Nat)
  | range (low high : Nat)
  | kind (k : CharKind) (negated : Bool)
  deriving DecidableEq, Repr

structure CharClass where
  negated : Bool := false
  items : List ClassItem
  ascii : Bool := false
  caseless : Bool := false
  deriving DecidableEq, Repr

def CharKind.admits (ascii : Bool) (k : CharKind) (c : Char) : Bool :=
  (!ascii || c.toNat < 0x80) &&
    match k with
    | digit => Text.isDigit c
    | blank => if ascii then 0x9 ≤ c.toNat && c.toNat ≤ 0xd || c == ' ' else Text.isBlank c
    | word => Text.isWord c

/-- Whether a character, given also by the code points that count as it, is in a member of a
class. -/
def ClassItem.admits (ascii : Bool) (c : Char) (codes : List Nat) : ClassItem → Bool
  | code n => codes.contains n
  | range low high => codes.any fun n => low ≤ n && n ≤ high
  | kind k negated => k.admits ascii c != negated

namespace CharClass

def codesOf (s : CharClass) (c : Char) : List Nat :=
  if !s.caseless then [Text.codeOf c]
  else if s.ascii then Text.asciiVariants c
  else Text.caseVariants c

def admits (s : CharClass) (c : Char) : Bool :=
  (s.items.any (·.admits s.ascii c (s.codesOf c))) != s.negated

def any : CharClass := { negated := true, items := [] }

def withinLine : CharClass := { negated := true, items := [.code 0xa] }

end CharClass

inductive Anchor where
  | textStart
  | lineStart
  /-- The end of the text, or a line break that ends it. -/
  | textClose
  | lineEnd
  | textEnd
  | wordEdge (negated ascii : Bool)
  deriving DecidableEq, Repr

/-- How often a repetition is tried: as often as possible first, as rarely as possible first, or as
often as possible and then never less. -/
inductive Greed where
  | greedy
  | reluctant
  | possessive
  deriving DecidableEq, Repr

def Greed.label : Greed → String
  | greedy => "MAX_REPEAT"
  | reluctant => "MIN_REPEAT"
  | possessive => "POSSESSIVE_REPEAT"

inductive Pattern where
  | empty
  | char (s : CharClass)
  | anchor (a : Anchor)
  | seq (first second : Pattern)
  | alt (first second : Pattern)
  /-- At least `least` and at most `most` times. -/
  | repetition (greed : Greed) (least : Nat) (most : Option Nat) (body : Pattern)
  | group (number : Nat) (body : Pattern)
  /-- The text that a group has taken, once more. -/
  | again (number : Nat) (caseless ascii : Bool)
  /-- Only the first way to match the body counts. -/
  | atomic (body : Pattern)
  /-- What follows does, or does not, match; nothing is taken. -/
  | ahead (negated : Bool) (body : Pattern)
  /-- What the given number of characters before the place start does, or does not, match. -/
  | behind (negated : Bool) (width : Nat) (body : Pattern)
  | conditional (number : Nat) (yes no : Pattern)
  deriving DecidableEq, Repr

namespace Pattern

/-- A place in a text: what stands before it, nearest first, and what stands after it. -/
structure Cursor where
  before : List Char
  after : List Char
  deriving DecidableEq, Repr

namespace Cursor

def atStart (s : String) : Cursor := ⟨[], s.toList⟩

def left (c : Cursor) : Nat := c.after.length

/-- Whether the character before the place and the one after it differ in being of a word. -/
def atWordEdge (ascii : Bool) (c : Cursor) : Bool :=
  (c.before.head?.any (CharKind.word.admits ascii)) !=
    (c.after.head?.any (CharKind.word.admits ascii))

/-- Whether an anchor holds at the place. An empty text has neither edges of words nor places that
are none. -/
def satisfies (c : Cursor) : Anchor → Bool
  | .textStart => c.before.isEmpty
  | .lineStart => c.before.isEmpty || c.before.head? == some '\n'
  | .textClose => c.after.isEmpty || c.after == ['\n']
  | .lineEnd => c.after.isEmpty || c.after.head? == some '\n'
  | .textEnd => c.after.isEmpty
  | .wordEdge negated ascii =>
    !(c.before.isEmpty && c.after.isEmpty) && c.atWordEdge ascii != negated

def step? (s : CharClass) (c : Cursor) : Option Cursor :=
  match c.after with
  | [] => none
  | x :: rest => if s.admits x then some ⟨x :: c.before, rest⟩ else none

def back? : (count : Nat) → Cursor → Option Cursor
  | 0, c => some c
  | count + 1, c =>
    match c.before with
    | [] => none
    | x :: rest => back? count ⟨rest, x :: c.after⟩

def upTo (c later : Cursor) : List Char := c.after.take (c.left - later.left)

/-- The place after the given characters, if they come next; `same` says when two characters
count as one. -/
def skip? (same : Char → Char → Bool) : List Char → Cursor → Option Cursor
  | [], c => some c
  | x :: rest, c =>
    match c.after with
    | [] => none
    | y :: after => if same x y then skip? same rest ⟨y :: c.before, after⟩ else none

/-- The places reached by taking characters of a class one by one, at most `room` of them if there
is such a bound, the furthest first and those in `found` last. -/
def run (s : CharClass) (before : List Char) (found : List Cursor) :
    (room : Option Nat) → List Char → List Cursor
  | some 0, _ => found
  | _, [] => found
  | room, x :: rest =>
    if s.admits x then
      run s (x :: before) (⟨x :: before, rest⟩ :: found) (room.map (· - 1)) rest
    else found

end Cursor

/-- What the groups of a pattern have taken: for each number the place where it starts and the one
where it stops. -/
abbrev Captures := List (Nat × Cursor × Cursor)

def Captures.put (g : Captures) (number : Nat) (start stop : Cursor) : Captures :=
  (number, start, stop) :: g.filter (·.1 != number)

abbrev Reached := Cursor × Captures

/-- What is still to be matched from a place. -/
abbrev Rest := Cursor → Captures → Option Reached

def firstOf (k : Rest) (g : Captures) : List Cursor → Option Reached
  | [] => none
  | c :: others =>
    match k c g with
    | some r => some r
    | none => firstOf k g others

def times (step : Rest → Rest) (k : Rest) : (count : Nat) → Rest
  | 0, c, g => k c g
  | count + 1, c, g => step (times step k count) c g

/-- A step taken again, at most `room` times if there is such a bound, before the rest is tried. A
step that took nothing is not repeated: `last` is the number of characters left where the last one
started. -/
def greedily (step : Rest → Rest) (k : Rest) :
    (fuel : Nat) → (room last : Option Nat) → Rest
  | 0, _, _, c, g => k c g
  | fuel + 1, room, last, c, g =>
    if room == some 0 || last == some c.left then k c g
    else
      match step (greedily step k fuel (room.map (· - 1)) (some c.left)) c g with
      | some r => some r
      | none => k c g

def reluctantly (step : Rest → Rest) (k : Rest) :
    (fuel : Nat) → (room last : Option Nat) → Rest
  | 0, _, _, c, g => k c g
  | fuel + 1, room, last, c, g =>
    match k c g with
    | some r => some r
    | none =>
      if room == some 0 || last == some c.left then none
      else step (reluctantly step k fuel (room.map (· - 1)) (some c.left)) c g

/-- A step taken as often as possible, each time in the first way only. -/
def exhaustively (step : Rest) : (fuel : Nat) → (room last : Option Nat) → Rest
  | 0, _, _, c, g => some (c, g)
  | fuel + 1, room, last, c, g =>
    if room == some 0 || last == some c.left then some (c, g)
    else
      match step c g with
      | some (d, h) => exhaustively step fuel (room.map (· - 1)) (some c.left) d h
      | none => some (c, g)

def done : Rest := fun c g => some (c, g)

/-- A way of matching of which only the first success counts. -/
def once (step : Rest → Rest) (k : Rest) : Rest := fun c g =>
  match step done c g with
  | some (d, h) => k d h
  | none => none

def runThen (greed : Greed) (least : Nat) (most : Option Nat) (s : CharClass) (k : Rest) : Rest :=
  fun c g =>
    let places := Cursor.run s c.before [c] most c.after
    let enough := places.take (places.length - least)
    match greed with
    | .greedy => firstOf k g enough
    | .reluctant => firstOf k g enough.reverse
    | .possessive => firstOf k g (enough.take 1)

/-- A step taken repeatedly and then the rest. Two steps in a row take a character, so the fuel is
enough. -/
def loopThen (greed : Greed) (least : Nat) (most : Option Nat) (step : Rest → Rest) (k : Rest) :
    Rest :=
  let room := most.map (· - least)
  let fuel (c : Cursor) := 2 * c.left + 2
  match greed with
  | .greedy => times step (fun c g => greedily step k (fuel c) room none c g) least
  | .reluctant => times step (fun c g => reluctantly step k (fuel c) room none c g) least
  | .possessive =>
    times (once step)
      (fun c g =>
        match exhaustively (step done) (fuel c) room none c g with
        | some (d, h) => k d h
        | none => none)
      least

def sameChar (caseless ascii : Bool) (x y : Char) : Bool :=
  if !caseless then x == y
  else if ascii then x.toLower == y.toLower
  else Text.smallLetter x == Text.smallLetter y

def thenMatch : Pattern → Rest → Rest
  | empty, k => k
  | char s, k => fun c g =>
    match c.step? s with
    | some d => k d g
    | none => none
  | anchor a, k => fun c g => if c.satisfies a then k c g else none
  | seq first second, k => thenMatch first (thenMatch second k)
  | alt first second, k => fun c g =>
    match thenMatch first k c g with
    | some r => some r
    | none => thenMatch second k c g
  | repetition greed least most body, k =>
    match body with
    | char s => runThen greed least most s k
    | body => loopThen greed least most (thenMatch body) k
  | group number body, k => fun c g =>
    thenMatch body (fun d h => k d (Captures.put h number c d)) c g
  | again number caseless ascii, k => fun c g =>
    match g.lookup number with
    | none => none
    | some (start, stop) =>
      match c.skip? (sameChar caseless ascii) (start.upTo stop) with
      | some d => k d g
      | none => none
  | atomic body, k => once (thenMatch body) k
  | ahead negated body, k => fun c g =>
    match thenMatch body done c g with
    | some (_, h) => if negated then none else k c h
    | none => if negated then k c g else none
  | behind negated width body, k => fun c g =>
    match (c.back? width).bind fun d => thenMatch body done d g with
    | some (_, h) => if negated then none else k c h
    | none => if negated then k c g else none
  | conditional number yes no, k => fun c g =>
    if (g.lookup number).isSome then thenMatch yes k c g else thenMatch no k c g

def atEnd : Rest := fun c g => if c.after.isEmpty then some (c, g) else none

def matchesWhole (p : Pattern) (s : String) : Bool :=
  (p.thenMatch atEnd (.atStart s) []).isSome

end Pattern

end Conformance
