import Conformance.Document.Yaml.Quoted

/-!
# Plain and block scalars

A plain scalar has no quotes and ends where something else may start. A block scalar is a run of
lines that are indented alike; its line breaks are kept or folded, and those at its end are kept,
reduced to one or dropped.
-/

namespace Conformance.Yaml

namespace Plain

def endsAt (flow : Bool) : List Char → Bool
  | [] => true
  | c :: rest =>
    isSpace c || isBreak c ||
      (c == ':' && endOr (fun d => isSpace d || isBreak d ||
        (flow && ",[]\x7b\x7d".toList.contains d)) rest.head?) ||
      (flow && ",?[]\x7b\x7d".toList.contains c)

def wordLength (flow : Bool) : List Char → Nat
  | [] => 0
  | c :: rest => if endsAt flow (c :: rest) then 0 else wordLength flow rest + 1

/-- Further line breaks and spaces; nothing if a document starts or ends there. -/
def breaks : (fuel : Nat) → Cursor → Option (List Char) × Cursor
  | 0, c => (some [], c)
  | fuel + 1, c =>
    if c.isAt ' ' then breaks fuel c.next
    else
      match c.lineBreak? with
      | none => (some [], c)
      | some (b, c) =>
        if c.isAtSeparator then (none, c)
        else
          let (more, c) := breaks fuel c
          (more.map (b :: ·), c)

structure Gap where
  text : List Char
  broken : Bool
  after : Cursor

def gap (c : Cursor) : Gap :=
  let blanks := c.run (· == ' ')
  let c := c.advance blanks.length
  match c.lineBreak? with
  | none => { text := blanks, broken := false, after := c }
  | some (b, c) =>
    if c.isAtSeparator then { text := [], broken := true, after := c }
    else
      match breaks (c.rest.length + 1) c with
      | (none, c) => { text := [], broken := true, after := c }
      | (some more, c) => { text := foldBreaks b more, broken := true, after := c }

/-- The words of a plain scalar: its text, whether a line break follows it, and the place after it.
In a block the words have to be indented by at least `indent`. -/
def words (flow : Bool) (indent : Nat) : (fuel : Nat) → Cursor → List Char × Bool × Cursor
  | 0, c => ([], false, c)
  | fuel + 1, c =>
    let text := c.rest.take (wordLength flow c.rest)
    let gap := gap (c.advance text.length)
    let next := gap.after
    if gap.text.isEmpty || next.isAt '#' || (!flow && next.column < indent) ||
        wordLength flow next.rest == 0 then
      (text, gap.broken, next)
    else
      let (more, broken, c) := words flow indent fuel next
      (text ++ gap.text ++ more, broken, c)

def scan (flow : Bool) (indent : Nat) (c : Cursor) : String × Bool × Cursor :=
  let (text, broken, c) := words flow indent (c.rest.length + 1) c
  (String.ofList text, broken, c)

end Plain

namespace Block

inductive Chomping where
  | strip
  | clip
  | keep
  deriving DecidableEq, Repr

def chomping? : Option Char → Option Chomping
  | some '+' => some .keep
  | some '-' => some .strip
  | _ => none

def increment? : Option Char → Option Nat
  | some c => if c.isDigit then some (c.toNat - '0'.toNat) else none
  | none => none

structure Header where
  chomping : Chomping
  increment : Option Nat

def marks (c : Cursor) : Header × Cursor :=
  match chomping? c.peek with
  | some chomping =>
    match increment? c.next.peek with
    | some n => (⟨chomping, some n⟩, c.advance 2)
    | none => (⟨chomping, none⟩, c.next)
  | none =>
    match increment? c.peek with
    | some n =>
      match chomping? c.next.peek with
      | some chomping => (⟨chomping, some n⟩, c.advance 2)
      | none => (⟨.clip, some n⟩, c.next)
    | none => (⟨.clip, none⟩, c)

def header (c : Cursor) : Except Trouble (Header × Cursor) :=
  let (header, c) := marks c
  if header.increment == some 0 || !isWordEnd c.peek then c.reject .badScalarHeader
  else
    match c.skipLineRest? with
    | some c => .ok (header, c)
    | none => c.reject .badScalarHeader

/-- The empty lines in front of the first line with text, and the greatest column met there. -/
def leading (widest : Nat) : (fuel : Nat) → Cursor → List Char × Nat × Cursor
  | 0, c => ([], widest, c)
  | fuel + 1, c =>
    if c.isAt ' ' then leading (max widest c.next.column) fuel c.next
    else
      match c.lineBreak? with
      | some (b, c) =>
        let (more, widest, c) := leading widest fuel c
        (b :: more, widest, c)
      | none => ([], widest, c)

def indentTo (indent : Nat) (c : Cursor) : Cursor :=
  c.advance (min (c.run (· == ' ')).length (indent - c.column))

/-- The empty lines in front of the next line with text, which starts at most in the column. -/
def breaks (indent : Nat) : (fuel : Nat) → Cursor → List Char × Cursor
  | 0, c => ([], c)
  | fuel + 1, c =>
    let c := indentTo indent c
    match c.lineBreak? with
    | some (b, c) =>
      let (more, c) := breaks indent fuel c
      (b :: more, c)
    | none => ([], c)

def continues (indent : Nat) (c : Cursor) : Bool := c.column == indent && !c.rest.isEmpty

/-- The lines of a block scalar, from a place where one starts: the text without the breaks at its
end, the break after it, the breaks after that, and the place after all. -/
def lines (folded : Bool) (indent : Nat) :
    (fuel : Nat) → Cursor → List Char × List Char × List Char × Cursor
  | 0, c => ([], [], [], c)
  | fuel + 1, c =>
    let text := c.run fun ch => !isBreak ch
    let flush := !endOr isSpace c.peek
    let c := c.advance text.length
    let (ending, c) := match c.lineBreak? with
      | some (b, c) => ([b], c)
      | none => ([], c)
    let (empty, c) := breaks indent (c.rest.length + 1) c
    if continues indent c then
      let joint :=
        if folded && ending == ['\n'] && flush && !endOr isSpace c.peek then
          if empty.isEmpty then [' '] else []
        else ending
      let (more, last, tail, c) := lines folded indent fuel c
      (text ++ joint ++ empty ++ more, last, tail, c)
    else (text, ending, empty, c)

def scan (folded : Bool) (outer : Int) (c : Cursor) : Except Trouble (String × Cursor) := do
  let (header, c) ← header c.next
  let least := max 1 (outer + 1).toNat
  let (empty, indent, c) := match header.increment with
    | none =>
      let (empty, widest, c) := leading 0 (c.rest.length + 1) c
      (empty, max least widest, c)
    | some n =>
      let indent := least + n - 1
      let (empty, c) := breaks indent (c.rest.length + 1) c
      (empty, indent, c)
  let (text, last, tail, c) :=
    if continues indent c then
      let (text, last, tail, c) := lines folded indent (c.rest.length + 1) c
      (empty ++ text, last, tail, c)
    else ([], [], empty, c)
  let ending := match header.chomping with
    | .strip => []
    | .clip => last
    | .keep => last ++ tail
  return (String.ofList (text ++ ending), c)

end Block

end Conformance.Yaml
