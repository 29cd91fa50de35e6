import Conformance.Pattern.Reader

/-!
# What written patterns mean

The items of a written pattern become a pattern under the flags that hold where they stand. A
lookbehind needs a body of one width.
-/

namespace Conformance.Pattern

def classUnder (flags : Flags) (negated : Bool) (members : List ClassItem) : CharClass where
  negated := negated
  items := members
  ascii := !flags.unicode
  caseless := flags.caseless

/-- Whether a member of a class counts where letter case does not: a capital beyond the first plane
does not. -/
def countsCaseless : ClassItem → Bool
  | .code n => n < 0x10000 || Text.smallLetter (Text.ofCode n) == Text.ofCode n
  | _ => true

def setUnder (flags : Flags) (negated : Bool) (members : List ClassItem) : CharClass :=
  classUnder flags negated
    (if flags.caseless && flags.unicode then members.filter countsCaseless else members)

def anchorUnder (flags : Flags) : Anchor → Anchor
  | .lineStart => if flags.multiline then .lineStart else .textStart
  | .textClose => if flags.multiline then .lineEnd else .textClose
  | .wordEdge negated _ => .wordEdge negated (!flags.unicode)
  | a => a

/-- The greatest number of characters that a pattern looks back. -/
def behindBound : Nat := 4294967295

def behindWidth (w : Width) : Except Defect Nat :=
  if behindBound < w.least then .error .farBehind
  else if w.least != w.most then .error .openWidth
  else .ok w.least

mutual

def Item.meaning (groups : List (Option Width)) (flags : Flags) : Item → Except Defect Pattern
  | .code n => .ok (.char (classUnder flags false [.code n]))
  | .otherThan n => .ok (.char (classUnder flags true [.code n]))
  | .any => .ok (.char (if flags.dotAll then .any else .withinLine))
  | .oneOf negated members => .ok (.char (setUnder flags negated members))
  | .anchor a => .ok (.anchor (anchorUnder flags a))
  | .again number => .ok (.again number flags.caseless (!flags.unicode))
  | .repetition greed least most body =>
    if flags.plain then .error (.plainRepeat greed.label)
    else do return .repetition greed least most (← meaningOf groups flags body)
  | .group number added dropped body => do
    let inner ← meaningOf groups (flags.inside added dropped) body
    return match number with
      | some number => .group number inner
      | none => inner
  | .atomic body => do return .atomic (← meaningOf groups flags body)
  | .look false negated body => do return .ahead negated (← meaningOf groups flags body)
  | .look true negated body => do
    let width ← behindWidth (widthOf groups body)
    return .behind negated width (← meaningOf groups flags body)
  | .conditional number yes none => do
    return .conditional number (← meaningOf groups flags yes) .empty
  | .conditional number yes (some no) => do
    return .conditional number (← meaningOf groups flags yes) (← meaningOf groups flags no)
  | .branch alternatives => meaningOfAny groups flags alternatives

def meaningOf (groups : List (Option Width)) (flags : Flags) :
    List Item → Except Defect Pattern
  | [] => .ok .empty
  | [item] => item.meaning groups flags
  | item :: rest => do
    return .seq (← item.meaning groups flags) (← meaningOf groups flags rest)

def meaningOfAny (groups : List (Option Width)) (flags : Flags) :
    List (List Item) → Except Defect Pattern
  | [] => .ok .empty
  | [body] => meaningOf groups flags body
  | body :: rest => do
    return .alt (← meaningOf groups flags body) (← meaningOfAny groups flags rest)

end

def Written.meaning (w : Written) : Except Error Pattern :=
  match meaningOf w.widths w.flags w.items with
  | .ok p => .ok p
  | .error d => .error (.defect d none)

def parse (text : String) : Except Error Pattern := do
  (← read true text.toList).meaning

theorem parse_of_toOption {text : String} {p : Pattern} (h : (parse text).toOption = some p) :
    parse text = .ok p := by
  cases hparse : parse text with
  | error e =>
    rw [hparse] at h
    cases h
  | ok q =>
    rw [hparse] at h
    cases h
    rfl

def parseBytes (bs : List UInt8) : Except Error Pattern := do
  (← read false (bs.map fun b => Char.ofNat b.toNat)).meaning

end Conformance.Pattern
