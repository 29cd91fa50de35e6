import Conformance.Pattern.Basic

/-!
# Patterns as written

A written pattern is a sequence of items. Flags say how characters are compared and what blanks
mean; they hold for the whole pattern or for a group. The module also gives the least and the
greatest number of characters that items can take.
-/

namespace Conformance.Pattern

structure Flags where
  caseless : Bool := false
  locale : Bool := false
  multiline : Bool := false
  dotAll : Bool := false
  verbose : Bool := false
  ascii : Bool := false
  plain : Bool := false
  unicode : Bool := false
  deriving DecidableEq, Repr

namespace Flags

def ofLetter? : Char → Option Flags
  | 'i' => some { caseless := true }
  | 'L' => some { locale := true }
  | 'm' => some { multiline := true }
  | 's' => some { dotAll := true }
  | 'x' => some { verbose := true }
  | 'a' => some { ascii := true }
  | 't' => some { plain := true }
  | 'u' => some { unicode := true }
  | _ => none

def combine (f : Bool → Bool → Bool) (a b : Flags) : Flags where
  caseless := f a.caseless b.caseless
  locale := f a.locale b.locale
  multiline := f a.multiline b.multiline
  dotAll := f a.dotAll b.dotAll
  verbose := f a.verbose b.verbose
  ascii := f a.ascii b.ascii
  plain := f a.plain b.plain
  unicode := f a.unicode b.unicode

def union : Flags → Flags → Flags := combine or

def common : Flags → Flags → Flags := combine and

def without : Flags → Flags → Flags := combine fun a b => a && !b

def isEmpty (a : Flags) : Bool := a == {}

/-- The flags that say which characters are letters; only one of them can hold. -/
def alphabets : Flags := { ascii := true, locale := true, unicode := true }

def inside (a added dropped : Flags) : Flags :=
  let kept := if (added.common alphabets).isEmpty then a else a.without alphabets
  (kept.union added).without dropped

end Flags

inductive Item where
  | code (n : Nat)
  | otherThan (n : Nat)
  | any
  | oneOf (negated : Bool) (members : List ClassItem)
  | anchor (a : Anchor)
  | again (number : Nat)
  | repetition (greed : Greed) (least : Nat) (most : Option Nat) (body : List Item)
  | group (number : Option Nat) (added dropped : Flags) (body : List Item)
  | atomic (body : List Item)
  | look (behind negated : Bool) (body : List Item)
  | conditional (number : Nat) (yes : List Item) (no : Option (List Item))
  | branch (alternatives : List (List Item))
  deriving Repr

namespace Item

def isAnchor : Item → Bool
  | anchor _ => true
  | _ => false

def isRepetition : Item → Bool
  | repetition .. => true
  | _ => false

/-- What an item stands for: a group that is neither remembered nor changes flags is its content. -/
def opened : Item → List Item
  | group none added dropped body =>
    if added.isEmpty && dropped.isEmpty then body else [group none added dropped body]
  | item => [item]

/-- Whether two items are the same simple item; items with others inside never are. -/
def sameSimple : Item → Item → Bool
  | code m, code n => m == n
  | otherThan m, otherThan n => m == n
  | any, any => true
  | oneOf a xs, oneOf b ys => a == b && xs == ys
  | anchor a, anchor b => a == b
  | again m, again n => m == n
  | _, _ => false

/-- The members of a class that an item is; none if it is no class, or one that is negated. -/
def members? : Item → Option (List ClassItem)
  | code n => some [.code n]
  | oneOf false members => some members
  | _ => none

end Item

structure Width where
  least : Nat
  most : Nat
  deriving DecidableEq, Repr

namespace Width

/-- The number that stands for all greater ones. -/
def bound : Nat := 0x10000000000000000

def ofNat (n : Nat) : Width := ⟨n, n⟩

def add (a b : Width) : Width := ⟨a.least + b.least, a.most + b.most⟩

def join (a b : Width) : Width := ⟨min a.least b.least, max a.most b.most⟩

def capped (a : Width) : Width := ⟨min a.least bound, min a.most bound⟩

end Width

mutual

def Item.width (groups : List (Option Width)) : Item → Width
  | .code _ => .ofNat 1
  | .otherThan _ => .ofNat 1
  | .any => .ofNat 1
  | .oneOf .. => .ofNat 1
  | .anchor _ => .ofNat 0
  | .again number => ((groups[number]?).join).getD (.ofNat 0)
  | .repetition _ least most body =>
    let inner := widthOf groups body
    let most :=
      match most with
      | some n => inner.most * n
      | none => if inner.most == 0 then 0 else Width.bound
    ⟨inner.least * least, most⟩
  | .group _ _ _ body => widthOf groups body
  | .atomic body => widthOf groups body
  | .look .. => .ofNat 0
  | .conditional _ yes none => ⟨0, (widthOf groups yes).most⟩
  | .conditional _ yes (some no) => (widthOf groups yes).join (widthOf groups no)
  | .branch alternatives => widthOfAny groups alternatives

def widthOf (groups : List (Option Width)) : List Item → Width
  | [] => .ofNat 0
  | item :: rest => ((item.width groups).add (widthOf groups rest)).capped

def widthOfAny (groups : List (Option Width)) : List (List Item) → Width
  | [] => ⟨Width.bound, 0⟩
  | body :: rest => (widthOf groups body).join (widthOfAny groups rest)

end

end Conformance.Pattern
