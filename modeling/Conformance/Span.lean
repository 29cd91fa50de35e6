/-!
# Positions and spans

A position is a line and a column, both counted from one; positions are ordered by line and then by
column. A span runs from its start up to, and without, its stop.
-/

namespace Conformance

structure Position where
  line : Int
  column : Int
  deriving DecidableEq, Repr

namespace Position

instance : LE Position where
  le a b := a.line < b.line ∨ (a.line = b.line ∧ a.column ≤ b.column)

instance : LT Position where
  lt a b := a.line < b.line ∨ (a.line = b.line ∧ a.column < b.column)

theorem le_def {a b : Position} :
    a ≤ b ↔ a.line < b.line ∨ (a.line = b.line ∧ a.column ≤ b.column) := Iff.rfl

theorem lt_def {a b : Position} :
    a < b ↔ a.line < b.line ∨ (a.line = b.line ∧ a.column < b.column) := Iff.rfl

instance (a b : Position) : Decidable (a ≤ b) := decidable_of_iff _ le_def.symm

instance (a b : Position) : Decidable (a < b) := decidable_of_iff _ lt_def.symm

theorem le_refl (a : Position) : a ≤ a := by rw [le_def]; omega

theorem le_trans {a b c : Position} (hab : a ≤ b) (hbc : b ≤ c) : a ≤ c := by
  rw [le_def] at *; omega

theorem not_lt {a b : Position} : ¬ a < b ↔ b ≤ a := by rw [le_def, lt_def]; omega

theorem not_le {a b : Position} : ¬ a ≤ b ↔ b < a := by rw [le_def, lt_def]; omega

end Position

structure Span where
  start : Position
  stop : Position
  deriving DecidableEq, Repr

namespace Span

def ofInts (startLine startColumn stopLine stopColumn : Int) : Span :=
  ⟨⟨startLine, startColumn⟩, ⟨stopLine, stopColumn⟩⟩

/-- The span in front of the first character. -/
def origin : Span := ofInts 1 1 1 1

def isEmpty (s : Span) : Bool := s.stop ≤ s.start

def isInverted (s : Span) : Bool := s.stop < s.start

def contains (s other : Span) : Bool := s.start ≤ other.start && other.stop ≤ s.stop

theorem contains_iff {s other : Span} :
    s.contains other = true ↔ s.start ≤ other.start ∧ other.stop ≤ s.stop := by
  simp [contains]

theorem contains_trans {a b c : Span} (hab : a.contains b = true) (hbc : b.contains c = true) :
    a.contains c = true := by
  rw [contains_iff] at *
  exact ⟨Position.le_trans hab.1 hbc.1, Position.le_trans hbc.2 hab.2⟩

/-- Spans are ordered by start and then by stop. -/
def precedes (a b : Span) : Bool :=
  a.start < b.start || (a.start == b.start && a.stop ≤ b.stop)

def text (s : Span) : String :=
  s!"{s.start.line}:{s.start.column}-{s.stop.line}:{s.stop.column}"

end Span

end Conformance
