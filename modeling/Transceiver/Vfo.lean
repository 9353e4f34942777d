/-!
# Tuning Memories

A radio of this family tunes with one of two oscillators, VFO A and VFO B. A caller addresses one of
them, or whichever is selected.
-/

namespace Transceiver

/-- One of the two oscillators. -/
inductive Vfo where
  | a
  | b
  deriving DecidableEq, Repr, Inhabited

namespace Vfo

/-- The oscillator that a toggle leads to. -/
def other : Vfo → Vfo
  | a => b
  | b => a

/-- The text of an oscillator. -/
def name : Vfo → String
  | a => "VFO-A"
  | b => "VFO-B"

/-- Two toggles lead back. -/
@[simp]
theorem other_other (vfo : Vfo) : vfo.other.other = vfo := by
  cases vfo <;> rfl

/-- The other oscillator is another one. -/
theorem other_ne (vfo : Vfo) : vfo.other ≠ vfo := by
  cases vfo <;> simp [other]

end Vfo

/-- The oscillator that an operation is meant for. -/
inductive VfoChoice where
  /-- Whichever is selected. -/
  | current
  /-- A certain one. -/
  | only (vfo : Vfo)
  deriving DecidableEq, Repr

namespace VfoChoice

instance : Inhabited VfoChoice := ⟨current⟩

/-- The text of a choice. -/
def name : VfoChoice → String
  | current => "currVFO"
  | only vfo => vfo.name

end VfoChoice

end Transceiver
