/-!
# Frequency Ranges

A band is a range of frequencies in hertz, both ends included, in which a radio receives or
transmits.
-/

namespace Transceiver

/-- A range of frequencies. -/
structure Band where
  low : Nat
  high : Nat
  transmit : Bool
  deriving DecidableEq, Repr

namespace Band

/-- A range in which the radio receives. -/
def rx (low high : Nat) : Band := ⟨low, high, false⟩

/-- A range in which the radio transmits. -/
def tx (low high : Nat) : Band := ⟨low, high, true⟩

/-- A frequency lies in the band. -/
def contains (band : Band) (hz : Nat) : Bool :=
  band.low ≤ hz && hz ≤ band.high

/-- The text of a band. -/
def name (band : Band) : String :=
  s!"{band.low}-{band.high} Hz"

/-- Both ends belong to a band. -/
@[simp]
theorem contains_iff (band : Band) (hz : Nat) :
    band.contains hz = true ↔ band.low ≤ hz ∧ hz ≤ band.high := by
  simp [contains]

end Band

end Transceiver
