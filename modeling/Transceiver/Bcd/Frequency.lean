import Transceiver.Bcd

/-!
# Frequencies in Steps of Ten Hertz

Frequencies and offsets travel as packed decimal fields in units of ten hertz. A frequency is a
64-bit word of hertz, so rounding up stops at the largest word. The sign of an offset is kept
apart from its digits, for the model to place where it wants it.
-/

namespace Transceiver.Bcd

/-- The largest frequency, in hertz, that a 64-bit word holds. -/
def maxHertz : Nat := UInt64.size - 1

/-- How a number of hertz becomes a number of tens. -/
inductive Rounding where
  /-- Drops the units. -/
  | truncate
  /-- Goes to the nearest ten, and up from a half. -/
  | nearest
  deriving DecidableEq, Repr

instance : Inhabited Rounding := ⟨.nearest⟩

/-- The number of tens that stands for `hz`. -/
def Rounding.tens : Rounding → Nat → Nat
  | .truncate, hz => hz / 10
  -- The sum is the only step that can leave the range of a word.
  | .nearest, hz => min (hz + 5) maxHertz / 10

/-- Writes a frequency. -/
def ofFrequency (hz count : Nat) (order : Order) (rounding : Rounding) : Encoding :=
  encode (rounding.tens hz) count order

/-- Reads a frequency, in hertz. -/
def toFrequency (bytes : Bytes) (count : Nat) (order : Order) : Except Error Nat :=
  (decode bytes count order).map (· * 10)

/-- A written offset: its sign, and the digits of its magnitude. -/
structure SignedEncoding where
  negative : Bool
  /-- The magnitude in tens of hertz, cut toward zero. -/
  digits : Encoding
  deriving DecidableEq, Repr

/-- Writes an offset in hertz. -/
def ofOffset (hz : Int) (count : Nat) (order : Order) : SignedEncoding where
  negative := decide (hz < 0)
  digits := encode (hz.natAbs / 10) count order

end Transceiver.Bcd
