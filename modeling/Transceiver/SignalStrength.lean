/-!
# Signal Strength

A radio reports the signal strength on a scale from 0 to 15. Nine is the reference S9. A step below
it is one S-unit of six decibels, a step above it is ten decibels.
-/

namespace Transceiver

/-- The strength in decibels relative to S9. Bits above the scale are ignored. -/
def strengthDb (raw : UInt8) : Int :=
  let steps : Int := (raw.toNat % 16 : Nat) - 9
  if 0 < steps then steps * 10 else steps * 6

end Transceiver
