import Transceiver.Binary64

/-!
# Frequencies as Text

A frequency is shown in megahertz with six places. It is first rounded to double precision, then
divided by a million in double precision, and the six places are the exact value's, a tie going to
the even neighbour. Below `2 ^ 53` hertz the text shows every hertz.
-/

namespace Transceiver

/-- A fraction with `places` decimal places, the last one rounded to even on a tie. -/
def Fraction.toFixed (x : Fraction) (places : Nat) : String :=
  let unit := Nat.pow 10 places
  let units := roundDiv (x.num * unit) x.den
  let whole := units / unit
  let digits := toString (units % unit)
  s!"{whole}." ++ String.ofList (List.replicate (places - digits.length) '0') ++ digits

/-- A number of hertz in megahertz, as double precision arithmetic gives it. -/
def megahertz (hz : Nat) : Fraction :=
  ((Fraction.mk hz 1).toBinary64.divNat 1000000).toBinary64

/-- The text of a frequency given in hertz. -/
def formatMegahertz (hz : Nat) : String :=
  (megahertz hz).toFixed 6 ++ " MHz"

end Transceiver
