/-!
# Rounding to Binary Fractions of 53 Bits

A positive fraction is rounded to the nearest number `m · 2 ^ e` whose `m` has 53 bits, and a tie
goes to the even `m`. All arithmetic is exact. Exponents are not bounded: the numbers this library
rounds lie far inside the range of double precision.
-/

namespace Transceiver

/-- The integer nearest to `num / den`; a tie goes to the even one. -/
def roundDiv (num den : Nat) : Nat :=
  let quotient := num / den
  let twice := 2 * (num % den)
  if twice < den then quotient
  else if den < twice then quotient + 1
  else quotient + quotient % 2

/-- The rounded quotient is the quotient or one more, whichever is nearer. -/
theorem roundDiv_cases (num den : Nat) :
    (roundDiv num den = num / den ∧ 2 * (num % den) ≤ den) ∨
      (roundDiv num den = num / den + 1 ∧ den ≤ 2 * (num % den)) := by
  simp only [roundDiv]
  split
  · exact .inl ⟨rfl, by omega⟩
  · split
    · exact .inr ⟨rfl, by omega⟩
    · rcases Nat.mod_two_eq_zero_or_one (num / den) with h | h
      · exact .inl ⟨by omega, by omega⟩
      · exact .inr ⟨by omega, by omega⟩

/-- A fraction of natural numbers. -/
structure Fraction where
  /-- What is divided. -/
  num : Nat
  /-- What it is divided by. -/
  den : Nat
  deriving DecidableEq, Repr

namespace Fraction

/-- A fraction divided by `2 ^ e`. -/
def unscale (x : Fraction) (e : Int) : Fraction :=
  ⟨x.num * Nat.pow 2 (-e).toNat, x.den * Nat.pow 2 e.toNat⟩

/-- A fraction divided by a natural number. -/
def divNat (x : Fraction) (n : Nat) : Fraction :=
  ⟨x.num, x.den * n⟩

/-- The exponent that leaves 53 bits before the point of a positive fraction. -/
def exponent (x : Fraction) : Int :=
  let e : Int := (x.num.log2 : Int) - x.den.log2 - 52
  -- The estimate from the two logarithms is right or one too high.
  let scaled := x.unscale e
  if scaled.num < Nat.pow 2 52 * scaled.den then e - 1 else e

/-- The nearest number of 53 bits. -/
def toBinary64 (x : Fraction) : Fraction :=
  if x.num = 0 then ⟨0, 1⟩
  else
    let e := x.exponent
    let scaled := x.unscale e
    unscale ⟨roundDiv scaled.num scaled.den, 1⟩ (-e)

end Fraction

end Transceiver
