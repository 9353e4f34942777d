import Transceiver.Bcd.Frequency
import Transceiver.Proofs.Bcd.RoundTrip

/-!
# Frequencies in Fields

A frequency is written as its number of tens. What is read back are these tens, so the two ways
agree up to the rounding. The largest word, at which rounding up stops, plays no part as long as the
tens of a field are fewer than its own. With digits enough for it, the word goes down by five.

Reading is done in 64-bit words on a machine. `toFrequencyInWord` reads a frequency with every
product and every sum checked against the word, and gives up where one does not fit. It has an
answer for every field that was written.

The sign of an offset is not part of its digits. `withSign` puts it back.

## Main statement

* `ofFrequency_roundTrip`: what a written frequency is read as, and when digits are lost.
-/

namespace Transceiver.Bcd

variable {hz count : Nat} {order : Order} {rounding : Rounding}

/-! ## Rounding to tens -/

/-- The largest frequency is the largest 64-bit word. -/
theorem maxHertz_eq : maxHertz = 2 ^ 64 - 1 := rfl

namespace Rounding

/-- As long as they are fewer than those of the largest word, the nearest tens are those of the
sum. -/
theorem tens_nearest_of_lt (h : nearest.tens hz < maxHertz / 10) :
    nearest.tens hz = (hz + 5) / 10 := by
  rw [tens] at h ⊢
  rcases Nat.le_total (hz + 5) maxHertz with hfits | hlarge
  · rw [Nat.min_eq_left hfits]
  · -- Where the sum is cut short there are as many tens as those of the largest word.
    rw [Nat.min_eq_right hlarge] at h
    exact absurd h (Nat.lt_irrefl _)

/-- Cutting drops the units. -/
theorem ten_mul_tens_truncate (hz : Nat) : 10 * truncate.tens hz = hz - hz % 10 := by
  rw [tens]
  omega

/-- Of the words at which the sum is cut short only the last one has fewer tens for it. -/
theorem ten_mul_tens_nearest (h : hz ≤ maxHertz) :
    10 * nearest.tens hz = if hz = maxHertz then maxHertz - 5 else 10 * ((hz + 5) / 10) := by
  have hmax := maxHertz_eq
  rw [tens]
  split
  next hlast => omega
  next hless => omega

/-- A higher frequency has no fewer tens. -/
theorem tens_mono {hz' : Nat} (h : hz ≤ hz') : rounding.tens hz ≤ rounding.tens hz' := by
  cases rounding with
  | truncate => exact Nat.div_le_div_right h
  | nearest => exact Nat.div_le_div_right (min_le_min_right maxHertz (Nat.add_le_add_right h 5))

/-- No frequency of a word is rounded to one that does not fit the word. -/
theorem ten_mul_tens_le (h : hz ≤ maxHertz) : 10 * rounding.tens hz ≤ maxHertz := by
  cases rounding with
  | truncate => exact (Nat.mul_div_le hz 10).trans h
  | nearest => exact (Nat.mul_div_le _ 10).trans (Nat.min_le_right _ _)

/-- A multiple of ten is not rounded. -/
theorem ten_mul_tens_of_dvd (h : hz ≤ maxHertz) (hdvd : 10 ∣ hz) : 10 * rounding.tens hz = hz := by
  cases rounding with
  | truncate => exact Nat.mul_div_cancel' hdvd
  | nearest =>
    have hmax := maxHertz_eq
    rw [tens]
    omega

/-- The nearest ten is at most five away. -/
theorem ten_mul_tens_nearest_near (h : hz ≤ maxHertz) :
    10 * nearest.tens hz ≤ hz + 5 ∧ hz ≤ 10 * nearest.tens hz + 5 := by
  have hmax := maxHertz_eq
  rw [tens]
  omega

end Rounding

/-! ## Fields -/

/-- A frequency that is read is the tens that were written, or the last digits of them. -/
theorem toFrequency_bytes_ofFrequency (hz count : Nat) (order : Order) (rounding : Rounding) :
    toFrequency (ofFrequency hz count order rounding).bytes count order =
      .ok (10 * (rounding.tens hz % 10 ^ count)) := by
  rw [toFrequency, ofFrequency, decode_bytes_encode, Nat.mul_comm 10]
  rfl

/-- A frequency whose field loses no digit comes back as its tens. -/
theorem toFrequency_of_exact {bytes : Bytes}
    (h : (ofFrequency hz count order rounding).exact = .ok bytes) :
    rounding.tens hz < 10 ^ count ∧
      toFrequency bytes count order = .ok (10 * rounding.tens hz) := by
  have hlt : rounding.tens hz < 10 ^ count := (exists_exact_iff _ count order).mp ⟨bytes, h⟩
  obtain rfl : (ofFrequency hz count order rounding).bytes = bytes :=
    Except.ok.inj ((exact_encode_of_lt hlt).symm.trans h)
  exact ⟨hlt, by rw [toFrequency_bytes_ofFrequency, Nat.mod_eq_of_lt hlt]⟩

/-- Fields that lose no digit are the same exactly if they stand for the same tens. -/
theorem exact_inj {other : Nat} {bytes bytes' : Bytes}
    (h : (ofFrequency hz count order rounding).exact = .ok bytes)
    (h' : (ofFrequency other count order rounding).exact = .ok bytes') :
    bytes' = bytes ↔ rounding.tens other = rounding.tens hz := by
  constructor
  · rintro rfl
    have hsame := (toFrequency_of_exact h').2.symm.trans (toFrequency_of_exact h).2
    exact Nat.eq_of_mul_eq_mul_left (by omega) (Except.ok.inj hsame)
  · intro htens
    rw [ofFrequency, htens] at h'
    exact Except.ok.inj (h'.symm.trans h)

/-! ## Reading in a word -/

/-- Reads a frequency in a 64-bit word, in hertz. There is no answer if a step does not fit. -/
def toFrequencyInWord (bytes : Bytes) (count : Nat) (order : Order) : Option (Except Error Nat) :=
  match decodeInWord bytes count order with
  | none => none
  | some (.error e) => some (.error e)
  | some (.ok tens) => if tens * 10 < UInt64.size then some (.ok (tens * 10)) else none

/-- What was written is read in a word, even if digits were lost. -/
theorem toFrequencyInWord_bytes_ofFrequency (h : hz ≤ maxHertz) :
    toFrequencyInWord (ofFrequency hz count order rounding).bytes count order =
      some (toFrequency (ofFrequency hz count order rounding).bytes count order) := by
  have hle : rounding.tens hz % 10 ^ count ≤ rounding.tens hz := Nat.mod_le _ _
  have hword : 10 * rounding.tens hz < UInt64.size :=
    Nat.lt_of_le_of_lt (Rounding.ten_mul_tens_le h) (by decide)
  have hdecode : decodeInWord (ofFrequency hz count order rounding).bytes count order =
      some (.ok (rounding.tens hz % 10 ^ count)) :=
    decodeInWord_of_fits (decode_bytes_encode _ count order) (by omega)
  rw [toFrequency_bytes_ofFrequency, toFrequencyInWord, hdecode, Nat.mul_comm 10]
  exact if_pos (by omega)

/-- A 64-bit word of hertz that loses no digit is read as a multiple of ten: cut to it, or the
nearest one. Only the largest word stands for a sum that does not fit, and goes down instead of up.
Nothing is more than five hertz off when it is rounded, a higher frequency is not read as a lower
one, and multiples of ten come back as they were. Digits are lost exactly if there are more tens
than the field has digits for, and then there is no exact field. All this fits a 64-bit word. -/
theorem ofFrequency_roundTrip (hz : UInt64) (count : Nat) (order : Order) (rounding : Rounding) :
    let field := ofFrequency hz.toNat count order rounding
    (field.truncated = false → ∃ read, toFrequency field.bytes count order = .ok read ∧
      (rounding = .truncate → read = hz.toNat - hz.toNat % 10) ∧
      (rounding = .nearest →
        read = (if hz.toNat = 2 ^ 64 - 1 then 2 ^ 64 - 6 else 10 * ((hz.toNat + 5) / 10)) ∧
          read ≤ hz.toNat + 5 ∧ hz.toNat ≤ read + 5) ∧
      (10 ∣ hz.toNat → read = hz.toNat) ∧
      ∀ lower ≤ hz, ∃ lowerRead,
        (ofFrequency lower.toNat count order rounding).truncated = false ∧
          toFrequency (ofFrequency lower.toNat count order rounding).bytes count order =
            .ok lowerRead ∧ lowerRead ≤ read) ∧
    toFrequencyInWord field.bytes count order = some (toFrequency field.bytes count order) ∧
    (field.truncated = true ↔ 10 ^ count ≤ rounding.tens hz.toNat) ∧
    (field.truncated = true →
      field.exact = .error (.invalidParameter "value does not fit in BCD field")) := by
  intro field
  have hword : hz.toNat ≤ maxHertz := Nat.le_of_lt_succ hz.toNat_lt
  refine ⟨fun hfits => ?_, toFrequencyInWord_bytes_ofFrequency hword, truncated_encode_iff,
    fun hlost => exact_encode_of_le (truncated_encode_iff.mp hlost)⟩
  -- Without a lost digit the field holds all the tens, and reading makes hertz of them.
  have hlt : rounding.tens hz.toNat < 10 ^ count := truncated_encode_eq_false_iff.mp hfits
  refine ⟨10 * rounding.tens hz.toNat, ?_, ?_, ?_, Rounding.ten_mul_tens_of_dvd hword, ?_⟩
  · rw [toFrequency_bytes_ofFrequency, Nat.mod_eq_of_lt hlt]
  · rintro rfl
    exact Rounding.ten_mul_tens_truncate hz.toNat
  · rintro rfl
    exact ⟨Rounding.ten_mul_tens_nearest hword, Rounding.ten_mul_tens_nearest_near hword⟩
  · -- A lower frequency has no more tens, so it loses no digit either.
    intro lower hlower
    have hle : rounding.tens lower.toNat ≤ rounding.tens hz.toNat :=
      Rounding.tens_mono (UInt64.le_iff_toNat_le.mp hlower)
    have hlowerLt := Nat.lt_of_le_of_lt hle hlt
    refine ⟨10 * rounding.tens lower.toNat, truncated_encode_eq_false_iff.mpr hlowerLt, ?_,
      Nat.mul_le_mul_left 10 hle⟩
    rw [toFrequency_bytes_ofFrequency, Nat.mod_eq_of_lt hlowerLt]

/-- The largest word has nineteen digits of tens, which rounding up would have made one more. -/
example : toFrequency (ofFrequency maxHertz 19 .bigEndian .nearest).bytes 19 .bigEndian =
    .ok (2 ^ 64 - 6) := by
  decide

/-! ## Offsets -/

/-- A magnitude with a sign. -/
def withSign (negative : Bool) (magnitude : Nat) : Int :=
  if negative then -magnitude else magnitude

/-- The tens of a magnitude, with the sign of the number, are the number cut toward zero. -/
theorem withSign_ten_mul_natAbs (offset : Int) :
    withSign (decide (offset < 0)) (10 * (offset.natAbs / 10)) = 10 * offset.tdiv 10 := by
  rcases lt_or_ge offset 0 with hneg | hpos
  · have hcut : offset.tdiv 10 = -(-offset / 10) := by
      rw [← Int.tdiv_eq_ediv_of_nonneg (by omega), Int.neg_tdiv, Int.neg_neg]
    rw [withSign, decide_eq_true hneg, if_pos rfl, hcut]
    omega
  · rw [withSign, decide_eq_false (Int.not_lt.mpr hpos), if_neg Bool.false_ne_true,
      Int.tdiv_eq_ediv_of_nonneg hpos]
    omega

/-- Cutting an offset toward zero does not make it larger. -/
theorem natAbs_ten_mul_tdiv_le (offset : Int) : (10 * offset.tdiv 10).natAbs ≤ offset.natAbs := by
  rw [Int.natAbs_mul, Int.natAbs_tdiv]
  exact Nat.mul_div_le offset.natAbs 10

end Transceiver.Bcd
