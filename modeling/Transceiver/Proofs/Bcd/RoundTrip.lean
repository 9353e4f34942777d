import Mathlib.Algebra.Ring.Parity
import Transceiver.Proofs.Bcd.Layout

/-!
# Reading what was Written

A field that was written is read back as the digits that it holds, in both orders and for every
number of digits. It is the number itself exactly if no digit was lost.

## Main statement

* `encode_roundTrip`: the bytes of a written field, what they are read as, and when digits are lost.
-/

namespace Transceiver.Bcd

variable {count : Nat} {order : Order}

/-- A field all of whose digits are decimal is read as their number. -/
theorem decode_of_decimal {bytes : Bytes} (hlength : byteLength count ≤ bytes.length)
    (h : ∀ digit ∈ (order.unpack bytes).take count, digit ≤ 9) :
    decode bytes count order =
      .ok (Nat.ofDigits 10 (order.arrange ((order.unpack bytes).take count))) := by
  have hfield := order.map_digit_field count bytes
  have hdecimal : ∀ nibble ∈ order.field count bytes, nibble.digit ≤ 9 := by
    intro nibble hmem
    have hdigit := List.mem_map_of_mem hmem (f := Nibble.digit)
    rw [hfield, List.mem_reverse, order.mem_arrange] at hdigit
    exact h _ hdigit
  rw [decode, if_neg (Nat.not_lt_of_le hlength), appendDigits_of_decimal hdecimal, hfield,
    List.reverse_reverse, Nat.zero_mul, Nat.zero_add]

/-- A written field has one byte for every two digits. -/
theorem length_bytes_encode (value count : Nat) (order : Order) :
    (encode value count order).bytes.length = byteLength count := by
  rw [bytes_encode, order.length_pack, order.length_arrange, length_digits]

/-- The nibbles of a written field are its digits, and zero for the nibble that is left over. -/
theorem unpack_bytes_encode (value count : Nat) (order : Order) :
    order.unpack (encode value count order).bytes =
      order.arrange (digits count value) ++ List.replicate (count % 2) 0 := by
  have hnibbles : ∀ digit ∈ order.arrange (digits count value), digit < 16 := by
    intro digit hmem
    have hdigit := le_nine_of_mem_digits (order.mem_arrange.mp hmem)
    omega
  rw [bytes_encode, order.unpack_pack hnibbles, order.length_arrange, length_digits]

/-- A written field is read as the last digits of the number. -/
theorem decode_bytes_encode (value count : Nat) (order : Order) :
    decode (encode value count order).bytes count order = .ok (value % 10 ^ count) := by
  have hlength := length_bytes_encode value count order
  -- Only the digits are read, and not the zero behind them.
  have htake : (order.unpack (encode value count order).bytes).take count =
      order.arrange (digits count value) := by
    rw [unpack_bytes_encode]
    exact List.take_left' (by rw [order.length_arrange, length_digits])
  rw [decode_of_decimal (Nat.le_of_eq hlength.symm), htake, order.arrange_arrange, ofDigits_digits]
  intro digit hmem
  rw [htake, order.mem_arrange] at hmem
  exact le_nine_of_mem_digits hmem

/-- A field of an odd number of digits ends with a nibble of zero. -/
theorem exists_getLast?_bytes_encode (value : Nat) (order : Order) (hodd : Odd count) :
    ∃ last, (encode value count order).bytes.getLast? = some last ∧ order.second last = 0 := by
  have hlast := order.getLast?_unpack (encode value count order).bytes
  rw [unpack_bytes_encode, Nat.odd_iff.mp hodd, List.replicate_one, List.getLast?_concat] at hlast
  exact Option.map_eq_some_iff.mp hlast.symm

/-! ## Digits that are lost -/

/-- Digits are lost exactly if the number has more of them than the field: then something is left
once all digits of the field are written. -/
theorem truncated_encode_iff {value : Nat} :
    (encode value count order).truncated = true ↔ 10 ^ count ≤ value :=
  bne_iff_ne.trans leftOver_ne_zero_iff

/-- No digit is lost exactly if the number has no more digits than the field. -/
theorem truncated_encode_eq_false_iff {value : Nat} :
    (encode value count order).truncated = false ↔ value < 10 ^ count := by
  rw [← Nat.not_le, ← @truncated_encode_iff count order, Bool.not_eq_true]

/-- A number with no more digits than the field has an exact field. -/
theorem exact_encode_of_lt {value : Nat} (h : value < 10 ^ count) :
    (encode value count order).exact = .ok (encode value count order).bytes := by
  rw [Encoding.exact, truncated_encode_eq_false_iff.mpr h]
  rfl

/-- A number with more digits than the field has none. -/
theorem exact_encode_of_le {value : Nat} (h : 10 ^ count ≤ value) :
    (encode value count order).exact =
      .error (.invalidParameter "value does not fit in BCD field") := by
  rw [Encoding.exact, truncated_encode_iff.mpr h]
  rfl

/-- A field is exact exactly if the number has no more digits. -/
theorem exists_exact_iff (value count : Nat) (order : Order) :
    (∃ bytes, (encode value count order).exact = .ok bytes) ↔ value < 10 ^ count := by
  rcases Nat.lt_or_ge value (10 ^ count) with h | h
  · exact iff_of_true ⟨_, exact_encode_of_lt h⟩ h
  · rw [exact_encode_of_le h]
    simp [Nat.not_lt_of_le h]

/-! ## Written and read back -/

/-- A 64-bit word that is written in `count` digits takes one byte for every two of them, and is
read as its last `count` digits, without a step that does not fit the word. The nibble that an odd
field leaves unused is zero. Digits are lost exactly if there are more than `count`, and so the
field is exact exactly if it is read as the number that was written. -/
theorem encode_roundTrip (value : UInt64) (count : Nat) (order : Order) :
    let field := encode value.toNat count order
    field.bytes.length = (count + 1) / 2 ∧
      decode field.bytes count order = .ok (value.toNat % 10 ^ count) ∧
      decodeInWord field.bytes count order = some (.ok (value.toNat % 10 ^ count)) ∧
      (Odd count → ∃ last, field.bytes.getLast? = some last ∧ order.second last = 0) ∧
      (field.truncated = true ↔ 10 ^ count ≤ value.toNat) ∧
      ((∃ bytes, field.exact = .ok bytes) ↔
        decode field.bytes count order = .ok value.toNat) := by
  intro field
  have hlength : field.bytes.length = byteLength count :=
    length_bytes_encode value.toNat count order
  have hdecode : decode field.bytes count order = .ok (value.toNat % 10 ^ count) :=
    decode_bytes_encode value.toNat count order
  refine ⟨hlength, hdecode, ?_, exists_getLast?_bytes_encode value.toNat order,
    truncated_encode_iff, ?_⟩
  · -- The number that is read back is no larger than the one written, which was a word.
    have hfits : value.toNat % 10 ^ count < UInt64.size :=
      Nat.lt_of_le_of_lt (Nat.mod_le _ _) value.toNat_lt
    have hlong : ¬ field.bytes.length < byteLength count := by rw [hlength]; exact lt_irrefl _
    rw [decode, if_neg hlong] at hdecode
    rw [decodeInWord, if_neg hlong]
    exact appendDigitsInWord_of_fits hdecode hfits
  · rw [hdecode, exists_exact_iff, Except.ok.injEq]
    constructor
    · exact Nat.mod_eq_of_lt
    · intro hmod
      rw [← hmod]
      exact Nat.mod_lt _ (by positivity)

end Transceiver.Bcd
