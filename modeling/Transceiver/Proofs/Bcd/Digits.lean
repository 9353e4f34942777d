import Mathlib.Data.Nat.Digits.Defs
import Transceiver.Bcd

/-!
# Numbers and their Digits

`digits count value` lists the last `count` decimal digits of a number, least significant first, and
`Nat.ofDigits 10` reads such a list. Each undoes the other, up to the digits that do not fit
(`ofDigits_digits`, `digits_ofDigits`). What is left over when the digits are taken off tells
whether there are such (`leftOver_ne_zero_iff`).

A field is read most significant digit first, by `appendDigits`. It comes to the number of its
digits if all of them are decimal (`appendDigits_of_decimal`), and otherwise it names the most
significant one that is not (`exists_appendDigits_eq_error`).

Numbers are read here without a bound, and in 64-bit words on a machine. `appendDigitsInWord` reads
them step by step in a word, and gives up where a step does not fit. It has an answer, and the same
one, for every number that fits (`appendDigitsInWord_of_fits`) and for every field of at most 19
digits (`appendDigitsInWord_of_length`).
-/

namespace Transceiver.Bcd

/-! ## The digits of a number -/

/-- As many digits are listed as are asked for. -/
@[simp]
theorem length_digits (count value : Nat) : (digits count value).length = count := by
  induction count generalizing value with
  | zero => rfl
  | succ count ih => rw [digits, List.length_cons, ih]

/-- The digits of a number are decimal. -/
theorem le_nine_of_mem_digits {count value digit : Nat} (h : digit ∈ digits count value) :
    digit ≤ 9 := by
  induction count generalizing value with
  | zero => cases h
  | succ count ih =>
    rw [digits] at h
    rcases List.mem_cons.mp h with rfl | h
    · omega
    · exact ih h

/-- The last digits of a number are its remainder. -/
theorem ofDigits_digits (count value : Nat) :
    Nat.ofDigits 10 (digits count value) = value % 10 ^ count := by
  induction count generalizing value with
  | zero => simp [digits, Nat.mod_one]
  | succ count ih => rw [digits, Nat.ofDigits_cons, ih, pow_succ', Nat.mod_mul]

/-- A list of decimal digits is the list of the digits of its number. -/
theorem digits_ofDigits {ds : List Nat} (h : ∀ digit ∈ ds, digit ≤ 9) :
    digits ds.length (Nat.ofDigits 10 ds) = ds := by
  induction ds with
  | nil => rfl
  | cons digit ds ih =>
    obtain ⟨hdigit, hds⟩ := List.forall_mem_cons.mp h
    have hmod : (digit + 10 * Nat.ofDigits 10 ds) % 10 = digit := by omega
    have hdiv : (digit + 10 * Nat.ofDigits 10 ds) / 10 = Nat.ofDigits 10 ds := by omega
    rw [List.length_cons, digits, Nat.ofDigits_cons, hmod, hdiv, ih hds]

/-- What is left when digits are taken off is the quotient. -/
theorem leftOver_eq (count value : Nat) : leftOver count value = value / 10 ^ count := by
  induction count generalizing value with
  | zero => rw [leftOver, pow_zero, Nat.div_one]
  | succ count ih => rw [leftOver, ih, Nat.div_div_eq_div_mul, pow_succ']

/-- Something is left exactly if the number has more digits than are taken off. -/
theorem leftOver_ne_zero_iff {count value : Nat} :
    leftOver count value ≠ 0 ↔ 10 ^ count ≤ value := by
  rw [leftOver_eq, Nat.div_ne_zero_iff]
  simp

/-- Decimal digits make up a number of no more places than there are digits. -/
theorem ofDigits_lt {ds : List Nat} (h : ∀ digit ∈ ds, digit ≤ 9) :
    Nat.ofDigits 10 ds < 10 ^ ds.length :=
  Nat.ofDigits_lt_base_pow_length (by decide) fun digit hmem => Nat.lt_succ_of_le (h digit hmem)

/-! ## Reading -/

/-- Decimal digits that are read one after the other come to their number. -/
theorem appendDigits_of_decimal {nibbles : List Nibble}
    (h : ∀ nibble ∈ nibbles, nibble.digit ≤ 9) (value : Nat) :
    appendDigits value nibbles =
      .ok (value * 10 ^ nibbles.length +
        Nat.ofDigits 10 (nibbles.map Nibble.digit).reverse) := by
  induction nibbles generalizing value with
  | nil => simp [appendDigits]
  | cons nibble nibbles ih =>
    obtain ⟨hfirst, hrest⟩ := List.forall_mem_cons.mp h
    rw [appendDigits, if_pos hfirst, ih hrest, List.map_cons, List.reverse_cons,
      Nat.ofDigits_append, Nat.ofDigits_singleton, List.length_reverse, List.length_map,
      List.length_cons, pow_succ]
    congr 1
    ring

/-- If not all nibbles are digits when they are read from the last place downwards, the highest one
that is no digit is named, with its byte. -/
theorem exists_appendDigits_eq_error {nibbleAt : Nat → Nibble} {count : Nat}
    (h : ¬ ∀ place < count, (nibbleAt place).digit ≤ 9) :
    ∃ place < count, 9 < (nibbleAt place).digit ∧
      (∀ higher, place < higher → higher < count → (nibbleAt higher).digit ≤ 9) ∧
      ∀ value, appendDigits value ((List.range count).reverse.map nibbleAt) =
        .error (.malformedBcd (nibbleAt place).index (nibbleAt place).byte) := by
  -- The last place is read first. If its digit is decimal, the failure lies below it.
  induction count with
  | zero => exact absurd (fun place hlt => absurd hlt (Nat.not_lt_zero place)) h
  | succ count ih =>
    rw [List.range_succ, List.reverse_append, List.reverse_singleton, List.singleton_append,
      List.map_cons]
    by_cases hlast : (nibbleAt count).digit ≤ 9
    · have hrest : ¬ ∀ place < count, (nibbleAt place).digit ≤ 9 := by
        intro hall
        refine h fun place hlt => ?_
        rcases Nat.lt_succ_iff_lt_or_eq.mp hlt with hlt | rfl
        · exact hall place hlt
        · exact hlast
      obtain ⟨place, hplace, hbad, hhigher, herror⟩ := ih hrest
      refine ⟨place, Nat.lt_succ_of_lt hplace, hbad, fun higher hgt hlt => ?_, fun value => ?_⟩
      · rcases Nat.lt_succ_iff_lt_or_eq.mp hlt with hlt | rfl
        · exact hhigher higher hgt hlt
        · exact hlast
      · rw [appendDigits, if_pos hlast, herror]
    · refine ⟨count, Nat.lt_succ_self count, Nat.lt_of_not_le hlast, fun higher hgt hlt => ?_,
        fun value => ?_⟩
      · omega
      · rw [appendDigits, if_neg hlast]

/-- What has been read stands at the front of the number that is read in the end. -/
theorem le_of_appendDigits {value number : Nat} {nibbles : List Nibble}
    (h : appendDigits value nibbles = .ok number) : value ≤ number := by
  induction nibbles generalizing value with
  | nil => exact Nat.le_of_eq (Except.ok.inj h)
  | cons nibble nibbles ih =>
    rw [appendDigits] at h
    split at h
    · have hle := ih h
      omega
    · cases h

/-! ## Reading in a word -/

/-- Appends decimal digits in a 64-bit word. There is no answer if a product or a sum does not fit
the word. -/
def appendDigitsInWord (value : Nat) : List Nibble → Option (Except Error Nat)
  | [] => some (.ok value)
  | nibble :: rest =>
    if nibble.digit ≤ 9 then
      if value * 10 < UInt64.size ∧ value * 10 + nibble.digit < UInt64.size then
        appendDigitsInWord (value * 10 + nibble.digit) rest
      else none
    else some (.error (.malformedBcd nibble.index nibble.byte))

/-- Reads a field of `count` digits in a 64-bit word. There is no answer if a step does not fit. -/
def decodeInWord (bytes : Bytes) (count : Nat) (order : Order) : Option (Except Error Nat) :=
  if bytes.length < byteLength count then some (.error (.malformedBcd bytes.length 0))
  else appendDigitsInWord 0 (order.field count bytes)

/-- A number that fits the word is read in it, since each step stays below the number. -/
theorem appendDigitsInWord_of_fits {value number : Nat} {nibbles : List Nibble}
    (h : appendDigits value nibbles = .ok number) (hfits : number < UInt64.size) :
    appendDigitsInWord value nibbles = some (.ok number) := by
  induction nibbles generalizing value with
  | nil => rw [appendDigitsInWord, Except.ok.inj h]
  | cons nibble nibbles ih =>
    rw [appendDigits] at h
    split at h
    next hdigit =>
      -- The product is below the sum, and the sum is the value that the next step starts from.
      have hle : value * 10 + nibble.digit ≤ number := le_of_appendDigits h
      rw [appendDigitsInWord, if_pos hdigit, if_pos (by omega), ih h]
    next => cases h

/-- A field whose number fits the word is read in it. -/
theorem decodeInWord_of_fits {bytes : Bytes} {count : Nat} {order : Order} {number : Nat}
    (h : decode bytes count order = .ok number) (hfits : number < UInt64.size) :
    decodeInWord bytes count order = some (.ok number) := by
  rw [decode] at h
  split at h
  next => cases h
  next hlong =>
    rw [decodeInWord, if_neg hlong]
    exact appendDigitsInWord_of_fits h hfits

/-- Nineteen digits fit the word, whether or not they are decimal. -/
theorem appendDigitsInWord_of_length {nibbles : List Nibble} {read : Nat}
    (hlength : read + nibbles.length ≤ 19) {value : Nat} (hvalue : value < 10 ^ read) :
    appendDigitsInWord value nibbles = some (appendDigits value nibbles) := by
  induction nibbles generalizing read value with
  | nil => rfl
  | cons nibble nibbles ih =>
    rw [List.length_cons] at hlength
    rw [appendDigitsInWord, appendDigits]
    split
    next hdigit =>
      -- After each digit the value has one digit more.
      have hnext : value * 10 + nibble.digit < 10 ^ (read + 1) := by
        rw [pow_succ]
        omega
      have hword : 10 ^ (read + 1) ≤ 10 ^ 19 := Nat.pow_le_pow_right (by decide) (by omega)
      have hsize : 10 ^ 19 < UInt64.size := by decide
      rw [if_pos (by omega)]
      exact ih (by omega) hnext
    next => rfl

end Transceiver.Bcd
