import Transceiver.Proofs.Bcd.RoundTrip

/-!
# Which Fields are Read

A field is read if its bytes are there and each of its digits is decimal (`Order.Holds`). Writing
the number that was read gives the bytes of the field back. A field that is not read fails at its
most significant digit that is not decimal (`Order.FailsAt`), or at the first byte that is missing.

What is read depends on no byte behind the field and not on the nibble that an odd field leaves
unused. Only an error shows that nibble, if it names the last byte, since it gives the byte as a
whole.

## Main statement

* `decode_accepts`: which fields are read, what as, and how the others fail.
-/

namespace Transceiver

/-- An error whose byte is taken from `bytes`, at the index that the error names. -/
def Error.inBytes (bytes : Bytes) : Error → Error
  | .malformedBcd index _ => .malformedBcd index (bytes.getD index 0)
  | e => e

namespace Bcd

namespace Order

/-- A field of `count` digits is there, and all its digits are decimal. -/
def Holds (order : Order) (count : Nat) (bytes : Bytes) : Prop :=
  byteLength count ≤ bytes.length ∧ ∀ place < count, (order.nibbleAt count bytes place).digit ≤ 9

/-- The digit `place` of a field of `count` digits is the most significant one that is not
decimal. -/
def FailsAt (order : Order) (count : Nat) (bytes : Bytes) (place : Nat) : Prop :=
  place < count ∧ 9 < (order.nibbleAt count bytes place).digit ∧
    ∀ higher, place < higher → higher < count → (order.nibbleAt count bytes higher).digit ≤ 9

end Order

variable {count : Nat} {order : Order} {bytes : Bytes}

/-! ## Fields that are read -/

/-- The digits of a field are its first nibbles. -/
theorem forall_nibbleAt_iff (h : byteLength count ≤ bytes.length) :
    (∀ place < count, (order.nibbleAt count bytes place).digit ≤ 9) ↔
      ∀ digit ∈ (order.unpack bytes).take count, digit ≤ 9 := by
  have hfield : (order.field count bytes).map Nibble.digit =
      (List.range count).reverse.map fun place => (order.nibbleAt count bytes place).digit := by
    rw [order.field_eq h, List.map_map]
    rfl
  rw [order.map_digit_field] at hfield
  have hmem (digit : Nat) : digit ∈ (order.unpack bytes).take count ↔
      ∃ place < count, (order.nibbleAt count bytes place).digit = digit := by
    rw [← order.mem_arrange, ← List.mem_reverse, hfield]
    simp
  simp [hmem]

/-- A field that is long enough and not read fails at a digit. -/
theorem exists_failsAt (hlength : byteLength count ≤ bytes.length)
    (h : ¬ ∀ place < count, (order.nibbleAt count bytes place).digit ≤ 9) :
    ∃ place, order.FailsAt count bytes place ∧
      decode bytes count order =
        .error (.malformedBcd (order.nibbleAt count bytes place).index
          (order.nibbleAt count bytes place).byte) := by
  obtain ⟨place, hplace, hbad, hhigher, herror⟩ := exists_appendDigits_eq_error h
  refine ⟨place, ⟨hplace, hbad, hhigher⟩, ?_⟩
  rw [decode, if_neg (Nat.not_lt_of_le hlength), order.field_eq hlength, herror]

/-- A field that is cut short is malformed at its first missing byte. -/
theorem decode_of_short (h : bytes.length < byteLength count) :
    decode bytes count order = .error (.malformedBcd bytes.length 0) := by
  rw [decode, if_pos h]

/-- A field that holds decimal digits is read as their number. -/
theorem decode_of_holds (h : order.Holds count bytes) :
    decode bytes count order =
      .ok (Nat.ofDigits 10 (order.arrange ((order.unpack bytes).take count))) :=
  decode_of_decimal h.1 ((forall_nibbleAt_iff h.1).mp h.2)

/-- A field is read exactly if it is long enough and all its digits are decimal. -/
theorem exists_decode_iff :
    (∃ value, decode bytes count order = .ok value) ↔ order.Holds count bytes := by
  constructor
  · rintro ⟨value, hvalue⟩
    by_cases hlength : byteLength count ≤ bytes.length
    · refine ⟨hlength, ?_⟩
      by_contra hbad
      obtain ⟨place, -, herror⟩ := exists_failsAt hlength hbad
      rw [herror] at hvalue
      cases hvalue
    · rw [decode_of_short (Nat.lt_of_not_le hlength)] at hvalue
      cases hvalue
  · intro h
    exact ⟨_, decode_of_holds h⟩

/-- What is read is a number of `count` digits, and writing it gives the field back. -/
theorem encode_of_decode {value : Nat} (h : decode bytes count order = .ok value) :
    value < 10 ^ count ∧ encode value count order = ⟨order.fieldBytes count bytes, false⟩ := by
  have hholds : order.Holds count bytes := exists_decode_iff.mp ⟨value, h⟩
  have hlength := hholds.1
  have hdecimal := (forall_nibbleAt_iff hlength).mp hholds.2
  rw [decode_of_holds hholds, Except.ok.injEq] at h
  -- The digits of the number are the nibbles of the field.
  have hds : ∀ digit ∈ order.arrange ((order.unpack bytes).take count), digit ≤ 9 :=
    fun digit hmem => hdecimal digit (order.mem_arrange.mp hmem)
  have hcount : (order.arrange ((order.unpack bytes).take count)).length = count := by
    rw [byteLength] at hlength
    rw [order.length_arrange, List.length_take, order.length_unpack]
    omega
  have hdigits := digits_ofDigits hds
  have hlt := ofDigits_lt hds
  rw [hcount, h] at hdigits hlt
  -- Written again, they are packed as they were found.
  have hbytes : (encode value count order).bytes = order.fieldBytes count bytes := by
    rw [bytes_encode, hdigits, order.arrange_arrange, order.pack_take_unpack hlength]
  have htruncated : (encode value count order).truncated = false :=
    truncated_encode_eq_false_iff.mpr hlt
  exact ⟨hlt, by rw [← hbytes, ← htruncated]⟩

/-! ## Bytes that are checked -/

/-- Bytes are valid exactly if each of them is decimal. -/
theorem validate_eq_ok_iff_isDecimal (bytes : Bytes) :
    validate bytes = .ok () ↔ ∀ byte ∈ bytes, isDecimal byte = true := by
  rw [validate]
  generalize hfind : bytes.zipIdx.find? _ = found
  -- The check names the first byte that is not decimal, if there is one.
  cases found with
  | some entry =>
    have hbad := List.find?_some hfind
    have hmem : entry.1 ∈ bytes := List.fst_mem_of_mem_zipIdx (List.mem_of_find?_eq_some hfind)
    refine iff_of_false nofun fun hall => ?_
    simp [hall entry.1 hmem] at hbad
  | none =>
    refine iff_of_true rfl fun byte hmem => ?_
    obtain ⟨index, hindex⟩ := List.mem_iff_getElem?.mp hmem
    have hentry := List.find?_eq_none.mp hfind (byte, index)
      (List.mem_zipIdx_iff_getElem?.mpr hindex)
    simpa using hentry

/-- A byte is decimal if both of its nibbles are, in whatever order they are filled. -/
theorem isDecimal_iff (order : Order) (byte : UInt8) :
    isDecimal byte = true ↔ order.first byte ≤ 9 ∧ order.second byte ≤ 9 := by
  cases order <;> simp [isDecimal, Order.first, Order.second, and_comm]

/-- Bytes are valid exactly if all their nibbles are decimal digits. -/
theorem validate_eq_ok_iff (order : Order) (bytes : Bytes) :
    validate bytes = .ok () ↔ ∀ digit ∈ order.unpack bytes, digit ≤ 9 := by
  rw [validate_eq_ok_iff_isDecimal, order.forall_mem_unpack_iff]
  simp only [isDecimal_iff order]

/-- An even field is read exactly if its bytes pass the check. -/
theorem holds_iff_validate (heven : Even count) :
    order.Holds count bytes ↔
      count / 2 ≤ bytes.length ∧ validate (bytes.take (count / 2)) = .ok () := by
  have htwo : 2 * (count / 2) = count := Nat.two_mul_div_two_of_even heven
  have hlength : byteLength count = count / 2 := by
    rw [byteLength]
    omega
  rw [Order.Holds, validate_eq_ok_iff order, ← order.take_unpack, htwo, ← hlength]
  exact and_congr_right fun h => forall_nibbleAt_iff h

/-! ## What a field depends on -/

/-- The bytes of a field are as many as its digits take. -/
theorem length_fieldBytes (h : byteLength count ≤ bytes.length) :
    (order.fieldBytes count bytes).length = byteLength count := by
  rw [Order.fieldBytes, List.length_modify, List.length_take, Nat.min_eq_left h]

/-- Bytes that are too few for a field are left as they are. -/
theorem fieldBytes_of_short (h : bytes.length < byteLength count) :
    order.fieldBytes count bytes = bytes := by
  rw [byteLength] at h
  rw [Order.fieldBytes, List.take_of_length_le (by rw [byteLength]; omega),
    List.modify_eq_self (by omega)]

/-- Clearing the nibble that an odd field leaves unused does not touch its digits. -/
theorem take_unpack_fieldBytes (h : byteLength count ≤ bytes.length) :
    (order.unpack (order.fieldBytes count bytes)).take count =
      (order.unpack bytes).take count := by
  have hcount : ((order.unpack bytes).take count).length = count := by
    rw [byteLength] at h
    rw [List.length_take, order.length_unpack]
    omega
  -- The bytes of the field are its nibbles packed again, and these are found in them.
  have hnibbles : ∀ nibble ∈ (order.unpack bytes).take count, nibble < 16 :=
    fun nibble hmem => order.lt_of_mem_unpack (List.mem_of_mem_take hmem)
  rw [← order.pack_take_unpack h, order.unpack_pack hnibbles]
  exact List.take_left' hcount

/-- Reading bytes under other names comes to the same, but for the byte that an error names. -/
theorem appendDigits_map (bytes : Bytes) (nibbles : List Nibble) (value : Nat) :
    appendDigits value
        (nibbles.map fun nibble => { nibble with byte := bytes.getD nibble.index 0 }) =
      (appendDigits value nibbles).mapError (Error.inBytes bytes) := by
  induction nibbles generalizing value with
  | nil => rfl
  | cons nibble nibbles ih =>
    rw [List.map_cons, appendDigits, appendDigits]
    by_cases hdigit : nibble.digit ≤ 9
    · rw [if_pos hdigit, if_pos hdigit, ih]
    · rw [if_neg hdigit, if_neg hdigit]
      rfl

/-- The nibble that an odd field leaves unused makes no difference, unless an error shows it. -/
theorem decode_fieldBytes (bytes : Bytes) (count : Nat) (order : Order) :
    decode bytes count order =
      (decode (order.fieldBytes count bytes) count order).mapError (Error.inBytes bytes) := by
  by_cases h : byteLength count ≤ bytes.length
  · have hlength : (order.fieldBytes count bytes).length = byteLength count :=
      length_fieldBytes h
    have hdigits : (order.field count bytes).map Nibble.digit =
        (order.field count (order.fieldBytes count bytes)).map Nibble.digit := by
      rw [order.map_digit_field, order.map_digit_field, take_unpack_fieldBytes h]
    rw [order.field_eq h, order.field_eq (Nat.le_of_eq hlength.symm), List.map_map, List.map_map,
      List.map_inj_left] at hdigits
    have hfield : order.field count bytes =
        (order.field count (order.fieldBytes count bytes)).map fun nibble =>
          { nibble with byte := bytes.getD nibble.index 0 } := by
      rw [order.field_eq h, order.field_eq (Nat.le_of_eq hlength.symm), List.map_map]
      refine List.map_congr_left fun place hmem => ?_
      -- The nibbles stand in the same places and hold the same digits.
      have hdigit := hdigits place hmem
      simp only [Function.comp_apply, Order.nibbleAt] at hdigit ⊢
      rw [hdigit]
    rw [decode, decode, if_neg (Nat.not_lt_of_le h),
      if_neg (Nat.not_lt_of_le (Nat.le_of_eq hlength.symm)), hfield, appendDigits_map]
  · have hshort := Nat.lt_of_not_le h
    rw [fieldBytes_of_short hshort, decode_of_short hshort]
    simp [Except.mapError, Error.inBytes]

/-- Bytes behind a field make no difference. -/
theorem decode_take (bytes : Bytes) (count : Nat) (order : Order) :
    decode (bytes.take (byteLength count)) count order = decode bytes count order := by
  by_cases h : byteLength count ≤ bytes.length
  · have hlength : byteLength count ≤ (bytes.take (byteLength count)).length := by
      rw [List.length_take, Nat.min_eq_left h]
    have hfield : order.field count (bytes.take (byteLength count)) = order.field count bytes := by
      rw [order.field_eq h, order.field_eq hlength]
      refine List.map_congr_left fun place hmem => ?_
      -- No slot of the field lies behind its bytes.
      have hplace : place < count := by simpa using hmem
      have hindex : (order.slot count place).1 < byteLength count := order.slot_lt hplace
      simp [Order.nibbleAt, List.getD_eq_getElem?_getD, List.getElem?_take_of_lt hindex]
    rw [decode, decode, if_neg (Nat.not_lt_of_le h), if_neg (Nat.not_lt_of_le hlength), hfield]
  · rw [List.take_of_length_le (Nat.le_of_lt (Nat.lt_of_not_le h))]

/-! ## Fields of at most 19 digits -/

/-- A field of at most 19 digits is read exactly if it is there and all its digits are decimal,
which for an even field its bytes alone decide. The result depends on the bytes of the field, and on
the nibble that an odd field leaves unused only in the byte that an error gives. The number that is
read has no more digits than the field and is written as the bytes of the field. A field that is
long enough and not read fails at its most significant digit that is not decimal, and one that is
too short fails at its first missing byte. All this goes on in a 64-bit word. -/
theorem decode_accepts (bytes : Bytes) {count : Nat} (hcount : count ≤ 19) (order : Order) :
    ((∃ value, decode bytes count order = .ok value) ↔ order.Holds count bytes) ∧
      (Even count → ((∃ value, decode bytes count order = .ok value) ↔
        count / 2 ≤ bytes.length ∧ validate (bytes.take (count / 2)) = .ok ())) ∧
      decode bytes count order = decode (bytes.take ((count + 1) / 2)) count order ∧
      decode bytes count order =
        (decode (order.fieldBytes count bytes) count order).mapError (Error.inBytes bytes) ∧
      (∀ value, decode bytes count order = .ok value →
        value < 10 ^ count ∧ encode value count order = ⟨order.fieldBytes count bytes, false⟩) ∧
      (∀ e, (count + 1) / 2 ≤ bytes.length → decode bytes count order = .error e →
        ∃ place, order.FailsAt count bytes place ∧
          e = .malformedBcd (order.nibbleAt count bytes place).index
            (order.nibbleAt count bytes place).byte) ∧
      (bytes.length < (count + 1) / 2 →
        decode bytes count order = .error (.malformedBcd bytes.length 0)) ∧
      decodeInWord bytes count order = some (decode bytes count order) := by
  refine ⟨exists_decode_iff, fun heven => ?_, (decode_take bytes count order).symm,
    decode_fieldBytes bytes count order, fun _ => encode_of_decode, fun e hlength herror => ?_,
    decode_of_short, ?_⟩
  · rw [exists_decode_iff, holds_iff_validate heven]
  · have hbad : ¬ ∀ place < count, (order.nibbleAt count bytes place).digit ≤ 9 := by
      intro hall
      rw [decode_of_holds ⟨hlength, hall⟩] at herror
      cases herror
    obtain ⟨place, hfails, hplace⟩ := exists_failsAt hlength hbad
    rw [hplace] at herror
    exact ⟨place, hfails, (Except.error.inj herror).symm⟩
  · -- Nineteen digits fit a word whatever they are, so no step is missed.
    rw [decodeInWord, decode]
    split
    next => rfl
    next hlong =>
      have hfield : 0 + (order.field count bytes).length ≤ 19 := by
        rw [order.field_eq (Nat.le_of_not_lt hlong), List.length_map, List.length_reverse,
          List.length_range]
        omega
      exact appendDigitsInWord_of_length hfield (by decide)

/-- The frequency of the twenty-metre band is read from the front of a longer reply. -/
theorem decode_accepts_twentyMetres :
    let reply : Bytes := [0x01, 0x42, 0x50, 0x00, 0x01]
    (∃ value, decode reply 8 .bigEndian = .ok value) ∧
      encode 1425000 8 .bigEndian = ⟨[0x01, 0x42, 0x50, 0x00], false⟩ := by
  intro reply
  have hcount : 8 ≤ 19 := by decide
  obtain ⟨-, hvalidate, -, -, hencode, -⟩ := decode_accepts reply hcount .bigEndian
  exact ⟨(hvalidate (by decide)).mpr ⟨by decide, by decide⟩, (hencode 1425000 (by decide)).2⟩

/-- An error about the last byte of an odd field shows the nibble that the field leaves unused. -/
theorem decode_shows_unused_nibble :
    Order.bigEndian.fieldBytes 3 [0x12, 0xAF] = Order.bigEndian.fieldBytes 3 [0x12, 0xA0] ∧
      decode [0x12, 0xAF] 3 .bigEndian = .error (.malformedBcd 1 0xAF) ∧
      decode [0x12, 0xA0] 3 .bigEndian = .error (.malformedBcd 1 0xA0) := by
  refine ⟨?_, ?_, ?_⟩ <;> decide

end Bcd

end Transceiver
