import Mathlib.Data.List.GetD
import Transceiver.Proofs.Bcd.Digits

/-!
# Where the Digits of a Field Stand

A field is filled nibble by nibble, from its most significant digit in big-endian order and from its
least significant one in little-endian order. `Order.pack` fills bytes with a list of nibbles and
`Order.unpack` lists the nibbles of bytes; each undoes the other, but for the nibble that an odd
field leaves unused (`Order.unpack_pack`, `Order.pack_take_unpack`). So both orders are written and
read by the same two functions, which only take the digits in different order (`bytes_encode`,
`map_digit_field`).

`Order.slot` says for each digit, counted from the least significant one, which byte holds it and in
which half. `Order.field_eq` says that reading goes through the slots from the most significant
digit downwards.
-/

namespace Transceiver.Bcd

namespace Order

/-! ## The two nibbles of a byte -/

/-- The nibble of a byte that a field fills first. -/
def first : Order → UInt8 → Nat
  | .bigEndian => high
  | .littleEndian => low

/-- The nibble of a byte that a field fills last. -/
def second : Order → UInt8 → Nat
  | .bigEndian => low
  | .littleEndian => high

/-- The byte that is filled with two nibbles. -/
def join : Order → Nat → Nat → UInt8
  | .bigEndian, first, second => packPair first second
  | .littleEndian, first, second => packPair second first

end Order

/-- The value of a byte that is packed from two nibbles. -/
theorem toNat_packPair {upper lower : Nat} (hupper : upper < 16) (hlower : lower < 16) :
    (packPair upper lower).toNat = upper * 16 + lower :=
  UInt8.toNat_ofNat_of_lt (by rw [UInt8.size]; omega)

/-- The high nibble of a packed byte is the first of the two. -/
theorem high_packPair {upper lower : Nat} (hupper : upper < 16) (hlower : lower < 16) :
    high (packPair upper lower) = upper := by
  rw [high, toNat_packPair hupper hlower]
  omega

/-- The low nibble of a packed byte is the second of the two. -/
theorem low_packPair {upper lower : Nat} (hupper : upper < 16) (hlower : lower < 16) :
    low (packPair upper lower) = lower := by
  rw [low, toNat_packPair hupper hlower]
  omega

/-- A byte is packed from its own nibbles. -/
theorem packPair_high_low (byte : UInt8) : packPair (high byte) (low byte) = byte := by
  have hsum : high byte * 16 + low byte = byte.toNat := by
    rw [high, low]
    omega
  rw [packPair, hsum, UInt8.ofNat_toNat]

/-- A high nibble is a hexadecimal digit. -/
theorem high_lt (byte : UInt8) : high byte < 16 := by
  have hlt : byte.toNat < 256 := byte.toNat_lt
  rw [high]
  omega

/-- A low nibble is a hexadecimal digit. -/
theorem low_lt (byte : UInt8) : low byte < 16 :=
  Nat.mod_lt _ (by decide)

namespace Order

variable (order : Order)

/-- The nibble that is filled first is found again. -/
theorem first_join {a b : Nat} (ha : a < 16) (hb : b < 16) : order.first (order.join a b) = a := by
  cases order with
  | bigEndian => exact high_packPair ha hb
  | littleEndian => exact low_packPair hb ha

/-- The nibble that is filled last is found again. -/
theorem second_join {a b : Nat} (ha : a < 16) (hb : b < 16) :
    order.second (order.join a b) = b := by
  cases order with
  | bigEndian => exact low_packPair ha hb
  | littleEndian => exact high_packPair hb ha

/-- A byte is filled with its own nibbles. -/
theorem join_first_second (byte : UInt8) :
    order.join (order.first byte) (order.second byte) = byte := by
  cases order <;> exact packPair_high_low byte

/-- The nibble that is filled first is a hexadecimal digit. -/
theorem first_lt (byte : UInt8) : order.first byte < 16 := by
  cases order with
  | bigEndian => exact high_lt byte
  | littleEndian => exact low_lt byte

/-- The nibble that is filled last is a hexadecimal digit. -/
theorem second_lt (byte : UInt8) : order.second byte < 16 := by
  cases order with
  | bigEndian => exact low_lt byte
  | littleEndian => exact high_lt byte

/-- A byte of which only the nibble that is filled first is kept. -/
def clearSecond (byte : UInt8) : UInt8 :=
  order.join (order.first byte) 0

/-! ## Lists of nibbles -/

/-- The bytes that are filled with a list of nibbles. -/
def pack : Order → List Nat → Bytes
  | .bigEndian => packHighFirst
  | .littleEndian => packLowFirst

/-- The nibbles of bytes, in the order in which a field fills them. -/
def unpack (bytes : Bytes) : List Nat :=
  bytes.flatMap fun byte => [order.first byte, order.second byte]

/-- Without nibbles there are no bytes. -/
theorem pack_nil : order.pack [] = [] := by
  cases order <;> rfl

/-- A single nibble takes a byte, whose other nibble is zero. -/
theorem pack_singleton (a : Nat) : order.pack [a] = [order.join a 0] := by
  cases order <;> rfl

/-- Two nibbles fill a byte. -/
theorem pack_cons_cons (a b : Nat) (rest : List Nat) :
    order.pack (a :: b :: rest) = order.join a b :: order.pack rest := by
  cases order <;> rfl

/-- The nibbles of the first byte come first. -/
theorem unpack_cons (byte : UInt8) (bytes : Bytes) :
    order.unpack (byte :: bytes) = order.first byte :: order.second byte :: order.unpack bytes :=
  rfl

/-- A list of nibbles takes one byte for every two of them. -/
theorem length_pack : ∀ nibbles, (order.pack nibbles).length = byteLength nibbles.length
  | [] => by rw [pack_nil]; rfl
  | [a] => by simp [pack_singleton, byteLength]
  | a :: b :: rest => by
    rw [pack_cons_cons, List.length_cons, length_pack rest, byteLength, byteLength,
      List.length_cons, List.length_cons]
    omega

/-- Nibbles are found again in the bytes that they fill. If their number is odd, the nibble that is
left over is zero. -/
theorem unpack_pack : ∀ {nibbles : List Nat}, (∀ nibble ∈ nibbles, nibble < 16) →
    order.unpack (order.pack nibbles) = nibbles ++ List.replicate (nibbles.length % 2) 0
  | [], _ => by rw [pack_nil]; rfl
  | [a], h => by
    have ha : a < 16 := h a List.mem_cons_self
    rw [pack_singleton, unpack_cons, order.first_join ha (by decide),
      order.second_join ha (by decide)]
    rfl
  | a :: b :: rest, h => by
    obtain ⟨ha, h⟩ := List.forall_mem_cons.mp h
    obtain ⟨hb, hrest⟩ := List.forall_mem_cons.mp h
    have hparity : (rest.length + 1 + 1) % 2 = rest.length % 2 := by omega
    rw [pack_cons_cons, unpack_cons, order.first_join ha hb, order.second_join ha hb,
      unpack_pack hrest, List.length_cons, List.length_cons, hparity]
    rfl

/-- There are two nibbles in a byte. -/
theorem length_unpack (bytes : Bytes) : (order.unpack bytes).length = 2 * bytes.length := by
  induction bytes with
  | nil => rfl
  | cons byte bytes ih =>
    rw [unpack_cons, List.length_cons, List.length_cons, ih, List.length_cons]
    omega

/-- A property of all nibbles is a property of both nibbles of each byte. -/
theorem forall_mem_unpack_iff {p : Nat → Prop} {bytes : Bytes} :
    (∀ nibble ∈ order.unpack bytes, p nibble) ↔
      ∀ byte ∈ bytes, p (order.first byte) ∧ p (order.second byte) := by
  induction bytes with
  | nil => simp [unpack]
  | cons byte bytes ih =>
    rw [unpack_cons, List.forall_mem_cons, List.forall_mem_cons, ih, List.forall_mem_cons,
      and_assoc]

/-- The nibbles of bytes are hexadecimal digits. -/
theorem lt_of_mem_unpack {nibble : Nat} {bytes : Bytes} (h : nibble ∈ order.unpack bytes) :
    nibble < 16 := by
  have hall : ∀ nibble ∈ order.unpack bytes, nibble < 16 :=
    order.forall_mem_unpack_iff.mpr fun byte _ => ⟨order.first_lt byte, order.second_lt byte⟩
  exact hall nibble h

/-- The nibble that is filled last belongs to the last byte. -/
theorem getLast?_unpack (bytes : Bytes) :
    (order.unpack bytes).getLast? = bytes.getLast?.map order.second := by
  induction bytes with
  | nil => rfl
  | cons byte bytes ih =>
    cases bytes with
    | nil => rfl
    | cons next bytes =>
      rw [List.getLast?_cons_cons, ← ih]
      rfl

/-- Pairs of nibbles are bytes. -/
theorem take_unpack (count : Nat) (bytes : Bytes) :
    (order.unpack bytes).take (2 * count) = order.unpack (bytes.take count) := by
  induction count generalizing bytes with
  | zero => rfl
  | succ count ih =>
    cases bytes with
    | nil => simp [unpack]
    | cons byte bytes =>
      rw [Nat.mul_succ, unpack_cons, List.take_succ_cons, List.take_succ_cons, ih,
        List.take_succ_cons, unpack_cons]

/-- The bytes of a field of `count` digits at the front of `bytes`. The nibble that an odd field
leaves unused is zero. -/
def fieldBytes (count : Nat) (bytes : Bytes) : Bytes :=
  -- In an even field no byte has this index.
  (bytes.take (byteLength count)).modify (count / 2) order.clearSecond

-- The recursion takes two digits and one byte at a time, as `pack` does.
/-- The nibbles of a field, packed again, fill the bytes of the field. -/
theorem pack_take_unpack : ∀ {count : Nat} {bytes : Bytes}, byteLength count ≤ bytes.length →
    order.pack ((order.unpack bytes).take count) = order.fieldBytes count bytes
  | 0, bytes, _ => by
    rw [List.take_zero, pack_nil, fieldBytes]
    rfl
  | count + 1, [], h => by
    rw [byteLength, List.length_nil] at h
    omega
  | 1, byte :: bytes, _ => by
    rw [unpack_cons, List.take_succ_cons, List.take_zero, pack_singleton, fieldBytes]
    rfl
  | count + 2, byte :: bytes, h => by
    have hlength : byteLength (count + 2) = byteLength count + 1 := by
      rw [byteLength, byteLength]
      omega
    have hlast : (count + 2) / 2 = count / 2 + 1 := by omega
    have hrest : byteLength count ≤ bytes.length := by
      rw [hlength, List.length_cons] at h
      omega
    rw [unpack_cons, List.take_succ_cons, List.take_succ_cons, pack_cons_cons,
      pack_take_unpack hrest, order.join_first_second, fieldBytes, fieldBytes, hlength, hlast,
      List.take_succ_cons, List.modify_succ_cons]

/-! ## The order of the digits -/

/-- The digits of a number, given least significant first, in the order in which they fill a
field. -/
def arrange : Order → List Nat → List Nat
  | .bigEndian => List.reverse
  | .littleEndian => id

/-- Arranging digits twice brings them back into their order. -/
theorem arrange_arrange (ds : List Nat) : order.arrange (order.arrange ds) = ds := by
  cases order with
  | bigEndian => exact List.reverse_reverse ds
  | littleEndian => rfl

/-- Arranging digits loses none. -/
theorem length_arrange (ds : List Nat) : (order.arrange ds).length = ds.length := by
  cases order with
  | bigEndian => exact List.length_reverse
  | littleEndian => rfl

/-- Arranging digits keeps which ones there are. -/
theorem mem_arrange {digit : Nat} {ds : List Nat} : digit ∈ order.arrange ds ↔ digit ∈ ds := by
  cases order with
  | bigEndian => exact List.mem_reverse
  | littleEndian => exact Iff.rfl

end Order

/-- A field is written by packing its digits in the order in which they fill it. -/
theorem bytes_encode (value count : Nat) (order : Order) :
    (encode value count order).bytes = order.pack (order.arrange (digits count value)) := by
  cases order <;> rfl

namespace Order

variable (order : Order)

/-- The nibbles of one byte. -/
def nibblesOf (entry : UInt8 × Nat) : List Nibble :=
  [⟨entry.2, entry.1, order.first entry.1⟩, ⟨entry.2, entry.1, order.second entry.1⟩]

/-- The nibbles of bytes in either order, byte by byte. -/
theorem nibbles_eq (bytes : Bytes) :
    order.nibbles bytes = bytes.zipIdx.flatMap order.nibblesOf := by
  cases order <;> rfl

/-- The digits that a field takes its nibbles for are those that `unpack` lists. -/
theorem map_digit_nibbles (bytes : Bytes) :
    (order.nibbles bytes).map Nibble.digit = order.unpack bytes := by
  rw [nibbles_eq]
  -- The indices do not matter, so they may start anywhere.
  generalize 0 = start
  induction bytes generalizing start with
  | nil => rfl
  | cons byte bytes ih =>
    rw [List.zipIdx_cons, List.flatMap_cons, List.map_append, ih]
    rfl

/-- The digits of a field, as it is read, are its nibbles in the order of significance. -/
theorem map_digit_field (count : Nat) (bytes : Bytes) :
    (order.field count bytes).map Nibble.digit =
      (order.arrange ((order.unpack bytes).take count)).reverse := by
  rw [← map_digit_nibbles, ← List.map_take]
  cases order with
  | bigEndian => exact (List.reverse_reverse _).symm
  | littleEndian => exact List.map_reverse

/-! ## Slots -/

/-- Where digit `place` of a field of `count` digits stands, counted from the least significant: the
index of its byte, and whether it takes the high nibble. -/
def slot : Order → Nat → Nat → Nat × Bool
  | .bigEndian, count, place => ((count - 1 - place) / 2, (count - 1 - place) % 2 == 0)
  | .littleEndian, _, place => (place / 2, place % 2 == 1)

/-- The slots of a field lie in its bytes. -/
theorem slot_lt {count place : Nat} (h : place < count) :
    (order.slot count place).1 < byteLength count := by
  rw [byteLength]
  cases order with
  | bigEndian =>
    rw [slot]
    omega
  | littleEndian =>
    rw [slot]
    omega

/-- The nibble of digit `place` of a field of `count` digits. -/
def nibbleAt (count : Nat) (bytes : Bytes) (place : Nat) : Nibble :=
  let (index, isHigh) := order.slot count place
  let byte := bytes.getD index 0
  ⟨index, byte, if isHigh then high byte else low byte⟩

/-- The nibble that is filled after `position` others. -/
def nibbleOf (bytes : Bytes) (position : Nat) : Nibble :=
  let byte := bytes.getD (position / 2) 0
  ⟨position / 2, byte, if position % 2 = 0 then order.first byte else order.second byte⟩

/-- Where a nibble stands: two places for each byte, whose index counts from `start`. -/
theorem getElem?_flatMap_nibblesOf (bytes : Bytes) (start position : Nat) :
    ((bytes.zipIdx start).flatMap order.nibblesOf)[position]? =
      bytes[position / 2]?.map fun byte =>
        ⟨start + position / 2, byte,
          if position % 2 = 0 then order.first byte else order.second byte⟩ := by
  induction bytes generalizing start position with
  | nil => rfl
  | cons byte bytes ih =>
    rw [List.zipIdx_cons, List.flatMap_cons]
    match position with
    | 0 => rfl
    | 1 => rfl
    | position + 2 =>
      have hdiv : (position + 2) / 2 = position / 2 + 1 := by omega
      have hmod : (position + 2) % 2 = position % 2 := by omega
      have hindex : start + 1 + position / 2 = start + (position / 2 + 1) := by omega
      rw [hdiv, hmod, List.getElem?_cons_succ, ← hindex]
      exact ih (start + 1) position

/-- A field takes the first nibbles. -/
theorem take_nibbles {count : Nat} {bytes : Bytes} (h : byteLength count ≤ bytes.length) :
    (order.nibbles bytes).take count = (List.range count).map (order.nibbleOf bytes) := by
  rw [byteLength] at h
  apply List.ext_getElem?
  intro position
  rw [List.getElem?_take, nibbles_eq, getElem?_flatMap_nibblesOf, List.getElem?_map]
  split
  next hlt =>
    have hindex : position / 2 < bytes.length := by omega
    rw [List.getElem?_range hlt, List.getElem?_eq_getElem hindex, Option.map_some,
      Option.map_some, nibbleOf, List.getD_eq_getElem _ _ hindex, Nat.zero_add]
  next hge => rw [List.getElem?_eq_none (by simpa using hge), Option.map_none]

/-- A field is read slot by slot, from the most significant digit downwards. -/
theorem field_eq {count : Nat} {bytes : Bytes} (h : byteLength count ≤ bytes.length) :
    order.field count bytes = (List.range count).reverse.map (order.nibbleAt count bytes) := by
  have htake := order.take_nibbles h
  cases order with
  | bigEndian =>
    -- The field is filled from the most significant digit.
    rw [field, htake, List.map_reverse]
    apply List.ext_getElem
    · simp
    · intro position hlt _
      have hposition : position < count := by simpa using hlt
      have hplace : count - 1 - (count - 1 - position) = position := by omega
      simp [nibbleAt, nibbleOf, slot, first, second, hplace]
  | littleEndian =>
    -- The field is filled from the least significant digit.
    rw [field, htake, ← List.map_reverse]
    apply List.map_congr_left
    intro place _
    rcases Nat.mod_two_eq_zero_or_one place with heven | hodd
    · simp [nibbleAt, nibbleOf, slot, first, heven]
    · simp [nibbleAt, nibbleOf, slot, second, hodd]

/-- The least significant digit of three stands alone in its byte in big-endian order. -/
example : (bigEndian.slot 3 0, bigEndian.slot 3 1, bigEndian.slot 3 2) =
    ((1, true), (0, false), (0, true)) := rfl

/-- The most significant digit of three stands alone in its byte in little-endian order. -/
example : (littleEndian.slot 3 0, littleEndian.slot 3 1, littleEndian.slot 3 2) =
    ((0, false), (0, true), (1, false)) := rfl

end Order

end Transceiver.Bcd
