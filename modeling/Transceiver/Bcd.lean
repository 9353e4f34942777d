import Transceiver.Error

/-!
# Packed Decimal Fields

A field of `count` decimal digits takes one nibble a digit and so `⌈count / 2⌉` bytes. Big-endian
fields start with the most significant digit in the high nibble of the first byte; little-endian
fields start with the least significant digit in the low nibble. A field with an odd number of
digits leaves the last nibble of its last byte unused: zero when written, ignored when read.

`Bcd.encode` keeps the last `count` digits of a number and says whether it dropped any.
`Bcd.decode` reads the digits from the most significant one and names the byte of the first that is
no decimal digit.
-/

namespace Transceiver.Bcd

/-- The order of the digits of a field. -/
inductive Order where
  | bigEndian
  | littleEndian
  deriving DecidableEq, Repr, Inhabited

/-- The number of bytes that `count` digits take. -/
def byteLength (count : Nat) : Nat :=
  (count + 1) / 2

/-! ## Writing -/

/-- The last `count` decimal digits of `value`, least significant first. -/
def digits (count value : Nat) : List Nat :=
  match count with
  | 0 => []
  | count + 1 => value % 10 :: digits count (value / 10)

/-- What is left of `value` when its last `count` decimal digits are taken off. -/
def leftOver (count value : Nat) : Nat :=
  match count with
  | 0 => value
  | count + 1 => leftOver count (value / 10)

/-- Two digits in one byte. -/
def packPair (high low : Nat) : UInt8 :=
  UInt8.ofNat (high * 16 + low)

/-- Packs digits two to a byte, the earlier one in the high nibble. -/
def packHighFirst : List Nat → Bytes
  | [] => []
  | [high] => [packPair high 0]
  | high :: low :: rest => packPair high low :: packHighFirst rest

/-- Packs digits two to a byte, the earlier one in the low nibble. -/
def packLowFirst : List Nat → Bytes
  | [] => []
  | [low] => [packPair 0 low]
  | low :: high :: rest => packPair high low :: packLowFirst rest

/-- A written field. -/
structure Encoding where
  bytes : Bytes
  /-- The number had more digits than the field, and its leading digits are lost. -/
  truncated : Bool
  deriving DecidableEq, Repr

/-- Writes the last `count` digits of `value`. -/
def encode (value count : Nat) (order : Order) : Encoding where
  bytes :=
    match order with
    | .bigEndian => packHighFirst (digits count value).reverse
    | .littleEndian => packLowFirst (digits count value)
  truncated := leftOver count value != 0

/-- The bytes of a field that lost no digit. -/
def Encoding.exact (field : Encoding) : Except Error Bytes :=
  if field.truncated then .error (.invalidParameter "value does not fit in BCD field")
  else .ok field.bytes

/-! ## Reading -/

/-- The high nibble of a byte. -/
def high (byte : UInt8) : Nat := byte.toNat / 16

/-- The low nibble of a byte. -/
def low (byte : UInt8) : Nat := byte.toNat % 16

/-- A nibble of a field, with the byte that holds it and that byte's index. -/
structure Nibble where
  /-- Where the byte stands in the field. -/
  index : Nat
  byte : UInt8
  digit : Nat
  deriving DecidableEq, Repr

/-- The nibbles of `bytes` in the order in which a field fills them. -/
def Order.nibbles (order : Order) (bytes : Bytes) : List Nibble :=
  bytes.zipIdx.flatMap fun (byte, index) =>
    match order with
    | .bigEndian => [⟨index, byte, high byte⟩, ⟨index, byte, low byte⟩]
    | .littleEndian => [⟨index, byte, low byte⟩, ⟨index, byte, high byte⟩]

/-- The nibbles that a field of `count` digits uses, most significant first. -/
def Order.field (order : Order) (count : Nat) (bytes : Bytes) : List Nibble :=
  -- The unused nibble of an odd field is the last one in either order.
  let used := (order.nibbles bytes).take count
  match order with
  | .bigEndian => used
  | .littleEndian => used.reverse

/-- Appends decimal digits to the number `value`, and stops at a nibble that is no digit. -/
def appendDigits (value : Nat) : List Nibble → Except Error Nat
  | [] => .ok value
  | nibble :: rest =>
    if nibble.digit ≤ 9 then appendDigits (value * 10 + nibble.digit) rest
    else .error (.malformedBcd nibble.index nibble.byte)

/-- Reads a field of `count` digits from the front of `bytes`. A field that is too short is
reported at the index of its first missing byte. -/
def decode (bytes : Bytes) (count : Nat) (order : Order) : Except Error Nat :=
  if bytes.length < byteLength count then .error (.malformedBcd bytes.length 0)
  else appendDigits 0 (order.field count bytes)

/-- Both nibbles of a byte are decimal digits. -/
def isDecimal (byte : UInt8) : Bool :=
  high byte ≤ 9 && low byte ≤ 9

/-- Checks every nibble of `bytes`, and names the first byte that is not decimal. -/
def validate (bytes : Bytes) : Except Error Unit :=
  match bytes.zipIdx.find? fun (byte, _) => !isDecimal byte with
  | some (byte, index) => .error (.malformedBcd index byte)
  | none => .ok ()

end Transceiver.Bcd
