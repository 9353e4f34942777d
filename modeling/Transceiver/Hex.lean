/-!
# Bytes and Their Hexadecimal Text

Bytes travel as lists. Messages write a byte as two upper-case hexadecimal digits.
-/

namespace Transceiver

/-- Bytes in the order in which they travel on a line. -/
abbrev Bytes := List UInt8

namespace Hex

/-- The sixteen upper-case digits, by value. -/
def digits : List Char := "0123456789ABCDEF".toList

/-- The digit for a value below sixteen. -/
def digit (n : Nat) : Char :=
  digits.getD n '0'

/-- A byte as two upper-case digits. -/
def byte (b : UInt8) : String :=
  String.ofList [digit (b.toNat / 16), digit (b.toNat % 16)]

/-- Bytes in brackets, two digits each, parted by a comma and a blank. -/
def list (bytes : Bytes) : String :=
  "[" ++ ", ".intercalate (bytes.map byte) ++ "]"

end Hex

end Transceiver
