import Transceiver.Letter

/-!
# Operating Modes

`Mode.name` is the text of a mode and `Mode.parse` reads it back in any letter case. The data modes
are also known by shorter names.
-/

namespace Transceiver

/-- An operating mode. -/
inductive Mode where
  /-- Upper sideband voice. -/
  | usb
  /-- Lower sideband voice. -/
  | lsb
  /-- Morse telegraphy. -/
  | cw
  /-- Morse telegraphy on the other sideband. -/
  | cwReverse
  /-- Amplitude modulation. -/
  | am
  /-- Frequency modulation. -/
  | fm
  /-- Narrow frequency modulation. -/
  | fmNarrow
  /-- Broadcast frequency modulation. -/
  | fmWide
  /-- Radio teletype. -/
  | rtty
  /-- Radio teletype on the other sideband. -/
  | rttyReverse
  /-- Data on the upper sideband. -/
  | dataUsb
  /-- Data on the lower sideband. -/
  | dataLsb
  /-- Data by frequency modulation. -/
  | dataFm
  deriving DecidableEq, Repr, Inhabited

namespace Mode

/-- Every mode. -/
def all : List Mode :=
  [usb, lsb, cw, cwReverse, am, fm, fmNarrow, fmWide, rtty, rttyReverse, dataUsb, dataLsb, dataFm]

/-- The text of a mode. -/
def name : Mode → String
  | usb => "USB"
  | lsb => "LSB"
  | cw => "CW"
  | cwReverse => "CWR"
  | am => "AM"
  | fm => "FM"
  | fmNarrow => "FM-N"
  | fmWide => "WFM"
  | rtty => "RTTY"
  | rttyReverse => "RTTYR"
  | dataUsb => "DATA-USB"
  | dataLsb => "DATA-LSB"
  | dataFm => "DATA-FM"

/-- The other names of a mode. -/
def aliases : Mode → List String
  | fmNarrow => ["FMN"]
  | dataUsb => ["DATAUSB", "PKTUSB"]
  | dataLsb => ["DATALSB", "PKTLSB"]
  | dataFm => ["DATAFM", "PKTFM"]
  | _ => []

instance : ToString Mode := ⟨name⟩

/-- A text that names no mode. -/
structure ParseError where
  /-- The text as it was given. -/
  text : String
  deriving DecidableEq, Repr

/-- The wording of a failure to read a mode. -/
def ParseError.message (e : ParseError) : String :=
  s!"unknown mode: {e.text}"

/-- Reads the name of a mode in any letter case. -/
def parse (text : String) : Except ParseError Mode :=
  let upper := Letter.upperCase text
  match all.find? fun mode => (mode.name :: mode.aliases).contains upper with
  | some mode => .ok mode
  | none => .error ⟨text⟩

end Mode

end Transceiver
