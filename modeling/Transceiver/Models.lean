import Transceiver.Descriptor

/-!
# The FT-817, FT-857 and FT-897

Three radios that share one set of commands. A frequency is eight big-endian digits in units of ten
hertz. The radios differ in coverage and pace, and in whether they confirm commands.
-/

namespace Transceiver.Models

/-- The number of the backend to which the models belong. -/
def backendNumber : Nat := 1

/-- The shared command table. -/
def commands : List (Command × Template) :=
  [(.lockOn, .complete Params.zero 0x00),
   (.lockOff, .complete Params.zero 0x80),
   (.pttOn, .complete Params.zero 0x08),
   (.pttOff, .complete #v[0x00, 0x00, 0x00, 0x01] 0x88),
   (.setFrequency, .incomplete 0x01),
   (.setMode, .incomplete 0x07),
   (.clarifierOn, .complete Params.zero 0x05),
   (.clarifierOff, .complete Params.zero 0x85),
   (.setClarifierFrequency, .incomplete 0xF5),
   (.toggleVfo, .complete Params.zero 0x81),
   (.splitOn, .complete Params.zero 0x02),
   (.splitOff, .complete Params.zero 0x82),
   (.repeaterMinus, .complete #v[0x09, 0x00, 0x00, 0x00] 0x09),
   (.repeaterPlus, .complete #v[0x49, 0x00, 0x00, 0x00] 0x09),
   (.repeaterSimplex, .complete #v[0x89, 0x00, 0x00, 0x00] 0x09),
   (.setRepeaterOffset, .incomplete 0xF9),
   (.readRxStatus, .complete Params.zero 0xE7),
   (.readTxStatus, .complete Params.zero 0xF7),
   (.readFreqMode, .complete Params.zero 0x03)]

/-- The shared mode table. Narrow FM is the only narrow mode that can be set. -/
def modes : List (Mode × UInt8) :=
  [(.lsb, 0x00),
   (.usb, 0x01),
   (.cw, 0x02),
   (.cwReverse, 0x03),
   (.am, 0x04),
   (.fmWide, 0x06),
   (.fm, 0x08),
   (.fmNarrow, 0x88),
   (.rtty, 0x0A),
   (.dataFm, 0x0C)]

/-- The coverage of the FT-817. -/
def portableRanges : List Band :=
  [.rx 100000 56000000,
   .rx 76000000 108000000,
   .rx 108000000 154000000,
   .rx 420000000 470000000,
   .tx 1800000 2000000,
   .tx 3500000 4000000,
   .tx 7000000 7300000,
   .tx 10000000 10150000,
   .tx 14000000 14350000,
   .tx 18068000 18168000,
   .tx 21000000 21450000,
   .tx 24890000 24990000,
   .tx 28000000 29700000,
   .tx 50000000 54000000,
   .tx 144000000 148000000,
   .tx 430000000 440000000]

/-- The coverage of the FT-857 and the FT-897. -/
def mobileRanges : List Band :=
  [.rx 100000 56000000,
   .rx 76000000 108000000,
   .rx 118000000 164000000,
   .rx 420000000 470000000,
   .tx 1800000 2000000,
   .tx 3500000 4000000,
   .tx 7000000 7300000,
   .tx 10100000 10150000,
   .tx 14000000 14350000,
   .tx 18068000 18168000,
   .tx 21000000 21450000,
   .tx 24890000 24990000,
   .tx 28000000 29700000,
   .tx 50000000 54000000,
   .tx 144000000 148000000,
   .tx 430000000 450000000]

/-- What the three models have in common. -/
def native (index : Nat) (modelName : String) (timing : Timing) (ackMode : AckMode)
    (ranges : List Band) : Descriptor where
  modelId := .ofBackend backendNumber index
  manufacturer := .yaesu
  modelName
  backend := "yaesu"
  timing
  ackMode
  commands
  modes
  ranges
  maxRit := 9990
  cacheLifetime := 50

/-- A portable radio. Not every FT-817 confirms commands, so this is found out on first use. -/
def ft817 : Descriptor :=
  native 20 "FT-817" { timeout := 100 } .detect portableRanges

/-- A mobile radio, which never confirms commands and is given time to settle instead. -/
def ft857 : Descriptor :=
  native 22 "FT-857" { postWriteDelay := 5 } .skip mobileRanges

/-- A base station. -/
def ft897 : Descriptor :=
  native 23 "FT-897" {} .detect mobileRanges

/-- The three models. -/
def all : List Descriptor :=
  [ft817, ft857, ft897]

end Transceiver.Models
