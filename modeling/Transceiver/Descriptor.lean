import Transceiver.Band
import Transceiver.Bcd
import Transceiver.Engine
import Transceiver.Mode
import Transceiver.RigInfo
import Transceiver.Serial

/-!
# Descriptions of Models

A descriptor holds everything there is to know about one model: who it is, how its line is set up
and paced, which frames make up its commands, which codes stand for its modes, and where it receives
and transmits. In each table the first entry for a key counts.
-/

namespace Transceiver

/-- An operation for which a model may have a frame. -/
inductive Command where
  | lockOn
  | lockOff
  | pttOn
  | pttOff
  | setFrequency
  /-- The first parameter is the code of the mode. -/
  | setMode
  | clarifierOn
  | clarifierOff
  | setClarifierFrequency
  | toggleVfo
  | splitOn
  | splitOff
  | repeaterMinus
  | repeaterPlus
  | repeaterSimplex
  | setRepeaterOffset
  | readRxStatus
  | readTxStatus
  | readFreqMode
  deriving DecidableEq, Repr, Inhabited

namespace Command

/-- Every command. -/
def all : List Command :=
  [lockOn, lockOff, pttOn, pttOff, setFrequency, setMode, clarifierOn, clarifierOff,
    setClarifierFrequency, toggleVfo, splitOn, splitOff, repeaterMinus, repeaterPlus,
    repeaterSimplex, setRepeaterOffset, readRxStatus, readTxStatus, readFreqMode]

/-- The name of a command. -/
def name : Command → String
  | lockOn => "LockOn"
  | lockOff => "LockOff"
  | pttOn => "PttOn"
  | pttOff => "PttOff"
  | setFrequency => "SetFrequency"
  | setMode => "SetMode"
  | clarifierOn => "ClarifierOn"
  | clarifierOff => "ClarifierOff"
  | setClarifierFrequency => "SetClarifierFrequency"
  | toggleVfo => "ToggleVfo"
  | splitOn => "SplitOn"
  | splitOff => "SplitOff"
  | repeaterMinus => "RepeaterMinus"
  | repeaterPlus => "RepeaterPlus"
  | repeaterSimplex => "RepeaterSimplex"
  | setRepeaterOffset => "SetRepeaterOffset"
  | readRxStatus => "ReadRxStatus"
  | readTxStatus => "ReadTxStatus"
  | readFreqMode => "ReadFreqMode"

end Command

/-- The driver that a model is operated with. -/
inductive DriverKind where
  /-- The driver for radios with five-byte commands. -/
  | fiveByte
  /-- A driver that knows who the radio is and nothing else. -/
  | identity
  /-- A driver that also has a meter, which shows the number of the model. -/
  | meter
  /-- No driver: opening the model fails. -/
  | refused
  deriving DecidableEq, Repr, Inhabited

/-- A loaded module that descriptors came from. -/
structure ModuleHandle where
  name : String
  deriving DecidableEq, Repr

/-- Everything there is to know about a model. -/
structure Descriptor where
  modelId : ModelId
  manufacturer : Manufacturer
  modelName : String
  /-- The name of the backend that registers it. -/
  backend : String
  serial : SerialSettings := {}
  timing : Timing := {}
  sentinels : Sentinels := default
  ackMode : AckMode := .read
  /-- The order of the digits in frequency fields. -/
  freqOrder : Bcd.Order := .bigEndian
  commands : List (Command × Template)
  modes : List (Mode × UInt8)
  ranges : List Band
  /-- The largest clarifier offset, in hertz. -/
  maxRit : Nat
  /-- How long a status reply is good for, in milliseconds. -/
  cacheLifetime : Nat
  driver : DriverKind := .fiveByte
  /-- The module it came from, if it did not come with the program. -/
  module : Option ModuleHandle := none
  deriving DecidableEq, Repr

namespace Descriptor

/-- The frame of a command, as a template. -/
def template (descriptor : Descriptor) (command : Command) : Except Error Template :=
  match descriptor.commands.lookup command with
  | some template => .ok template
  | none => .error (.unsupported s!"{command.name} on {descriptor.modelName}")

/-- The frame of a command that takes no parameters. -/
def frame (descriptor : Descriptor) (command : Command) : Except Error Frame :=
  (descriptor.template command).bind Template.frame

/-- The model has a frame for a command. -/
def supports (descriptor : Descriptor) (command : Command) : Bool :=
  descriptor.commands.any fun entry => entry.1 == command

/-- The code of a mode. -/
def modeCode (descriptor : Descriptor) (mode : Mode) : Option UInt8 :=
  descriptor.modes.lookup mode

/-- The mode with a certain code. -/
def modeOfCode (descriptor : Descriptor) (code : UInt8) : Option Mode :=
  (descriptor.modes.find? fun entry => entry.2 == code).map Prod.fst

/-- The model receives a frequency. -/
def canReceive (descriptor : Descriptor) (hz : Nat) : Bool :=
  descriptor.ranges.any fun band => !band.transmit && band.contains hz

/-- The model transmits on a frequency. -/
def canTransmit (descriptor : Descriptor) (hz : Nat) : Bool :=
  descriptor.ranges.any fun band => band.transmit && band.contains hz

/-- How the model presents itself. -/
def info (descriptor : Descriptor) : RigInfo :=
  ⟨descriptor.manufacturer, descriptor.modelName, descriptor.modelId⟩

end Descriptor

end Transceiver
