import Transceiver.Error
import Transceiver.Mode
import Transceiver.SignalStrength
import Transceiver.Vfo

/-!
# What a Driver Can Be Asked

`Operation` lists what can be asked of a driver and `Answer` what it may reply. A driver need not
know every operation: the ones it leaves out are refused by name.
-/

namespace Transceiver

/-- Where a repeater listens, relative to where it sends. -/
inductive RepeaterShift where
  | simplex
  | minus
  | plus
  deriving DecidableEq, Repr, Inhabited

/-- A request to a driver. Frequencies and offsets are in hertz. -/
inductive Operation where
  | getFrequency (vfo : VfoChoice)
  | setFrequency (vfo : VfoChoice) (hz : Nat)
  | getMode (vfo : VfoChoice)
  | setMode (vfo : VfoChoice) (mode : Mode)
  /-- Asks whether the transmitter is keyed. -/
  | getPtt
  | setPtt (on : Bool)
  | getSplit
  | setSplit (on : Bool)
  | toggleVfo
  /-- Sets the clarifier, which shifts the receiver alone. -/
  | setRit (offset : Int)
  | setRitEnabled (on : Bool)
  | setRepeaterShift (shift : RepeaterShift)
  | setRepeaterOffset (offset : Nat)
  | setLock (on : Bool)
  /-- Asks whether the squelch is open. -/
  | getDcd
  /-- Asks for the signal strength on the scale of the radio. -/
  | getRawStrength
  /-- Asks for the signal strength in decibels relative to S9. -/
  | getStrength
  | close
  deriving DecidableEq, Repr

/-- The reply of a driver. -/
inductive Answer where
  | done
  | frequency (hz : Nat)
  | mode (mode : Mode)
  | flag (on : Bool)
  | rawStrength (raw : UInt8)
  | strength (db : Int)
  deriving DecidableEq, Repr

namespace Operation

/-- The reply of a driver that leaves an operation out. Closing needs no driver. -/
def default : Operation → Except Error Answer
  | getFrequency _ => .error (.unsupported "get frequency not supported")
  | setFrequency _ _ => .error (.unsupported "set frequency not supported")
  | getMode _ => .error (.unsupported "get mode not supported")
  | setMode _ _ => .error (.unsupported "set mode not supported")
  | getPtt => .error (.unsupported "get PTT not supported")
  | setPtt _ => .error (.unsupported "set PTT not supported")
  | getSplit => .error (.unsupported "get split not supported")
  | setSplit _ => .error (.unsupported "set split not supported")
  | toggleVfo => .error (.unsupported "VFO toggle not supported")
  | setRit _ | setRitEnabled _ => .error (.unsupported "RIT not supported")
  | setRepeaterShift _ => .error (.unsupported "repeater shift not supported")
  | setRepeaterOffset _ => .error (.unsupported "repeater offset not supported")
  | setLock _ => .error (.unsupported "dial lock not supported")
  | getDcd => .error (.unsupported "DCD not supported")
  | getRawStrength | getStrength => .error (.unsupported "S-meter not supported")
  | close => .ok .done

/-- The reply of a driver that knows only the signal strength. -/
def fromMeter (raw : UInt8) : Operation → Except Error Answer
  | getRawStrength => .ok (.rawStrength raw)
  | getStrength => .ok (.strength (strengthDb raw))
  | operation => operation.default

end Operation

end Transceiver
