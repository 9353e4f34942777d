import Transceiver.Hex
import Transceiver.ModelId

/-!
# Failures

`Error` lists the ways in which talking to a radio, describing one or loading a backend can fail.
`Error.message` gives the wording, and three predicates sort the causes into the classes a caller
acts on: the channel broke, the answer had the wrong shape, or trying again may help.
-/

namespace Transceiver

/-- The cause of a failure. -/
inductive Error where
  /-- The port could not be opened or set up. -/
  | transport (reason : String)
  /-- A reply stopped before it was complete. -/
  | shortRead (expected got : Nat)
  | timeout
  /-- The radio understood the command and refused it. -/
  | rejected
  /-- A reply has a length that the expected shape does not allow. -/
  | unexpectedLength (expected got : Nat)
  /-- A status byte is neither of the two that the model uses. -/
  | garbled (status : UInt8)
  /-- A reply breaks the protocol in some other way. -/
  | protocol (reason : String)
  /-- The byte at `index` of a decimal field is missing or holds a nibble above nine. -/
  | malformedBcd (index : Nat) (byte : UInt8)
  /-- Parameter `index` does not lie among the `length` parameters of a frame, or a template that
  needs parameters was used without any. -/
  | invalidTemplate (index length : Nat)
  | alreadyRegistered (id : ModelId)
  | notRegistered (id : ModelId)
  /-- A backend could not be found or did not start. -/
  | load (backend reason : String)
  /-- The reading makes no sense while transmitting, and none was taken before. -/
  | transmitting
  /-- The model or its driver lacks the operation. -/
  | unsupported (operation : String)
  /-- An argument lies outside what the model accepts. -/
  | invalidParameter (reason : String)
  | notConnected
  | connectionLost
  /-- The operating system reported a failure. -/
  | system (reason : String)
  deriving DecidableEq, Repr, Inhabited

namespace Error

/-- The wording of a failure. -/
def message : Error → String
  | transport reason => s!"transport error: {reason}"
  | shortRead expected got => s!"short read: expected {expected} bytes, got {got}"
  | timeout => "timeout waiting for response"
  | rejected => "command rejected by rig"
  | unexpectedLength expected got =>
    s!"protocol error: unexpected response length (expected {expected}, got {got})"
  | garbled status => s!"protocol error: garbled status byte 0x{Hex.byte status}"
  | protocol reason => s!"protocol error: {reason}"
  | malformedBcd index byte => s!"malformed BCD at byte {index}: 0x{Hex.byte byte}"
  | invalidTemplate index length =>
    s!"invalid frame template: parameter index {index} out of range 0..{length}"
  | alreadyRegistered id => s!"model {id} is already registered"
  | notRegistered id => s!"model {id} is not registered"
  | load backend reason => s!"failed to load backend '{backend}': {reason}"
  | transmitting => "query unavailable while transmitting"
  | unsupported operation => s!"unsupported operation: {operation}"
  | invalidParameter reason => s!"invalid parameter: {reason}"
  | notConnected => "not connected"
  | connectionLost => "connection lost"
  | system reason => s!"I/O error: {reason}"

/-- The channel to the radio failed. -/
def isChannelFailure : Error → Bool
  | transport _ | system _ | shortRead _ _ | notConnected | connectionLost => true
  | _ => false

/-- The reply did not have the shape it should have. -/
def isProtocolViolation : Error → Bool
  | unexpectedLength _ _ | garbled _ | protocol _ => true
  | _ => false

/-- The same exchange may be tried again. A refusal or a broken reply is never retried, since
sending a command twice may undo it. -/
def isRetryable : Error → Bool
  | timeout => true
  | _ => false

/-- Only a timeout is worth another try. -/
@[simp]
theorem isRetryable_iff (e : Error) : e.isRetryable = true ↔ e = timeout := by
  cases e <;> simp [isRetryable]

end Error

end Transceiver
