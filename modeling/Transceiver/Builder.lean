import Transceiver.Driver

/-!
# Opening a Radio

A builder holds a model and what a caller wants otherwise for one session: another pace, another
lifetime of status replies, the port, the baud rate. Without a baud rate it takes the lowest, which
is the one set in the factory.
-/

namespace Transceiver

/-- A model with the settings of one session. -/
structure Builder where
  /-- The model, with the pace and the lifetime of replies that the session asks for. -/
  descriptor : Descriptor
  /-- The port that the radio is connected to. -/
  port : Option String := none
  /-- The baud rate that the session asks for. -/
  baud : Option Nat := none

namespace Builder

/-- Chooses the port. -/
def onPort (builder : Builder) (port : String) : Builder :=
  { builder with port := some port }

/-- Chooses the baud rate. -/
def atBaud (builder : Builder) (baud : Nat) : Builder :=
  { builder with baud := some baud }

/-- Chooses how long to wait for a reply. -/
def withTimeout (builder : Builder) (timeout : Nat) : Builder :=
  { builder with descriptor.timing.timeout := timeout }

/-- Chooses how often a query that timed out is tried again. -/
def withRetries (builder : Builder) (retries : Nat) : Builder :=
  { builder with descriptor.timing.retries := retries }

/-- Chooses the pause after each byte. -/
def withWriteDelay (builder : Builder) (delay : Nat) : Builder :=
  { builder with descriptor.timing.writeDelay := delay }

/-- Chooses the quiet time after an exchange. -/
def withPostWriteDelay (builder : Builder) (delay : Nat) : Builder :=
  { builder with descriptor.timing.postWriteDelay := delay }

/-- Chooses how long a status reply is good for. -/
def withCacheLifetime (builder : Builder) (lifetime : Nat) : Builder :=
  { builder with descriptor.cacheLifetime := lifetime }

/-- The baud rate of the session, if the model works at it. -/
def resolvedBaud (builder : Builder) : Except Error Nat :=
  let descriptor := builder.descriptor
  let serial := descriptor.serial
  let baud := builder.baud.getD serial.baudMin
  if serial.supports baud then .ok baud
  else .error (.invalidParameter
    s!"{descriptor.modelName} supports {serial.baudMin}-{serial.baudMax} baud, not {baud}")

/-- Opens the model on a channel. The baud rate has to be one the model works at even though the
channel no longer needs it. -/
def buildOn {σ : Type} (builder : Builder) (channel : Channel σ) : Except Error (Driver σ) := do
  let _ ← builder.resolvedBaud
  builder.descriptor.openOn channel

/-- Opens the port and the model on it. -/
def build {σ : Type} (builder : Builder) (openPort : PortOpener σ) : Except Error (Driver σ) := do
  match builder.port with
  | none => throw (.invalidParameter "serial_port is required for build()")
  | some port =>
    -- A rate that the model does not work at is refused before the port is touched.
    let baud ← builder.resolvedBaud
    let line ← openPort port (builder.descriptor.serial.at baud)
    builder.buildOn ⟨line, 0⟩

end Builder

end Transceiver
