import Transceiver.Frame
import Transceiver.Line
import Transceiver.Response

/-!
# Half-Duplex Exchanges

An engine owns the channel to one radio. An exchange waits until the radio has settled after the
previous one, discards stale input, writes a frame, and reads the reply.

Nothing is tried twice unless the caller says so, and then only after a timeout, and the whole
exchange anew. Commands are never tried twice, since a second toggle would undo the first.

## Main definitions

* `Engine.execute`: one exchange, with the bytes read back;
* `Engine.executeWithRetry` and `Engine.query`: exchanges until one does not time out;
* `Engine.sendCommand`: a command, confirmed as the engine's `AckMode` says.
-/

namespace Transceiver

/-- The least settling time, in milliseconds, after commands that are not confirmed because the
radio turned out not to confirm any. -/
def fallbackSettle : Nat := 10

/-- The pace of a radio, in milliseconds. -/
structure Timing where
  /-- The pause after each byte of a frame. Without one the frame is written at once. -/
  writeDelay : Nat := 0
  /-- The quiet time after an exchange. -/
  postWriteDelay : Nat := 0
  /-- The time to wait for more bytes. -/
  timeout : Nat := 200
  /-- How many more times a query that timed out is tried. -/
  retries : Nat := 0
  deriving DecidableEq, Repr

instance : Inhabited Timing := ⟨{}⟩

/-- How commands are confirmed. -/
inductive AckMode where
  /-- By the status byte that follows. -/
  | read
  /-- Not at all. -/
  | skip
  /-- By the status byte. If none comes, but the radio answers a status query, commands are no
  longer confirmed. -/
  | detect
  deriving DecidableEq, Repr

instance : Inhabited AckMode := ⟨.read⟩

/-- How the last exchange ended. -/
inductive Progress where
  | idle
  /-- The reply came, or none was waited for. -/
  | completed
  | timedOut
  | rejected
  /-- The line failed, or the reply was malformed. -/
  | failed
  deriving DecidableEq, Repr, Inhabited

namespace Progress

/-- An exchange has ended. -/
def isTerminal : Progress → Bool
  | idle => false
  | _ => true

/-- How an exchange with a certain result ended. -/
def ofResult {α : Type} : Except Error α → Progress
  | .ok _ => completed
  | .error .timeout => timedOut
  | .error .rejected => rejected
  | .error _ => failed

end Progress

/-- The state of the exchanges with one radio. -/
structure Engine (σ : Type) where
  channel : Channel σ
  timing : Timing := {}
  sentinels : Sentinels := default
  ackMode : AckMode := .read
  /-- The query, with the length of its reply, that shows whether the radio is there. -/
  liveness : Option (Frame × Nat) := none
  progress : Progress := .idle
  /-- The earliest time of the next exchange. -/
  readyAt : Option Nat := none

namespace Engine

variable {σ : Type}

/-- The present time. -/
def now (engine : Engine σ) : Nat :=
  engine.channel.now

/-- Lets time pass between exchanges. -/
def sleep (engine : Engine σ) (duration : Nat) : Engine σ :=
  { engine with channel := engine.channel.sleep duration }

/-- Waits until the radio has settled. -/
def settle (engine : Engine σ) : Engine σ :=
  match engine.readyAt with
  | some moment =>
    { engine with channel := engine.channel.sleepUntil moment, readyAt := none }
  | none => engine

/-- Ends an exchange. -/
def finish (engine : Engine σ) (progress : Progress) : Engine σ :=
  { engine with
    progress
    readyAt :=
      -- Without a settling time there is no moment to note.
      if engine.timing.postWriteDelay = 0 then engine.readyAt
      else some (engine.now + engine.timing.postWriteDelay) }

/-- Stops confirming commands and gives the radio time to settle instead. -/
def stopConfirming (engine : Engine σ) : Engine σ :=
  { engine with
    ackMode := .skip
    timing.postWriteDelay := max engine.timing.postWriteDelay fallbackSettle }

variable [Line σ]

/-- Waits until the radio has settled and discards stale input. A failure to discard it is of no
consequence. -/
def prepare (engine : Engine σ) : Engine σ :=
  let engine := engine.settle
  { engine with channel := engine.channel.flush.2 }

/-- Writes a frame at the pace of the radio. -/
def write (engine : Engine σ) (frame : Frame) : Except Error Unit × Engine σ :=
  let (result, channel) :=
    if engine.timing.writeDelay = 0 then engine.channel.send frame.bytes
    else engine.channel.sendPaced engine.timing.writeDelay frame.bytes
  (result, { engine with channel })

/-- Reads the reply to a frame. -/
def read (engine : Engine σ) (expectation : Expectation) : Except Error Bytes × Engine σ :=
  let (gathered, channel) :=
    engine.channel.gather expectation.length engine.timing.timeout []
  (gathered.bind (expectation.conclude engine.sentinels), { engine with channel })

/-- Carries out one exchange and answers with the bytes of the reply. A failure to write ends it. -/
def execute (engine : Engine σ) (frame : Frame) (expectation : Expectation) :
    Except Error Bytes × Engine σ :=
  match engine.prepare.write frame with
  | (.error e, engine) => (.error e, engine.finish .failed)
  | (.ok (), engine) =>
    let (result, engine) := engine.read expectation
    (result, engine.finish (.ofResult result))

/-- Carries out an exchange, and again up to `retries` more times while it times out. -/
def executeWithRetry (engine : Engine σ) (frame : Frame) (expectation : Expectation)
    (retries : Nat) : Except Error Bytes × Engine σ :=
  match retries with
  | 0 => engine.execute frame expectation
  | retries + 1 =>
    match engine.execute frame expectation with
    | (.error e, engine) =>
      -- After any other failure the radio may have acted already.
      if e.isRetryable then engine.executeWithRetry frame expectation retries
      else (.error e, engine)
    | (.ok bytes, engine) => (.ok bytes, engine)

/-- Reads a block of `length` bytes, as often as the radio's timing allows. -/
def query (engine : Engine σ) (frame : Frame) (length : Nat) : Except Error Bytes × Engine σ :=
  engine.executeWithRetry frame (.block length) engine.timing.retries

/-- Writes a frame without waiting for a reply. -/
def writeOnly (engine : Engine σ) (frame : Frame) : Except Error Unit × Engine σ :=
  match engine.prepare.write frame with
  | (.error e, engine) => (.error e, engine.finish .failed)
  | (.ok (), engine) => (.ok (), engine.finish .completed)

/-- Sends a command and waits for the status byte. -/
def writeConfirmed (engine : Engine σ) (frame : Frame) : Except Error Unit × Engine σ :=
  let (result, engine) := engine.execute frame .ack
  (result.map fun _ => (), engine)

/-- Finds out why a command was not confirmed. A radio that answers the liveness query does not
confirm commands, and from now on none is expected to; otherwise it cannot be reached. -/
def checkLiveness (engine : Engine σ) : Except Error Unit × Engine σ :=
  match engine.liveness with
  | none => (.error .timeout, engine)
  | some (frame, length) =>
    match engine.execute frame (.block length) with
    -- The exchange has ended by now, with the settling time that was in force before.
    | (.ok _, engine) => (.ok (), engine.stopConfirming)
    | (.error _, engine) => (.error .timeout, engine)

/-- Sends a command, once, and confirms it as the mode says. -/
def sendCommand (engine : Engine σ) (frame : Frame) : Except Error Unit × Engine σ :=
  match engine.ackMode with
  | .skip => engine.writeOnly frame
  | .read => engine.writeConfirmed frame
  | .detect =>
    match engine.writeConfirmed frame with
    | (.error .timeout, engine) => engine.checkLiveness
    | done => done

/-- Gives the line up. -/
def close (engine : Engine σ) : Except Error Unit × Engine σ :=
  let (result, channel) := engine.channel.close
  (result, { engine with channel })

end Engine

end Transceiver
