import Transceiver.Error

/-!
# Lines to a Radio

A line is anything that bytes can be sent over and received from. `Line` gives the four calls on it.
A call answers with a value or an error, takes some number of milliseconds, and leaves the line in a
new state. Nothing else is assumed: what holds for every instance holds for every behaviour of the
line. The calls learn the time at which they begin.

A `Channel` is a line together with the present time. Time passes only in calls and sleeps.
-/

namespace Transceiver

/-- What a call on a line led to. -/
structure Outcome (σ α : Type) where
  result : Except Error α
  /-- How many milliseconds the call took. -/
  elapsed : Nat
  line : σ

/-- An outcome on part of a larger line. -/
def Outcome.within {σ τ α : Type} (outcome : Outcome σ α) (embed : σ → τ) : Outcome τ α :=
  ⟨outcome.result, outcome.elapsed, embed outcome.line⟩

/-- The calls on a line. -/
class Line (σ : Type) where
  send (line : σ) (now : Nat) (bytes : Bytes) : Outcome σ Unit
  /-- Waits at most `timeout` milliseconds for at most `limit` bytes. -/
  receive (line : σ) (now limit timeout : Nat) : Outcome σ Bytes
  /-- Discards what has arrived. A line with nothing to discard leaves this call out. -/
  flush (line : σ) (now : Nat) : Outcome σ Unit := let _ := now; ⟨.ok (), 0, line⟩
  close (line : σ) (now : Nat) : Outcome σ Unit

/-- A line at a moment in time. -/
structure Channel (σ : Type) where
  line : σ
  /-- The present time in milliseconds. -/
  now : Nat := 0

namespace Channel

variable {σ α : Type}

/-- The channel after a call. -/
def after (channel : Channel σ) (outcome : Outcome σ α) : Channel σ :=
  ⟨outcome.line, channel.now + outcome.elapsed⟩

/-- Lets time pass. -/
def sleep (channel : Channel σ) (duration : Nat) : Channel σ :=
  { channel with now := channel.now + duration }

/-- Lets time pass until a moment, or none if the moment is past. -/
def sleepUntil (channel : Channel σ) (moment : Nat) : Channel σ :=
  { channel with now := max channel.now moment }

variable [Line σ]

/-- Sends bytes. -/
def send (channel : Channel σ) (bytes : Bytes) : Except Error Unit × Channel σ :=
  let outcome := Line.send channel.line channel.now bytes
  (outcome.result, channel.after outcome)

/-- Waits for at most `limit` bytes. -/
def receive (channel : Channel σ) (limit timeout : Nat) : Except Error Bytes × Channel σ :=
  let outcome := Line.receive channel.line channel.now limit timeout
  (outcome.result, channel.after outcome)

/-- Discards what has arrived. -/
def flush (channel : Channel σ) : Except Error Unit × Channel σ :=
  let outcome := Line.flush channel.line channel.now
  (outcome.result, channel.after outcome)

/-- Gives the line up. -/
def close (channel : Channel σ) : Except Error Unit × Channel σ :=
  let outcome := Line.close channel.line channel.now
  (outcome.result, channel.after outcome)

/-- Sends bytes one at a time and sleeps after each. The first failure ends the sending. -/
def sendPaced (channel : Channel σ) (pause : Nat) : Bytes → Except Error Unit × Channel σ
  | [] => (.ok (), channel)
  | byte :: rest =>
    match channel.send [byte] with
    | (.error e, channel) => (.error e, channel)
    | (.ok (), channel) => sendPaced (channel.sleep pause) pause rest

/-- Receives until `want` bytes have come, nothing comes any more, or a call fails. Each call asks
for the bytes still missing and may wait the whole timeout. What arrived before a timeout or an
empty reply is the answer. -/
def gather (channel : Channel σ) (want timeout : Nat) (got : Bytes) :
    Except Error Bytes × Channel σ :=
  if got.length < want then
    match channel.receive (want - got.length) timeout with
    | (.ok [], channel) => (.ok got, channel)
    | (.ok (byte :: rest), channel) => gather channel want timeout (got ++ byte :: rest)
    -- Silence is no failure here: whoever knows the expected reply decides what it means.
    | (.error .timeout, channel) => (.ok got, channel)
    | (.error e, channel) => (.error e, channel)
  else (.ok got, channel)
termination_by want - got.length
decreasing_by simp only [List.length_append, List.length_cons]; omega

end Channel

end Transceiver
