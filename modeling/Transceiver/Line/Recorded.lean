import Transceiver.Line

/-!
# Recorded Lines

A recorded line passes every call on to another line and keeps a record of the calls, each with the
time at which it began and its answer. An unflushed line passes on every call but flushes, which
succeed without doing anything.
-/

namespace Transceiver

/-- A call on a line with its answer. -/
inductive Call where
  | send (bytes : Bytes) (result : Except Error Unit)
  /-- At most `limit` bytes were asked for. -/
  | receive (limit timeout : Nat) (result : Except Error Bytes)
  | flush (result : Except Error Unit)
  | close (result : Except Error Unit)

/-- A call and the time at which it began. -/
structure CallRecord where
  /-- The time, in milliseconds. -/
  time : Nat
  call : Call

/-- A line that keeps a record of the calls on it. -/
structure RecordedLine (σ : Type) where
  /-- The line that calls are passed on to. -/
  inner : σ
  /-- The calls so far, the first one first. -/
  calls : List CallRecord := []

namespace RecordedLine

variable {σ α : Type}

/-- Records a call that began at `now`. -/
def record (line : RecordedLine σ) (now : Nat) (outcome : Outcome σ α)
    (call : Except Error α → Call) : Outcome (RecordedLine σ) α :=
  outcome.within fun inner => ⟨inner, line.calls ++ [⟨now, call outcome.result⟩]⟩

instance [Line σ] : Line (RecordedLine σ) where
  send line now bytes := line.record now (Line.send line.inner now bytes) (.send bytes)
  receive line now limit timeout :=
    line.record now (Line.receive line.inner now limit timeout) (.receive limit timeout)
  flush line now := line.record now (Line.flush line.inner now) .flush
  close line now := line.record now (Line.close line.inner now) .close

end RecordedLine

/-- A line whose input cannot be discarded. -/
structure UnflushedLine (σ : Type) where
  /-- The line that other calls are passed on to. -/
  inner : σ

instance {σ : Type} [Line σ] : Line (UnflushedLine σ) where
  send line now bytes := (Line.send line.inner now bytes).within UnflushedLine.mk
  receive line now limit timeout :=
    (Line.receive line.inner now limit timeout).within UnflushedLine.mk
  close line now := (Line.close line.inner now).within UnflushedLine.mk

end Transceiver
