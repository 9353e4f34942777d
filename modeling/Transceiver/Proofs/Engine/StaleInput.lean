import Transceiver.Line.Scripted
import Transceiver.Proofs.Line.View
import Mathlib.Data.List.Forall2

/-!
# Stale Input

Bytes may wait on a line before an exchange begins: the radio sent them unasked, or they are what is
left of an earlier reply. They must not be taken for the reply to the next frame. Every exchange,
each further attempt and the liveness query included, begins with a flush, and a flush that succeeds
discards them.

`Line.FlushesAlike` says that a flush removes all that sets two lines apart. On such lines an engine
cannot tell which one it is set on as soon as it makes an exchange.

## Main statements

* `Engine.perform_withLine`: requests are answered alike on lines that flush alike;
* `Engine.staleHistory_alike`: runs that differ only in the bytes that wait before each request are
  alike.
-/

namespace Transceiver

variable {σ : Type}

/-- A flush leaves the same line of both. -/
def Line.FlushesAlike [Line σ] (line other : σ) : Prop :=
  ∀ now, Line.flush other now = Line.flush line now

/-! ## Engines on lines that flush alike -/

namespace Engine

/-- The engine on another line. -/
def withLine (engine : Engine σ) (line : σ) : Engine σ :=
  { engine with channel := { engine.channel with line } }

variable [Line σ] {engine : Engine σ} {line : σ}

section

variable (h : Line.FlushesAlike engine.channel.line line)

include h

/-- What sets the lines apart is gone before anything is written. -/
theorem prepare_withLine : (engine.withLine line).prepare = engine.prepare := by
  rcases engine with ⟨channel, timing, sentinels, ackMode, liveness, progress, _ | moment⟩
  · simp [prepare, settle, withLine, Channel.flush, Channel.after, h channel.now]
  · simp [prepare, settle, withLine, Channel.flush, Channel.after, Channel.sleepUntil,
      h (max channel.now moment)]

/-- An exchange starts with the flush, so it does not tell the lines apart. -/
theorem execute_withLine (frame : Frame) (expectation : Expectation) :
    (engine.withLine line).execute frame expectation = engine.execute frame expectation := by
  rw [execute, execute, prepare_withLine h]

/-- Nor does an exchange that reads nothing. -/
theorem writeOnly_withLine (frame : Frame) :
    (engine.withLine line).writeOnly frame = engine.writeOnly frame := by
  rw [writeOnly, writeOnly, prepare_withLine h]

/-- Nor does trying again, since the first attempt leaves the same line. -/
theorem executeWithRetry_withLine (frame : Frame) (expectation : Expectation) (retries : Nat) :
    (engine.withLine line).executeWithRetry frame expectation retries =
      engine.executeWithRetry frame expectation retries := by
  -- Further attempts start from the engine that the first one left, which is the same already.
  cases retries with
  | zero => exact execute_withLine h frame expectation
  | succ retries => rw [executeWithRetry, executeWithRetry, execute_withLine h]

/-- Nor does sending a command. -/
theorem sendCommand_withLine (frame : Frame) :
    (engine.withLine line).sendCommand frame = engine.sendCommand frame := by
  have hmode : (engine.withLine line).ackMode = engine.ackMode := rfl
  simp only [sendCommand, hmode, writeOnly_withLine h, writeConfirmed, execute_withLine h]

/-- A request for which a frame is written is answered alike, and leaves the same engine behind. -/
theorem perform_withLine {request : Request} (hframe : request.frame?.isSome) :
    (engine.withLine line).perform request = engine.perform request := by
  cases request with
  | execute frame expectation => exact execute_withLine h frame expectation
  | executeWithRetry frame expectation retries =>
    exact executeWithRetry_withLine h frame expectation retries
  | query frame length => exact executeWithRetry_withLine h frame (.block length) _
  | sendCommand frame => simp only [perform, sendCommand_withLine h]
  | sleep duration => simp [Request.frame?] at hframe

end

/-! ## Engines on a scripted line -/

/-- Leaves bytes waiting on the line, in place of any that are. -/
def injectStale (engine : Engine (RecordedLine ScriptedLine)) (bytes : Bytes) :
    Engine (RecordedLine ScriptedLine) :=
  engine.withLine
    { engine.channel.line with inner := engine.channel.line.inner.injectStale bytes }

/-- Leaves bytes waiting on the line, or those that are. -/
def leaveWaiting (engine : Engine (RecordedLine ScriptedLine)) :
    Option Bytes → Engine (RecordedLine ScriptedLine)
  | none => engine
  | some bytes => engine.injectStale bytes

/-- The answer to each request with the engine after it. Before each request bytes may be left
waiting. -/
def staleHistory (engine : Engine (RecordedLine ScriptedLine)) :
    List (Option Bytes × Request) →
      List (Except Error Bytes × Engine (RecordedLine ScriptedLine))
  | [] => []
  | (stale, request) :: requests =>
    (engine.leaveWaiting stale).perform request ::
      ((engine.leaveWaiting stale).perform request).2.staleHistory requests

end Engine

namespace ScriptedLine

/-- A scripted line whose flushes succeed flushes alike whatever waits on it. -/
theorem flushesAlike_injectStale {line : RecordedLine ScriptedLine}
    (hflush : line.inner.flushFails = false) (bytes : Bytes) :
    Line.FlushesAlike line { line with inner := line.inner.injectStale bytes } := by
  have hsame : (line.inner.injectStale bytes).flush = line.inner.flush := by
    simp [flush, injectStale, hflush]
  intro now
  change line.record now (Line.flush (line.inner.injectStale bytes) now) .flush =
    line.record now (Line.flush line.inner now) .flush
  rw [flush_eq, flush_eq, hsame]

/-- Hearing bytes does not change whether flushes fail. -/
theorem flushFails_hear (line : ScriptedLine) (bytes : Bytes) :
    (line.hear bytes).2.flushFails = line.flushFails := by
  rw [hear]
  split
  · rfl
  · dsimp only
    split
    · rfl
    · split <;> rfl

/-- Whether flushes fail is arranged beforehand, and no call changes it. -/
theorem isInvariant_flushFails (fails : Bool) :
    Line.IsInvariant fun line : RecordedLine ScriptedLine => line.inner.flushFails = fails where
  -- A send may be heard or fail by arrangement, and neither touches the flag.
  send line now bytes h := by
    change (line.inner.send bytes).2.flushFails = fails
    rw [send]
    split
    · dsimp only
      split
      · exact h
      · rwa [flushFails_hear]
    · exact h
  receive line now limit timeout h := by
    change (line.inner.receive limit).2.flushFails = fails
    rw [receive]
    split
    · split <;> exact h
    · exact h
  flush line now h := by
    change line.inner.flush.2.flushFails = fails
    rw [flush]
    split <;> exact h
  close _ _ h := h

end ScriptedLine

namespace Engine

/-- What waits can be left waiting. -/
theorem injectStale_waiting (engine : Engine (RecordedLine ScriptedLine)) :
    engine.injectStale engine.channel.line.inner.waiting = engine := rfl

/-- Bytes that wait before a request make no difference to it, and to what waits after it at
most. -/
theorem perform_injectStale {engine : Engine (RecordedLine ScriptedLine)}
    (hflush : engine.channel.line.inner.flushFails = false) (bytes : Bytes) (request : Request) :
    ∃ waiting, (engine.injectStale bytes).perform request =
      ((engine.perform request).1, (engine.perform request).2.injectStale waiting) := by
  cases hframe : request.frame? with
  | some frame =>
    have halike := ScriptedLine.flushesAlike_injectStale hflush bytes
    exact ⟨_, (perform_withLine halike (by simp [hframe])).trans
      (by rw [injectStale_waiting])⟩
  | none =>
    cases request with
    | sleep duration => exact ⟨bytes, rfl⟩
    | execute frame expectation => simp [Request.frame?] at hframe
    | executeWithRetry frame expectation retries => simp [Request.frame?] at hframe
    | query frame length => simp [Request.frame?] at hframe
    | sendCommand frame => simp [Request.frame?] at hframe

/-- Whatever is left waiting on both, two engines that differ only in what waits still do. -/
theorem exists_leaveWaiting (engine : Engine (RecordedLine ScriptedLine)) (waiting : Bytes)
    (stale other : Option Bytes) :
    ∃ bytes, (engine.injectStale waiting).leaveWaiting other =
      (engine.leaveWaiting stale).injectStale bytes := by
  cases other with
  | none => exact ⟨waiting, by cases stale <;> rfl⟩
  | some bytes => exact ⟨bytes, by cases stale <;> rfl⟩

/-- Two answers are alike, and so are the engines that gave them. Only the bytes that wait on the
line may differ. -/
structure AnswersAlike (first second : Except Error Bytes × Engine (RecordedLine ScriptedLine)) :
    Prop where
  /-- The answers are the same. -/
  result : second.1 = first.1
  /-- The engines have noted the same. -/
  progress : second.2.progress = first.2.progress
  /-- They confirm commands alike. -/
  ackMode : second.2.ackMode = first.2.ackMode
  /-- The same calls are on record, with the same answers. -/
  record : second.2.channel.line.calls = first.2.channel.line.calls
  /-- The same entries of the script are left. -/
  script : second.2.channel.line.inner.script = first.2.channel.line.inner.script

/-- Two runs that make the same requests and differ only in the bytes that wait on the line before
them are alike, request by request. -/
theorem staleHistory_alike (engine : Engine (RecordedLine ScriptedLine))
    (hflush : engine.channel.line.inner.flushFails = false) (waiting : Bytes)
    (first second : List (Option Bytes × Request))
    (hsame : second.map Prod.snd = first.map Prod.snd) :
    List.Forall₂ AnswersAlike (engine.staleHistory first)
      ((engine.injectStale waiting).staleHistory second) := by
  -- After each request the two engines differ again in what waits at most.
  induction first generalizing engine waiting second with
  | nil =>
    obtain rfl := List.map_eq_nil_iff.mp hsame
    exact .nil
  | cons head rest ih =>
    obtain ⟨stale, request⟩ := head
    obtain ⟨⟨other, again⟩, later, rfl, hagain, hlater⟩ := List.map_eq_cons_iff.mp hsame
    obtain rfl : again = request := hagain
    obtain ⟨bytes, hbytes⟩ := engine.exists_leaveWaiting waiting stale other
    have hflush : (engine.leaveWaiting stale).channel.line.inner.flushFails = false := by
      cases stale <;> exact hflush
    obtain ⟨left, hperform⟩ := perform_injectStale hflush bytes again
    rw [staleHistory, staleHistory, hbytes, hperform]
    refine .cons ⟨rfl, rfl, rfl, rfl, rfl⟩ (ih _ ?_ left later hlater)
    exact (ScriptedLine.isInvariant_flushFails false).perform _ again hflush

/-- A refusal that comes late, when the command has been given up, is not taken for the answer to
the next attempt, whether it waits before the first request or between the two. -/
theorem staleHistory_alike_refusal :
    let keyUp : Frame := ⟨.zero, 0x08⟩
    let engine : Engine (RecordedLine ScriptedLine) :=
      { channel := ⟨⟨{ script := [⟨keyUp.bytes, []⟩, ⟨keyUp.bytes, [0x00]⟩] }, []⟩, 0⟩ }
    let quiet : List (Option Bytes × Request) :=
      [(none, .sendCommand keyUp), (none, .sendCommand keyUp)]
    let late : List (Option Bytes × Request) :=
      [(none, .sendCommand keyUp), (some [0xF0], .sendCommand keyUp)]
    engine.channel.line.inner.flushFails = false ∧ late.map Prod.snd = quiet.map Prod.snd ∧
      List.Forall₂ AnswersAlike (engine.staleHistory quiet)
        ((engine.injectStale [0x00]).staleHistory late) := by
  intro keyUp engine quiet late
  exact ⟨rfl, rfl, staleHistory_alike engine rfl [0x00] quiet late rfl⟩

end Engine

end Transceiver
