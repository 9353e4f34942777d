import Transceiver.Proofs.Engine.Run

/-!
# Views of a Line

A view takes the state of a line to the state of another line that answers every send and every
receive alike. What flushes answer is left out, since no exchange looks at it.

`Engine.run_mapLine` says that an engine behaves on a line as it does on any view of it. Three views
are of use: a recorded line without its record, so that keeping a record changes nothing; a line as
itself with other answers to its flushes; and a line restricted to the states of an invariant, so
that no operation of an engine breaks it.
-/

namespace Transceiver

variable {τ σ : Type}

/-- A view of a line is a line that sends and receives alike. -/
structure Line.IsView [Line τ] [Line σ] (view : τ → σ) : Prop where
  /-- Sends go alike. -/
  send (line : τ) (now : Nat) (bytes : Bytes) :
    Line.send (view line) now bytes = (Line.send line now bytes).within view
  /-- Receives go alike. -/
  receive (line : τ) (now limit timeout : Nat) :
    Line.receive (view line) now limit timeout = (Line.receive line now limit timeout).within view
  /-- Flushes take the same time. -/
  flush_elapsed (line : τ) (now : Nat) :
    (Line.flush (view line) now).elapsed = (Line.flush line now).elapsed
  /-- Flushes leave the same line, whatever they answer. -/
  flush_line (line : τ) (now : Nat) :
    (Line.flush (view line) now).line = view (Line.flush line now).line

/-- A recorded line without its record is a view of it. -/
theorem RecordedLine.isView_inner [Line σ] : Line.IsView (RecordedLine.inner (σ := σ)) :=
  ⟨fun _ _ _ => rfl, fun _ _ _ _ => rfl, fun _ _ => rfl, fun _ _ => rfl⟩

namespace Channel

/-- A channel with a view of its line. -/
def mapLine (view : τ → σ) (channel : Channel τ) : Channel σ :=
  ⟨view channel.line, channel.now⟩

variable [Line τ] [Line σ] {view : τ → σ} (h : Line.IsView view)

include h

/-- A send on a view has the same answer and leaves the view of the line. -/
theorem send_mapLine (channel : Channel τ) (bytes : Bytes) :
    (channel.mapLine view).send bytes =
      ((channel.send bytes).1, (channel.send bytes).2.mapLine view) := by
  simp only [send, mapLine, h.send]
  rfl

/-- A receive on a view has the same answer and leaves the view of the line. -/
theorem receive_mapLine (channel : Channel τ) (limit timeout : Nat) :
    (channel.mapLine view).receive limit timeout =
      ((channel.receive limit timeout).1, (channel.receive limit timeout).2.mapLine view) := by
  simp only [receive, mapLine, h.receive]
  rfl

/-- A flush of a view leaves the view of the line, whatever it answers. -/
theorem flush_mapLine (channel : Channel τ) :
    (channel.mapLine view).flush.2 = channel.flush.2.mapLine view := by
  simp only [flush, after, mapLine, h.flush_elapsed, h.flush_line]

/-- Sending at a pace over a view goes as over the line. -/
theorem sendPaced_mapLine (channel : Channel τ) (pause : Nat) (bytes : Bytes) :
    (channel.mapLine view).sendPaced pause bytes =
      ((channel.sendPaced pause bytes).1, (channel.sendPaced pause bytes).2.mapLine view) := by
  induction bytes generalizing channel with
  | nil => rfl
  | cons byte rest ih =>
    rw [sendPaced, sendPaced, send_mapLine h]
    rcases channel.send [byte] with ⟨e | ⟨⟩, after⟩
    · rfl
    · exact ih (after.sleep pause)

/-- Gathering bytes from a view goes as from the line. -/
theorem gather_mapLine (channel : Channel τ) (want timeout : Nat) (got : Bytes) :
    (channel.mapLine view).gather want timeout got =
      ((channel.gather want timeout got).1, (channel.gather want timeout got).2.mapLine view) := by
  -- The view answers alike, so that the gathering on it takes the same branch each time.
  fun_induction channel.gather want timeout got with
  | case1 channel got hshort after hreceive =>
    rw [gather]
    simp [hshort, receive_mapLine h, hreceive]
  | case2 channel got hshort byte rest after hreceive ih =>
    rw [gather]
    simp [hshort, receive_mapLine h, hreceive, ih]
  | case3 channel got hshort after hreceive =>
    rw [gather]
    simp [hshort, receive_mapLine h, hreceive]
  | case4 channel got hshort e after he hreceive =>
    rw [gather]
    simp [hshort, receive_mapLine h, hreceive]
  | case5 channel got hfull =>
    rw [gather]
    simp [hfull]

end Channel

namespace Engine

/-- An engine on a view of its line. -/
def mapLine (view : τ → σ) (engine : Engine τ) : Engine σ :=
  { engine with channel := engine.channel.mapLine view }

/-- Waiting for the radio to settle does not touch the line. -/
theorem settle_mapLine (view : τ → σ) (engine : Engine τ) :
    (engine.mapLine view).settle = engine.settle.mapLine view := by
  rcases engine with ⟨channel, timing, sentinels, ackMode, liveness, progress, _ | moment⟩ <;> rfl

variable [Line τ] [Line σ] {view : τ → σ} (h : Line.IsView view)

include h

/-- An exchange is prepared on a view as on the line. -/
theorem prepare_mapLine (engine : Engine τ) :
    (engine.mapLine view).prepare = engine.prepare.mapLine view := by
  simp only [prepare, settle_mapLine]
  simp only [mapLine, Channel.flush_mapLine h]

/-- A frame is written on a view as on the line. -/
theorem write_mapLine (engine : Engine τ) (frame : Frame) :
    (engine.mapLine view).write frame =
      ((engine.write frame).1, (engine.write frame).2.mapLine view) := by
  by_cases hpause : engine.timing.writeDelay = 0 <;>
    simp [write, mapLine, hpause, Channel.send_mapLine h, Channel.sendPaced_mapLine h]

/-- A reply is read from a view as from the line. -/
theorem read_mapLine (engine : Engine τ) (expectation : Expectation) :
    (engine.mapLine view).read expectation =
      ((engine.read expectation).1, (engine.read expectation).2.mapLine view) := by
  simp [read, mapLine, Channel.gather_mapLine h]

/-- An exchange with a reply goes on a view as on the line. -/
theorem execute_mapLine (engine : Engine τ) (frame : Frame) (expectation : Expectation) :
    (engine.mapLine view).execute frame expectation =
      ((engine.execute frame expectation).1,
        (engine.execute frame expectation).2.mapLine view) := by
  rw [execute, execute, prepare_mapLine h, write_mapLine h]
  rcases engine.prepare.write frame with ⟨e | ⟨⟩, written⟩
  · rfl
  · simp only [read_mapLine h]
    rfl

/-- Trying again goes on a view as on the line, attempt by attempt. -/
theorem executeWithRetry_mapLine (engine : Engine τ) (frame : Frame) (expectation : Expectation)
    (retries : Nat) :
    (engine.mapLine view).executeWithRetry frame expectation retries =
      ((engine.executeWithRetry frame expectation retries).1,
        (engine.executeWithRetry frame expectation retries).2.mapLine view) := by
  induction retries generalizing engine with
  | zero => exact execute_mapLine h engine frame expectation
  | succ retries ih =>
    rw [executeWithRetry, executeWithRetry, execute_mapLine h]
    rcases engine.execute frame expectation with ⟨e | bytes, after⟩
    · -- Both engines decide by the same error whether to try again.
      by_cases hretry : e.isRetryable = true
      · simp only [hretry, ↓reduceIte, ih]
      · simp only [hretry, Bool.false_eq_true, ↓reduceIte]
    · rfl

/-- A frame is written without a reply on a view as on the line. -/
theorem writeOnly_mapLine (engine : Engine τ) (frame : Frame) :
    (engine.mapLine view).writeOnly frame =
      ((engine.writeOnly frame).1, (engine.writeOnly frame).2.mapLine view) := by
  rw [writeOnly, writeOnly, prepare_mapLine h, write_mapLine h]
  rcases engine.prepare.write frame with ⟨e | ⟨⟩, written⟩ <;> rfl

/-- A command is sent and confirmed on a view as on the line. -/
theorem writeConfirmed_mapLine (engine : Engine τ) (frame : Frame) :
    (engine.mapLine view).writeConfirmed frame =
      ((engine.writeConfirmed frame).1, (engine.writeConfirmed frame).2.mapLine view) := by
  simp only [writeConfirmed, execute_mapLine h]

/-- The liveness query goes on a view as on the line. -/
theorem checkLiveness_mapLine (engine : Engine τ) :
    (engine.mapLine view).checkLiveness =
      (engine.checkLiveness.1, engine.checkLiveness.2.mapLine view) := by
  have hliveness : (engine.mapLine view).liveness = engine.liveness := rfl
  rw [checkLiveness, checkLiveness, hliveness]
  rcases engine.liveness with _ | ⟨query, length⟩
  · rfl
  · simp only [execute_mapLine h]
    rcases engine.execute query (.block length) with ⟨e | bytes, after⟩ <;> rfl

/-- A command is sent on a view as on the line, in each of the modes. -/
theorem sendCommand_mapLine (engine : Engine τ) (frame : Frame) :
    (engine.mapLine view).sendCommand frame =
      ((engine.sendCommand frame).1, (engine.sendCommand frame).2.mapLine view) := by
  have hmode : (engine.mapLine view).ackMode = engine.ackMode := rfl
  rw [sendCommand, sendCommand, hmode]
  cases engine.ackMode with
  | read => exact writeConfirmed_mapLine h engine frame
  | skip => exact writeOnly_mapLine h engine frame
  | detect =>
    simp only [writeConfirmed_mapLine h]
    rcases engine.writeConfirmed frame with ⟨e | ⟨⟩, after⟩
    · -- Only a timeout leads on to the liveness query, on both lines.
      by_cases htimeout : e = .timeout
      · subst htimeout
        exact checkLiveness_mapLine h after
      · split <;> simp_all
    · rfl

/-- A request is carried out on a view as on the line. -/
theorem perform_mapLine (engine : Engine τ) (request : Request) :
    (engine.mapLine view).perform request =
      ((engine.perform request).1, (engine.perform request).2.mapLine view) := by
  cases request with
  | execute frame expectation => exact execute_mapLine h engine frame expectation
  | executeWithRetry frame expectation retries =>
    exact executeWithRetry_mapLine h engine frame expectation retries
  | query frame length => exact executeWithRetry_mapLine h engine frame (.block length) _
  | sendCommand frame => simp only [perform, sendCommand_mapLine h]
  | sleep duration => rfl

/-- An engine answers on a line as it does on a view of it, and leaves the same line behind. -/
theorem run_mapLine (engine : Engine τ) (requests : List Request) :
    (engine.mapLine view).run requests =
      ((engine.run requests).1, (engine.run requests).2.mapLine view) := by
  induction requests generalizing engine with
  | nil => rfl
  | cons request requests ih => simp only [run, perform_mapLine h, ih]

end Engine

/-- Keeping a record of the calls changes nothing. -/
theorem Engine.run_inner [Line σ] (engine : Engine (RecordedLine σ)) (requests : List Request) :
    (engine.mapLine RecordedLine.inner).run requests =
      ((engine.run requests).1, (engine.run requests).2.mapLine RecordedLine.inner) :=
  run_mapLine RecordedLine.isView_inner engine requests

/-! ## Invariants of a line -/

/-- A property of a line that no call on it breaks. -/
structure Line.IsInvariant [Line σ] (invariant : σ → Prop) : Prop where
  /-- Sends keep it. -/
  send (line : σ) (now : Nat) (bytes : Bytes) :
    invariant line → invariant (Line.send line now bytes).line
  /-- Receives keep it. -/
  receive (line : σ) (now limit timeout : Nat) :
    invariant line → invariant (Line.receive line now limit timeout).line
  /-- Flushes keep it. -/
  flush (line : σ) (now : Nat) : invariant line → invariant (Line.flush line now).line
  /-- Giving the line up keeps it. -/
  close (line : σ) (now : Nat) : invariant line → invariant (Line.close line now).line

namespace Line.IsInvariant

variable [Line σ] {invariant : σ → Prop} (h : Line.IsInvariant invariant)

/-- The line restricted to the states in which the invariant holds. -/
@[reducible]
def restrict : Line { line // invariant line } where
  send line now bytes :=
    let outcome := Line.send line.1 now bytes
    ⟨outcome.result, outcome.elapsed, ⟨outcome.line, h.send line.1 now bytes line.2⟩⟩
  receive line now limit timeout :=
    let outcome := Line.receive line.1 now limit timeout
    ⟨outcome.result, outcome.elapsed, ⟨outcome.line, h.receive line.1 now limit timeout line.2⟩⟩
  flush line now :=
    let outcome := Line.flush line.1 now
    ⟨outcome.result, outcome.elapsed, ⟨outcome.line, h.flush line.1 now line.2⟩⟩
  close line now :=
    let outcome := Line.close line.1 now
    ⟨outcome.result, outcome.elapsed, ⟨outcome.line, h.close line.1 now line.2⟩⟩

/-- The line is a view of its restriction, which only carries the proof of the invariant along. -/
theorem isView_val : @Line.IsView _ _ h.restrict _ Subtype.val :=
  @Line.IsView.mk _ _ h.restrict _ Subtype.val
    (fun _ _ _ => rfl) (fun _ _ _ _ => rfl) (fun _ _ => rfl) (fun _ _ => rfl)

include h

/-- No request breaks an invariant of the line. -/
theorem perform (engine : Engine σ) (request : Request) (hline : invariant engine.channel.line) :
    invariant (engine.perform request).2.channel.line := by
  -- The engine is set on the restricted line, of which the line itself is a view.
  let _ := h.restrict
  let restricted : Engine { line // invariant line } :=
    { engine with channel := ⟨⟨engine.channel.line, hline⟩, engine.channel.now⟩ }
  have hperform := Engine.perform_mapLine h.isView_val restricted request
  rw [show restricted.mapLine Subtype.val = engine from rfl] at hperform
  rw [hperform]
  -- The line on the right is that of the restricted engine, which carries the proof.
  exact (restricted.perform request).2.channel.line.2

end Line.IsInvariant

/-! ## Invariants of a record -/

namespace RecordedLine

variable {origin : List CallRecord} {property : Call → Prop}

/-- The record has grown from its origin by calls of a certain kind. -/
def GrewBy (origin : List CallRecord) (property : Call → Prop) (line : RecordedLine σ) : Prop :=
  ∃ more, line.calls = origin ++ more ∧ ∀ record ∈ more, property record.call

/-- A record that has grown by calls of a kind still has after one more of that kind. -/
theorem GrewBy.concat {line : RecordedLine σ} {record : CallRecord}
    (h : GrewBy origin property line) (hcall : property record.call) (inner : σ) :
    GrewBy origin property ⟨inner, line.calls ++ [record]⟩ := by
  obtain ⟨more, hmore, hforall⟩ := h
  refine ⟨more ++ [record], by simp [hmore], fun other hmem => ?_⟩
  rcases List.mem_append.mp hmem with hold | hnew
  · exact hforall other hold
  · rwa [List.mem_singleton.mp hnew]

/-- If all calls on a line are of a kind, whatever it answers, the record grows by calls of that
kind only. -/
theorem isInvariant_grewBy [Line σ] (origin : List CallRecord)
    (hsend : ∀ (line : σ) (now : Nat) (bytes : Bytes),
      property (.send bytes (Line.send line now bytes).result))
    (hreceive : ∀ (line : σ) (now limit timeout : Nat),
      property (.receive limit timeout (Line.receive line now limit timeout).result))
    (hflush : ∀ answer, property (.flush answer)) (hclose : ∀ answer, property (.close answer)) :
    Line.IsInvariant (GrewBy (σ := σ) origin property) where
  send line now bytes h := h.concat (hsend line.inner now bytes) _
  receive line now limit timeout h := h.concat (hreceive line.inner now limit timeout) _
  flush _ _ h := h.concat (hflush _) _
  close _ _ h := h.concat (hclose _) _

/-- If the record of a line grows by calls of a kind only, those that a request adds are of that
kind. -/
theorem perform_of_isInvariant [Line σ] {engine : Engine (RecordedLine σ)}
    (h : Line.IsInvariant (GrewBy (σ := σ) engine.channel.line.calls property)) {request : Request}
    {added : List Call} (hcalls : (engine.perform request).2.calls = engine.calls ++ added) :
    ∀ call ∈ added, property call := by
  obtain ⟨more, hmore, hforall⟩ := h.perform engine request ⟨[], by simp, by simp⟩
  have hadded : engine.calls ++ added = engine.calls ++ more.map CallRecord.call := by
    rw [← hcalls, Engine.calls, Channel.calls, hmore, List.map_append]
    rfl
  rw [List.append_cancel_left hadded]
  intro call hmem
  obtain ⟨record, hrecord, rfl⟩ := List.mem_map.mp hmem
  exact hforall record hrecord

end RecordedLine

end Transceiver
