import Transceiver.Proofs.Engine.TimedExchange
import Transceiver.Proofs.Line.Pieces
import Mathlib.Data.List.Forall2

/-!
# Frames at Once or Byte by Byte

An engine writes a frame at once, or byte by byte if the radio needs a pause after each byte. A
radio that knows five-byte requests only cannot tell the two ways apart but by the time they take.

`Engine.InStep` relates two engines that differ in the way they write, in the time, and in what
their lines have logged. Whatever they do, they stay in step.

## Main statement

* `Engine.history_atPace`: a run at one pace is the run at the other, event by event and exchange by
  exchange.
-/

namespace Transceiver

/-! ## Channels -/

namespace Channel

/-- Bytes that are sent at a pace are sent one at a time. -/
theorem sendPaced_inner (channel : Channel (RecordedLine ScriptedLine)) (pause : Nat)
    (bytes : Bytes) :
    (channel.sendPaced pause bytes).1 = (channel.line.inner.sendEach bytes).1 ∧
      (channel.sendPaced pause bytes).2.line.inner = (channel.line.inner.sendEach bytes).2 := by
  induction bytes generalizing channel with
  | nil => exact ⟨rfl, rfl⟩
  | cons byte rest ih =>
    have hsend : channel.send [byte] = ((channel.line.inner.send [byte]).1,
        ⟨⟨(channel.line.inner.send [byte]).2, _⟩, _⟩) := rfl
    rw [sendPaced, ScriptedLine.sendEach, hsend]
    rcases channel.line.inner.send [byte] with ⟨e | ⟨⟩, after⟩
    · exact ⟨rfl, rfl⟩
    · exact ih _

/-- What has been logged makes no difference to a receive. -/
theorem receive_withLog {log : List Bytes}
    {channel other after : Channel (RecordedLine ScriptedLine)} {limit timeout : Nat}
    {answer : Except Error Bytes}
    (h : other.line.inner = channel.line.inner.withLog log)
    (hreceive : channel.receive limit timeout = (answer, after)) :
    ∃ after', other.receive limit timeout = (answer, after') ∧
      after'.line.inner = after.line.inner.withLog log := by
  obtain ⟨rfl, rfl⟩ := Prod.mk.inj hreceive
  have hsame := channel.line.inner.receive_withLog log limit
  rw [← h] at hsame
  obtain ⟨hanswer, hafter⟩ := Prod.ext_iff.mp hsame
  exact ⟨_, Prod.ext hanswer rfl, hafter⟩

/-- What is received does not depend on the log of the line. -/
theorem gather_withLog {log : List Bytes} {channel other : Channel (RecordedLine ScriptedLine)}
    (h : other.line.inner = channel.line.inner.withLog log) (want timeout : Nat) (got : Bytes) :
    (other.gather want timeout got).1 = (channel.gather want timeout got).1 ∧
      (other.gather want timeout got).2.line.inner =
        (channel.gather want timeout got).2.line.inner.withLog log := by
  -- Both lines answer every receive alike, so that the gathering takes the same branch each time.
  fun_induction channel.gather want timeout got generalizing other with
  | case1 channel got hshort after hreceive =>
    obtain ⟨after', hother, hafter⟩ := receive_withLog h hreceive
    rw [gather]
    simp [hshort, hother, hafter]
  | case2 channel got hshort byte rest after hreceive ih =>
    obtain ⟨after', hother, hafter⟩ := receive_withLog h hreceive
    rw [gather]
    simp only [hshort, ↓reduceIte, hother]
    exact ih hafter
  | case3 channel got hshort after hreceive =>
    obtain ⟨after', hother, hafter⟩ := receive_withLog h hreceive
    rw [gather]
    simp [hshort, hother, hafter]
  | case4 channel got hshort e after he hreceive =>
    obtain ⟨after', hother, hafter⟩ := receive_withLog h hreceive
    rw [gather]
    simp [hshort, hother, hafter]
  | case5 channel got hfull =>
    rw [gather]
    simp [hfull, h]

/-- A line that expects frames still does after a reply has been read. -/
theorem expectsFrames_gather {channel : Channel (RecordedLine ScriptedLine)}
    (h : channel.line.inner.ExpectsFrames) (want timeout : Nat) (got : Bytes) :
    (channel.gather want timeout got).2.line.inner.ExpectsFrames := by
  have hreceive {channel after : Channel (RecordedLine ScriptedLine)} {limit timeout : Nat}
      {answer : Except Error Bytes} (h : channel.line.inner.ExpectsFrames)
      (hreceive : channel.receive limit timeout = (answer, after)) :
      after.line.inner.ExpectsFrames := by
    obtain ⟨rfl, rfl⟩ := Prod.mk.inj hreceive
    exact h.receive limit
  fun_induction channel.gather want timeout got with
  | case1 channel got hshort after hstep => exact hreceive h hstep
  | case2 channel got hshort byte rest after hstep ih => exact ih (hreceive h hstep)
  | case3 channel got hshort after hstep => exact hreceive h hstep
  | case4 channel got hshort e after he hstep => exact hreceive h hstep
  | case5 channel got hfull => exact h

end Channel

/-! ## Engines in step -/

namespace Engine

/-- The engine with another pause after each byte. -/
def atPace (engine : Engine (RecordedLine ScriptedLine)) (pause : Nat) :
    Engine (RecordedLine ScriptedLine) :=
  { engine with timing := { engine.timing with writeDelay := pause } }

/-- Two engines do the same, one writing frames at once and the other byte by byte. The time may
differ, and so may what is on record and in the logs. -/
structure InStep (pause : Nat) (whole paced : Engine (RecordedLine ScriptedLine)) : Prop where
  /-- The one engine writes frames at once. -/
  writeDelay : whole.timing.writeDelay = 0
  /-- The other engine keeps the same pace otherwise. -/
  timing : paced.timing = { whole.timing with writeDelay := pause }
  /-- They expect the same status bytes. -/
  sentinels : paced.sentinels = whole.sentinels
  /-- They confirm commands alike. -/
  ackMode : paced.ackMode = whole.ackMode
  /-- They check alike whether the radio is there. -/
  liveness : paced.liveness = whole.liveness
  /-- They have noted the same. -/
  progress : paced.progress = whole.progress
  /-- Their lines are alike but for their logs. -/
  line : ∃ log, paced.channel.line.inner = whole.channel.line.inner.withLog log
  /-- Their lines expect frames. -/
  expectsFrames : whole.channel.line.inner.ExpectsFrames

namespace InStep

variable {pause : Nat} {whole paced : Engine (RecordedLine ScriptedLine)}

/-- Answers of engines in step. -/
structure Answers {α : Type} (pause : Nat)
    (whole paced : Except Error α × Engine (RecordedLine ScriptedLine)) : Prop where
  /-- The answers are the same but for their wording. -/
  result : SameButWording whole.1 paced.1
  /-- The engines are still in step. -/
  inStep : InStep pause whole.2 paced.2

/-- Engines in step wait for the radio to settle, each for as long as it has to. -/
theorem settle (h : InStep pause whole paced) : InStep pause whole.settle paced.settle := by
  -- To settle only lets time pass, so lines and progress are those from before.
  have hline (engine : Engine (RecordedLine ScriptedLine)) :
      engine.settle.channel.line = engine.channel.line ∧
        engine.settle.progress = engine.progress := by
    rw [Engine.settle]
    split <;> exact ⟨rfl, rfl⟩
  have hwhole := whole.sameSettings_settle
  have hpaced := paced.sameSettings_settle
  exact
    { writeDelay := by rw [hwhole.timing, h.writeDelay]
      timing := by rw [hwhole.timing, hpaced.timing, h.timing]
      sentinels := by rw [hwhole.sentinels, hpaced.sentinels, h.sentinels]
      ackMode := by rw [hwhole.ackMode, hpaced.ackMode, h.ackMode]
      liveness := by rw [hwhole.liveness, hpaced.liveness, h.liveness]
      progress := by rw [(hline whole).2, (hline paced).2, h.progress]
      line := by rw [(hline whole).1, (hline paced).1]; exact h.line
      expectsFrames := by rw [(hline whole).1]; exact h.expectsFrames }

/-- Engines stay in step with calls on their lines that do. -/
theorem withChannel (h : InStep pause whole paced)
    {channel other : Channel (RecordedLine ScriptedLine)} {log : List Bytes}
    (hline : other.line.inner = channel.line.inner.withLog log)
    (hexpects : channel.line.inner.ExpectsFrames) :
    InStep pause { whole with channel } { paced with channel := other } :=
  ⟨h.writeDelay, h.timing, h.sentinels, h.ackMode, h.liveness, h.progress, ⟨log, hline⟩, hexpects⟩

/-- Engines in step prepare an exchange alike. -/
theorem prepare (h : InStep pause whole paced) : InStep pause whole.prepare paced.prepare := by
  obtain ⟨log, hline⟩ := h.settle.line
  have hflush := whole.settle.channel.line.inner.flush_withLog log
  rw [← hline] at hflush
  exact h.settle.withChannel (Prod.ext_iff.mp hflush).2 h.settle.expectsFrames.flush

/-- A frame goes out at once as it does byte by byte. -/
theorem write (h : InStep pause whole paced) (hpause : pause ≠ 0) (frame : Frame) :
    Answers pause (whole.write frame) (paced.write frame) := by
  obtain ⟨log, hline⟩ := h.line
  have hpacing : paced.timing.writeDelay = pause := by rw [h.timing]
  -- The line with the other log hears the frame as well, and in pieces it hears the same.
  have hexpects : paced.channel.line.inner.ExpectsFrames := by
    rw [hline]
    exact h.expectsFrames.withLog log
  obtain ⟨halike, log', hpieces⟩ := hexpects.sendEach_alike frame.length_bytes
  obtain ⟨log'', hsend⟩ := whole.channel.line.inner.send_withLog log frame.bytes
    h.expectsFrames.sendFailures
  rw [← hline] at hsend
  rw [hsend] at halike hpieces
  obtain ⟨hresult, hinner⟩ := paced.channel.sendPaced_inner pause frame.bytes
  simp only [Engine.write, h.writeDelay, hpacing, hpause, ↓reduceIte]
  constructor
  · rw [hresult]
    exact halike
  · exact h.withChannel (hinner.trans hpieces) (h.expectsFrames.send frame.length_bytes)

/-- Engines in step read the same reply. -/
theorem read (h : InStep pause whole paced) (expectation : Expectation) :
    (paced.read expectation).1 = (whole.read expectation).1 ∧
      InStep pause (whole.read expectation).2 (paced.read expectation).2 := by
  obtain ⟨log, hline⟩ := h.line
  obtain ⟨hgathered, hlater⟩ :=
    Channel.gather_withLog hline expectation.length whole.timing.timeout []
  have hexpects := Channel.expectsFrames_gather h.expectsFrames expectation.length
    whole.timing.timeout []
  have htimeout : paced.timing.timeout = whole.timing.timeout := by rw [h.timing]
  constructor
  · simp only [Engine.read, htimeout, hgathered, h.sentinels]
  · simp only [Engine.read, htimeout]
    exact h.withChannel hlater hexpects

/-- Engines in step end an exchange alike. -/
theorem finish (h : InStep pause whole paced) (progress : Progress) :
    InStep pause (whole.finish progress) (paced.finish progress) :=
  ⟨h.writeDelay, h.timing, h.sentinels, h.ackMode, h.liveness, rfl, h.line, h.expectsFrames⟩

/-- Engines in step stop confirming commands together. -/
theorem stopConfirming (h : InStep pause whole paced) :
    InStep pause whole.stopConfirming paced.stopConfirming := by
  refine ⟨h.writeDelay, ?_, h.sentinels, rfl, h.liveness, h.progress, h.line, h.expectsFrames⟩
  simp only [Engine.stopConfirming, h.timing]

/-- The answers are the same, or breaches of the protocol in other words. -/
theorem Answers.cases {α : Type}
    {first second : Except Error α × Engine (RecordedLine ScriptedLine)}
    (h : Answers pause first second) :
    (∃ result after after', first = (result, after) ∧ second = (result, after') ∧
      InStep pause after after') ∨
    ∃ reason other after after', first = (.error (.protocol reason), after) ∧
      second = (.error (.protocol other), after') ∧ InStep pause after after' := by
  obtain ⟨result, after⟩ := first
  obtain ⟨result', after'⟩ := second
  obtain ⟨hresult, hafter⟩ := h
  cases hresult with
  | same => exact .inl ⟨result, after, after', rfl, rfl, hafter⟩
  | reworded reason other => exact .inr ⟨reason, other, after, after', rfl, rfl, hafter⟩

/-- Answers that are the same but for their wording stay so when their values are mapped. -/
theorem Answers.map {α β : Type}
    {first second : Except Error α × Engine (RecordedLine ScriptedLine)}
    (h : Answers pause first second) (f : α → β) :
    Answers pause (first.1.map f, first.2) (second.1.map f, second.2) :=
  ⟨h.result.map f, h.inStep⟩

/-- Engines in step give the same answer to an exchange with a reply. -/
theorem execute (h : InStep pause whole paced) (hpause : pause ≠ 0) (frame : Frame)
    (expectation : Expectation) :
    Answers pause (whole.execute frame expectation) (paced.execute frame expectation) := by
  rw [Engine.execute, Engine.execute]
  -- A frame that the line refuses ends the exchange in both, with another text at most.
  rcases (h.prepare.write hpause frame).cases with
    ⟨e | ⟨⟩, written, written', hwhole, hpaced, hwritten⟩ |
      ⟨reason, other, written, written', hwhole, hpaced, hwritten⟩ <;> rw [hwhole, hpaced]
  · exact ⟨.same _, hwritten.finish .failed⟩
  · obtain ⟨hreply, hread⟩ := hwritten.read expectation
    dsimp only
    rw [hreply]
    exact ⟨.same _, hread.finish _⟩
  · exact ⟨.reworded reason other, hwritten.finish .failed⟩

/-- Engines in step give the same answer to a frame that is only written. -/
theorem writeOnly (h : InStep pause whole paced) (hpause : pause ≠ 0) (frame : Frame) :
    Answers pause (whole.writeOnly frame) (paced.writeOnly frame) := by
  rw [Engine.writeOnly, Engine.writeOnly]
  rcases (h.prepare.write hpause frame).cases with
    ⟨e | ⟨⟩, written, written', hwhole, hpaced, hwritten⟩ |
      ⟨reason, other, written, written', hwhole, hpaced, hwritten⟩ <;> rw [hwhole, hpaced]
  · exact ⟨.same _, hwritten.finish .failed⟩
  · exact ⟨.same _, hwritten.finish .completed⟩
  · exact ⟨.reworded reason other, hwritten.finish .failed⟩

/-- Engines in step give the same answer to any exchange. -/
theorem exchange (h : InStep pause whole paced) (hpause : pause ≠ 0) (frame : Frame)
    (expectation : Option Expectation) :
    Answers pause (whole.exchange frame expectation) (paced.exchange frame expectation) := by
  cases expectation with
  | none => exact (h.writeOnly hpause frame).map _
  | some expectation => exact h.execute hpause frame expectation

/-- Both engines try again, or neither does. -/
theorem executeWithRetry (h : InStep pause whole paced) (hpause : pause ≠ 0) (frame : Frame)
    (expectation : Expectation) (retries : Nat) :
    Answers pause (whole.executeWithRetry frame expectation retries)
        (paced.executeWithRetry frame expectation retries) ∧
      paced.attempts frame expectation retries = whole.attempts frame expectation retries := by
  -- Only a timeout makes either try again, and it is never a matter of wording.
  induction retries generalizing whole paced with
  | zero => exact ⟨h.execute hpause frame expectation, rfl⟩
  | succ retries ih =>
    rw [Engine.executeWithRetry, Engine.executeWithRetry, attempts, attempts]
    rcases (h.execute hpause frame expectation).cases with
      ⟨e | bytes, after, after', hwhole, hpaced, hafter⟩ |
        ⟨reason, other, after, after', hwhole, hpaced, hafter⟩ <;> rw [hwhole, hpaced]
    · by_cases htimeout : e = .timeout
      · subst htimeout
        obtain ⟨hanswers, hacts⟩ := ih hafter
        exact ⟨hanswers, congrArg _ hacts⟩
      · have hretry : e.isRetryable = false :=
          Bool.eq_false_iff.mpr (mt e.isRetryable_iff.mp htimeout)
        have hreply : timedOut (.error e) = false :=
          Bool.eq_false_iff.mpr (by simpa using htimeout)
        simp only [hretry, hreply]
        exact ⟨⟨.same _, hafter⟩, rfl⟩
    · exact ⟨⟨.same _, hafter⟩, rfl⟩
    · exact ⟨⟨.reworded reason other, hafter⟩, rfl⟩

/-- Both engines stop confirming commands, or neither does. -/
theorem checkLiveness (h : InStep pause whole paced) (hpause : pause ≠ 0) :
    Answers pause whole.checkLiveness paced.checkLiveness ∧
      paced.livenessActs = whole.livenessActs := by
  rw [Engine.checkLiveness, Engine.checkLiveness, livenessActs, livenessActs, h.liveness]
  rcases whole.liveness with _ | ⟨frame, length⟩
  · exact ⟨⟨.same _, h⟩, rfl⟩
  · dsimp only
    rcases (h.execute hpause frame (.block length)).cases with
      ⟨e | bytes, after, after', hwhole, hpaced, hafter⟩ |
        ⟨reason, other, after, after', hwhole, hpaced, hafter⟩ <;> rw [hwhole, hpaced]
    · exact ⟨⟨.same _, hafter⟩, rfl⟩
    · exact ⟨⟨.same _, hafter.stopConfirming⟩, rfl⟩
    · exact ⟨⟨.same _, hafter⟩, rfl⟩

/-- Both engines ask whether the radio is there, or neither does. -/
theorem sendCommand (h : InStep pause whole paced) (hpause : pause ≠ 0) (frame : Frame) :
    Answers pause (whole.sendCommand frame) (paced.sendCommand frame) ∧
      paced.commandActs frame = whole.commandActs frame := by
  have hexecute := h.execute hpause frame .ack
  have hconfirmed : Answers pause (whole.writeConfirmed frame) (paced.writeConfirmed frame) :=
    hexecute.map _
  have hpacedMode := h.ackMode
  cases hmode : whole.ackMode with
  | skip =>
    rw [hmode] at hpacedMode
    rw [sendCommand_of_skip frame hmode, sendCommand_of_skip frame hpacedMode]
    exact ⟨h.writeOnly hpause frame, by simp only [commandActs, hmode, hpacedMode]⟩
  | read =>
    rw [hmode] at hpacedMode
    rw [sendCommand_of_read frame hmode, sendCommand_of_read frame hpacedMode]
    exact ⟨hconfirmed, by simp only [commandActs, hmode, hpacedMode]⟩
  -- The answers may differ in wording, but not in whether they are timeouts.
  | detect =>
    rw [hmode] at hpacedMode
    have htimeout : (paced.execute frame .ack).1 = .error .timeout ↔
        (whole.execute frame .ack).1 = .error .timeout :=
      hexecute.result.eq_iff (by simp)
    simp only [commandActs, hmode, hpacedMode, timedOut_iff]
    by_cases hreply : (whole.execute frame .ack).1 = .error .timeout
    · have hreply' := htimeout.mpr hreply
      obtain ⟨hanswers, hacts⟩ := hexecute.inStep.checkLiveness hpause
      rw [sendCommand_of_timeout hmode hreply, sendCommand_of_timeout hpacedMode hreply',
        if_pos hreply, if_pos hreply', hacts]
      exact ⟨hanswers, rfl⟩
    · have hreply' := mt htimeout.mp hreply
      rw [sendCommand_of_ne_timeout hmode hreply, sendCommand_of_ne_timeout hpacedMode hreply',
        if_neg hreply, if_neg hreply']
      exact ⟨hconfirmed, rfl⟩

/-- Whatever they have to deal with, engines in step answer alike by the same acts. -/
theorem handle (h : InStep pause whole paced) (hpause : pause ≠ 0) (event : Event) :
    Answers pause (whole.handle event) (paced.handle event) ∧
      paced.actsOn event = whole.actsOn event := by
  cases event with
  | request request =>
    cases request with
    | execute frame expectation => exact ⟨h.execute hpause frame expectation, rfl⟩
    | executeWithRetry frame expectation retries =>
      exact h.executeWithRetry hpause frame expectation retries
    | query frame length =>
      have hretries : paced.timing.retries = whole.timing.retries := by rw [h.timing]
      simp only [Engine.handle, perform, query, actsOn, hretries]
      exact h.executeWithRetry hpause frame (.block length) _
    | sendCommand frame =>
      obtain ⟨hanswers, hacts⟩ := h.sendCommand hpause frame
      exact ⟨hanswers.map _, hacts⟩
    | sleep duration =>
      obtain ⟨log, hline⟩ := h.line
      exact ⟨⟨.same _, h.withChannel hline h.expectsFrames⟩, rfl⟩
  | close =>
    obtain ⟨log, hline⟩ := h.line
    -- To close a line does not look at what it has logged.
    have hclosed :
        paced.channel.close.2.line.inner = whole.channel.close.2.line.inner.withLog log :=
      congrArg (fun line => (ScriptedLine.close line).2) hline
    have hexpects : whole.channel.close.2.line.inner.ExpectsFrames :=
      ⟨h.expectsFrames.heard, h.expectsFrames.sendFailures, h.expectsFrames.length_request⟩
    exact ⟨⟨.same _, h.withChannel hclosed hexpects⟩, rfl⟩

/-- Engines in step stay in step through a run, by the same acts. -/
theorem history (h : InStep pause whole paced) (hpause : pause ≠ 0) (events : List Event) :
    List.Forall₂ (Answers pause) (whole.history events) (paced.history events) ∧
      paced.acts events = whole.acts events := by
  induction events generalizing whole paced with
  | nil => exact ⟨.nil, rfl⟩
  | cons event events ih =>
    obtain ⟨hanswers, hevent⟩ := h.handle hpause event
    obtain ⟨hlater, hacts⟩ := ih hanswers.inStep
    exact ⟨.cons hanswers hlater, by rw [acts, acts, hevent, hacts]⟩

/-- Engines in step stay so in every act. -/
theorem act (h : InStep pause whole paced) (hpause : pause ≠ 0) (act : Act) :
    InStep pause (whole.act act) (paced.act act) := by
  cases act with
  | exchange frame expectation => exact (h.exchange hpause frame expectation).inStep
  | stopConfirming => exact h.stopConfirming
  | sleep duration => exact (h.handle hpause (.request (.sleep duration))).1.inStep
  | close => exact (h.handle hpause .close).1.inStep

end InStep

end Engine

/-! ## What exchanges deliver -/

namespace TimedExchange

/-- The calls of an exchange. -/
def calls (exchange : TimedExchange) : List Call :=
  exchange.records.map CallRecord.call

/-- No send of an exchange failed. -/
def WentOut (exchange : TimedExchange) : Prop :=
  ∀ piece result, .send piece result ∈ exchange.calls → result = .ok ()

/-- The bytes that an exchange delivered. -/
def delivered (exchange : TimedExchange) : Bytes :=
  exchange.calls.flatMap Call.delivered

/-- Two exchanges write the same frame, and if one of them gets it out, so does the other. -/
structure SameBytes (exchange other : TimedExchange) : Prop where
  /-- The frame is the same. -/
  frame : other.frame = exchange.frame
  /-- Both frames went out, or neither did. -/
  wentOut : other.WentOut ↔ exchange.WentOut
  /-- If they did, the same bytes were delivered. -/
  delivered : exchange.WentOut → other.delivered = exchange.delivered

end TimedExchange

namespace Engine

variable {σ : Type} [Line σ]

/-- The calls of an exchange: a flush, the sends of the frame, and receives. -/
theorem calls_timed (engine : Engine (RecordedLine σ)) (frame : Frame)
    (expectation : Option Expectation) :
    ∃ flushed writes reads,
      (engine.timed frame expectation).calls = .flush flushed :: (writes ++ reads) ∧
      Writes (frame.pieces engine.timing.writeDelay) writes (engine.prepare.write frame).1 ∧
      ∀ call ∈ reads, call.IsReceive := by
  obtain ⟨last, progress, hlast, hcases⟩ := engine.exchange_cases frame expectation
  obtain ⟨flushed, writes, hcalls, hwrites, -⟩ := engine.writes_prepare frame
  obtain ⟨reads, hreads, hreceive⟩ : ∃ reads,
      last.calls = (engine.prepare.write frame).2.calls ++ reads ∧
        ∀ call ∈ reads, call.IsReceive := by
    rcases hcases with rfl | ⟨expected, -, rfl⟩
    · exact ⟨[], by simp, by simp⟩
    · obtain ⟨reads, gathered, hread, hreads, -⟩ :=
        (engine.prepare.write frame).2.reads_read expected
      exact ⟨reads, hread, hreads.isReceive⟩
  -- Ending an exchange calls the line no more.
  have hafter : (engine.exchange frame expectation).2.calls = last.calls := by
    rw [hlast, calls_finish]
  refine ⟨flushed, writes, reads, ?_, hwrites, hreceive⟩
  have hlength : engine.records.length = engine.calls.length := (List.length_map _).symm
  rw [TimedExchange.calls, timed, List.map_drop, map_call_records, hafter, hreads, hcalls, hlength]
  simp

/-- A frame went out exactly if none of the sends that write it failed. -/
theorem wentOut_timed_iff (engine : Engine (RecordedLine σ)) (frame : Frame)
    (expectation : Option Expectation) :
    (engine.timed frame expectation).WentOut ↔ (engine.prepare.write frame).1 = .ok () := by
  obtain ⟨flushed, writes, reads, hcalls, hwrites, hreads⟩ := engine.calls_timed frame expectation
  -- A frame that did not go out ends with the send that failed.
  constructor
  · intro h
    cases hresult : (engine.prepare.write frame).1 with
    | ok => rfl
    | error e =>
      obtain ⟨before, piece, rest, -, hcut⟩ := (hresult ▸ hwrites).eq_of_error
      exact h piece (.error e) (by simp [hcalls, hcut])
  · intro hok piece result hmem
    rw [hok] at hwrites
    rw [hcalls, hwrites.eq_of_ok] at hmem
    rcases List.mem_cons.mp hmem with hflush | hmem
    · simp at hflush
    · rcases List.mem_append.mp hmem with hsent | hread
      · obtain ⟨other, -, hother⟩ := List.mem_map.mp hsent
        exact (Call.send.inj hother).2.symm
      · exact absurd (hreads _ hread) (Call.not_isReceive_send piece result)

/-- A frame that went out was delivered whole. -/
theorem delivered_timed {engine : Engine (RecordedLine σ)} {frame : Frame}
    {expectation : Option Expectation} (h : (engine.timed frame expectation).WentOut) :
    (engine.timed frame expectation).delivered = frame.bytes := by
  obtain ⟨flushed, writes, reads, hcalls, hwrites, hreads⟩ := engine.calls_timed frame expectation
  rw [wentOut_timed_iff] at h
  -- Only the sends deliver anything.
  have hsilent : reads.flatMap Call.delivered = [] := by
    refine List.flatMap_eq_nil_iff.mpr fun call hmem => ?_
    obtain ⟨limit, timeout, answer, rfl⟩ := hreads call hmem
    rfl
  have hwhole := (hwrites.delivered_eq_iff fun _ => Frame.ne_nil_of_mem_pieces).mpr h
  rw [TimedExchange.delivered, hcalls, List.flatMap_cons, List.flatMap_append, hsilent, hwhole,
    Frame.flatten_pieces]
  simp [Call.delivered]

namespace InStep

variable {pause : Nat} {whole paced : Engine (RecordedLine ScriptedLine)}

/-- Exchanges of engines in step deliver and bring the same bytes. -/
theorem sameBytes_timed (h : InStep pause whole paced) (hpause : pause ≠ 0) (frame : Frame)
    (expectation : Option Expectation) :
    (whole.timed frame expectation).SameBytes (paced.timed frame expectation) := by
  have hwentOut : (paced.timed frame expectation).WentOut ↔
      (whole.timed frame expectation).WentOut := by
    rw [wentOut_timed_iff, wentOut_timed_iff]
    exact (h.prepare.write hpause frame).result.eq_iff (by simp)
  exact ⟨rfl, hwentOut, fun hwhole => by
    rw [delivered_timed hwhole, delivered_timed (hwentOut.mpr hwhole)]⟩

/-- In a course of acts the exchanges of engines in step write the same bytes. -/
theorem exchanges (h : InStep pause whole paced) (hpause : pause ≠ 0) (acts : List Act) :
    List.Forall₂ TimedExchange.SameBytes (whole.exchanges acts) (paced.exchanges acts) := by
  induction acts generalizing whole paced with
  | nil => exact .nil
  | cons act acts ih =>
    have hlater := ih (h.act hpause act)
    cases act with
    | exchange frame expectation => exact .cons (h.sameBytes_timed hpause frame expectation) hlater
    | stopConfirming => exact hlater
    | sleep duration => exact hlater
    | close => exact hlater

end InStep

/-- On a line that expects frames, a run in which frames are written byte by byte is the same as one
in which they are written at once. To every event the engine gives the same answer, except for the
words in which the line reports an unexpected frame, and it and the line are left in the same state.
Both runs make the same exchanges, and a frame that goes out is delivered in the same bytes. -/
theorem history_atPace (engine : Engine (RecordedLine ScriptedLine)) (pause : Nat)
    (hpause : pause ≠ 0) (hwhole : engine.timing.writeDelay = 0)
    (hline : engine.channel.line.inner.ExpectsFrames) (events : List Event) :
    List.Forall₂ (InStep.Answers pause) (engine.history events)
        ((engine.atPace pause).history events) ∧
      (engine.atPace pause).acts events = engine.acts events ∧
      List.Forall₂ TimedExchange.SameBytes (engine.exchanges (engine.acts events))
        ((engine.atPace pause).exchanges ((engine.atPace pause).acts events)) := by
  have hstep : InStep pause engine (engine.atPace pause) :=
    ⟨hwhole, rfl, rfl, rfl, rfl, rfl, ⟨engine.channel.line.inner.sent, rfl⟩, hline⟩
  obtain ⟨hhistory, hacts⟩ := hstep.history hpause events
  rw [hacts]
  exact ⟨hhistory, rfl, hstep.exchanges hpause _⟩

/-- Of two requests the radio expects the first. Instead of the second it gets another frame, of
which the first byte is already wrong: written byte by byte, the frame ends there. -/
theorem history_atPace_otherFrame :
    let readStatus : Frame := ⟨.zero, 0xE7⟩
    let keyUp : Frame := ⟨.zero, 0x08⟩
    let tune : Frame := ⟨#v[0x14, 0x25, 0x00, 0x00], 0x01⟩
    let line : ScriptedLine :=
      { script := [⟨readStatus.bytes, [0x80]⟩, ⟨keyUp.bytes, [0x00]⟩] }
    let engine : Engine (RecordedLine ScriptedLine) := { channel := ⟨⟨line, []⟩, 0⟩ }
    let events : List Event :=
      [.request (.query readStatus 1), .request (.sendCommand tune), .request (.sendCommand keyUp)]
    let paced := engine.atPace 2
    2 ≠ 0 ∧ engine.timing.writeDelay = 0 ∧ line.ExpectsFrames ∧
      (engine.handleAll events).channel.line.inner.sent =
        [readStatus.bytes, tune.bytes, keyUp.bytes] ∧
      (paced.handleAll events).channel.line.inner.sent =
        [[0x00], [0x00], [0x00], [0x00], [0xE7], [0x14], [0x00]] ∧
      List.Forall₂ (InStep.Answers 2) (engine.history events) (paced.history events) ∧
      List.Forall₂ TimedExchange.SameBytes (engine.exchanges (engine.acts events))
        (paced.exchanges (paced.acts events)) := by
  intro readStatus keyUp tune line engine events paced
  have hline : line.ExpectsFrames := ⟨rfl, rfl, by decide⟩
  obtain ⟨hhistory, -, hexchanges⟩ := history_atPace engine 2 (by decide) rfl hline events
  exact ⟨by decide, rfl, hline, by decide +kernel, by decide +kernel, hhistory, hexchanges⟩

end Engine

end Transceiver
