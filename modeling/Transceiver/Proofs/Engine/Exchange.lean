import Transceiver.Engine
import Transceiver.Line.Recorded

/-!
# Exchanges on the Record of a Line

What an exchange does to a line: it discards stale input, sends the pieces of one frame until one of
them fails, and then, if a reply is expected, asks for the bytes still missing until the reading
ends. `Exchange` holds the calls of one exchange, and `Exchange.Ends` says how an exchange with
these calls ends.

The engine is set on a `RecordedLine`, whose record holds the calls that were made, whatever the
line underneath answers.

## Main statements

* `Engine.conducts_execute`, `Engine.conducts_writeOnly`: an operation that makes one exchange adds
  the calls of that exchange to the record, answers as the exchange ended, and leaves the settings
  of the engine alone;
* `Exchange.Ends.halfDuplex`: the calls of an exchange have the half-duplex shape.
-/

namespace Transceiver

variable {σ : Type}

/-! ## The calls on a record -/

namespace Call

/-- The bytes that a call delivered to the line. -/
def delivered : Call → Bytes
  | send bytes (.ok ()) => bytes
  | _ => []

/-- The bytes that a call brought from the line. -/
def received : Call → Bytes
  | receive _ _ (.ok bytes) => bytes
  | _ => []

/-- The call asked for bytes. -/
def IsReceive (call : Call) : Prop :=
  ∃ limit timeout result, call = receive limit timeout result

/-- The call discarded the input. -/
def IsFlush (call : Call) : Prop :=
  ∃ result, call = flush result

/-- A send that succeeded. -/
def sent (piece : Bytes) : Call :=
  send piece (.ok ())

/-- A send does not ask for bytes. -/
theorem not_isReceive_send (bytes : Bytes) (result : Except Error Unit) :
    ¬ (send bytes result).IsReceive := by
  simp [IsReceive]

end Call

namespace Channel

/-- The calls on the record of a channel, the first one first. -/
def calls (channel : Channel (RecordedLine σ)) : List Call :=
  channel.line.calls.map CallRecord.call

/-- A sleep is not on the record. -/
@[simp]
theorem calls_sleep (channel : Channel (RecordedLine σ)) (duration : Nat) :
    (channel.sleep duration).calls = channel.calls := rfl

variable [Line σ]

/-- A send is recorded with its answer. -/
theorem calls_of_send {channel after : Channel (RecordedLine σ)} {bytes : Bytes}
    {answer : Except Error Unit} (h : channel.send bytes = (answer, after)) :
    after.calls = channel.calls ++ [.send bytes answer] := by
  obtain ⟨rfl, rfl⟩ := Prod.mk.inj h
  exact List.map_append

/-- A receive is recorded with its answer. -/
theorem calls_of_receive {channel after : Channel (RecordedLine σ)} {limit timeout : Nat}
    {answer : Except Error Bytes} (h : channel.receive limit timeout = (answer, after)) :
    after.calls = channel.calls ++ [.receive limit timeout answer] := by
  obtain ⟨rfl, rfl⟩ := Prod.mk.inj h
  exact List.map_append

/-- A flush is recorded with its answer. -/
theorem calls_flush (channel : Channel (RecordedLine σ)) :
    channel.flush.2.calls = channel.calls ++ [.flush channel.flush.1] :=
  List.map_append

end Channel

/-- The calls on the record of an engine's line. -/
def Engine.calls (engine : Engine (RecordedLine σ)) : List Call :=
  engine.channel.calls

/-! ## Writing a frame -/

/-- The pieces in which a frame is sent: all of it at once, or byte by byte if the radio needs a
pause after each byte. -/
def Frame.pieces (frame : Frame) (pause : Nat) : List Bytes :=
  if pause = 0 then [frame.bytes] else frame.bytes.map fun byte => [byte]

namespace Frame

/-- The pieces of a frame make up its bytes. -/
@[simp]
theorem flatten_pieces (frame : Frame) (pause : Nat) :
    (frame.pieces pause).flatten = frame.bytes := by
  rw [pieces]
  split
  · simp
  · induction frame.bytes with
    | nil => rfl
    | cons byte rest ih => simpa using ih

/-- No piece of a frame is empty. -/
theorem ne_nil_of_mem_pieces {frame : Frame} {pause : Nat} {piece : Bytes}
    (h : piece ∈ frame.pieces pause) : piece ≠ [] := by
  rw [pieces] at h
  split at h
  · have hpiece : piece = frame.bytes := by simpa using h
    intro hnil
    have hlength := frame.length_bytes
    simp [← hpiece, hnil] at hlength
  · obtain ⟨byte, -, rfl⟩ := List.mem_map.mp h
    simp

end Frame

/-- `Writes pieces calls result`: the calls send the pieces in order, up to the first that fails,
and `result` says whether all of them went out. -/
inductive Writes : List Bytes → List Call → Except Error Unit → Prop
  | done : Writes [] [] (.ok ())
  | failed {piece : Bytes} {rest : List Bytes} {e : Error} :
      Writes (piece :: rest) [.send piece (.error e)] (.error e)
  | sent {piece : Bytes} {rest : List Bytes} {calls : List Call} {result : Except Error Unit} :
      Writes rest calls result → Writes (piece :: rest) (.sent piece :: calls) result

namespace Writes

variable {pieces : List Bytes} {calls : List Call}

/-- If all pieces went out, the calls are their sends. -/
theorem eq_of_ok (h : Writes pieces calls (.ok ())) : calls = pieces.map .sent := by
  -- The result is an index of the relation, so the induction is on all results at first.
  generalize hresult : (.ok () : Except Error Unit) = result at h
  induction h with
  | done => rfl
  | failed => cases hresult
  | sent _ ih => rw [ih hresult, List.map_cons]

/-- If a piece did not go out, the calls are the sends of the pieces before it and its own. -/
theorem eq_of_error {e : Error} (h : Writes pieces calls (.error e)) :
    ∃ before piece rest, pieces = before ++ piece :: rest ∧
      calls = before.map .sent ++ [.send piece (.error e)] := by
  generalize hresult : (.error e : Except Error Unit) = result at h
  induction h with
  | done => cases hresult
  | @failed piece rest e' =>
    cases hresult
    exact ⟨[], piece, rest, rfl, rfl⟩
  | @sent first _ _ _ _ ih =>
    obtain ⟨before, piece, rest, rfl, rfl⟩ := ih hresult
    exact ⟨first :: before, piece, rest, rfl, rfl⟩

/-- Pieces that were sent are delivered. -/
theorem delivered_map_sent (pieces : List Bytes) :
    (pieces.map Call.sent).flatMap Call.delivered = pieces.flatten := by
  induction pieces with
  | nil => rfl
  | cons piece rest ih =>
    rw [List.map_cons, List.flatMap_cons, List.flatten_cons, ih]
    rfl

/-- Pieces that are not empty are delivered in full exactly if all of them went out. -/
theorem delivered_eq_iff {result : Except Error Unit} (h : Writes pieces calls result)
    (hpieces : ∀ piece ∈ pieces, piece ≠ []) :
    calls.flatMap Call.delivered = pieces.flatten ↔ result = .ok () := by
  cases result with
  | ok =>
    rw [h.eq_of_ok, delivered_map_sent]
    simp
  | error e =>
    obtain ⟨before, piece, rest, rfl, rfl⟩ := h.eq_of_error
    have hpiece : piece ≠ [] := hpieces piece (by simp)
    rw [List.flatMap_append, delivered_map_sent, List.flatten_append]
    simp [Call.delivered, hpiece]

/-- After a send that failed there is nothing, and its error is that of the writing. -/
theorem of_failed_send {result : Except Error Unit} {before later : List Call} {piece : Bytes}
    {e : Error} (h : Writes pieces calls result)
    (hcalls : calls = before ++ .send piece (.error e) :: later) :
    later = [] ∧ result = .error e := by
  induction h generalizing before with
  | done => simp at hcalls
  | @failed first _ e' =>
    obtain ⟨-, ⟨-, rfl⟩, rfl⟩ : before = [] ∧ (piece = first ∧ e = e') ∧ later = [] := by
      simpa [List.cons_eq_append_iff] using hcalls
    exact ⟨rfl, rfl⟩
  | sent _ ih =>
    cases before with
    | nil => simp [Call.sent] at hcalls
    | cons call before => exact ih (List.cons.inj hcalls).2

end Writes

/-! ## Reading a reply -/

/-- `Reads want timeout got calls result`: with `got` in hand, the calls ask for the bytes that are
missing of `want`, until they are there, none come, or a call fails. -/
inductive Reads (want timeout : Nat) : Bytes → List Call → Except Error Bytes → Prop
  | full {got : Bytes} (h : want ≤ got.length) : Reads want timeout got [] (.ok got)
  | silent {got : Bytes} {answer : Except Error Bytes} (h : got.length < want)
      (hanswer : answer = .ok [] ∨ answer = .error .timeout) :
      Reads want timeout got [.receive (want - got.length) timeout answer] (.ok got)
  | failed {got : Bytes} {e : Error} (h : got.length < want) (he : e ≠ .timeout) :
      Reads want timeout got [.receive (want - got.length) timeout (.error e)] (.error e)
  | more {got bytes : Bytes} {calls : List Call} {result : Except Error Bytes}
      (h : got.length < want) (hbytes : bytes ≠ []) :
      Reads want timeout (got ++ bytes) calls result →
        Reads want timeout got (.receive (want - got.length) timeout (.ok bytes) :: calls) result

namespace Reads

variable {want timeout : Nat} {got : Bytes} {calls : List Call} {result : Except Error Bytes}

/-- A reply is read by receives. -/
theorem isReceive (h : Reads want timeout got calls result) : ∀ call ∈ calls, call.IsReceive := by
  induction h with
  | full => simp
  | silent => simp [Call.IsReceive]
  | failed => simp [Call.IsReceive]
  | more _ _ _ ih => simpa [Call.IsReceive] using ih

/-- A reading ends with all bytes that came, or with an error before enough of them were there. -/
theorem outcome (h : Reads want timeout got calls result) :
    result = .ok (got ++ calls.flatMap Call.received) ∨
      (∃ e, e ≠ .timeout ∧ result = .error e) ∧
        (got ++ calls.flatMap Call.received).length < want := by
  induction h with
  | full => simp
  | silent _ hanswer => rcases hanswer with rfl | rfl <;> simp [Call.received]
  | @failed _ e hshort he => exact .inr ⟨⟨e, he, rfl⟩, by simpa [Call.received] using hshort⟩
  | more _ _ _ ih => simpa [Call.received] using ih

end Reads

namespace Channel

variable [Line σ]

/-- Sending byte by byte writes the bytes as pieces of their own, up to the first that fails. -/
theorem writes_sendPaced (channel : Channel (RecordedLine σ)) (pause : Nat) (bytes : Bytes) :
    ∃ calls, (channel.sendPaced pause bytes).2.calls = channel.calls ++ calls ∧
      Writes (bytes.map fun byte => [byte]) calls (channel.sendPaced pause bytes).1 := by
  induction bytes generalizing channel with
  | nil => exact ⟨[], by simp [sendPaced], .done⟩
  | cons byte rest ih =>
    rw [sendPaced]
    split
    next e after hsend => exact ⟨_, calls_of_send hsend, .failed⟩
    next after hsend =>
      -- The pause comes before the other bytes are sent, and is not on the record.
      obtain ⟨calls, hrest, hwrites⟩ := ih (after.sleep pause)
      refine ⟨.sent [byte] :: calls, ?_, .sent hwrites⟩
      rw [hrest, calls_sleep, calls_of_send hsend, List.append_assoc]
      rfl

/-- Gathering bytes reads until they are there, none come, or a receive fails. -/
theorem reads_gather (channel : Channel (RecordedLine σ)) (want timeout : Nat) (got : Bytes) :
    ∃ calls, (channel.gather want timeout got).2.calls = channel.calls ++ calls ∧
      Reads want timeout got calls (channel.gather want timeout got).1 := by
  -- The branches of the function are the constructors of the relation, silence being two of them.
  fun_induction channel.gather want timeout got with
  | case1 channel got hshort after hreceive =>
    exact ⟨_, calls_of_receive hreceive, .silent hshort (.inl rfl)⟩
  | case2 channel got hshort byte rest after hreceive ih =>
    obtain ⟨calls, hrest, hreads⟩ := ih
    refine ⟨_, ?_, .more hshort (by simp) hreads⟩
    rw [hrest, calls_of_receive hreceive, List.append_assoc]
    rfl
  | case3 channel got hshort after hreceive =>
    exact ⟨_, calls_of_receive hreceive, .silent hshort (.inr rfl)⟩
  | case4 channel got hshort e after he hreceive =>
    have hne : e ≠ .timeout := by
      rintro rfl
      exact he rfl
    exact ⟨_, calls_of_receive hreceive, .failed hshort hne⟩
  | case5 channel got hfull =>
    exact ⟨[], by simp, .full (by omega)⟩

end Channel

/-! ## Exchanges -/

/-- The calls of one exchange. -/
structure Exchange where
  /-- The frame that is written. -/
  frame : Frame
  /-- The reply that is waited for, if any is. -/
  expectation : Option Expectation
  /-- The answer of the flush. -/
  flushed : Except Error Unit
  /-- The calls that write the frame. -/
  writes : List Call
  /-- The calls that read the reply. -/
  reads : List Call

namespace Exchange

/-- The calls of an exchange, in order. -/
def calls (exchange : Exchange) : List Call :=
  .flush exchange.flushed :: (exchange.writes ++ exchange.reads)

/-- The bytes that an exchange delivered. -/
def delivered (exchange : Exchange) : Bytes :=
  exchange.writes.flatMap Call.delivered

/-- The bytes that an exchange brought. -/
def received (exchange : Exchange) : Bytes :=
  exchange.reads.flatMap Call.received

/-- How an exchange at a certain pace ends: its answer, and what the engine notes of it. -/
inductive Ends (timing : Timing) (sentinels : Sentinels) :
    Exchange → Except Error Bytes → Progress → Prop
  | unsent {frame : Frame} {expectation : Option Expectation} {flushed : Except Error Unit}
      {writes : List Call} {e : Error} :
      Writes (frame.pieces timing.writeDelay) writes (.error e) →
        Ends timing sentinels ⟨frame, expectation, flushed, writes, []⟩ (.error e) .failed
  | unread {frame : Frame} {flushed : Except Error Unit} {writes : List Call} :
      Writes (frame.pieces timing.writeDelay) writes (.ok ()) →
        Ends timing sentinels ⟨frame, none, flushed, writes, []⟩ (.ok []) .completed
  | read {frame : Frame} {expectation : Expectation} {flushed : Except Error Unit}
      {writes reads : List Call} {gathered result : Except Error Bytes} :
      Writes (frame.pieces timing.writeDelay) writes (.ok ()) →
        Reads expectation.length timing.timeout [] reads gathered →
        result = gathered.bind (expectation.conclude sentinels) →
        Ends timing sentinels ⟨frame, some expectation, flushed, writes, reads⟩ result
          (.ofResult result)

/-- The half-duplex shape of an exchange: its sends are those of the frame's pieces, cut short only
after one that failed, and bytes are asked for only if all of them succeeded and a reply is
expected. -/
structure HalfDuplex (pause : Nat) (exchange : Exchange) : Prop where
  /-- The pieces of the frame are sent in order, up to the first that fails. -/
  writes : exchange.writes = (exchange.frame.pieces pause).map .sent ∨
    ∃ before piece rest e, exchange.frame.pieces pause = before ++ piece :: rest ∧
      exchange.writes = before.map .sent ++ [.send piece (.error e)]
  /-- The reply is read by receives. -/
  reads : ∀ call ∈ exchange.reads, call.IsReceive
  /-- Only an expected reply to a frame that went out is read. -/
  reads_of_ne_nil : exchange.reads ≠ [] →
    exchange.writes = (exchange.frame.pieces pause).map .sent ∧ exchange.expectation ≠ none

namespace Ends

variable {timing : Timing} {sentinels : Sentinels} {exchange : Exchange}
  {result : Except Error Bytes} {progress : Progress}

/-- However an exchange ends, its calls have the half-duplex shape. -/
theorem halfDuplex (h : exchange.Ends timing sentinels result progress) :
    exchange.HalfDuplex timing.writeDelay := by
  cases h with
  | unsent hwrites =>
    obtain ⟨before, piece, rest, hpieces, hcalls⟩ := hwrites.eq_of_error
    exact ⟨.inr ⟨before, piece, rest, _, hpieces, hcalls⟩, by simp, by simp⟩
  | unread hwrites => exact ⟨.inl hwrites.eq_of_ok, by simp, by simp⟩
  | read hwrites hreads _ =>
    exact ⟨.inl hwrites.eq_of_ok, hreads.isReceive, fun _ => ⟨hwrites.eq_of_ok, by simp⟩⟩

end Ends

end Exchange

/-! ## The exchanges of an engine -/

namespace Engine

/-- Two engines have the same settings. Only an engine that stops confirming commands changes its
own. -/
structure SameSettings (engine other : Engine σ) : Prop where
  /-- They keep the same pace. -/
  timing : other.timing = engine.timing
  /-- They expect the same status bytes. -/
  sentinels : other.sentinels = engine.sentinels
  /-- They confirm commands alike. -/
  ackMode : other.ackMode = engine.ackMode
  /-- They check alike whether the radio is there. -/
  liveness : other.liveness = engine.liveness

namespace SameSettings

/-- An engine has its own settings. -/
@[refl]
theorem refl (engine : Engine σ) : engine.SameSettings engine := ⟨rfl, rfl, rfl, rfl⟩

/-- Settings that stay twice stay altogether. -/
theorem trans {engine middle other : Engine σ} (h : engine.SameSettings middle)
    (h' : middle.SameSettings other) : engine.SameSettings other :=
  ⟨h'.timing.trans h.timing, h'.sentinels.trans h.sentinels, h'.ackMode.trans h.ackMode,
    h'.liveness.trans h.liveness⟩

end SameSettings

/-- An exchange leads from one engine to another: its calls are the ones added to the record, and
the engine notes how it ended and nothing else about it. -/
structure Conducts (engine : Engine (RecordedLine σ)) (exchange : Exchange)
    (result : Except Error Bytes) (after : Engine (RecordedLine σ)) : Prop where
  /-- The record grows by the calls of the exchange. -/
  calls : after.calls = engine.calls ++ exchange.calls
  /-- The exchange ends with the result, and the engine notes how. -/
  ends : exchange.Ends engine.timing engine.sentinels result after.progress
  /-- The settings stay. -/
  settings : engine.SameSettings after

/-- Waiting for the radio to settle is not on the record. -/
@[simp]
theorem calls_settle (engine : Engine (RecordedLine σ)) : engine.settle.calls = engine.calls := by
  rw [settle]
  split <;> rfl

/-- Waiting for the radio to settle leaves the settings alone. -/
theorem sameSettings_settle (engine : Engine σ) : engine.SameSettings engine.settle := by
  rw [settle]
  split <;> exact ⟨rfl, rfl, rfl, rfl⟩

/-- Ending an exchange is not on the record. -/
@[simp]
theorem calls_finish (engine : Engine (RecordedLine σ)) (progress : Progress) :
    (engine.finish progress).calls = engine.calls := rfl

/-- Ending an exchange leaves the settings alone. -/
theorem sameSettings_finish (engine : Engine σ) (progress : Progress) :
    engine.SameSettings (engine.finish progress) := ⟨rfl, rfl, rfl, rfl⟩

variable [Line σ]

/-- Before an exchange the line is flushed once. -/
theorem calls_prepare (engine : Engine (RecordedLine σ)) :
    engine.prepare.calls = engine.calls ++ [.flush engine.settle.channel.flush.1] := by
  rw [← engine.calls_settle]
  exact engine.settle.channel.calls_flush

/-- Preparing an exchange leaves the settings alone. -/
theorem sameSettings_prepare (engine : Engine σ) : engine.SameSettings engine.prepare :=
  engine.sameSettings_settle.trans ⟨rfl, rfl, rfl, rfl⟩

/-- Writing a frame leaves the settings alone. -/
theorem sameSettings_write (engine : Engine σ) (frame : Frame) :
    engine.SameSettings (engine.write frame).2 := ⟨rfl, rfl, rfl, rfl⟩

/-- Reading a reply leaves the settings alone. -/
theorem sameSettings_read (engine : Engine σ) (expectation : Expectation) :
    engine.SameSettings (engine.read expectation).2 := ⟨rfl, rfl, rfl, rfl⟩

/-- Writing a frame sends its pieces. -/
theorem writes_write (engine : Engine (RecordedLine σ)) (frame : Frame) :
    ∃ calls, (engine.write frame).2.calls = engine.calls ++ calls ∧
      Writes (frame.pieces engine.timing.writeDelay) calls (engine.write frame).1 := by
  by_cases hpause : engine.timing.writeDelay = 0
  · simp only [write, Frame.pieces, hpause, ↓reduceIte]
    rcases hsend : engine.channel.send frame.bytes with ⟨e | ⟨⟩, after⟩
    · exact ⟨_, Channel.calls_of_send hsend, .failed⟩
    · exact ⟨_, Channel.calls_of_send hsend, .sent .done⟩
  · simp only [write, Frame.pieces, hpause, ↓reduceIte]
    exact engine.channel.writes_sendPaced engine.timing.writeDelay frame.bytes

/-- Reading a reply gathers the bytes that are expected and concludes from them. -/
theorem reads_read (engine : Engine (RecordedLine σ)) (expectation : Expectation) :
    ∃ calls gathered, (engine.read expectation).2.calls = engine.calls ++ calls ∧
      Reads expectation.length engine.timing.timeout [] calls gathered ∧
      (engine.read expectation).1 = gathered.bind (expectation.conclude engine.sentinels) := by
  obtain ⟨calls, hcalls, hreads⟩ :=
    engine.channel.reads_gather expectation.length engine.timing.timeout []
  exact ⟨calls, _, hcalls, hreads, rfl⟩

/-- What is done before a reply is read: a flush, and the sends of the frame. -/
theorem writes_prepare (engine : Engine (RecordedLine σ)) (frame : Frame) :
    ∃ flushed calls,
      (engine.prepare.write frame).2.calls = engine.calls ++ .flush flushed :: calls ∧
      Writes (frame.pieces engine.timing.writeDelay) calls (engine.prepare.write frame).1 ∧
      engine.SameSettings (engine.prepare.write frame).2 := by
  obtain ⟨calls, hcalls, hwrites⟩ := engine.prepare.writes_write frame
  -- Waiting does not change the pace at which the frame is written.
  rw [engine.sameSettings_prepare.timing] at hwrites
  refine ⟨engine.settle.channel.flush.1, calls, ?_, hwrites, ?_⟩
  · rw [hcalls, calls_prepare, List.append_assoc]
    rfl
  · exact engine.sameSettings_prepare.trans (engine.prepare.sameSettings_write frame)

/-- An operation that reads a reply makes one exchange. -/
theorem conducts_execute (engine : Engine (RecordedLine σ)) (frame : Frame)
    (expectation : Expectation) :
    ∃ exchange, exchange.frame = frame ∧ exchange.expectation = some expectation ∧
      engine.Conducts exchange (engine.execute frame expectation).1
        (engine.execute frame expectation).2 := by
  obtain ⟨flushed, writes, hcalls, hwrites, hsame⟩ := engine.writes_prepare frame
  rw [execute]
  split
  next e written hwrite =>
    rw [hwrite] at hcalls hwrites hsame
    refine ⟨⟨frame, some expectation, flushed, writes, []⟩, rfl, rfl, ?_, .unsent hwrites, ?_⟩
    · simp [hcalls, Exchange.calls]
    · exact hsame.trans (written.sameSettings_finish .failed)
  next written hwrite =>
    rw [hwrite] at hcalls hwrites hsame
    obtain ⟨reads, gathered, hrest, hreads, hresult⟩ := written.reads_read expectation
    -- The reply is read by the settings of the engine that wrote, which are those from before.
    rw [hsame.timing] at hreads
    rw [hsame.sentinels] at hresult
    refine ⟨⟨frame, some expectation, flushed, writes, reads⟩, rfl, rfl, ?_,
      .read hwrites hreads hresult, ?_⟩
    · simp [hrest, hcalls, Exchange.calls]
    · exact hsame.trans ((written.sameSettings_read expectation).trans
        (Engine.sameSettings_finish _ _))

/-- An operation that only writes makes one exchange, in which no reply is expected. -/
theorem conducts_writeOnly (engine : Engine (RecordedLine σ)) (frame : Frame) :
    ∃ exchange, exchange.frame = frame ∧ exchange.expectation = none ∧
      engine.Conducts exchange ((engine.writeOnly frame).1.map fun _ => [])
        (engine.writeOnly frame).2 := by
  obtain ⟨flushed, writes, hcalls, hwrites, hsame⟩ := engine.writes_prepare frame
  rw [writeOnly]
  split
  next e written hwrite =>
    rw [hwrite] at hcalls hwrites hsame
    refine ⟨⟨frame, none, flushed, writes, []⟩, rfl, rfl, ?_, .unsent hwrites, ?_⟩
    · simp [hcalls, Exchange.calls]
    · exact hsame.trans (written.sameSettings_finish .failed)
  next written hwrite =>
    rw [hwrite] at hcalls hwrites hsame
    refine ⟨⟨frame, none, flushed, writes, []⟩, rfl, rfl, ?_, .unread hwrites, ?_⟩
    · simp [hcalls, Exchange.calls]
    · exact hsame.trans (written.sameSettings_finish .completed)

end Engine

end Transceiver
