import Transceiver.Proofs.Engine.Acts
import Transceiver.Proofs.Line.Prompt

/-!
# Exchanges and Their Times

`TimedExchange` holds the calls of an exchange with the times that matter: when it was asked for,
when each call began, and when it was over. `Engine.exchanges` lists the exchanges that an engine
makes in a course of acts.

## Main statements

* `Engine.beginsAt_timed`: when an exchange begins;
* `Engine.readyAt_exchange`: from when on the next one may begin;
* `Engine.keepsPace_timed`: when its bytes are sent and when its reply is first asked for.
-/

namespace Transceiver

variable {σ : Type}

/-- An exchange that was made, with its times in milliseconds. -/
structure TimedExchange where
  /-- The frame that was written. -/
  frame : Frame
  /-- The time at which the exchange was asked for. -/
  requested : Nat
  /-- Its calls. -/
  records : List CallRecord
  /-- The time at which it was over. -/
  ended : Nat
  /-- The settling time that was in force when it was over. -/
  settling : Nat

namespace TimedExchange

/-- An exchange begins with its flush. -/
def BeginsAt (exchange : TimedExchange) (moment : Nat) : Prop :=
  ∃ flushed rest, exchange.records = ⟨moment, .flush flushed⟩ :: rest

/-- Two exchanges are a settling time apart: the second begins as soon as it is asked for and the
radio has settled after the first. -/
def Settles (exchange next : TimedExchange) : Prop :=
  exchange.ended ≤ next.requested ∧
    next.BeginsAt (max next.requested (exchange.ended + exchange.settling))

/-- The pieces of a frame are sent one pause after another from the flush on, up to the first send
that fails. After a pause for every byte the first receive begins. -/
def KeepsPace (pause : Nat) (exchange : TimedExchange) : Prop :=
  ∃ begun flushed sends reads,
    exchange.records = ⟨begun, .flush flushed⟩ :: (Call.spaced begun pause sends ++ reads) ∧
    (∀ record ∈ reads, record.call.IsReceive) ∧
    (∀ first ∈ reads.head?, first.time = begun + 5 * pause) ∧
    (sends = (exchange.frame.pieces pause).map .sent ∨
      reads = [] ∧ ∃ before piece rest e, exchange.frame.pieces pause = before ++ piece :: rest ∧
        sends = before.map .sent ++ [.send piece (.error e)])

end TimedExchange

namespace Engine

/-- The calls on the record of an engine's line, each with the time at which it began. -/
def records (engine : Engine (RecordedLine σ)) : List CallRecord :=
  engine.channel.line.calls

/-- The record without its times is the list of calls. -/
theorem map_call_records (engine : Engine (RecordedLine σ)) :
    engine.records.map CallRecord.call = engine.calls := rfl

variable [Line σ]

/-- The exchange of a frame, with its times. -/
def timed (engine : Engine (RecordedLine σ)) (frame : Frame) (expectation : Option Expectation) :
    TimedExchange :=
  let after := (engine.exchange frame expectation).2
  { frame
    requested := engine.now
    records := after.records.drop engine.records.length
    ended := after.now
    settling := after.timing.postWriteDelay }

/-- The exchange that an act consists in, if it is one. -/
def timed? (engine : Engine (RecordedLine σ)) : Act → Option TimedExchange
  | .exchange frame expectation => some (engine.timed frame expectation)
  | _ => none

/-- The exchanges that an engine makes in a course of acts, the first one first. -/
def exchanges (engine : Engine (RecordedLine σ)) : List Act → List TimedExchange
  | [] => []
  | act :: acts => (engine.timed? act).toList ++ (engine.act act).exchanges acts

/-- An act that is an exchange has the times of one. -/
theorem exists_of_timed?_eq_some {engine : Engine (RecordedLine σ)} {act : Act}
    {exchange : TimedExchange} (h : engine.timed? act = some exchange) :
    ∃ frame expectation, act = .exchange frame expectation ∧
      exchange = engine.timed frame expectation := by
  cases act with
  | exchange frame expectation => exact ⟨frame, expectation, rfl, (Option.some.inj h).symm⟩
  | stopConfirming => simp [timed?] at h
  | sleep duration => simp [timed?] at h
  | close => simp [timed?] at h

/-! ## When an exchange begins -/

/-- Once an exchange is prepared there is nothing to wait for. -/
theorem readyAt_prepare (engine : Engine σ) : engine.prepare.readyAt = none := by
  rw [prepare, settle]
  cases h : engine.readyAt <;> simp [h]

/-- The flush begins once the radio has settled. -/
theorem records_prepare (engine : Engine (RecordedLine σ)) :
    ∃ flushed, engine.prepare.records =
      engine.records ++ [⟨max engine.now (engine.readyAt.getD 0), .flush flushed⟩] := by
  refine ⟨engine.settle.channel.flush.1, ?_⟩
  rw [prepare, settle]
  cases h : engine.readyAt with
  | none => rw [Option.getD_none, Nat.max_zero]; rfl
  | some moment => rfl

/-- On a prompt line an exchange begins to write as soon as the radio has settled. -/
theorem now_prepare (hline : Line.IsPrompt σ) (engine : Engine (RecordedLine σ)) :
    engine.prepare.now = max engine.now (engine.readyAt.getD 0) := by
  have hflush (line : RecordedLine σ) (now : Nat) := (RecordedLine.isPrompt hline).flush line now
  rw [prepare, settle]
  cases h : engine.readyAt with
  | none => simp [now, Channel.flush, Channel.after, hflush]
  | some moment => simp [now, Channel.flush, Channel.after, Channel.sleepUntil, hflush]

/-- The sends of a frame begin one pause after another. -/
theorem records_write (hline : Line.IsPrompt σ) (engine : Engine (RecordedLine σ)) (frame : Frame) :
    ∃ sends, (engine.write frame).2.records =
        engine.records ++ Call.spaced engine.now engine.timing.writeDelay sends ∧
      Writes (frame.pieces engine.timing.writeDelay) sends (engine.write frame).1 ∧
      ((engine.write frame).1 = .ok () →
        (engine.write frame).2.now = engine.now + 5 * engine.timing.writeDelay) := by
  obtain ⟨calls, hcalls, hwrites⟩ := engine.writes_write frame
  obtain ⟨sends, hrecords, hnow⟩ : ∃ sends, (engine.write frame).2.records =
        engine.records ++ Call.spaced engine.now engine.timing.writeDelay sends ∧
      ((engine.write frame).1 = .ok () →
        (engine.write frame).2.now = engine.now + 5 * engine.timing.writeDelay) := by
    by_cases hpause : engine.timing.writeDelay = 0
    · simp only [write, hpause, ↓reduceIte]
      rcases hsend : engine.channel.send frame.bytes with ⟨answer, after⟩
      refine ⟨[.send frame.bytes answer], ?_, fun _ => ?_⟩
      · simp [records, now, Channel.records_of_send hsend]
      · simpa [now] using Channel.now_of_send hline hsend
    · simp only [write, hpause, ↓reduceIte]
      have hpaced := engine.channel.records_sendPaced hline engine.timing.writeDelay frame.bytes
      rwa [frame.length_bytes] at hpaced
  -- The calls that are spaced are the ones that write the frame.
  have hsends : engine.calls ++ calls = engine.calls ++ sends := by
    rw [← hcalls, ← map_call_records, hrecords, List.map_append, Call.map_call_spaced]
    rfl
  obtain rfl := List.append_cancel_left hsends
  exact ⟨_, hrecords, hwrites, hnow⟩

/-- The first receive begins at once. -/
theorem records_read (engine : Engine (RecordedLine σ)) (expectation : Expectation) :
    ∃ reads, (engine.read expectation).2.records = engine.records ++ reads ∧
      (∀ record ∈ reads, record.call.IsReceive) ∧
      ∀ first ∈ reads.head?, first.time = engine.now := by
  obtain ⟨calls, gathered, hcalls, hreads, -⟩ := engine.reads_read expectation
  obtain ⟨reads, hrecords, hfirst⟩ :=
    engine.channel.records_gather expectation.length engine.timing.timeout []
  have heq : engine.calls ++ calls = engine.calls ++ reads.map CallRecord.call := by
    rw [← hcalls, ← map_call_records, ← map_call_records, ← List.map_append]
    exact congrArg (List.map CallRecord.call) hrecords
  obtain rfl := List.append_cancel_left heq
  exact ⟨reads, hrecords, fun record hmem => hreads.isReceive _ (List.mem_map_of_mem hmem), hfirst⟩

/-- After an exchange the next one has to wait for the settling time, if there is any. -/
theorem readyAt_exchange (engine : Engine σ) (frame : Frame) (expectation : Option Expectation) :
    (engine.exchange frame expectation).2.readyAt =
      if (engine.exchange frame expectation).2.timing.postWriteDelay = 0 then none
      else some ((engine.exchange frame expectation).2.now +
        (engine.exchange frame expectation).2.timing.postWriteDelay) := by
  obtain ⟨last, progress, hlast, hcases⟩ := engine.exchange_cases frame expectation
  -- The moment from the exchange before was used up when this one settled.
  have hready : last.readyAt = none := by
    rcases hcases with rfl | ⟨expected, -, rfl⟩ <;> exact engine.readyAt_prepare
  rw [hlast, finish, hready]
  rfl

/-- Writing a frame only adds to the record. -/
theorem prefix_write (engine : Engine (RecordedLine σ)) (frame : Frame) :
    engine.records <+: (engine.write frame).2.records := by
  by_cases hpause : engine.timing.writeDelay = 0
  · simp only [write, hpause, ↓reduceIte]
    exact Channel.prefix_of_send rfl
  · simp only [write, hpause, ↓reduceIte]
    exact engine.channel.prefix_sendPaced engine.timing.writeDelay frame.bytes

/-- What follows the flush of an exchange only adds to the record. -/
theorem prefix_exchange (engine : Engine (RecordedLine σ)) (frame : Frame)
    (expectation : Option Expectation) :
    engine.prepare.records <+: (engine.exchange frame expectation).2.records := by
  obtain ⟨last, progress, hlast, hcases⟩ := engine.exchange_cases frame expectation
  rw [hlast]
  rcases hcases with rfl | ⟨expected, -, rfl⟩
  · exact engine.prepare.prefix_write frame
  · obtain ⟨reads, hreads, -⟩ := (engine.prepare.write frame).2.records_read expected
    exact (engine.prepare.prefix_write frame).trans (hreads ▸ List.prefix_append _ _)

/-- An exchange begins as soon as it is asked for and the radio has settled. -/
theorem beginsAt_timed (engine : Engine (RecordedLine σ)) (frame : Frame)
    (expectation : Option Expectation) :
    (engine.timed frame expectation).BeginsAt (max engine.now (engine.readyAt.getD 0)) := by
  obtain ⟨flushed, hprepare⟩ := engine.records_prepare
  obtain ⟨rest, hrest⟩ := engine.prefix_exchange frame expectation
  exact ⟨flushed, rest, by simp [timed, ← hrest, hprepare]⟩

/-- On a prompt line an exchange keeps the pace of the radio. -/
theorem keepsPace_timed (hline : Line.IsPrompt σ) (engine : Engine (RecordedLine σ)) (frame : Frame)
    (expectation : Option Expectation) :
    (engine.timed frame expectation).KeepsPace engine.timing.writeDelay := by
  obtain ⟨last, progress, hlast, hcases⟩ := engine.exchange_cases frame expectation
  obtain ⟨flushed, hprepare⟩ := engine.records_prepare
  obtain ⟨sends, hsends, hwrites, hnow⟩ := engine.prepare.records_write hline frame
  rw [engine.now_prepare hline, engine.sameSettings_prepare.timing, hprepare] at hsends
  rw [engine.now_prepare hline, engine.sameSettings_prepare.timing] at hnow
  rw [engine.sameSettings_prepare.timing] at hwrites
  -- The flush comes first, then the sends with their pauses, then what is read.
  have hrecords (reads : List CallRecord)
      (h : last.records = (engine.prepare.write frame).2.records ++ reads) :
      (engine.timed frame expectation).records =
        ⟨max engine.now (engine.readyAt.getD 0), .flush flushed⟩ ::
          (Call.spaced (max engine.now (engine.readyAt.getD 0)) engine.timing.writeDelay sends ++
            reads) := by
    have hfinished : (last.finish progress).records = last.records := rfl
    simp [timed, hlast, hfinished, h, hsends]
  -- Nothing is read after a send that failed, and otherwise the first receive follows the last
  -- pause.
  rcases hcases with rfl | ⟨expected, hsent, rfl⟩
  · refine ⟨_, flushed, sends, [], hrecords [] (by simp), by simp, by simp, ?_⟩
    cases hresult : (engine.prepare.write frame).1 with
    | ok => exact .inl (hresult ▸ hwrites).eq_of_ok
    | error e =>
      obtain ⟨before, piece, rest, hpieces, hcut⟩ := (hresult ▸ hwrites).eq_of_error
      exact .inr ⟨rfl, before, piece, rest, e, hpieces, hcut⟩
  · obtain ⟨reads, hreads, hreceives, hfirst⟩ :=
      (engine.prepare.write frame).2.records_read expected
    rw [hnow hsent] at hfirst
    exact ⟨_, flushed, sends, reads, hrecords reads hreads, hreceives, hfirst,
      .inl (hsent ▸ hwrites).eq_of_ok⟩

end Engine

end Transceiver
