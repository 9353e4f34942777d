import Transceiver.Line.Disturbed
import Transceiver.Line.Scripted
import Transceiver.Proofs.Engine.Exchange

/-!
# Prompt Lines

On a prompt line the time that sending takes is all spent in pauses. The record of such a line then
shows exactly when each call began: bytes that are sent one at a time are sent one pause after
another.

## Main statements

* `Channel.records_sendPaced`: when bytes are sent one at a time;
* `Channel.records_gather`: when the first of several receives begins.
-/

namespace Transceiver

variable {σ : Type}

/-- Sends and flushes take no time. Receives may take any. -/
structure Line.IsPrompt (σ : Type) [Line σ] : Prop where
  /-- Sends take no time. -/
  send (line : σ) (now : Nat) (bytes : Bytes) : (Line.send line now bytes).elapsed = 0
  /-- Flushes take no time. -/
  flush (line : σ) (now : Nat) : (Line.flush line now).elapsed = 0

/-- No call on a scripted line takes any time. -/
theorem ScriptedLine.isPrompt : Line.IsPrompt ScriptedLine :=
  ⟨fun _ _ _ => rfl, fun _ _ => rfl⟩

section Layers

variable [Line σ] (h : Line.IsPrompt σ)

include h

/-- Disturbing the receives of a prompt line leaves its sends and flushes prompt. -/
theorem DisturbedLine.isPrompt : Line.IsPrompt (DisturbedLine σ) :=
  ⟨fun line => h.send line.inner, fun line => h.flush line.inner⟩

/-- Keeping a record takes no time. -/
theorem RecordedLine.isPrompt : Line.IsPrompt (RecordedLine σ) :=
  ⟨fun line => h.send line.inner, fun line => h.flush line.inner⟩

end Layers

/-- Calls that begin one pause after another, the first one at `start`. -/
def Call.spaced (start pause : Nat) (calls : List Call) : List CallRecord :=
  calls.mapIdx fun i call => ⟨start + i * pause, call⟩

namespace Call

/-- Without calls there is nothing to space. -/
@[simp]
theorem spaced_nil (start pause : Nat) : spaced start pause [] = [] := rfl

/-- The first call comes at the start, and the others one pause later. -/
@[simp]
theorem spaced_cons (start pause : Nat) (call : Call) (calls : List Call) :
    spaced start pause (call :: calls) = ⟨start, call⟩ :: spaced (start + pause) pause calls := by
  have hshift (i : Nat) : start + (i + 1) * pause = start + pause + i * pause := by
    rw [Nat.succ_mul]
    omega
  simp [spaced, List.mapIdx_cons, hshift]

/-- Spacing keeps the calls and their order. -/
@[simp]
theorem map_call_spaced (start pause : Nat) (calls : List Call) :
    (spaced start pause calls).map CallRecord.call = calls := by
  induction calls generalizing start with
  | nil => rfl
  | cons call calls ih => simp [ih]

end Call

namespace Channel

variable [Line σ]

/-- A send is recorded with the time at which it began. -/
theorem records_of_send {channel after : Channel (RecordedLine σ)} {bytes : Bytes}
    {answer : Except Error Unit} (h : channel.send bytes = (answer, after)) :
    after.line.calls = channel.line.calls ++ [⟨channel.now, .send bytes answer⟩] := by
  obtain ⟨rfl, rfl⟩ := Prod.mk.inj h
  rfl

/-- A receive is recorded with the time at which it began. -/
theorem records_of_receive {channel after : Channel (RecordedLine σ)} {limit timeout : Nat}
    {answer : Except Error Bytes} (h : channel.receive limit timeout = (answer, after)) :
    after.line.calls = channel.line.calls ++ [⟨channel.now, .receive limit timeout answer⟩] := by
  obtain ⟨rfl, rfl⟩ := Prod.mk.inj h
  rfl

/-- A send on a prompt line takes no time. -/
theorem now_of_send (hline : Line.IsPrompt σ) {channel after : Channel (RecordedLine σ)}
    {bytes : Bytes} {answer : Except Error Unit} (h : channel.send bytes = (answer, after)) :
    after.now = channel.now := by
  obtain ⟨rfl, rfl⟩ := Prod.mk.inj h
  simp [Channel.after, (RecordedLine.isPrompt hline).send]

/-- A send only adds to the record. -/
theorem prefix_of_send {channel after : Channel (RecordedLine σ)} {bytes : Bytes}
    {answer : Except Error Unit} (h : channel.send bytes = (answer, after)) :
    channel.line.calls <+: after.line.calls :=
  records_of_send h ▸ List.prefix_append _ _

/-- Sending at a pace only adds to the record. -/
theorem prefix_sendPaced (channel : Channel (RecordedLine σ)) (pause : Nat) (bytes : Bytes) :
    channel.line.calls <+: (channel.sendPaced pause bytes).2.line.calls := by
  induction bytes generalizing channel with
  | nil => exact List.prefix_rfl
  | cons byte rest ih =>
    rw [sendPaced]
    split
    next e after hsend => exact prefix_of_send hsend
    next after hsend => exact (prefix_of_send hsend).trans (ih (after.sleep pause))

/-- Bytes that are sent one at a time are sent one pause after another. -/
theorem records_sendPaced (hline : Line.IsPrompt σ) (channel : Channel (RecordedLine σ))
    (pause : Nat) (bytes : Bytes) :
    ∃ calls, (channel.sendPaced pause bytes).2.line.calls =
        channel.line.calls ++ Call.spaced channel.now pause calls ∧
      ((channel.sendPaced pause bytes).1 = .ok () →
        (channel.sendPaced pause bytes).2.now = channel.now + bytes.length * pause) := by
  -- The channel is generalised, since each byte leaves it one pause later.
  induction bytes generalizing channel with
  | nil => exact ⟨[], by simp [sendPaced], by simp [sendPaced]⟩
  | cons byte rest ih =>
    rw [sendPaced]
    split
    next e after hsend =>
      exact ⟨[.send [byte] (.error e)], by simp [records_of_send hsend], by simp⟩
    next after hsend =>
      obtain ⟨calls, hrest, hnow⟩ := ih (after.sleep pause)
      have hslept : (after.sleep pause).now = channel.now + pause := by
        rw [sleep, now_of_send hline hsend]
      refine ⟨.sent [byte] :: calls, ?_, fun hok => ?_⟩
      · rw [hrest, hslept, Call.spaced_cons]
        simp [sleep, records_of_send hsend, Call.sent]
      · rw [hnow hok, hslept, List.length_cons, Nat.succ_mul]
        omega

/-- The first receive begins at once. -/
theorem records_gather (channel : Channel (RecordedLine σ)) (want timeout : Nat) (got : Bytes) :
    ∃ records, (channel.gather want timeout got).2.line.calls = channel.line.calls ++ records ∧
      ∀ first ∈ records.head?, first.time = channel.now := by
  fun_induction channel.gather want timeout got with
  | case1 channel got hshort after hreceive =>
    exact ⟨_, records_of_receive hreceive, by simp⟩
  | case2 channel got hshort byte rest after hreceive ih =>
    obtain ⟨records, hrest, -⟩ := ih
    let first : Call := .receive (want - got.length) timeout (.ok (byte :: rest))
    refine ⟨⟨channel.now, first⟩ :: records, ?_, by simp⟩
    rw [hrest, records_of_receive hreceive, List.append_assoc]
    rfl
  | case3 channel got hshort after hreceive =>
    exact ⟨_, records_of_receive hreceive, by simp⟩
  | case4 channel got hshort e after he hreceive =>
    exact ⟨_, records_of_receive hreceive, by simp⟩
  | case5 channel got hfull => exact ⟨[], by simp, by simp⟩

end Channel

end Transceiver
