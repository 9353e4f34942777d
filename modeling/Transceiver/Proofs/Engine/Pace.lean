import Transceiver.Proofs.Engine.TimedExchange
import Mathlib.Data.List.Chain

/-!
# The Pace of an Engine

A radio needs a pause after each byte and a quiet time after each exchange. The engine notes at the
end of an exchange when the next one may begin, and waits for that moment before it flushes. The
moment stays as it was noted, even if the settling time is raised in between.

## Main statements

* `Engine.acts_keepPace`: when the exchanges of a run begin, and when their bytes are sent;
* `Engine.pace_of_fallback`: how far apart they are once commands are no longer confirmed.
-/

namespace Transceiver

variable {σ : Type}

namespace Engine

variable [Line σ]

/-! ## What the acts of an engine do to the clock -/

/-- An engine is to let the radio settle after an exchange: the exchange is over, and the moment is
noted at which the next one may begin. -/
structure LetsSettle (engine : Engine σ) (exchange : TimedExchange) : Prop where
  /-- The exchange is over. -/
  ended : exchange.ended ≤ engine.now
  /-- The next exchange has to wait for the settling time that was in force at its end. -/
  readyAt : engine.readyAt =
    if exchange.settling = 0 then none else some (exchange.ended + exchange.settling)

/-- After an exchange the engine is to let the radio settle. -/
theorem letsSettle_exchange (engine : Engine (RecordedLine σ)) (frame : Frame)
    (expectation : Option Expectation) :
    (engine.exchange frame expectation).2.LetsSettle (engine.timed frame expectation) :=
  ⟨Nat.le_refl _, engine.readyAt_exchange frame expectation⟩

/-- Between exchanges time passes, but the moment at which the next one may begin stays, even if the
settling time is raised. -/
theorem LetsSettle.act {engine : Engine (RecordedLine σ)} {exchange : TimedExchange}
    (h : engine.LetsSettle exchange) (act : Act) (hact : engine.timed? act = none) :
    (engine.act act).LetsSettle exchange := by
  cases act with
  | exchange frame expectation => simp [timed?] at hact
  | stopConfirming => exact ⟨h.ended, h.readyAt⟩
  | sleep duration => exact ⟨Nat.le_trans h.ended (Nat.le_add_right _ _), h.readyAt⟩
  | close => exact ⟨Nat.le_trans h.ended (Nat.le_add_right _ _), h.readyAt⟩

/-- The next exchange settles the one before. -/
theorem LetsSettle.settles {engine : Engine (RecordedLine σ)} {exchange : TimedExchange}
    (h : engine.LetsSettle exchange) (frame : Frame) (expectation : Option Expectation) :
    exchange.Settles (engine.timed frame expectation) := by
  refine ⟨h.ended, ?_⟩
  have hbegins := engine.beginsAt_timed frame expectation
  have hended := h.ended
  have hmoment : max engine.now (engine.readyAt.getD 0) =
      max engine.now (exchange.ended + exchange.settling) := by
    rw [h.readyAt]
    split
    next hzero => simp only [Option.getD_none]; omega
    next => rfl
  rwa [hmoment] at hbegins

/-- The exchanges in a course of acts are a settling time apart from each other, and from the
exchange before, if there was one. -/
theorem isChain_exchanges (engine : Engine (RecordedLine σ)) (previous : Option TimedExchange)
    (h : ∀ exchange ∈ previous, engine.LetsSettle exchange) (acts : List Act) :
    (previous.toList ++ engine.exchanges acts).IsChain TimedExchange.Settles := by
  -- What is carried from act to act is that the exchange before is still to be settled.
  induction acts generalizing engine previous with
  | nil => cases previous <;> simp [exchanges]
  | cons act acts ih =>
    cases hact : engine.timed? act with
    | none =>
      rw [exchanges, hact]
      exact ih (engine.act act) previous fun exchange hmem => (h exchange hmem).act act hact
    | some next =>
      obtain ⟨frame, expectation, rfl, rfl⟩ := exists_of_timed?_eq_some hact
      have hlater := ih (engine.act (.exchange frame expectation))
        (some (engine.timed frame expectation)) fun exchange hmem =>
          Option.mem_some.mp hmem ▸ engine.letsSettle_exchange frame expectation
      cases previous with
      | none => exact hlater
      | some exchange =>
        exact List.isChain_cons_cons.mpr ⟨(h exchange rfl).settles frame expectation, hlater⟩

/-- The pace of writing stays, and the settling time is only ever raised. -/
theorem timing_act (engine : Engine σ) (act : Act) :
    (engine.act act).timing.writeDelay = engine.timing.writeDelay ∧
      engine.timing.postWriteDelay ≤ (engine.act act).timing.postWriteDelay := by
  cases act with
  | exchange frame expectation =>
    have htiming := (engine.sameSettings_exchange frame expectation).timing
    exact ⟨by rw [Engine.act, htiming], by rw [Engine.act, htiming]⟩
  | stopConfirming => exact ⟨rfl, Nat.le_max_left _ _⟩
  | sleep duration => exact ⟨rfl, Nat.le_refl _⟩
  | close => exact ⟨rfl, Nat.le_refl _⟩

/-- Every exchange in a course of acts is made by an engine that has kept the pace of writing and
has not lowered the settling time. -/
theorem exists_of_mem_exchanges {engine : Engine (RecordedLine σ)} {acts : List Act}
    {exchange : TimedExchange} (h : exchange ∈ engine.exchanges acts) :
    ∃ (middle : Engine (RecordedLine σ)) (frame : Frame) (expectation : Option Expectation),
      exchange = middle.timed frame expectation ∧
      middle.timing.writeDelay = engine.timing.writeDelay ∧
      engine.timing.postWriteDelay ≤ exchange.settling := by
  -- Each act hands an engine on that writes at the same pace and settles for no less.
  induction acts generalizing engine with
  | nil => simp [exchanges] at h
  | cons act acts ih =>
    obtain ⟨hpause, hsettling⟩ := engine.timing_act act
    rw [exchanges] at h
    rcases List.mem_append.mp h with hnow | hlater
    · obtain ⟨frame, expectation, rfl, rfl⟩ :=
        exists_of_timed?_eq_some (Option.mem_toList.mp hnow)
      exact ⟨engine, frame, expectation, rfl, rfl, hsettling⟩
    · obtain ⟨middle, frame, expectation, hexchange, hmiddle, hlater⟩ := ih hlater
      exact ⟨middle, frame, expectation, hexchange, hmiddle.trans hpause, hsettling.trans hlater⟩

/-! ## Runs -/

/-- In a run every exchange begins exactly as soon as it is asked for and the settling time is over
that was in force at the end of the exchange before, however that exchange ended. On a prompt line
the bytes of a frame are sent one pause after another from the flush on, and after the last pause
the first receive begins. The acts are those of the run. -/
theorem acts_keepPace (engine : Engine (RecordedLine σ)) (events : List Event) :
    engine.actAll (engine.acts events) = engine.handleAll events ∧
    (engine.exchanges (engine.acts events)).IsChain TimedExchange.Settles ∧
    (Line.IsPrompt σ → ∀ exchange ∈ engine.exchanges (engine.acts events),
      exchange.KeepsPace engine.timing.writeDelay) := by
  refine ⟨engine.actAll_acts events, ?_, fun hline exchange hmem => ?_⟩
  · exact engine.isChain_exchanges none (by simp) (engine.acts events)
  · obtain ⟨middle, frame, expectation, rfl, hpause, -⟩ := exists_of_mem_exchanges hmem
    rw [← hpause]
    exact middle.keepsPace_timed hline frame expectation

/-- A query that is tried twice, a pause, and a command, at two milliseconds for every byte and five
for settling. The second attempt has to wait for the radio to settle, the command only for the rest
of that time. -/
theorem acts_keepPace_query :
    let readStatus : Frame := ⟨.zero, 0xE7⟩
    let keyUp : Frame := ⟨.zero, 0x08⟩
    let line : DisturbedLine ScriptedLine :=
      { inner := { script :=
          [⟨readStatus.bytes, []⟩, ⟨readStatus.bytes, [0x80]⟩, ⟨keyUp.bytes, [0x00]⟩] } }
    let engine : Engine (RecordedLine (DisturbedLine ScriptedLine)) :=
      { channel := ⟨⟨line, []⟩, 0⟩
        timing := { writeDelay := 2, postWriteDelay := 5, timeout := 200, retries := 1 } }
    let exchanges := engine.exchanges (engine.acts
      [.request (.query readStatus 1), .request (.sleep 3), .request (.sendCommand keyUp)])
    Line.IsPrompt (DisturbedLine ScriptedLine) ∧
      exchanges.map (fun exchange => (exchange.requested, exchange.records.map CallRecord.time,
        exchange.ended, exchange.settling)) =
          [(0, [0, 0, 2, 4, 6, 8, 10], 210, 5), (210, [215, 215, 217, 219, 221, 223, 225], 225, 5),
            (228, [230, 230, 232, 234, 236, 238, 240], 240, 5)] ∧
      exchanges.IsChain TimedExchange.Settles ∧ ∀ exchange ∈ exchanges, exchange.KeepsPace 2 := by
  intro readStatus keyUp line engine exchanges
  have hline : Line.IsPrompt (DisturbedLine ScriptedLine) :=
    DisturbedLine.isPrompt ScriptedLine.isPrompt
  obtain ⟨-, hsettles, hpace⟩ := acts_keepPace engine
    [.request (.query readStatus 1), .request (.sleep 3), .request (.sendCommand keyUp)]
  exact ⟨hline, by decide +kernel, hsettles, hpace hline⟩

/-- An engine stops confirming commands after two exchanges: that of the command, in which no status
byte came, and that of the liveness query. -/
theorem actsOn_of_fallback {engine : Engine σ} {frame : Frame} (hmode : engine.ackMode = .detect)
    (hskip : (engine.sendCommand frame).2.ackMode = .skip) :
    ∃ query length, engine.actsOn (.request (.sendCommand frame)) =
      [.exchange frame (some .ack), .exchange query (some (.block length)), .stopConfirming] := by
  -- Without the last act the mode would have stayed.
  rw [← engine.actAll_commandActs frame] at hskip
  rw [actsOn]
  simp only [commandActs, hmode] at hskip ⊢
  have hcommand := (engine.sameSettings_exchange frame (some .ack)).ackMode
  split at hskip
  next hsilent =>
    rw [if_pos hsilent]
    rw [livenessActs] at hskip ⊢
    split at hskip
    next hliveness => simp_all [actAll, act]
    next query length hliveness =>
      have hcheck := ((engine.execute frame .ack).2.sameSettings_exchange query
        (some (.block length))).ackMode
      split at hskip
      next bytes hanswer => exact ⟨query, length, rfl⟩
      next e hanswer => simp_all [actAll, act, exchange]
  next hreply => simp_all [actAll, act]

/-- Once commands are found not to be confirmed, the exchanges that follow are at least the fallback
settling time apart from each other. The first of them need not be as far from the liveness query,
which was over before the settling time was raised: it waits for the settling time from before
only. -/
theorem pace_of_fallback (engine : Engine (RecordedLine σ)) (frame : Frame)
    (hmode : engine.ackMode = .detect) (hskip : (engine.sendCommand frame).2.ackMode = .skip)
    (events : List Event) :
    let after := (engine.sendCommand frame).2
    let later := after.exchanges (after.acts events)
    fallbackSettle ≤ after.timing.postWriteDelay ∧
    (∃ command check,
      engine.exchanges (engine.actsOn (.request (.sendCommand frame))) = [command, check] ∧
      ∀ first ∈ later.head?, check.ended ≤ first.requested ∧
        first.BeginsAt (max first.requested (check.ended + engine.timing.postWriteDelay))) ∧
    later.IsChain fun exchange next =>
      ∃ begun, next.BeginsAt begun ∧ exchange.ended + fallbackSettle ≤ begun := by
  intro after later
  obtain ⟨query, length, hacts⟩ := actsOn_of_fallback hmode hskip
  let middle := (engine.exchange frame (some .ack)).2
  let check := middle.timed query (some (.block length))
  have hafter : after = (middle.exchange query (some (.block length))).2.stopConfirming := by
    have hall := engine.actAll_actsOn (.request (.sendCommand frame))
    rw [hacts] at hall
    exact hall.symm
  -- The raise is the last of the three acts, so all that follows is made with it.
  have hraised : fallbackSettle ≤ after.timing.postWriteDelay := by
    rw [hafter]
    exact Nat.le_max_right _ _
  have hsettling : check.settling = engine.timing.postWriteDelay := by
    have hcommand := (engine.sameSettings_exchange frame (some .ack)).timing
    have hcheck := (middle.sameSettings_exchange query (some (.block length))).timing
    exact congrArg Timing.postWriteDelay (hcheck.trans hcommand)
  -- The moment is noted when the liveness query ends, and raising the settling time leaves it.
  have hsettle : after.LetsSettle check := by
    rw [hafter]
    exact (middle.letsSettle_exchange query (some (.block length))).act
      .stopConfirming rfl
  have hchain : (check :: later).IsChain TimedExchange.Settles :=
    after.isChain_exchanges (some check) (fun _ hmem => Option.mem_some.mp hmem ▸ hsettle) _
  refine ⟨hraised, ⟨engine.timed frame (some .ack), check, ?_, fun first hfirst => ?_⟩, ?_⟩
  · rw [hacts]
    rfl
  · rw [← hsettling]
    exact (List.isChain_cons.mp hchain).1 first hfirst
  · refine (List.isChain_cons.mp hchain).2.imp_of_mem_imp fun exchange next hmem _ hnext => ?_
    obtain ⟨-, -, -, -, -, hraise⟩ := exists_of_mem_exchanges hmem
    exact ⟨_, hnext.2, by omega⟩

/-- A command on a radio that turns out not to confirm any, with three milliseconds for settling.
The next command goes out these three milliseconds after the liveness query, the one after it ten
milliseconds later. -/
theorem pace_of_fallback_keying :
    let keyUp : Frame := ⟨.zero, 0x08⟩
    let keyDown : Frame := ⟨.zero, 0x88⟩
    let readStatus : Frame := ⟨.zero, 0xE7⟩
    let engine : Engine (RecordedLine ScriptedLine) :=
      { channel := ⟨⟨{ script := [⟨keyUp.bytes, []⟩, ⟨readStatus.bytes, [0x80]⟩] }, []⟩, 0⟩
        timing := { postWriteDelay := 3 }
        ackMode := .detect
        liveness := some (readStatus, 1) }
    let after := (engine.sendCommand keyUp).2
    let later := after.exchanges (after.acts
      [.request (.sendCommand keyDown), .request (.sendCommand keyUp)])
    engine.ackMode = .detect ∧ after.ackMode = .skip ∧
      fallbackSettle ≤ after.timing.postWriteDelay ∧
      later.map (fun exchange => (exchange.requested, exchange.records.map CallRecord.time)) =
        [(3, [6, 6]), (6, [16, 16])] ∧
      later.IsChain fun exchange next =>
        ∃ begun, next.BeginsAt begun ∧ exchange.ended + fallbackSettle ≤ begun := by
  intro keyUp keyDown readStatus engine after later
  have hskip : after.ackMode = .skip := by decide +kernel
  obtain ⟨hraised, -, hchain⟩ := pace_of_fallback engine keyUp rfl hskip
    [.request (.sendCommand keyDown), .request (.sendCommand keyUp)]
  exact ⟨rfl, hskip, hraised, by decide +kernel, hchain⟩

/-- The first command after the fallback may follow the liveness query at once: the engine stopped
confirming commands and raised its settling time to the fallback, but the flush of the next command
begins at the very moment at which the liveness query was over. -/
theorem pace_of_fallback_at_once :
    let keyUp : Frame := ⟨.zero, 0x08⟩
    let keyDown : Frame := ⟨.zero, 0x88⟩
    let readTransmitter : Frame := ⟨.zero, 0xF7⟩
    let line : DisturbedLine ScriptedLine :=
      { inner := { script :=
          [⟨keyUp.bytes, []⟩, ⟨readTransmitter.bytes, [0x80]⟩, ⟨keyDown.bytes, []⟩] } }
    let engine : Engine (RecordedLine (DisturbedLine ScriptedLine)) :=
      { channel := ⟨⟨line, []⟩, 0⟩
        ackMode := .detect
        liveness := some (readTransmitter, 1) }
    let after := (engine.sendCommand keyUp).2
    let times := (engine.exchanges (engine.acts
      [.request (.sendCommand keyUp), .request (.sendCommand keyDown)])).map
        fun exchange => (exchange.records.map CallRecord.time, exchange.ended)
    after.ackMode = .skip ∧ fallbackSettle ≤ after.timing.postWriteDelay ∧
      times = [([0, 0, 0], 200), ([200, 200, 200], 200), ([200, 200], 200)] ∧
      ¬ 200 + fallbackSettle ≤ 200 := by
  decide +kernel

end Engine

end Transceiver
