import Mathlib.Order.Bounds.Basic
import Transceiver.Line.Scripted
import Transceiver.Proofs.Engine.Run

/-!
# Trying Again

A query that times out is tried again, up to a budget. After any other failure it is not: the radio
may have understood. An attempt is a whole exchange, on the line that the attempt before it left,
and so it begins with a flush of its own and writes the frame anew.

`Engine.attempt` makes attempts one after the other, whatever comes of them. To try again is to stop
at one of them.

## Main statement

* `Engine.retries_upTo`: at which attempt the engine stops, and what the attempts do to the line.
-/

namespace Transceiver

variable {σ : Type}

/-! ## The flushes of exchanges -/

instance Call.decidableIsFlush : DecidablePred Call.IsFlush
  | .flush result => .isTrue ⟨result, rfl⟩
  | .send _ _ => .isFalse fun ⟨_, h⟩ => by cases h
  | .receive _ _ _ => .isFalse fun ⟨_, h⟩ => by cases h
  | .close _ => .isFalse fun ⟨_, h⟩ => by cases h

namespace Exchange

variable {pause : Nat}

/-- Only the first call of an exchange is a flush. -/
theorem HalfDuplex.countP_isFlush {exchange : Exchange} (h : exchange.HalfDuplex pause) :
    exchange.calls.countP (·.IsFlush) = 1 := by
  have hwrites : exchange.writes.countP (·.IsFlush) = 0 := by
    rcases h.writes with hall | ⟨before, piece, rest, e, -, hcut⟩
    · simp [hall, List.countP_map, Function.comp_def, Call.sent, Call.IsFlush]
    · simp [hcut, List.countP_map, Function.comp_def, Call.sent, Call.IsFlush]
  have hreads : exchange.reads.countP (·.IsFlush) = 0 := by
    refine List.countP_eq_zero.mpr fun call hmem => ?_
    obtain ⟨limit, timeout, answer, rfl⟩ := h.reads call hmem
    simp [Call.IsFlush]
  rw [calls, List.countP_cons, List.countP_append, hwrites, hreads]
  simp [Call.IsFlush]

/-- Exchanges hold one flush each. -/
theorem countP_isFlush_flatMap {exchanges : List Exchange}
    (h : ∀ exchange ∈ exchanges, exchange.HalfDuplex pause) :
    (exchanges.flatMap calls).countP (·.IsFlush) = exchanges.length := by
  induction exchanges with
  | nil => rfl
  | cons exchange rest ih =>
    rw [List.flatMap_cons, List.countP_append, (h exchange (by simp)).countP_isFlush,
      ih fun later hmem => h later (by simp [hmem]), List.length_cons, Nat.add_comm]

end Exchange

namespace Engine

/-! ## Attempts -/

section Attempts

variable [Line σ]

/-- An exchange after a number of exchanges with the same frame, each on the line that the one
before left: its answer and the engine after it. -/
def attempt (engine : Engine σ) (frame : Frame) (expectation : Expectation) :
    Nat → Except Error Bytes × Engine σ
  | 0 => engine.execute frame expectation
  | index + 1 => (engine.attempt frame expectation index).2.execute frame expectation

/-- No attempt is made after this one: the budget is used up, or it did not time out. -/
def StopsAt (engine : Engine σ) (frame : Frame) (expectation : Expectation) (budget index : Nat) :
    Prop :=
  index = budget ∨ (engine.attempt frame expectation index).1 ≠ .error .timeout

variable (engine : Engine σ) (frame : Frame) (expectation : Expectation)

/-- The later attempts are those of the engine after the first one. -/
theorem attempt_succ (index : Nat) :
    engine.attempt frame expectation (index + 1) =
      (engine.execute frame expectation).2.attempt frame expectation index := by
  induction index with
  | zero => rfl
  | succ index ih => rw [attempt, ih, attempt]

/-- With one attempt more in the budget, the engine stops one attempt later. -/
theorem stopsAt_succ_iff (budget index : Nat) :
    engine.StopsAt frame expectation (budget + 1) (index + 1) ↔
      (engine.execute frame expectation).2.StopsAt frame expectation budget index := by
  rw [StopsAt, StopsAt, attempt_succ, Nat.succ_inj]

/-- An attempt that does not time out is not followed by another one. -/
theorem isLeast_zero {budget : Nat} (h : engine.StopsAt frame expectation budget 0) :
    IsLeast {index | engine.StopsAt frame expectation budget index} 0 :=
  ⟨h, fun _ _ => Nat.zero_le _⟩

/-- To try again is to make attempts up to the first at which the engine stops. -/
theorem exists_last_attempt (budget : Nat) :
    ∃ last, IsLeast {index | engine.StopsAt frame expectation budget index} last ∧
      engine.executeWithRetry frame expectation budget = engine.attempt frame expectation last := by
  induction budget generalizing engine with
  | zero => exact ⟨0, engine.isLeast_zero frame expectation (.inl rfl), rfl⟩
  | succ budget ih =>
    by_cases htimeout : (engine.execute frame expectation).1 = .error .timeout
    · -- What follows are the attempts of the engine after the first one, with one less to go.
      obtain ⟨last, ⟨hstops, hleast⟩, hanswer⟩ := ih (engine.execute frame expectation).2
      have hlast := (engine.stopsAt_succ_iff frame expectation budget last).mpr hstops
      refine ⟨last + 1, ⟨hlast, ?_⟩, ?_⟩
      · rintro (_ | index) hindex
        · rcases hindex with hbudget | hother
          · simp at hbudget
          · exact absurd htimeout hother
        · have hlater := (engine.stopsAt_succ_iff frame expectation budget index).mp hindex
          exact Nat.succ_le_succ (hleast hlater)
      · rw [attempt_succ, ← hanswer, executeWithRetry]
        rcases hexecute : engine.execute frame expectation with ⟨answer, after⟩
        obtain rfl : answer = .error .timeout := by simpa [hexecute] using htimeout
        rfl
    · refine ⟨0, engine.isLeast_zero frame expectation (.inr htimeout), ?_⟩
      rw [executeWithRetry, attempt]
      -- An answer ends it as well as an error that is no timeout.
      rcases hexecute : engine.execute frame expectation with ⟨e | bytes, after⟩
      · have hne : ¬ e.isRetryable = true := by
          rw [Error.isRetryable_iff]
          rintro rfl
          simp [hexecute] at htimeout
        simp only [hne, Bool.false_eq_true, ↓reduceIte]
      · rfl

end Attempts

/-! ## What attempts do to a line -/

variable [Line σ]

/-- Every attempt makes one exchange and leaves the settings alone. -/
theorem exists_exchanges_attempt (engine : Engine (RecordedLine σ)) (frame : Frame)
    (expectation : Expectation) (last : Nat) :
    ∃ exchanges : List Exchange, exchanges.length = last + 1 ∧
      (∀ exchange ∈ exchanges, exchange.frame = frame ∧ exchange.expectation = some expectation ∧
        exchange.HalfDuplex engine.timing.writeDelay) ∧
      (∀ index ≤ last, (engine.attempt frame expectation index).2.calls =
        engine.calls ++ (exchanges.take (index + 1)).flatMap Exchange.calls) ∧
      engine.SameSettings (engine.attempt frame expectation last).2 := by
  induction last with
  | zero =>
    obtain ⟨exchange, hframe, hexpectation, hconducts⟩ := engine.conducts_execute frame expectation
    refine ⟨[exchange], rfl, ?_, ?_, hconducts.settings⟩
    · simpa using ⟨hframe, hexpectation, hconducts.ends.halfDuplex⟩
    · rintro index hindex
      obtain rfl := Nat.le_zero.mp hindex
      simpa [attempt] using hconducts.calls
  | succ last ih =>
    obtain ⟨exchanges, hlength, hforall, hcalls, hsettings⟩ := ih
    obtain ⟨exchange, hframe, hexpectation, hconducts⟩ :=
      (engine.attempt frame expectation last).2.conducts_execute frame expectation
    -- The attempt writes at the pace of the first one, since no attempt changes the settings.
    have hhalf := hconducts.ends.halfDuplex
    rw [hsettings.timing] at hhalf
    refine ⟨exchanges ++ [exchange], by simp [hlength], ?_, ?_, hsettings.trans hconducts.settings⟩
    · intro other hmem
      rcases List.mem_append.mp hmem with hold | hnew
      · exact hforall other hold
      · obtain rfl := List.mem_singleton.mp hnew
        exact ⟨hframe, hexpectation, hhalf⟩
    · intro index hindex
      rcases Nat.lt_or_eq_of_le hindex with hless | rfl
      · rw [hcalls index (by omega), List.take_append_of_le_length (by omega)]
      · -- The last attempt adds its exchange to those of all attempts before it.
        have hbefore := hcalls last (Nat.le_refl last)
        rw [List.take_of_length_le (by omega)] at hbefore
        rw [attempt, hconducts.calls, hbefore, List.take_of_length_le (by simp; omega),
          List.flatMap_append, List.append_assoc]
        simp

/-- An exchange is tried at most `budget` more times, with a certain outcome: the attempts up to
`last` are made, and these are their exchanges. -/
structure RetriesUpTo (engine : Engine (RecordedLine σ)) (frame : Frame) (expectation : Expectation)
    (budget : Nat) (outcome : Except Error Bytes × Engine (RecordedLine σ)) (last : Nat)
    (exchanges : List Exchange) : Prop where
  /-- The last attempt is the first at which the engine stops. -/
  isLeast : IsLeast {index | engine.StopsAt frame expectation budget index} last
  /-- Its answer and the engine after it are the outcome. -/
  eq_attempt : outcome = engine.attempt frame expectation last
  /-- Each attempt makes one exchange. -/
  length : exchanges.length = last + 1
  /-- The exchange writes the frame from its first byte on, and expects the reply to it. -/
  conducts : ∀ exchange ∈ exchanges, exchange.frame = frame ∧
    exchange.expectation = some expectation ∧ exchange.HalfDuplex engine.timing.writeDelay
  /-- Attempt by attempt, the record grows by these exchanges. -/
  grows : ∀ index ≤ last, (engine.attempt frame expectation index).2.calls =
    engine.calls ++ (exchanges.take (index + 1)).flatMap Exchange.calls
  /-- Nothing else is done to the line. -/
  calls : outcome.2.calls = engine.calls ++ exchanges.flatMap Exchange.calls
  /-- The line is flushed once for each attempt. -/
  flushes : (exchanges.flatMap Exchange.calls).countP (·.IsFlush) = last + 1
  /-- The budget bounds the flushes. -/
  le_budget : last ≤ budget
  /-- An error other than a timeout is the answer of the attempt that met with it. -/
  answers : ∀ index ≤ last, ∀ e, e ≠ .timeout →
    (engine.attempt frame expectation index).1 = .error e → index = last ∧ outcome.1 = .error e
  /-- Only if all the attempts that the budget allows time out, the answer is a timeout. -/
  timeout_iff : outcome.1 = .error .timeout ↔
    ∀ index ≤ budget, (engine.attempt frame expectation index).1 = .error .timeout
  /-- The settings stay. -/
  settings : engine.SameSettings outcome.2

/-- Trying again makes attempts up to the first that does not time out, or up to the budget. -/
theorem retriesUpTo_executeWithRetry (engine : Engine (RecordedLine σ)) (frame : Frame)
    (expectation : Expectation) (budget : Nat) :
    ∃ last exchanges, engine.RetriesUpTo frame expectation budget
      (engine.executeWithRetry frame expectation budget) last exchanges := by
  obtain ⟨last, hleast, houtcome⟩ := engine.exists_last_attempt frame expectation budget
  obtain ⟨exchanges, hlength, hforall, hcalls, hsettings⟩ :=
    engine.exists_exchanges_attempt frame expectation last
  have hbudget : last ≤ budget := hleast.2 (.inl rfl)
  -- The engine goes on at every attempt before the last one.
  have hbefore : ∀ index < last, index ≠ budget ∧
      (engine.attempt frame expectation index).1 = .error .timeout := by
    intro index hindex
    have hgoes : ¬ engine.StopsAt frame expectation budget index :=
      fun hstops => absurd (hleast.2 hstops) (Nat.not_le.mpr hindex)
    simpa [StopsAt] using hgoes
  rw [houtcome]
  refine ⟨last, exchanges, hleast, rfl, hlength, hforall, hcalls, ?_, ?_, hbudget, ?_, ?_,
    hsettings⟩
  · rw [hcalls last (Nat.le_refl last), List.take_of_length_le (Nat.le_of_eq hlength)]
  · rw [Exchange.countP_isFlush_flatMap fun exchange hmem => (hforall exchange hmem).2.2, hlength]
  · intro index hindex e he herror
    rcases Nat.lt_or_eq_of_le hindex with hless | rfl
    · have htimeout := (hbefore index hless).2
      exact absurd (Except.error.inj (herror.symm.trans htimeout)) he
    · exact ⟨rfl, herror⟩
  · constructor
    · -- The engine did not stop for an answer, so it stopped because the budget was used up.
      intro htimeout index hindex
      have hlast : last = budget := hleast.1.resolve_right (not_not_intro htimeout)
      rcases Nat.lt_or_eq_of_le (hlast ▸ hindex) with hless | rfl
      · exact (hbefore index hless).2
      · exact htimeout
    · intro hall
      exact hall last hbudget

/-- To try an exchange again within a budget, or to query a block within the one that the timing
sets, is to make attempts up to the first that does not time out or up to the budget. Each is an
exchange with a flush of its own, and the settings stay. -/
theorem retries_upTo (engine : Engine (RecordedLine σ)) :
    (∀ frame expectation budget, ∃ last exchanges,
      engine.RetriesUpTo frame expectation budget
        (engine.executeWithRetry frame expectation budget) last exchanges) ∧
    ∀ frame length, ∃ last exchanges,
      engine.RetriesUpTo frame (.block length) engine.timing.retries
        (engine.query frame length) last exchanges :=
  ⟨engine.retriesUpTo_executeWithRetry, fun frame length =>
    engine.retriesUpTo_executeWithRetry frame (.block length) engine.timing.retries⟩

/-- A radio that answers the second time it is asked. -/
example :
    let readStatus : Frame := ⟨.zero, 0xE7⟩
    let line : ScriptedLine := { script := [⟨readStatus.bytes, []⟩, ⟨readStatus.bytes, [0x80]⟩] }
    let engine : Engine (RecordedLine ScriptedLine) :=
      { channel := ⟨⟨line, []⟩, 0⟩, timing := { retries := 5 } }
    (engine.query readStatus 1).1 = .ok [0x80] ∧
      (engine.query readStatus 1).2.calls.countP (·.IsFlush) = 2 := by
  decide +kernel

end Engine

end Transceiver
