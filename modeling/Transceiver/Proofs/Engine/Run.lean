import Transceiver.Proofs.Engine.Command

/-!
# Runs of an Engine

`Request` lists what can be asked of an engine, and `Engine.run` carries out one request after the
other. A query that is tried several times makes several exchanges: `Engine.Attempts` says which.

## Main statement

* `Engine.adds_run`: by which exchanges the record grows in a run, whatever the line answers.
-/

namespace Transceiver

variable {σ : Type}

/-- What can be asked of an engine. -/
inductive Request where
  /-- To carry out one exchange. -/
  | execute (frame : Frame) (expectation : Expectation)
  /-- To carry out an exchange, and again up to `retries` more times while it times out. -/
  | executeWithRetry (frame : Frame) (expectation : Expectation) (retries : Nat)
  /-- To read a block of `length` bytes. -/
  | query (frame : Frame) (length : Nat)
  /-- To send a command. -/
  | sendCommand (frame : Frame)
  /-- To let time pass. -/
  | sleep (duration : Nat)
  deriving DecidableEq, Repr

/-- The frame that a request hands to the engine. -/
def Request.frame? : Request → Option Frame
  | execute frame _ | executeWithRetry frame _ _ | query frame _ | sendCommand frame => some frame
  | sleep _ => none

namespace Engine

section Requests

variable [Line σ]

/-- Carries out a request. A command that was carried out answers with no bytes. -/
def perform (engine : Engine σ) : Request → Except Error Bytes × Engine σ
  | .execute frame expectation => engine.execute frame expectation
  | .executeWithRetry frame expectation retries =>
    engine.executeWithRetry frame expectation retries
  | .query frame length => engine.query frame length
  | .sendCommand frame =>
    let (result, engine) := engine.sendCommand frame
    (result.map fun _ => [], engine)
  | .sleep duration => (.ok [], engine.sleep duration)

/-- Carries out requests in order. -/
def run (engine : Engine σ) : List Request → List (Except Error Bytes) × Engine σ
  | [] => ([], engine)
  | request :: requests =>
    let (result, engine) := engine.perform request
    let (results, engine) := engine.run requests
    (result :: results, engine)

end Requests

/-! ## Trying again -/

/-- The exchanges of a query that is tried at most `retries` more times, with the answer of the last
one and the engine after it. All but the last one time out. -/
inductive Attempts (frame : Frame) (expectation : Expectation) :
    Nat → Engine (RecordedLine σ) → List Exchange → Except Error Bytes →
      Engine (RecordedLine σ) → Prop
  | last {retries : Nat} {engine after : Engine (RecordedLine σ)} {exchange : Exchange}
      {result : Except Error Bytes} :
      exchange.frame = frame → exchange.expectation = some expectation →
        engine.Conducts exchange result after → retries = 0 ∨ result ≠ .error .timeout →
        Attempts frame expectation retries engine [exchange] result after
  | again {retries : Nat} {engine middle after : Engine (RecordedLine σ)} {exchange : Exchange}
      {exchanges : List Exchange} {result : Except Error Bytes} :
      exchange.frame = frame → exchange.expectation = some expectation →
        engine.Conducts exchange (.error .timeout) middle →
        Attempts frame expectation retries middle exchanges result after →
        Attempts frame expectation (retries + 1) engine (exchange :: exchanges) result after

/-- Trying again makes such exchanges. -/
theorem attempts_executeWithRetry [Line σ] (engine : Engine (RecordedLine σ)) (frame : Frame)
    (expectation : Expectation) (retries : Nat) :
    ∃ exchanges, Attempts frame expectation retries engine exchanges
      (engine.executeWithRetry frame expectation retries).1
      (engine.executeWithRetry frame expectation retries).2 := by
  -- Every attempt starts from the engine that the last one left.
  induction retries generalizing engine with
  | zero =>
    obtain ⟨exchange, hframe, hexpectation, hconducts⟩ := engine.conducts_execute frame expectation
    exact ⟨_, .last hframe hexpectation hconducts (.inl rfl)⟩
  | succ retries ih =>
    obtain ⟨exchange, hframe, hexpectation, hconducts⟩ := engine.conducts_execute frame expectation
    rw [executeWithRetry]
    split
    next e after hexecute =>
      rw [hexecute] at hconducts
      split
      next hretry =>
        obtain rfl := e.isRetryable_iff.mp hretry
        obtain ⟨exchanges, hattempts⟩ := ih after
        exact ⟨_, .again hframe hexpectation hconducts hattempts⟩
      next hretry =>
        have hne : e ≠ .timeout := fun h => hretry (e.isRetryable_iff.mpr h)
        exact ⟨_, .last hframe hexpectation hconducts (.inr (by simpa using hne))⟩
    next bytes after hexecute =>
      rw [hexecute] at hconducts
      exact ⟨_, .last hframe hexpectation hconducts (.inr (by simp))⟩

/-- The record grows by the calls of all attempts, in order. -/
theorem Attempts.calls {engine after : Engine (RecordedLine σ)} {frame : Frame}
    {expectation : Expectation} {retries : Nat} {exchanges : List Exchange}
    {result : Except Error Bytes}
    (h : Attempts frame expectation retries engine exchanges result after) :
    after.calls = engine.calls ++ exchanges.flatMap Exchange.calls := by
  induction h with
  | last _ _ hconducts _ => simp [hconducts.calls]
  | again _ _ hconducts _ ih =>
    rw [ih, hconducts.calls, List.flatMap_cons, List.append_assoc]

/-- There is always an attempt, and it begins with a flush. -/
theorem Attempts.calls_ne {engine after : Engine (RecordedLine σ)} {frame : Frame}
    {expectation : Expectation} {retries : Nat} {exchanges : List Exchange}
    {result : Except Error Bytes}
    (h : Attempts frame expectation retries engine exchanges result after) :
    after.calls ≠ engine.calls := by
  intro hcalls
  have hlength := congrArg List.length (h.calls.symm.trans hcalls)
  cases h <;> simp [Exchange.calls] at hlength

/-! ## What a run adds to the record -/

/-- The record grows by the calls of half-duplex exchanges, whose frames are of a certain origin.
The pace of writing and the liveness query stay, whatever becomes of the other settings. -/
structure Adds (engine : Engine (RecordedLine σ)) (origin : Frame → Prop)
    (exchanges : List Exchange) (after : Engine (RecordedLine σ)) : Prop where
  /-- The record grows by the calls of the exchanges. -/
  calls : after.calls = engine.calls ++ exchanges.flatMap Exchange.calls
  /-- Each exchange has the half-duplex shape. -/
  halfDuplex : ∀ exchange ∈ exchanges, exchange.HalfDuplex engine.timing.writeDelay
  /-- Each exchange writes a frame of that origin. -/
  origin : ∀ exchange ∈ exchanges, origin exchange.frame
  /-- The pace of writing stays. -/
  writeDelay : after.timing.writeDelay = engine.timing.writeDelay
  /-- The liveness query stays. -/
  liveness : after.liveness = engine.liveness

namespace Adds

variable {engine middle after : Engine (RecordedLine σ)} {origin : Frame → Prop}
  {first second : List Exchange}

/-- Nothing is added where nothing happens. -/
theorem nil (engine : Engine (RecordedLine σ)) (origin : Frame → Prop) :
    engine.Adds origin [] engine :=
  ⟨by simp, by simp, by simp, rfl, rfl⟩

/-- What is added in two steps is added together. -/
theorem append (h : engine.Adds origin first middle) (h' : middle.Adds origin second after) :
    engine.Adds origin (first ++ second) after := by
  refine ⟨?_, ?_, ?_, h'.writeDelay.trans h.writeDelay, h'.liveness.trans h.liveness⟩
  · rw [h'.calls, h.calls, List.flatMap_append, List.append_assoc]
  · intro exchange hmem
    rcases List.mem_append.mp hmem with hfirst | hsecond
    · exact h.halfDuplex exchange hfirst
    · rw [← h.writeDelay]
      exact h'.halfDuplex exchange hsecond
  · intro exchange hmem
    rcases List.mem_append.mp hmem with hfirst | hsecond
    · exact h.origin exchange hfirst
    · exact h'.origin exchange hsecond

/-- Frames of one origin may be of another that covers it. -/
theorem mono {other : Frame → Prop} (h : engine.Adds origin first after)
    (hother : ∀ frame, origin frame → other frame) : engine.Adds other first after :=
  ⟨h.calls, h.halfDuplex, fun exchange hmem => hother _ (h.origin exchange hmem), h.writeDelay,
    h.liveness⟩

end Adds

/-- An exchange adds itself. -/
theorem Conducts.adds {engine after : Engine (RecordedLine σ)} {exchange : Exchange}
    {result : Except Error Bytes} {origin : Frame → Prop}
    (h : engine.Conducts exchange result after) (horigin : origin exchange.frame) :
    engine.Adds origin [exchange] after :=
  ⟨by simp [h.calls], by simpa using h.ends.halfDuplex, by simpa using horigin,
    by rw [h.settings.timing], h.settings.liveness⟩

/-- A query adds all its attempts. -/
theorem Attempts.adds {engine after : Engine (RecordedLine σ)} {frame : Frame}
    {expectation : Expectation} {retries : Nat} {exchanges : List Exchange}
    {result : Except Error Bytes} {origin : Frame → Prop}
    (h : Attempts frame expectation retries engine exchanges result after)
    (horigin : origin frame) : engine.Adds origin exchanges after := by
  induction h with
  | last hframe _ hconducts _ => exact hconducts.adds (hframe ▸ horigin)
  | again hframe _ hconducts _ ih => exact (hconducts.adds (hframe ▸ horigin)).append ih

/-- A command adds its own exchange, and perhaps that of the liveness query. -/
theorem Course.adds {engine after : Engine (RecordedLine σ)} {frame : Frame}
    {result : Except Error Unit} {origin : Frame → Prop} (h : engine.Course frame result after)
    (horigin : origin frame)
    (hliveness : ∀ query length, engine.liveness = some (query, length) → origin query) :
    ∃ exchanges, engine.Adds origin exchanges after := by
  cases h with
  | unconfirmed _ hframe _ hconducts => exact ⟨_, hconducts.adds (hframe ▸ horigin)⟩
  | settled _ _ hframe _ hconducts => exact ⟨_, hconducts.adds (hframe ▸ horigin)⟩
  | answered _ hquery hframe _ hconducts _ hcheck =>
    have hadds := (hconducts.adds (hframe ▸ horigin)).append
      (hcheck.adds (hliveness _ _ hquery))
    exact ⟨_, hadds.calls, hadds.halfDuplex, hadds.origin, hadds.writeDelay, hadds.liveness⟩
  | unanswered _ hquery hframe _ hconducts _ hcheck =>
    exact ⟨_, (hconducts.adds (hframe ▸ horigin)).append (hcheck.adds (hliveness _ _ hquery))⟩

/-! ## Requests and runs -/

/-- The frames that an engine may write to serve requests: theirs, and that of its liveness
query. -/
def Serves (engine : Engine σ) (requests : List Request) (frame : Frame) : Prop :=
  (∃ request ∈ requests, request.frame? = some frame) ∨
    ∃ length, engine.liveness = some (frame, length)

/-- The frame that is handed over with a request serves it. -/
theorem serves_singleton {engine : Engine σ} {request : Request} {frame : Frame}
    (h : request.frame? = some frame) : engine.Serves [request] frame :=
  .inl ⟨request, by simp, h⟩

variable [Line σ]

/-- Whatever is asked of an engine, the record grows by half-duplex exchanges. -/
theorem adds_perform (engine : Engine (RecordedLine σ)) (request : Request) :
    ∃ exchanges, engine.Adds (engine.Serves [request]) exchanges (engine.perform request).2 := by
  -- Each request conducts exchanges that are known already. Only a command may add another frame.
  cases request with
  | execute frame expectation =>
    obtain ⟨exchange, hframe, -, hconducts⟩ := engine.conducts_execute frame expectation
    exact ⟨_, hconducts.adds (hframe ▸ serves_singleton rfl)⟩
  | executeWithRetry frame expectation retries =>
    obtain ⟨exchanges, hattempts⟩ := engine.attempts_executeWithRetry frame expectation retries
    exact ⟨_, hattempts.adds (serves_singleton rfl)⟩
  | query frame length =>
    obtain ⟨exchanges, hattempts⟩ :=
      engine.attempts_executeWithRetry frame (.block length) engine.timing.retries
    exact ⟨_, hattempts.adds (serves_singleton rfl)⟩
  | sendCommand frame =>
    exact (engine.course_sendCommand frame).adds (serves_singleton rfl)
      fun _ length hquery => .inr ⟨length, hquery⟩
  | sleep duration =>
    exact ⟨[], by simp [perform, sleep, calls], by simp, by simp, rfl, rfl⟩

/-- So it does in a whole run, since the pace of writing and the liveness query stay. -/
theorem adds_run (engine : Engine (RecordedLine σ)) (requests : List Request) :
    ∃ exchanges, engine.Adds (engine.Serves requests) exchanges (engine.run requests).2 := by
  induction requests generalizing engine with
  | nil => exact ⟨[], .nil engine _⟩
  | cons request requests ih =>
    obtain ⟨first, hfirst⟩ := engine.adds_perform request
    obtain ⟨rest, hrest⟩ := ih (engine.perform request).2
    -- What serves the one request or the others serves all of them.
    refine ⟨first ++ rest, (hfirst.mono ?_).append (hrest.mono ?_)⟩
    · rintro frame (⟨_, hmem, hframe⟩ | hquery)
      · exact .inl ⟨request, by simp, List.mem_singleton.mp hmem ▸ hframe⟩
      · exact .inr hquery
    · rintro frame (⟨other, hmem, hframe⟩ | hquery)
      · exact .inl ⟨other, by simp [hmem], hframe⟩
      · exact .inr (hfirst.liveness ▸ hquery)

end Engine

end Transceiver
