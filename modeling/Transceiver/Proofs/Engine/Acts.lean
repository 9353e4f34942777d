import Transceiver.Proofs.Engine.Run

/-!
# Acts of an Engine

Whatever an engine has to deal with, it does by single acts: it makes one exchange, stops confirming
commands, lets time pass, or gives the line up. `Engine.acts` lists the acts of a run. What every
act keeps, a run keeps, whichever of its exchanges are further attempts or liveness queries.

## Main statement

* `Engine.actAll_acts`: the acts of a run lead to the engine that the run leaves behind.
-/

namespace Transceiver

variable {σ : Type}

namespace Engine

/-- What an engine has to deal with. -/
inductive Event where
  /-- A request is made. -/
  | request (request : Request)
  /-- The line is given up. -/
  | close
  deriving DecidableEq, Repr

/-- A single act of an engine. -/
inductive Act where
  /-- It makes an exchange, in which it waits for a reply if one is expected. -/
  | exchange (frame : Frame) (expectation : Option Expectation)
  /-- It stops confirming commands. -/
  | stopConfirming
  /-- It lets time pass. -/
  | sleep (duration : Nat)
  /-- It gives the line up. -/
  | close
  deriving DecidableEq, Repr

variable [Line σ]

/-! ## Events -/

/-- Deals with an event. Where nothing is read, the answer is no bytes. -/
def handle (engine : Engine σ) : Event → Except Error Bytes × Engine σ
  | .request request => engine.perform request
  | .close =>
    let (result, engine) := engine.close
    (result.map fun _ => [], engine)

/-- The engine after it has dealt with events in order. -/
def handleAll (engine : Engine σ) : List Event → Engine σ
  | [] => engine
  | event :: events => (engine.handle event).2.handleAll events

/-- The answer to each event, with the engine after it. -/
def history (engine : Engine σ) : List Event → List (Except Error Bytes × Engine σ)
  | [] => []
  | event :: events => engine.handle event :: (engine.handle event).2.history events

/-! ## Exchanges -/

/-- Makes an exchange. Where nothing is read, the answer is no bytes. -/
def exchange (engine : Engine σ) (frame : Frame) : Option Expectation →
    Except Error Bytes × Engine σ
  | some expectation => engine.execute frame expectation
  | none =>
    let (result, engine) := engine.writeOnly frame
    (result.map fun _ => [], engine)

/-- However an exchange goes, the engine ends it after the last byte it wrote or read. -/
theorem exchange_cases (engine : Engine σ) (frame : Frame) (expectation : Option Expectation) :
    ∃ last progress, (engine.exchange frame expectation).2 = last.finish progress ∧
      (last = (engine.prepare.write frame).2 ∨
        ∃ expected, (engine.prepare.write frame).1 = .ok () ∧
          last = ((engine.prepare.write frame).2.read expected).2) := by
  cases expectation with
  | none =>
    rw [exchange, writeOnly]
    rcases engine.prepare.write frame with ⟨e | ⟨⟩, written⟩
    · exact ⟨written, .failed, rfl, .inl rfl⟩
    · exact ⟨written, .completed, rfl, .inl rfl⟩
  | some expected =>
    rw [exchange, execute]
    rcases engine.prepare.write frame with ⟨e | ⟨⟩, written⟩
    · exact ⟨written, .failed, rfl, .inl rfl⟩
    · exact ⟨_, _, rfl, .inr ⟨expected, rfl, rfl⟩⟩

/-- An exchange changes no settings. -/
theorem sameSettings_exchange (engine : Engine σ) (frame : Frame)
    (expectation : Option Expectation) :
    engine.SameSettings (engine.exchange frame expectation).2 := by
  obtain ⟨last, progress, hlast, hcases⟩ := engine.exchange_cases frame expectation
  have hwritten := engine.sameSettings_prepare.trans (engine.prepare.sameSettings_write frame)
  rw [hlast]
  rcases hcases with rfl | ⟨expected, -, rfl⟩
  · exact hwritten.trans (sameSettings_finish _ progress)
  · exact hwritten.trans ((sameSettings_read _ expected).trans (sameSettings_finish _ progress))

/-! ## Acts -/

/-- The engine after a single act. -/
def act (engine : Engine σ) : Act → Engine σ
  | .exchange frame expectation => (engine.exchange frame expectation).2
  | .stopConfirming => engine.stopConfirming
  | .sleep duration => engine.sleep duration
  | .close => engine.close.2

/-- The engine after several acts. -/
def actAll (engine : Engine σ) (acts : List Act) : Engine σ :=
  acts.foldl act engine

/-- No reply came in time. -/
def timedOut : Except Error Bytes → Bool
  | .error .timeout => true
  | _ => false

/-- The exchanges of a query that is tried at most `retries` more times. -/
def attempts (engine : Engine σ) (frame : Frame) (expectation : Expectation) :
    (retries : Nat) → List Act
  | 0 => [.exchange frame (some expectation)]
  | retries + 1 =>
    .exchange frame (some expectation) ::
      if timedOut (engine.execute frame expectation).1 then
        (engine.execute frame expectation).2.attempts frame expectation retries
      else []

/-- How an engine finds out why a command was not confirmed. -/
def livenessActs (engine : Engine σ) : List Act :=
  match engine.liveness with
  | none => []
  | some (frame, length) =>
    .exchange frame (some (.block length)) ::
      match (engine.execute frame (.block length)).1 with
      | .ok _ => [.stopConfirming]
      | .error _ => []

/-- How a command is sent. -/
def commandActs (engine : Engine σ) (frame : Frame) : List Act :=
  match engine.ackMode with
  | .skip => [.exchange frame none]
  | .read => [.exchange frame (some .ack)]
  | .detect =>
    .exchange frame (some .ack) ::
      if timedOut (engine.execute frame .ack).1 then
        (engine.execute frame .ack).2.livenessActs
      else []

/-- How an event is dealt with. -/
def actsOn (engine : Engine σ) : Event → List Act
  | .request (.execute frame expectation) => [.exchange frame (some expectation)]
  | .request (.executeWithRetry frame expectation retries) =>
    engine.attempts frame expectation retries
  | .request (.query frame length) => engine.attempts frame (.block length) engine.timing.retries
  | .request (.sendCommand frame) => engine.commandActs frame
  | .request (.sleep duration) => [.sleep duration]
  | .close => [.close]

/-- How a run of events is dealt with. -/
def acts (engine : Engine σ) : List Event → List Act
  | [] => []
  | event :: events => engine.actsOn event ++ (engine.handle event).2.acts events

/-- A result counts as a timeout exactly if it is one. -/
@[simp]
theorem timedOut_iff (result : Except Error Bytes) :
    timedOut result = true ↔ result = .error .timeout := by
  rcases result with e | bytes
  · cases e <;> simp [timedOut]
  · simp [timedOut]

/-- Acts that follow other acts start from the engine that these leave. -/
@[simp]
theorem actAll_append (engine : Engine σ) (first second : List Act) :
    engine.actAll (first ++ second) = (engine.actAll first).actAll second :=
  List.foldl_append

/-- The first of several acts comes before the others. -/
@[simp]
theorem actAll_cons (engine : Engine σ) (act : Act) (acts : List Act) :
    engine.actAll (act :: acts) = (engine.act act).actAll acts := rfl

/-- Trying again is to act as `attempts` says. -/
theorem actAll_attempts (engine : Engine σ) (frame : Frame) (expectation : Expectation)
    (retries : Nat) :
    engine.actAll (engine.attempts frame expectation retries) =
      (engine.executeWithRetry frame expectation retries).2 := by
  induction retries generalizing engine with
  | zero => rfl
  | succ retries ih =>
    rw [attempts, executeWithRetry, actAll_cons, act, exchange]
    rcases hexecute : engine.execute frame expectation with ⟨e | bytes, after⟩
    · by_cases htimeout : e = .timeout
      · simp [htimeout, ih]
      · simp [htimeout, actAll]
    · simp [actAll]

/-- Finding out why a command was not confirmed is to act as `livenessActs` says. -/
theorem actAll_livenessActs (engine : Engine σ) :
    engine.actAll engine.livenessActs = engine.checkLiveness.2 := by
  rw [livenessActs, checkLiveness]
  rcases engine.liveness with _ | ⟨frame, length⟩
  · rfl
  · simp only [actAll_cons, act, exchange]
    rcases engine.execute frame (.block length) with ⟨e | bytes, after⟩ <;> rfl

/-- Sending a command is to act as `commandActs` says. -/
theorem actAll_commandActs (engine : Engine σ) (frame : Frame) :
    engine.actAll (engine.commandActs frame) = (engine.sendCommand frame).2 := by
  -- The acts follow the mode as the command does, and in both a timeout leads to the liveness
  -- query.
  rw [commandActs]
  cases hmode : engine.ackMode with
  | read => rw [sendCommand_of_read frame hmode]; rfl
  | skip => rw [sendCommand_of_skip frame hmode]; rfl
  | detect =>
    rw [actAll_cons, act, exchange]
    by_cases hreply : (engine.execute frame .ack).1 = .error .timeout
    · rw [sendCommand_of_timeout hmode hreply, if_pos ((timedOut_iff _).mpr hreply),
        actAll_livenessActs]
    · rw [sendCommand_of_ne_timeout hmode hreply, if_neg (mt (timedOut_iff _).mp hreply)]
      rfl

/-- Every event is dealt with by the acts that `actsOn` lists for it. -/
theorem actAll_actsOn (engine : Engine σ) (event : Event) :
    engine.actAll (engine.actsOn event) = (engine.handle event).2 := by
  cases event with
  | request request =>
    cases request with
    | execute frame expectation => rfl
    | executeWithRetry frame expectation retries =>
      exact engine.actAll_attempts frame expectation retries
    | query frame length => exact engine.actAll_attempts frame (.block length) _
    | sendCommand frame => exact engine.actAll_commandActs frame
    | sleep duration => rfl
  | close => rfl

/-- The acts of a run lead to the engine that the run leaves behind. -/
theorem actAll_acts (engine : Engine σ) (events : List Event) :
    engine.actAll (engine.acts events) = engine.handleAll events := by
  induction events generalizing engine with
  | nil => rfl
  | cons event events ih => rw [acts, handleAll, actAll_append, actAll_actsOn, ih]

end Engine

end Transceiver
