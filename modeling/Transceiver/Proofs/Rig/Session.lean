import Transceiver.Proofs.Rig.Step

/-!
# Runs of a Session

A session goes through events: operations, and time that passes between them. `Rig.sent` lists the
commands that a run sends, and `Rig.replies` the replies to a query that it stores. The reply that
is kept is always the last of them, however many settings have marked it expired since.
-/

namespace Transceiver

variable {σ : Type} [Line σ]

namespace Rig

/-- What happens to a session. -/
inductive Event where
  /-- An operation is carried out. -/
  | perform (operation : Operation)
  /-- Time passes. -/
  | sleep (duration : Nat)
  deriving DecidableEq, Repr

/-- Goes through one event. -/
def step (rig : Rig σ) : Event → Except Error Answer × Rig σ
  | .perform operation => (perform operation).apply rig
  | .sleep duration => (.ok .done, { rig with engine := rig.engine.sleep duration })

/-- Goes through events in order. -/
def run (rig : Rig σ) : List Event → Rig σ
  | [] => rig
  | event :: events => (rig.step event).2.run events

/-- The commands that an event makes the session send. -/
def commands (rig : Rig σ) : Event → List SentCommand
  | .perform operation => (rig.account operation).commands
  | .sleep _ => []

/-- The commands that a run sends, the first one first. -/
def sent (rig : Rig σ) : List Event → List SentCommand
  | [] => []
  | event :: events => rig.commands event ++ (rig.step event).2.sent events

/-- The reply to a query that an event makes the session store. -/
def stored (rig : Rig σ) (query : StatusQuery) : Event → Option Bytes
  | .perform operation => rig.fetched operation query
  | .sleep _ => none

/-- The replies to a query that a run stores, the first one first. -/
def replies (rig : Rig σ) (query : StatusQuery) : List Event → List Bytes
  | [] => []
  | event :: events => (rig.stored query event).toList ++ (rig.step event).2.replies query events

/-- A run over more events goes on from where the first ones led. -/
@[simp]
theorem run_append (rig : Rig σ) (events later : List Event) :
    rig.run (events ++ later) = (rig.run events).run later := by
  induction events generalizing rig with
  | nil => rfl
  | cons event events ih => exact ih (rig.step event).2

/-- After an event the reply that is kept is the one it stored, or else the one before. -/
theorem peek_step (rig : Rig σ) (query : StatusQuery) (event : Event) :
    (rig.step event).2.cache.peek query =
      (rig.stored query event).or (rig.cache.peek query) := by
  cases event with
  | perform operation => exact rig.peek_perform operation query
  | sleep duration => rfl

/-- No event changes the model. -/
theorem descriptor_step (rig : Rig σ) (event : Event) :
    (rig.step event).2.descriptor = rig.descriptor := by
  cases event with
  | perform operation => exact rig.descriptor_perform operation
  | sleep duration => rfl

/-- No run changes the model. -/
@[simp]
theorem descriptor_run (rig : Rig σ) (events : List Event) :
    (rig.run events).descriptor = rig.descriptor := by
  induction events generalizing rig with
  | nil => rfl
  | cons event events ih => exact (ih (rig.step event).2).trans (rig.descriptor_step event)

/-- The reply that is kept is the last one stored. -/
theorem peek_run (rig : Rig σ) (query : StatusQuery) (events : List Event) :
    (rig.run events).cache.peek query =
      (rig.replies query events).getLast?.or (rig.cache.peek query) := by
  induction events generalizing rig with
  | nil => rfl
  | cons event events ih =>
    have hstored : (rig.stored query event).toList.getLast? = rig.stored query event := by
      cases rig.stored query event <;> rfl
    rw [run, ih, peek_step, replies, List.getLast?_append, hstored, Option.or_assoc]

/-- In a session from its beginning no other reply is kept. -/
theorem peek_run_start (descriptor : Descriptor) (channel : Channel σ) (query : StatusQuery)
    (events : List Event) :
    ((start descriptor channel).run events).cache.peek query =
      ((start descriptor channel).replies query events).getLast? := by
  rw [peek_run]
  exact Option.or_none

end Rig

end Transceiver
