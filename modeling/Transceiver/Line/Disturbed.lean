import Transceiver.Line

/-!
# Disturbed Lines

A disturbed line passes every call on to another line, but can be told how its next receives go:
late, cut short, empty or failing. A receive that ends in a timeout takes the whole time it was
given, as it would on a real port.
-/

namespace Transceiver

/-- What a disturbed receive does. -/
inductive ReceiveEffect where
  /-- Asks the line, for no more than a certain number of bytes if one is given. -/
  | ask (most : Option Nat)
  /-- Answers with no bytes, without asking the line. -/
  | empty
  /-- Fails, without asking the line. -/
  | fail (e : Error)
  deriving DecidableEq, Repr

/-- How one receive goes. -/
structure Disturbance where
  /-- The time that passes first, in milliseconds. -/
  delay : Nat := 0
  /-- What happens then. -/
  effect : ReceiveEffect := .ask none
  deriving DecidableEq, Repr

/-- A line with disturbed receives. -/
structure DisturbedLine (σ : Type) where
  /-- The line that calls are passed on to. -/
  inner : σ
  upcoming : List Disturbance := []

namespace DisturbedLine

variable {σ : Type} [Line σ]

/-- Carries out the effect of a disturbance. -/
def perform (inner : σ) (now limit timeout : Nat) : ReceiveEffect → Outcome σ Bytes
  | .ask most => Line.receive inner now (min limit (most.getD limit)) timeout
  | .empty => ⟨.ok [], 0, inner⟩
  | .fail e => ⟨.error e, 0, inner⟩

/-- The time a receive waits at its end: all of it if nothing came. -/
def waited (timeout : Nat) : Except Error Bytes → Nat
  | .error .timeout => timeout
  | _ => 0

/-- Receives as the next disturbance says, or undisturbed if none is left. -/
def receive (line : DisturbedLine σ) (now limit timeout : Nat) :
    Outcome (DisturbedLine σ) Bytes :=
  let disturbance := line.upcoming.headD {}
  let outcome := perform line.inner (now + disturbance.delay) limit timeout disturbance.effect
  { result := outcome.result
    elapsed := disturbance.delay + outcome.elapsed + waited timeout outcome.result
    -- The disturbance is used up whether or not it reached the line.
    line := ⟨outcome.line, line.upcoming.tail⟩ }

instance : Line (DisturbedLine σ) where
  send line now bytes := (Line.send line.inner now bytes).within (⟨·, line.upcoming⟩)
  receive := receive
  flush line now := (Line.flush line.inner now).within (⟨·, line.upcoming⟩)
  close line now := (Line.close line.inner now).within (⟨·, line.upcoming⟩)

end DisturbedLine

end Transceiver
