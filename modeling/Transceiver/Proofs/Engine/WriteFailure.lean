import Transceiver.Line.Disturbed
import Transceiver.Line.Scripted
import Transceiver.Proofs.Engine.Retry
import Transceiver.Proofs.Line.View

/-!
# Failures to Write

A frame that did not go out whole may have reached the radio in part, so nothing more may be said to
it: the operation ends with the send that failed. The error passes three places at which an
operation may go on after a timeout, since it takes a timeout to mean that the radio did not reply.
A send that times out is taken for that as well. `Request.GoesOn` says when.

On a line that answers a timeout to receives only (`Line.SendsNeverTimeOut`) there is no such
exception. Every line of this library is one: a send waits until the bytes are handed over.

## Main statements

* `Engine.perform_of_failed_send`: what follows the first send of a request's frame that fails;
* `Engine.fails_of_sendsNeverTimeOut`: nothing does, where only receives time out.
-/

namespace Transceiver

variable {σ : Type}

/-! ## Lines on which only receives time out -/

/-- A timeout tells that no reply came in time. It is an answer of receives, never one of sends. -/
def Line.SendsNeverTimeOut (σ : Type) [Line σ] : Prop :=
  ∀ (line : σ) (now : Nat) (bytes : Bytes), (Line.send line now bytes).result ≠ .error .timeout

/-- A scripted line hears a piece or finds fault with it, but does not time out. -/
theorem ScriptedLine.hear_ne_timeout (line : ScriptedLine) (bytes : Bytes) :
    (line.hear bytes).1 ≠ .error .timeout := by
  unfold hear
  cases line.script with
  | nil => simp
  | cons entry script =>
    dsimp only
    split
    · simp
    · split <;> simp

/-- A send on a scripted line fails for a reason of its own. -/
theorem ScriptedLine.sendsNeverTimeOut : Line.SendsNeverTimeOut ScriptedLine := by
  intro line now bytes
  change (line.send bytes).1 ≠ .error .timeout
  unfold send
  by_cases hconnected : line.connected = true
  · cases line.sendFailures with
    | zero => simpa [hconnected] using hear_ne_timeout _ bytes
    | succ failures => simp [hconnected]
  · simp [hconnected]

section Layers

variable [Line σ] (h : Line.SendsNeverTimeOut σ)

include h

/-- A record changes no answer. -/
theorem RecordedLine.sendsNeverTimeOut : Line.SendsNeverTimeOut (RecordedLine σ) :=
  fun line => h line.inner

/-- To leave out flushes changes no answer of a send. -/
theorem UnflushedLine.sendsNeverTimeOut : Line.SendsNeverTimeOut (UnflushedLine σ) :=
  fun line => h line.inner

/-- Only receives are disturbed. -/
theorem DisturbedLine.sendsNeverTimeOut : Line.SendsNeverTimeOut (DisturbedLine σ) :=
  fun line => h line.inner

/-- On such a line no request puts a send that timed out on record. -/
theorem Line.SendsNeverTimeOut.perform (engine : Engine (RecordedLine σ)) (request : Request)
    {added : List Call} {piece : Bytes}
    (hcalls : (engine.perform request).2.calls = engine.calls ++ added) :
    .send piece (.error .timeout) ∉ added := by
  have hsends (line : σ) (now : Nat) (bytes : Bytes) :
      Call.send bytes (Line.send line now bytes).result ≠ .send piece (.error .timeout) := by
    intro hsend
    exact h line now bytes (Call.send.inj hsend).2
  have hinvariant : Line.IsInvariant (RecordedLine.GrewBy (σ := σ) engine.channel.line.calls
      fun call => call ≠ .send piece (.error .timeout)) :=
    RecordedLine.isInvariant_grewBy _ hsends (by simp) (by simp) (by simp)
  intro hmem
  exact RecordedLine.perform_of_isInvariant hinvariant hcalls _ hmem rfl

end Layers

/-! ## The last call -/

/-- Where a call lies in a record of two parts. -/
theorem Call.split_append {first second before later : List Call} {call : Call}
    (h : first ++ second = before ++ call :: later) :
    (∃ rest, first = before ++ call :: rest ∧ later = rest ++ second) ∨
      ∃ rest, before = first ++ rest ∧ second = rest ++ call :: later := by
  rcases List.append_eq_append_iff.mp h with ⟨rest, hbefore, hsecond⟩ | ⟨rest, hfirst, hlater⟩
  · exact .inr ⟨rest, hbefore, hsecond⟩
  · cases rest with
    | nil => exact .inr ⟨[], by simpa using hfirst.symm, hlater.symm⟩
    | cons next rest =>
      obtain ⟨rfl, rfl⟩ := List.cons.inj hlater
      exact .inl ⟨rest, hfirst, rfl⟩

/-- A send that failed is the last call of its exchange, and its error is the answer. -/
theorem Exchange.Ends.of_failed_send {timing : Timing} {sentinels : Sentinels} {exchange : Exchange}
    {result : Except Error Bytes} {progress : Progress} {before later : List Call} {piece : Bytes}
    {e : Error} (h : exchange.Ends timing sentinels result progress)
    (hcalls : exchange.calls = before ++ .send piece (.error e) :: later) :
    later = [] ∧ result = .error e ∧ progress = .failed := by
  -- The send is not among the receives that read the reply, so it is one of those that write.
  have hreads : .send piece (.error e) ∉ exchange.reads := by
    intro hmem
    exact Call.not_isReceive_send piece _ (h.halfDuplex.reads _ hmem)
  obtain ⟨sends, hrest⟩ : ∃ sends,
      exchange.writes ++ exchange.reads = sends ++ .send piece (.error e) :: later := by
    cases before with
    | nil => simp [Exchange.calls] at hcalls
    | cons call before => exact ⟨before, (List.cons.inj hcalls).2⟩
  rcases Call.split_append hrest with ⟨rest, hwrites, rfl⟩ | ⟨rest, -, hmem⟩
  · cases h with
    | unsent hpieces =>
      obtain ⟨rfl, hresult⟩ := hpieces.of_failed_send hwrites
      exact ⟨rfl, congrArg Except.error (Except.error.inj hresult), rfl⟩
    | unread hpieces => exact absurd (hpieces.of_failed_send hwrites).2 (by simp)
    | read hpieces _ _ => exact absurd (hpieces.of_failed_send hwrites).2 (by simp)
  · exact absurd (by simp [hmem]) hreads

/-- A send before the second flush belongs to the first exchange, and not to one that follows. -/
theorem Exchange.split_of_send {command : Exchange} {check before later : List Call}
    {piece : Bytes} {answer : Except Error Unit} (hcheck : ∀ call ∈ check.head?, call.IsFlush)
    (hcalls : command.calls ++ check = before ++ .send piece answer :: later)
    (hbefore : ∀ call ∈ before.tail, ¬ call.IsFlush) :
    ∃ rest, command.calls = before ++ .send piece answer :: rest ∧ later = rest ++ check := by
  rcases Call.split_append hcalls with hcommand | ⟨rest, rfl, rfl⟩
  · exact hcommand
  · -- The send would come after the flush with which the second exchange begins.
    cases rest with
    | nil => simp [Call.IsFlush] at hcheck
    | cons call rest =>
      exact absurd (hcheck call (by simp)) (hbefore call (by simp [Exchange.calls]))

namespace Engine

variable {engine middle after : Engine (RecordedLine σ)} {before later : List Call} {piece : Bytes}
  {e : Error}

/-- An operation fails for good: it answers with the error, the engine takes note, and the settings
stay. -/
structure Fails {α : Type} (engine : Engine σ) (e : Error) (result : Except Error α)
    (after : Engine σ) : Prop where
  /-- The error is the answer. -/
  result : result = .error e
  /-- The failure is noted. -/
  progress : after.progress = .failed
  /-- The settings stay. -/
  settings : engine.SameSettings after

/-- With a send that failed the exchange fails for good. -/
theorem Conducts.of_failed_send {exchange : Exchange} {result : Except Error Bytes}
    (h : engine.Conducts exchange result after)
    (hcalls : exchange.calls = before ++ .send piece (.error e) :: later) :
    later = [] ∧ engine.Fails e result after := by
  obtain ⟨hlater, hresult, hprogress⟩ := h.ends.of_failed_send hcalls
  exact ⟨hlater, hresult, hprogress, h.settings⟩

/-- The calls before a send that failed hold the flush with which the exchange begins, and no
other. -/
theorem Conducts.countP_of_failed_send {exchange : Exchange} {result : Except Error Bytes}
    (h : engine.Conducts exchange result after)
    (hcalls : exchange.calls = before ++ .send piece (.error e) :: later) :
    before.countP (·.IsFlush) = 1 := by
  have hone := h.ends.halfDuplex.countP_isFlush
  rw [hcalls, (h.of_failed_send hcalls).1, List.countP_append] at hone
  simpa [Call.IsFlush] using hone

/-! ## Queries -/

section Queries

variable {frame : Frame} {expectation : Expectation} {retries : Nat} {exchanges : List Exchange}
  {result : Except Error Bytes}

/-- Whatever comes after an attempt begins with a flush. -/
theorem Attempts.exists_flush
    (h : Attempts frame expectation retries engine exchanges result after) :
    ∃ answer rest, exchanges.flatMap Exchange.calls = .flush answer :: rest := by
  cases h with
  | @last _ _ _ exchange => exact ⟨exchange.flushed, _, rfl⟩
  | @again _ _ _ _ exchange => exact ⟨exchange.flushed, _, rfl⟩

/-- A query is not tried again after a send that failed, unless this timed out and was not part of
the last attempt. -/
theorem Attempts.of_failed_send
    (h : Attempts frame expectation retries engine exchanges result after)
    (hlast : e = .timeout → retries < before.countP (·.IsFlush))
    (hcalls : exchanges.flatMap Exchange.calls = before ++ .send piece (.error e) :: later) :
    later = [] ∧ engine.Fails e result after := by
  -- The calls before the send are generalised, since each attempt takes its own off them.
  induction h generalizing before with
  | last _ _ hconducts _ =>
    rw [List.flatMap_singleton] at hcalls
    exact hconducts.of_failed_send hcalls
  | again _ _ hconducts _ ih =>
    rw [List.flatMap_cons] at hcalls
    rcases Call.split_append hcalls with ⟨rest, hfirst, -⟩ | ⟨rest, rfl, hrest⟩
    · -- The attempt timed out, so that its send did, but it was the first one of several.
      have htimeout := (hconducts.of_failed_send hfirst).2.result
      have hflushes := hlast (Except.error.inj htimeout).symm
      rw [hconducts.countP_of_failed_send hfirst] at hflushes
      omega
    · -- The attempt before holds one flush, and the others hold the rest.
      rw [List.countP_append, hconducts.ends.halfDuplex.countP_isFlush] at hlast
      obtain ⟨hlater, hfails⟩ := ih (fun he => by have hflushes := hlast he; omega) hrest
      exact ⟨hlater, hfails.result, hfails.progress, hconducts.settings.trans hfails.settings⟩

/-- A query is tried again after a send that timed out, as long as it has attempts left. -/
theorem Attempts.of_timed_out_send
    (h : Attempts frame expectation retries engine exchanges result after)
    (hleft : before.countP (·.IsFlush) ≤ retries)
    (hcalls : exchanges.flatMap Exchange.calls =
      before ++ .send piece (.error .timeout) :: later) :
    ∃ answer rest, later = .flush answer :: rest := by
  -- The budget goes down by one with each attempt, and so does the number of flushes before.
  induction h generalizing before with
  | last _ _ hconducts hstops =>
    rw [List.flatMap_singleton] at hcalls
    have htimeout := (hconducts.of_failed_send hcalls).2.result
    have hflushes := hconducts.countP_of_failed_send hcalls
    have hbudget := hstops.resolve_right (not_not_intro htimeout)
    omega
  | again _ _ hconducts hattempts ih =>
    rw [List.flatMap_cons] at hcalls
    rcases Call.split_append hcalls with ⟨rest, hfirst, rfl⟩ | ⟨rest, rfl, hrest⟩
    · rw [(hconducts.of_failed_send hfirst).1]
      exact hattempts.exists_flush
    · rw [List.countP_append, hconducts.ends.halfDuplex.countP_isFlush] at hleft
      exact ih (by omega) hrest

/-- The calls that trying again adds to the record are those of attempts. -/
theorem exists_attempts_of_calls [Line σ] (expectation : Expectation) (retries : Nat)
    {added : List Call}
    (hcalls : (engine.executeWithRetry frame expectation retries).2.calls =
      engine.calls ++ added) :
    ∃ exchanges, exchanges.flatMap Exchange.calls = added ∧
      Attempts frame expectation retries engine exchanges
        (engine.executeWithRetry frame expectation retries).1
        (engine.executeWithRetry frame expectation retries).2 := by
  obtain ⟨exchanges, hattempts⟩ := engine.attempts_executeWithRetry frame expectation retries
  have hadded := hattempts.calls.symm.trans hcalls
  exact ⟨exchanges, List.append_cancel_left hadded, hattempts⟩

end Queries

/-! ## Commands -/

section Commands

variable {frame : Frame} {result : Except Error Unit}

/-- A command is settled by its own exchange, or by a second one if the engine is to find out why no
status byte came. -/
theorem Course.exists_command (h : engine.Course frame result after) :
    ∃ command reply middle check, engine.Conducts command reply middle ∧
      after.calls = engine.calls ++ (command.calls ++ check) ∧
      (check = [] ∧ after = middle ∧ result = reply.map (fun _ => ()) ∧
          (reply = .error .timeout → ¬ (engine.ackMode = .detect ∧ engine.liveness.isSome)) ∨
        (∃ answer rest, check = .flush answer :: rest) ∧ reply = .error .timeout ∧
          engine.ackMode = .detect ∧ engine.liveness.isSome) := by
  -- The liveness query is the one exchange that may follow, and only the last two ways lead to it.
  cases h with
  | @unconfirmed command _ _ hmode _ _ hconducts =>
    refine ⟨command, _, _, [], hconducts, by simp [hconducts.calls], .inl ⟨rfl, rfl, ?_, ?_⟩⟩
    · cases result <;> rfl
    · simp [hmode]
  | @settled command reply _ _ hsettles _ _ hconducts =>
    refine ⟨command, reply, _, [], hconducts, by simp [hconducts.calls], .inl ⟨rfl, rfl, rfl, ?_⟩⟩
    exact fun hreply ⟨hmode, hquery⟩ => hsettles ⟨hmode, hreply, hquery⟩
  | @answered command check _ _ _ last hmode hquery _ _ hconducts _ hcheck =>
    refine ⟨command, _, _, check.calls, hconducts, ?_, .inr ⟨⟨_, _, rfl⟩, rfl, hmode, ?_⟩⟩
    · rw [← List.append_assoc, ← hconducts.calls, ← hcheck.calls]
      rfl
    · simp [hquery]
  | @unanswered command check _ _ _ _ hmode hquery _ _ hconducts _ hcheck =>
    refine ⟨command, _, _, check.calls, hconducts, ?_, .inr ⟨⟨_, _, rfl⟩, rfl, hmode, ?_⟩⟩
    · rw [← List.append_assoc, ← hconducts.calls, ← hcheck.calls]
    · simp [hquery]

/-- With a send of the frame of a command that failed, the exchange of the command fails for good.
What comes after the send, if anything, begins the exchange of the liveness query. -/
theorem Course.exists_failed_command (h : engine.Course frame result after)
    (hcalls : after.calls = engine.calls ++ (before ++ .send piece (.error e) :: later))
    (hbefore : ∀ call ∈ before.tail, ¬ call.IsFlush) :
    ∃ reply : Except Error Bytes, ∃ middle, engine.Fails e reply middle ∧
      (later = [] ∧ after = middle ∧ result = reply.map (fun _ => ()) ∧
          (reply = .error .timeout → ¬ (engine.ackMode = .detect ∧ engine.liveness.isSome)) ∨
        (∃ answer rest, later = .flush answer :: rest) ∧ reply = .error .timeout ∧
          engine.ackMode = .detect ∧ engine.liveness.isSome) := by
  obtain ⟨command, reply, middle, check, hconducts, hadded, hcheck⟩ := h.exists_command
  have hflush : ∀ call ∈ check.head?, call.IsFlush := by
    rcases hcheck with ⟨rfl, -⟩ | ⟨⟨answer, rest, rfl⟩, -⟩ <;> simp [Call.IsFlush]
  obtain ⟨rest, hcommand, rfl⟩ := Exchange.split_of_send hflush
    (List.append_cancel_left (hadded.symm.trans hcalls)) hbefore
  obtain ⟨rfl, hfails⟩ := hconducts.of_failed_send hcommand
  exact ⟨reply, middle, hfails, hcheck⟩

/-- A command fails for good with the first send of its frame that fails: the radio is not asked
whether it is there, unless the send timed out. -/
theorem Course.of_failed_send (h : engine.Course frame result after)
    (he : e = .timeout → ¬ (engine.ackMode = .detect ∧ engine.liveness.isSome))
    (hcalls : after.calls = engine.calls ++ (before ++ .send piece (.error e) :: later))
    (hbefore : ∀ call ∈ before.tail, ¬ call.IsFlush) :
    later = [] ∧ engine.Fails e result after := by
  obtain ⟨reply, middle, hfails, hend⟩ := h.exists_failed_command hcalls hbefore
  rcases hend with ⟨hlater, rfl, rfl, -⟩ | ⟨-, rfl, hgoes⟩
  · exact ⟨hlater, by rw [hfails.result]; rfl, hfails.progress, hfails.settings⟩
  · exact absurd hgoes (he (Except.error.inj hfails.result).symm)

/-- After a send that timed out the radio is asked whether it is there, if the engine is to find out
whether commands are confirmed. -/
theorem Course.of_timed_out_send (h : engine.Course frame result after)
    (hgoes : engine.ackMode = .detect ∧ engine.liveness.isSome)
    (hcalls : after.calls = engine.calls ++ (before ++ .send piece (.error .timeout) :: later))
    (hbefore : ∀ call ∈ before.tail, ¬ call.IsFlush) :
    ∃ answer rest, later = .flush answer :: rest := by
  obtain ⟨reply, middle, hfails, hend⟩ := h.exists_failed_command hcalls hbefore
  rcases hend with ⟨-, -, -, hsettles⟩ | ⟨hflushed, -⟩
  · exact absurd hgoes (hsettles hfails.result)
  · exact hflushed

end Commands

end Engine

/-! ## Requests -/

namespace Request

/-- A send after these calls writes the frame that was handed over with the request. Only a command
can be followed by another frame, that of the liveness query, and there a second flush comes
first. -/
def Owns (request : Request) (before : List Call) : Prop :=
  ∀ frame, request = .sendCommand frame → ∀ call ∈ before.tail, ¬ call.IsFlush

/-- A timeout of the send after these calls is taken for a reply that did not come, and does not end
the request: the query has attempts left, or the engine is to find out with the liveness query
whether commands are confirmed. -/
def GoesOn (engine : Engine σ) (before : List Call) : Request → Prop
  -- Each attempt begins with a flush, so the flushes count the attempts up to that of the send.
  | executeWithRetry _ _ retries => before.countP (·.IsFlush) ≤ retries
  | query _ _ => before.countP (·.IsFlush) ≤ engine.timing.retries
  | sendCommand _ => engine.ackMode = .detect ∧ engine.liveness.isSome
  | execute _ _ | sleep _ => False

end Request

namespace Engine

variable [Line σ] {engine : Engine (RecordedLine σ)} {request : Request} {before later : List Call}
  {piece : Bytes} {e : Error}

/-- A request fails for good with a send of its frame that fails, unless it goes on after a
timeout. -/
theorem fails_of_failed_send
    (hcalls : (engine.perform request).2.calls =
      engine.calls ++ (before ++ .send piece (.error e) :: later))
    (howns : request.Owns before) (hends : e = .timeout → ¬ request.GoesOn engine before) :
    later = [] ∧ engine.Fails e (engine.perform request).1 (engine.perform request).2 := by
  -- One exchange, attempts, and the course of a command have each been dealt with.
  cases request with
  | execute frame expectation =>
    obtain ⟨exchange, -, -, hconducts⟩ := engine.conducts_execute frame expectation
    exact hconducts.of_failed_send (List.append_cancel_left (hconducts.calls.symm.trans hcalls))
  | executeWithRetry frame expectation retries =>
    obtain ⟨exchanges, hadded, hattempts⟩ := exists_attempts_of_calls expectation retries hcalls
    exact hattempts.of_failed_send (fun he => Nat.lt_of_not_le (hends he)) hadded
  | query frame length =>
    obtain ⟨exchanges, hadded, hattempts⟩ := exists_attempts_of_calls (.block length) _ hcalls
    exact hattempts.of_failed_send (fun he => Nat.lt_of_not_le (hends he)) hadded
  | sendCommand frame =>
    obtain ⟨hlater, hfails⟩ :=
      (engine.course_sendCommand frame).of_failed_send hends hcalls (howns frame rfl)
    refine ⟨hlater, ?_, hfails.progress, hfails.settings⟩
    simp only [perform, hfails.result]
    rfl
  | sleep duration =>
    have hadded : engine.calls ++ [] = _ := (List.append_nil _).trans hcalls
    simpa using List.append_cancel_left hadded

/-- A request that goes on after a send that timed out flushes the line next. -/
theorem flushes_of_timed_out_send
    (hcalls : (engine.perform request).2.calls =
      engine.calls ++ (before ++ .send piece (.error .timeout) :: later))
    (howns : request.Owns before) (hgoes : request.GoesOn engine before) :
    ∃ answer rest, later = .flush answer :: rest := by
  cases request with
  | execute frame expectation => exact hgoes.elim
  | executeWithRetry frame expectation retries =>
    obtain ⟨exchanges, hadded, hattempts⟩ := exists_attempts_of_calls expectation retries hcalls
    exact hattempts.of_timed_out_send hgoes hadded
  | query frame length =>
    obtain ⟨exchanges, hadded, hattempts⟩ := exists_attempts_of_calls (.block length) _ hcalls
    exact hattempts.of_timed_out_send hgoes hadded
  | sendCommand frame =>
    exact (engine.course_sendCommand frame).of_timed_out_send hgoes hcalls (howns frame rfl)
  | sleep duration => exact hgoes.elim

/-- On a line that answers a timeout to receives only, a request ends with the first send of its
frame that fails, whatever the error. -/
theorem fails_of_sendsNeverTimeOut (hline : Line.SendsNeverTimeOut σ)
    (hcalls : (engine.perform request).2.calls =
      engine.calls ++ (before ++ .send piece (.error e) :: later))
    (howns : request.Owns before) :
    later = [] ∧ engine.Fails e (engine.perform request).1 (engine.perform request).2 := by
  refine fails_of_failed_send hcalls howns ?_
  rintro rfl
  have hnever : .send piece (.error .timeout) ∉ before ++ .send piece (.error .timeout) :: later :=
    hline.perform engine request hcalls
  exact absurd (by simp) hnever

/-- If a send of the frame that was handed over fails, at whichever byte and in whichever attempt,
nothing else is done: it is the last call, its error is the answer, the failure is noted, and the
settings stay. The one exception is a send that times out where the request goes on after a timeout,
that is before the last attempt of a query or where the liveness query is to follow. There the line
is flushed next. -/
theorem perform_of_failed_send (engine : Engine (RecordedLine σ)) (request : Request)
    {before later : List Call} {piece : Bytes} {e : Error}
    (hcalls : (engine.perform request).2.calls =
      engine.calls ++ (before ++ .send piece (.error e) :: later))
    (howns : request.Owns before) :
    (¬ (e = .timeout ∧ request.GoesOn engine before) →
      later = [] ∧ (engine.perform request).1 = .error e ∧
        (engine.perform request).2.progress = .failed ∧
        (engine.perform request).2.ackMode = engine.ackMode ∧
        (engine.perform request).2.timing = engine.timing) ∧
    (e = .timeout ∧ request.GoesOn engine before →
      ∃ answer rest, later = .flush answer :: rest) := by
  constructor
  · intro hends
    obtain ⟨hlater, hfails⟩ :=
      fails_of_failed_send hcalls howns fun he hgoes => hends ⟨he, hgoes⟩
    exact ⟨hlater, hfails.result, hfails.progress, hfails.settings.ackMode, hfails.settings.timing⟩
  · rintro ⟨rfl, hgoes⟩
    exact flushes_of_timed_out_send hcalls howns hgoes

/-- A command that does not go out: the status byte is not awaited, and the radio is not asked
whether it is there. -/
theorem perform_of_broken_line :
    let keyUp : Frame := ⟨.zero, 0x08⟩
    let readStatus : Frame := ⟨.zero, 0xE7⟩
    let engine : Engine (RecordedLine ScriptedLine) :=
      { channel := ⟨⟨{ sendFailures := 1 }, []⟩, 0⟩
        ackMode := .detect
        liveness := some (readStatus, 1) }
    let failure : Error := .system "injected write failure"
    let (result, after) := engine.perform (.sendCommand keyUp)
    after.calls = engine.calls ++
        ([.flush (.ok ())] ++ .send keyUp.bytes (.error failure) :: []) ∧
      (Request.sendCommand keyUp).Owns [.flush (.ok ())] ∧ failure ≠ .timeout ∧
      result = .error failure ∧ after.progress = .failed ∧ after.ackMode = .detect ∧
      after.timing = engine.timing := by
  intro keyUp readStatus engine failure
  have howns : (Request.sendCommand keyUp).Owns [.flush (.ok ())] := by
    simp [Request.Owns]
  have hcalls : (engine.perform (.sendCommand keyUp)).2.calls =
      engine.calls ++ ([.flush (.ok ())] ++ .send keyUp.bytes (.error failure) :: []) := rfl
  have hfailure : failure ≠ .timeout := by simp [failure]
  have hends := (perform_of_failed_send engine _ hcalls howns).1 fun h => hfailure h.1
  exact ⟨hcalls, howns, hfailure, hends.2⟩

end Engine

/-! ## A line that stalls -/

deriving instance DecidableEq for Call

/-- A line whose next sends time out, before anything is handed over. -/
structure StallingLine (σ : Type) where
  /-- The line that other calls are passed on to. -/
  inner : σ
  /-- How many of the next sends time out. -/
  stalls : Nat

instance [Line σ] : Line (StallingLine σ) where
  send line now bytes :=
    match line.stalls with
    | stalls + 1 => ⟨.error .timeout, 0, ⟨line.inner, stalls⟩⟩
    | 0 => (Line.send line.inner now bytes).within (⟨·, 0⟩)
  receive line now limit timeout :=
    (Line.receive line.inner now limit timeout).within (⟨·, line.stalls⟩)
  flush line now := (Line.flush line.inner now).within (⟨·, line.stalls⟩)
  close line now := (Line.close line.inner now).within (⟨·, line.stalls⟩)

namespace Engine

/-- A status query whose first send timed out is tried again and answered. A command whose send
timed out counts as carried out, and commands are no longer confirmed, since the radio answers the
liveness query. And where the liveness query has the frame of the command, a send of this frame that
fails there is the last call, but the answer is a timeout. -/
theorem perform_of_stalling_line :
    let keyUp : Frame := ⟨.zero, 0x08⟩
    let readStatus : Frame := ⟨.zero, 0xE7⟩
    let engine : Engine (RecordedLine (StallingLine ScriptedLine)) :=
      { channel := ⟨⟨⟨{ script := [⟨readStatus.bytes, [0x80]⟩] }, 1⟩, []⟩, 0⟩
        ackMode := .detect
        liveness := some (readStatus, 1) }
    let answered : List Call :=
      [.flush (.ok ()), .send readStatus.bytes (.ok ()), .receive 1 200 (.ok [0x80])]
    let (reply, asked) := engine.perform (.executeWithRetry readStatus (.block 1) 1)
    let (result, after) := engine.perform (.sendCommand keyUp)
    let silent : Engine (RecordedLine ScriptedLine) :=
      { channel := ⟨⟨{ script := [⟨keyUp.bytes, []⟩] }, []⟩, 0⟩
        ackMode := .detect
        liveness := some (keyUp, 1) }
    let (outcome, last) := silent.perform (.sendCommand keyUp)
    (asked.calls = [.flush (.ok ()), .send readStatus.bytes (.error .timeout)] ++ answered ∧
      reply = .ok [0x80]) ∧
    (after.calls = [.flush (.ok ()), .send keyUp.bytes (.error .timeout)] ++ answered ∧
      result = .ok [] ∧ after.ackMode = .skip) ∧
    last.calls = [.flush (.ok ()), .send keyUp.bytes (.ok ()), .receive 1 200 (.error .timeout),
      .flush (.ok ()), .send keyUp.bytes
        (.error (.protocol "no more expectations in mock transport"))] ∧
      outcome = .error .timeout := by
  decide +kernel

end Engine

end Transceiver
