import Transceiver.Proofs.Engine.Exchange

/-!
# Sending Commands

A command is sent in one exchange. If the engine is to find out whether the radio confirms commands
and no status byte comes, a second exchange asks whether the radio is there at all.

`Engine.Course` lists the ways in which sending a command can go, and `Engine.course_sendCommand`
says that there are no others.

## Main statement

* `Engine.sendCommand_outcome`: which exchanges a command takes, when it counts as carried out, and
  when the engine stops confirming commands.
-/

namespace Transceiver

variable {σ : Type}

/-! ## Exchanges that succeed -/

namespace Expectation

variable {expectation : Expectation} {sentinels : Sentinels} {got bytes : Bytes}

/-- Fewer bytes than are expected are no reply. -/
theorem conclude_ne_ok_of_lt (h : got.length < expectation.length) :
    expectation.conclude sentinels got ≠ .ok bytes := by
  simp only [conclude, h, ↓reduceIte]
  split
  · simp
  · split <;> simp
  · simp

/-- Enough bytes are a reply if they are the expected one. -/
theorem conclude_of_le (h : expectation.length ≤ got.length) :
    expectation.conclude sentinels got =
      (expectation.interpret sentinels got).map fun _ => got := by
  simp only [conclude, Nat.not_lt.mpr h, ↓reduceIte]

/-- A command is confirmed by the one status byte that stands for acceptance. -/
theorem conclude_ack_eq_ok_iff :
    ack.conclude sentinels got = .ok bytes ↔ bytes = got ∧ got = [sentinels.accepted] := by
  match got with
  | [] => simp [conclude, length]
  | [status] =>
    rw [conclude_of_le (by simp [length])]
    simp only [interpret, Sentinels.classify]
    split
    next haccepted => simp [Except.map, haccepted, eq_comm]
    next hother => split <;> simp [Except.map, hother]
  | first :: second :: rest => simp [conclude, length, interpret, Except.map]

/-- A block is the reply if it has the expected length. Without a length to read there are no bytes
to take for a status. -/
theorem conclude_block_eq_ok_iff {count : Nat} (hgot : count = 0 → got = []) :
    (block count).conclude sentinels got = .ok bytes ↔ bytes = got ∧ got.length = count := by
  -- Too few bytes are an error, and so are too many.
  rcases Nat.lt_trichotomy got.length count with hshort | hfull | hlong
  · have hne : (block count).conclude sentinels got ≠ .ok bytes := conclude_ne_ok_of_lt hshort
    simp [hne, Nat.ne_of_lt hshort]
  · rw [conclude_of_le (by simp [length, hfull])]
    simp [interpret, hfull, Except.map, eq_comm]
  · rw [conclude_of_le (by simpa [length] using Nat.le_of_lt hlong)]
    have hne : got.length ≠ count := Nat.ne_of_gt hlong
    match got with
    | [] => simp at hlong
    | [status] =>
      have hcount : count = 0 := by simpa using hlong
      simpa using hgot hcount
    | first :: second :: rest =>
      simp only [interpret, hne, ↓reduceIte]
      simp [Except.map]

end Expectation

namespace Reads

variable {timeout : Nat} {calls : List Call} {gathered : Except Error Bytes}

/-- Nothing is asked for where no byte is wanted. -/
theorem eq_nil_of_zero (h : Reads 0 timeout [] calls gathered) : calls = [] := by
  cases h with
  | full => rfl
  | silent h _ => simp at h
  | failed h _ => simp at h
  | more h _ _ => simp at h

/-- A reading is a reply exactly if all the bytes that came are one: an error ends it only while
bytes are missing. -/
theorem conclude_eq_ok_iff {expectation : Expectation} {sentinels : Sentinels} {bytes : Bytes}
    (h : Reads expectation.length timeout [] calls gathered) :
    gathered.bind (expectation.conclude sentinels) = .ok bytes ↔
      expectation.conclude sentinels (calls.flatMap Call.received) = .ok bytes := by
  rcases h.outcome with rfl | ⟨⟨e, -, rfl⟩, hshort⟩
  · rfl
  · have hne : expectation.conclude sentinels (calls.flatMap Call.received) ≠ .ok bytes :=
      Expectation.conclude_ne_ok_of_lt hshort
    exact ⟨fun herror => by simp [Except.bind] at herror, fun hok => absurd hok hne⟩

end Reads

/-- Bytes come only after the whole frame went out. -/
theorem Exchange.HalfDuplex.delivered_of_received {pause : Nat} {exchange : Exchange}
    (h : exchange.HalfDuplex pause) (hreceived : exchange.received ≠ []) :
    exchange.delivered = exchange.frame.bytes := by
  have hreads : exchange.reads ≠ [] := by
    rintro hnil
    simp [received, hnil] at hreceived
  rw [delivered, (h.reads_of_ne_nil hreads).1, Writes.delivered_map_sent, Frame.flatten_pieces]

namespace Exchange.Ends

variable {timing : Timing} {sentinels : Sentinels} {exchange : Exchange}
  {result : Except Error Bytes} {progress : Progress}

/-- An exchange that waits for nothing succeeds exactly if the whole frame went out. -/
theorem ok_iff_of_none (h : exchange.Ends timing sentinels result progress)
    (hnone : exchange.expectation = none) :
    (∃ bytes, result = .ok bytes) ↔ exchange.delivered = exchange.frame.bytes := by
  cases h with
  | @unsent frame _ _ _ _ hwrites =>
    have hiff := hwrites.delivered_eq_iff fun _ => Frame.ne_nil_of_mem_pieces
    simpa [delivered] using hiff
  | @unread frame _ _ hwrites =>
    have hiff := hwrites.delivered_eq_iff fun _ => Frame.ne_nil_of_mem_pieces
    simpa [delivered] using hiff
  | read => simp at hnone

/-- An exchange that waits for a reply succeeds exactly if the whole frame went out and the bytes
that came are one. -/
theorem ok_iff_of_some {expectation : Expectation}
    (h : exchange.Ends timing sentinels result progress)
    (hsome : exchange.expectation = some expectation) {bytes : Bytes} :
    result = .ok bytes ↔ exchange.delivered = exchange.frame.bytes ∧
      expectation.conclude sentinels exchange.received = .ok bytes := by
  cases h with
  | unsent hwrites =>
    have hiff := hwrites.delivered_eq_iff fun _ => Frame.ne_nil_of_mem_pieces
    simp_all [delivered]
  | unread => simp at hsome
  | read hwrites hreads hresult =>
    obtain rfl := Option.some.inj hsome
    have hiff := hwrites.delivered_eq_iff fun _ => Frame.ne_nil_of_mem_pieces
    rw [hresult, hreads.conclude_eq_ok_iff]
    simp_all [delivered, received]

/-- Where a block of no bytes is expected, none come. -/
theorem received_eq_nil (h : exchange.Ends timing sentinels result progress)
    (hblock : exchange.expectation = some (.block 0)) : exchange.received = [] := by
  cases h with
  | unsent => rfl
  | unread => rfl
  | read _ hreads _ =>
    obtain rfl := Option.some.inj hblock
    rw [received, hreads.eq_nil_of_zero]
    rfl

/-- A command is confirmed exactly if the status byte of acceptance came. -/
theorem ok_iff_of_ack (h : exchange.Ends timing sentinels result progress)
    (hack : exchange.expectation = some .ack) :
    (∃ bytes, result = .ok bytes) ↔ exchange.received = [sentinels.accepted] := by
  constructor
  · rintro ⟨bytes, hok⟩
    obtain ⟨-, hconclude⟩ := (h.ok_iff_of_some hack).mp hok
    exact (Expectation.conclude_ack_eq_ok_iff.mp hconclude).2
  · intro hreceived
    have hdelivered := h.halfDuplex.delivered_of_received (by simp [hreceived])
    exact ⟨_, (h.ok_iff_of_some hack).mpr
      ⟨hdelivered, Expectation.conclude_ack_eq_ok_iff.mpr ⟨rfl, hreceived⟩⟩⟩

/-- A query is answered exactly if the frame went out and as many bytes came as were expected. -/
theorem ok_iff_of_block {count : Nat} (h : exchange.Ends timing sentinels result progress)
    (hblock : exchange.expectation = some (.block count)) :
    (∃ bytes, result = .ok bytes) ↔
      exchange.delivered = exchange.frame.bytes ∧ exchange.received.length = count := by
  have hreceived : count = 0 → exchange.received = [] := by
    rintro rfl
    exact h.received_eq_nil hblock
  constructor
  · rintro ⟨bytes, hok⟩
    obtain ⟨hdelivered, hconclude⟩ := (h.ok_iff_of_some hblock).mp hok
    exact ⟨hdelivered, ((Expectation.conclude_block_eq_ok_iff hreceived).mp hconclude).2⟩
  · rintro ⟨hdelivered, hlength⟩
    exact ⟨_, (h.ok_iff_of_some hblock).mpr
      ⟨hdelivered, (Expectation.conclude_block_eq_ok_iff hreceived).mpr ⟨rfl, hlength⟩⟩⟩

end Exchange.Ends

/-! ## How sending a command can go -/

namespace Engine

/-- The ways in which sending a command can go, with its result and the engine after it. -/
inductive Course (engine : Engine (RecordedLine σ)) (frame : Frame) :
    Except Error Unit → Engine (RecordedLine σ) → Prop
  /-- Nothing is waited for. -/
  | unconfirmed {command : Exchange} {result : Except Error Unit}
      {after : Engine (RecordedLine σ)} :
      engine.ackMode = .skip → command.frame = frame → command.expectation = none →
        engine.Conducts command (result.map fun _ => []) after → Course engine frame result after
  /-- The exchange of the command settles it. -/
  | settled {command : Exchange} {reply : Except Error Bytes} {after : Engine (RecordedLine σ)} :
      engine.ackMode ≠ .skip →
        ¬ (engine.ackMode = .detect ∧ reply = .error .timeout ∧ engine.liveness.isSome) →
        command.frame = frame → command.expectation = some .ack →
        engine.Conducts command reply after →
        Course engine frame (reply.map fun _ => ()) after
  /-- No status byte comes, but the radio answers the liveness query. -/
  | answered {command check : Exchange} {length : Nat} {bytes : Bytes}
      {middle after : Engine (RecordedLine σ)} :
      engine.ackMode = .detect → engine.liveness = some (check.frame, length) →
        command.frame = frame → command.expectation = some .ack →
        engine.Conducts command (.error .timeout) middle →
        check.expectation = some (.block length) → middle.Conducts check (.ok bytes) after →
        Course engine frame (.ok ()) after.stopConfirming
  /-- No status byte comes, and the liveness query fails. -/
  | unanswered {command check : Exchange} {length : Nat} {e : Error}
      {middle after : Engine (RecordedLine σ)} :
      engine.ackMode = .detect → engine.liveness = some (check.frame, length) →
        command.frame = frame → command.expectation = some .ack →
        engine.Conducts command (.error .timeout) middle →
        check.expectation = some (.block length) → middle.Conducts check (.error e) after →
        Course engine frame (.error .timeout) after

/-- A command is found not to be confirmed: no status byte came, and the radio answered the liveness
query in full. -/
def FallsBack (engine : Engine σ) (reply : Except Error Bytes) (check : Option Exchange) : Prop :=
  engine.ackMode = .detect ∧ reply = .error .timeout ∧
    ∃ exchange length, check = some exchange ∧ engine.liveness = some (exchange.frame, length) ∧
      exchange.delivered = exchange.frame.bytes ∧ exchange.received.length = length

/-- Without a liveness query no command is found not to be confirmed. -/
theorem not_fallsBack_none (engine : Engine σ) (reply : Except Error Bytes) :
    ¬ engine.FallsBack reply none := by
  simp [FallsBack]

/-- What became of a command: the exchange `command` of the command itself, which ended with
`reply`, and the exchange `check` of the liveness query, if one was made. -/
structure CommandSent (engine : Engine (RecordedLine σ)) (frame : Frame) (command : Exchange)
    (reply : Except Error Bytes) (check : Option Exchange) (result : Except Error Unit)
    (after : Engine (RecordedLine σ)) : Prop where
  /-- These are the calls that were made. -/
  calls : after.calls = engine.calls ++ command.calls ++ check.elim [] Exchange.calls
  /-- The command is written once. -/
  command_frame : command.frame = frame
  /-- A status byte is expected unless commands are not confirmed. -/
  command_expectation : command.expectation = if engine.ackMode = .skip then none else some .ack
  /-- The exchange of the command ends with `reply`. -/
  command_ends : ∃ progress, command.Ends engine.timing engine.sentinels reply progress
  /-- The liveness query is asked exactly if there is one and the engine, which is to find out
  whether commands are confirmed, waited for the status byte in vain. -/
  check_isSome : check.isSome ↔
    engine.ackMode = .detect ∧ reply = .error .timeout ∧ engine.liveness.isSome
  /-- The second exchange is that of the liveness query. -/
  check_ends : ∀ exchange ∈ check, ∃ length answer progress,
    engine.liveness = some (exchange.frame, length) ∧
    exchange.expectation = some (.block length) ∧
    exchange.Ends engine.timing engine.sentinels answer progress
  /-- The command counts as carried out exactly if it was confirmed, if it went out and needs no
  confirmation, or if it is found not to be confirmed. -/
  result_ok : result = .ok () ↔
    (engine.ackMode = .read ∨ engine.ackMode = .detect) ∧
        command.received = [engine.sentinels.accepted] ∨
      engine.ackMode = .skip ∧ command.delivered = frame.bytes ∨
      engine.FallsBack reply check
  /-- Unless the command is found not to be confirmed, the answer is that of its own exchange. In
  particular it is a timeout if the liveness query failed. -/
  result_eq : ¬ engine.FallsBack reply check → result = reply.map fun _ => ()
  /-- A command that is found not to be confirmed is the last one that waits for confirmation, and
  the radio is given time to settle instead. -/
  falls_back : engine.FallsBack reply check →
    after.ackMode = .skip ∧
    after.timing =
      { engine.timing with postWriteDelay := max engine.timing.postWriteDelay fallbackSettle } ∧
    after.sentinels = engine.sentinels ∧ after.liveness = engine.liveness
  /-- Otherwise the settings stay. -/
  settings : ¬ engine.FallsBack reply check → engine.SameSettings after

/-- Whichever way a command goes, it is accounted for. -/
theorem Course.commandSent {engine after : Engine (RecordedLine σ)} {frame : Frame}
    {result : Except Error Unit} (h : engine.Course frame result after) :
    ∃ command reply check, engine.CommandSent frame command reply check result after := by
  cases h with
  | @unconfirmed command _ _ hmode hframe hnone hconducts =>
    have hback := engine.not_fallsBack_none (result.map fun _ => [])
    have hwritten := hconducts.ends.ok_iff_of_none hnone
    rw [hframe] at hwritten
    exact ⟨command, result.map fun _ => [], none,
      { calls := by simp [hconducts.calls]
        command_frame := hframe
        command_expectation := by simp [hmode, hnone]
        command_ends := ⟨_, hconducts.ends⟩
        check_isSome := by simp [hmode]
        check_ends := by simp
        result_ok := by
          simp only [hback, hmode, ← hwritten]
          cases result <;> simp [Except.map]
        result_eq := fun _ => by cases result <;> rfl
        falls_back := fun h => absurd h hback
        settings := fun _ => hconducts.settings }⟩
  | @settled command reply _ hmode hsettled hframe hack hconducts =>
    have hback := engine.not_fallsBack_none reply
    have hwaits : engine.ackMode = .read ∨ engine.ackMode = .detect := by
      cases h : engine.ackMode <;> simp_all
    exact ⟨command, reply, none,
      { calls := by simp [hconducts.calls]
        command_frame := hframe
        command_expectation := by simp [hmode, hack]
        command_ends := ⟨_, hconducts.ends⟩
        check_isSome := by simpa using hsettled
        check_ends := by simp
        result_ok := by
          simp only [hback, hmode, hwaits, ← hconducts.ends.ok_iff_of_ack hack]
          cases reply <;> simp [Except.map]
        result_eq := fun _ => rfl
        falls_back := fun h => absurd h hback
        settings := fun _ => hconducts.settings }⟩
  | @answered command check length bytes middle last hmode hliveness hframe hack hconducts hblock
      hcheck =>
    -- The second exchange goes by the settings that were in force before the first one.
    have hends := hcheck.ends
    rw [hconducts.settings.timing, hconducts.settings.sentinels] at hends
    have hsame := hconducts.settings.trans hcheck.settings
    have hback : engine.FallsBack (.error .timeout) (some check) :=
      ⟨hmode, rfl, check, length, rfl, hliveness, (hends.ok_iff_of_block hblock).mp ⟨bytes, rfl⟩⟩
    have hcalls : last.stopConfirming.calls = last.calls := rfl
    exact ⟨command, .error .timeout, some check,
      { calls := by simp [hcalls, hcheck.calls, hconducts.calls]
        command_frame := hframe
        command_expectation := by simp [hmode, hack]
        command_ends := ⟨_, hconducts.ends⟩
        check_isSome := by simp [hmode, hliveness]
        check_ends := by
          rintro _ ⟨⟩
          exact ⟨length, _, _, hliveness, hblock, hends⟩
        result_ok := by simp [hback]
        result_eq := fun h => absurd hback h
        falls_back := fun _ => by
          refine ⟨rfl, ?_, hsame.sentinels, hsame.liveness⟩
          rw [stopConfirming, hsame.timing]
        settings := fun h => absurd hback h }⟩
  | @unanswered command check length e middle _ hmode hliveness hframe hack hconducts hblock
      hcheck =>
    have hends := hcheck.ends
    rw [hconducts.settings.timing, hconducts.settings.sentinels] at hends
    -- A full reply would have been an answer.
    have hback : ¬ engine.FallsBack (.error .timeout) (some check) := by
      rintro ⟨-, -, exchange, count, hexchange, hcount, hanswered⟩
      obtain rfl := Option.some.inj hexchange
      obtain ⟨-, rfl⟩ : check.frame = check.frame ∧ length = count := by
        simpa [hliveness] using hcount
      obtain ⟨bytes, hbytes⟩ := (hends.ok_iff_of_block hblock).mpr hanswered
      simp at hbytes
    exact ⟨command, .error .timeout, some check,
      { calls := by simp [hcheck.calls, hconducts.calls]
        command_frame := hframe
        command_expectation := by simp [hmode, hack]
        command_ends := ⟨_, hconducts.ends⟩
        check_isSome := by simp [hmode, hliveness]
        check_ends := by
          rintro _ ⟨⟩
          exact ⟨length, _, _, hliveness, hblock, hends⟩
        result_ok := by simp [hback, hmode, ← hconducts.ends.ok_iff_of_ack hack]
        result_eq := fun _ => rfl
        falls_back := fun h => absurd h hback
        settings := fun _ => hconducts.settings.trans hcheck.settings }⟩

/-- There is always an exchange, and it begins with a flush. -/
theorem CommandSent.calls_ne {engine after : Engine (RecordedLine σ)} {frame : Frame}
    {command : Exchange} {reply : Except Error Bytes} {check : Option Exchange}
    {result : Except Error Unit}
    (h : engine.CommandSent frame command reply check result after) :
    after.calls ≠ engine.calls := by
  intro hcalls
  have hlength := congrArg List.length (h.calls.symm.trans hcalls)
  simp only [Exchange.calls, List.length_append, List.length_cons] at hlength
  omega

variable [Line σ]

/-- A command that is not confirmed is only written. -/
theorem sendCommand_of_skip {engine : Engine σ} (frame : Frame) (hmode : engine.ackMode = .skip) :
    engine.sendCommand frame = engine.writeOnly frame := by
  rw [sendCommand, hmode]

/-- A command that is confirmed is written and waited for. -/
theorem sendCommand_of_read {engine : Engine σ} (frame : Frame) (hmode : engine.ackMode = .read) :
    engine.sendCommand frame = engine.writeConfirmed frame := by
  rw [sendCommand, hmode]

/-- While the engine is to find out, a command that does not time out is like a confirmed one. -/
theorem sendCommand_of_ne_timeout {engine : Engine σ} {frame : Frame}
    (hmode : engine.ackMode = .detect) (hreply : (engine.execute frame .ack).1 ≠ .error .timeout) :
    engine.sendCommand frame = engine.writeConfirmed frame := by
  rw [sendCommand, hmode]
  simp only [writeConfirmed]
  split
  next after hresult =>
    cases hexecute : (engine.execute frame .ack).1 with
    | ok bytes => simp [hexecute, Except.map] at hresult
    | error e =>
      obtain rfl : e = .timeout := by simpa [hexecute, Except.map] using (Prod.ext_iff.mp hresult).1
      exact absurd hexecute hreply
  next => rfl

/-- While the engine is to find out, a command that times out is followed by the liveness query. -/
theorem sendCommand_of_timeout {engine : Engine σ} {frame : Frame}
    (hmode : engine.ackMode = .detect) (hreply : (engine.execute frame .ack).1 = .error .timeout) :
    engine.sendCommand frame = (engine.execute frame .ack).2.checkLiveness := by
  rw [sendCommand, hmode]
  simp only [writeConfirmed, hreply, Except.map]

/-- Sending a command goes one of these ways. -/
theorem course_sendCommand (engine : Engine (RecordedLine σ)) (frame : Frame) :
    engine.Course frame (engine.sendCommand frame).1 (engine.sendCommand frame).2 := by
  obtain ⟨command, hframe, hack, hconducts⟩ := engine.conducts_execute frame .ack
  -- The mode decides whether the command waits for a status byte and what a timeout leads to.
  cases hmode : engine.ackMode with
  | skip =>
    obtain ⟨command, hframe, hnone, hconducts⟩ := engine.conducts_writeOnly frame
    rw [sendCommand_of_skip frame hmode]
    exact .unconfirmed hmode hframe hnone hconducts
  | read =>
    rw [sendCommand_of_read frame hmode]
    exact .settled (by simp [hmode]) (by simp [hmode]) hframe hack hconducts
  | detect =>
    by_cases hreply : (engine.execute frame .ack).1 = .error .timeout
    · rw [sendCommand_of_timeout hmode hreply, checkLiveness]
      rw [hreply] at hconducts
      split
      next hliveness =>
        rw [hconducts.settings.liveness] at hliveness
        exact Course.settled (by simp [hmode]) (by simp [hliveness]) hframe hack hconducts
      -- The liveness query is an exchange of its own, and its answer settles the command.
      next query length hliveness =>
        rw [hconducts.settings.liveness] at hliveness
        obtain ⟨check, rfl, hblock, hcheck⟩ :=
          (engine.execute frame .ack).2.conducts_execute query (.block length)
        split
        next bytes after hanswer =>
          rw [hanswer] at hcheck
          exact .answered hmode hliveness hframe hack hconducts hblock hcheck
        next e after hanswer =>
          rw [hanswer] at hcheck
          exact .unanswered hmode hliveness hframe hack hconducts hblock hcheck
    · rw [sendCommand_of_ne_timeout hmode hreply]
      exact .settled (by simp [hmode]) (fun h => hreply h.2.1) hframe hack hconducts

/-- Every command is accounted for: it takes one exchange of its own and at most one of the liveness
query, and it counts as carried out only if it was confirmed, went out unconfirmed as it should, or
is found not to be confirmed. -/
theorem sendCommand_outcome (engine : Engine (RecordedLine σ)) (frame : Frame) :
    ∃ command reply check, engine.CommandSent frame command reply check
      (engine.sendCommand frame).1 (engine.sendCommand frame).2 :=
  (engine.course_sendCommand frame).commandSent

end Engine

end Transceiver
