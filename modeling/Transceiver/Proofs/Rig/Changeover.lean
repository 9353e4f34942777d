import Transceiver.Proofs.Rig.Freshness
import Transceiver.Proofs.Rig.Selection

/-!
# What a Change of VFO Makes Stale

The frequency and the mode of one VFO say nothing about the other, so a toggle that the radio takes
makes the reply that tells them stale, whichever operation sent it. The transmitter's status is
marked by the operation that toggles for its own sake, and not by a setting that toggles on its way
to a VFO.

## Main statement

* `Rig.start_changeover`: after a toggle the next reading of frequency or mode asks the radio; and
  what becomes of the transmitter's status.
-/

namespace Transceiver

variable {σ : Type}

namespace Rig

section Spoiled

variable [Line σ]

/-- What is spoiled stays spoiled until a new reply is stored. -/
theorem spoiled_lastReply {rig : Rig σ} {query : StatusQuery} {known : Option Receipt}
    {events : List Event} (hreplies : rig.replies query events = [])
    (hknown : ∀ receipt, known = some receipt → query.spoiled receipt.sent receipt.done = true) :
    ∀ receipt, rig.lastReply query known events = some receipt →
      query.spoiled receipt.sent receipt.done = true := by
  induction events generalizing rig known with
  | nil => exact hknown
  | cons event events ih =>
    obtain ⟨hnone, hrest⟩ : rig.stored query event = none ∧
        (rig.step event).2.replies query events = [] := by
      simpa [replies] using hreplies
    refine ih hrest fun receipt hlearn => ?_
    -- The event stored nothing, so what is known is the earlier reply with more done since.
    rw [learn, hnone] at hlearn
    obtain ⟨earlier, hearlier, rfl⟩ := Option.map_eq_some_iff.mp hlearn
    simp [StatusQuery.spoiled_append, hknown earlier hearlier]

/-- So after an event that spoils it the last reply is spoiled. -/
theorem spoiled_lastReply_cons {rig : Rig σ} {query : StatusQuery} {known : Option Receipt}
    {event : Event} {events : List Event} (hstored : rig.stored query event = none)
    (hspoiled : query.spoiled (rig.commands event) (rig.completed event) = true)
    (hreplies : (rig.step event).2.replies query events = []) :
    ∀ receipt, rig.lastReply query known (event :: events) = some receipt →
      query.spoiled receipt.sent receipt.done = true := by
  have hlearnt : ∀ receipt, rig.learn query known event = some receipt →
      query.spoiled receipt.sent receipt.done = true := by
    intro receipt hlearn
    rw [learn, hstored] at hlearn
    obtain ⟨earlier, -, rfl⟩ := Option.map_eq_some_iff.mp hlearn
    simp [StatusQuery.spoiled_append, hspoiled]
  intro receipt hlast
  rw [lastReply] at hlast
  exact spoiled_lastReply hreplies hlearnt receipt hlast

end Spoiled

section Toggled

variable [Line σ] {rig : Rig σ} {operation : Operation} {sent : SentCommand}
  (hmem : sent ∈ (rig.account operation).commands)

include hmem

/-- Only an operation that changes a setting sends commands. -/
theorem command?_isSome_of_mem : ∃ command, operation.command? = some command := by
  cases hcommand : operation.command? with
  | some command => exact ⟨command, rfl⟩
  | none => simp [account_of_command?_eq_none hcommand] at hmem

/-- A frequency and mode reply is spoiled by an operation that made the radio change over. -/
theorem spoiled_freqMode_of_toggled (h : sent.toggled = true) :
    StatusQuery.freqMode.spoiled (rig.commands (.perform operation))
      (rig.completed (.perform operation)) = true := by
  obtain ⟨htoggle, hsucceeded⟩ : sent.command = .toggleVfo ∧ sent.succeeded = true := by
    simpa [SentCommand.toggled] using h
  refine List.any_eq_true.mpr ⟨sent, hmem, ?_⟩
  simp [htoggle, hsucceeded, Command.retunes]

/-- Only `toggleVfo` both toggles and affects the transmitter. -/
theorem affectsTransmitter_of_toggle (h : sent.command = .toggleVfo)
    (hne : operation ≠ .toggleVfo) : operation.affectsTransmitter = false := by
  obtain ⟨command, hcommand⟩ := command?_isSome_of_mem hmem
  rcases mem_account hcommand hmem with ⟨-, vfo, htarget, -⟩ | ⟨hown, -⟩
  · rcases exists_of_target htarget with ⟨hz, rfl⟩ | ⟨mode, rfl⟩ <;> rfl
  · rw [← hown, h] at hcommand
    cases operation with
    | setPtt on | setSplit on => cases on <;> cases hcommand
    | toggleVfo => exact absurd rfl hne
    | _ => rfl

end Toggled

/-- The status of the transmitter is spoiled by a toggle that was asked for as such. -/
theorem spoiled_txStatus_of_toggleVfo [Line σ] {rig : Rig σ} {sent : SentCommand}
    (hmem : sent ∈ (rig.account .toggleVfo).commands) (h : sent.toggled = true) :
    StatusQuery.txStatus.spoiled (rig.commands (.perform .toggleVfo))
      (rig.completed (.perform .toggleVfo)) = true := by
  have hsucceeded : (rig.account .toggleVfo).result.isOk = true := by
    rw [← any_succeeded_of_affectsTransmitter rig rfl]
    exact List.any_eq_true.mpr ⟨sent, hmem, (Bool.and_eq_true_iff.mp h).2⟩
  have hresult : ((perform .toggleVfo).apply rig).1.isOk = true := by
    rw [apply_setting rfl]
    cases hok : (rig.account .toggleVfo).result with
    | ok done => rfl
    | error e => simp [hok, Except.isOk, Except.toBool] at hsucceeded
  simp [StatusQuery.spoiled, completed, hresult, Operation.affectsTransmitter]

/-- After a run in which an operation made the radio toggle, a reading of frequency or mode asks the
radio, unless a reply was stored since. So does a reading of the transmitter if the operation was
the toggle itself. A setting for a VFO that toggles on its way leaves the transmitter's status as it
was. -/
theorem start_changeover [Line σ] (descriptor : Descriptor) (channel : Channel (RecordedLine σ))
    (before during : List Event) (operation : Operation) (sent : SentCommand) :
    let rig := (start descriptor channel).run before
    let toggled := (rig.step (.perform operation)).2
    let after := toggled.run during
    sent ∈ (rig.account operation).commands → sent.toggled = true →
      (toggled.replies .freqMode during = [] → after.cache.transmitting = false →
        ∀ reading : Reading, reading.source = .freqMode → after.Asks .freqMode reading.operation) ∧
      (operation = .toggleVfo → toggled.replies .txStatus during = [] →
        ∀ reading, ReadsTransmitter reading → after.Asks .txStatus reading) ∧
      (operation ≠ .toggleVfo →
        toggled.cache.find? .txStatus = rig.cache.find? .txStatus) := by
  intro rig toggled after hmem htoggled
  obtain ⟨command, hcommand⟩ := command?_isSome_of_mem hmem
  have hafter : after =
      (start descriptor channel).run (before ++ .perform operation :: during) := by
    rw [run_append]
    rfl
  -- Whatever was known of a query before the toggle, the cache is right about it afterwards.
  have hrefresh (query : StatusQuery) (hask : after.MayAsk query)
      (hspoiled : query.spoiled (rig.commands (.perform operation))
        (rig.completed (.perform operation)) = true)
      (hreplies : toggled.replies query during = []) : after.verdict query = .refresh := by
    have hfind : after.cache.find? query =
        (rig.lastReply query ((start descriptor channel).lastReply query none before)
          (.perform operation :: during)).map fun receipt => receipt.entry query := by
      rw [hafter, find?_run_start, lastReply_append]
    refine verdict_of_stale hfind hask ?_
    cases hlast : rig.lastReply query ((start descriptor channel).lastReply query none before)
        (.perform operation :: during) with
    | none => trivial
    | some receipt =>
      exact .inr (.inr (spoiled_lastReply_cons (stored_of_command? rig hcommand query) hspoiled
        hreplies receipt hlast))
  refine ⟨fun hreplies hflag reading hsource => ?_, ?_, fun hne => ?_⟩
  · refine asks_of_verdict (hsource ▸ reading.source?_operation) ?_
    exact hrefresh .freqMode (fun _ => hflag) (spoiled_freqMode_of_toggled hmem htoggled) hreplies
  · rintro rfl hreplies reading hreads
    refine asks_of_verdict hreads.source? ?_
    exact hrefresh .txStatus (fun hunsafe => by cases hunsafe)
      (spoiled_txStatus_of_toggleVfo hmem htoggled) hreplies
  · have htoggle : sent.command = .toggleVfo := by
      simpa using (Bool.and_eq_true_iff.mp htoggled).1
    have haffects := affectsTransmitter_of_toggle hmem htoggle hne
    have hmarks : ((rig.account operation).commands.any fun sent =>
        sent.succeeded && marks operation .txStatus sent.command) = false := by
      simp [marks, haffects]
    show ((perform operation).apply rig).2.cache.find? .txStatus = _
    rw [apply_setting hcommand, find?_account, hmarks, CachedReply.expireIf_false,
      Option.map_id_apply]

/-- After both replies were read, the toggle makes both stale at once, and a frequency that is set
on VFO B only the one. -/
theorem start_changeover_b :
    let line : ScriptedLine :=
      { script := [⟨[0x00, 0x00, 0x00, 0x00, 0x03], [0x14, 0x25, 0x00, 0x00, 0x01]⟩,
          ⟨[0x00, 0x00, 0x00, 0x00, 0xF7], [0x80]⟩,
          ⟨[0x00, 0x00, 0x00, 0x00, 0x81], [0x00]⟩] }
    let channel : Channel (RecordedLine ScriptedLine) := ⟨⟨line, []⟩, 0⟩
    let rig := (start Models.ft897 channel).run
      [.perform (.getFrequency .current), .perform .getPtt]
    let toggled := (rig.step (.perform .toggleVfo)).2.run [.sleep 20]
    toggled.Asks .freqMode (.getFrequency .current) ∧ toggled.Asks .txStatus .getPtt ∧
      (rig.step (.perform (.setFrequency (.only .b) 7000000))).2.cache.find? .txStatus =
        rig.cache.find? .txStatus := by
  intro line channel rig toggled
  have htoggle : ∃ sent ∈ (rig.account .toggleVfo).commands, sent.toggled = true := by
    decide +kernel
  have hset : ∃ sent ∈ (rig.account (.setFrequency (.only .b) 7000000)).commands,
      sent.toggled = true := by
    decide +kernel
  obtain ⟨sent, hmem, htoggled⟩ := htoggle
  obtain ⟨sent', hmem', htoggled'⟩ := hset
  -- The session is not to be unfolded, since that would run it.
  have hrig : rig = (start Models.ft897 channel).run
    [.perform (.getFrequency .current), .perform .getPtt] := rfl
  clear_value rig
  obtain ⟨hfreq, htx, -⟩ := start_changeover Models.ft897 channel
    [.perform (.getFrequency .current), .perform .getPtt] [.sleep 20] .toggleVfo sent
      (hrig ▸ hmem) htoggled
  obtain ⟨-, -, hkept⟩ := start_changeover Models.ft897 channel
    [.perform (.getFrequency .current), .perform .getPtt] []
    (.setFrequency (.only .b) 7000000) sent' (hrig ▸ hmem') htoggled'
  subst hrig
  refine ⟨hfreq ?_ ?_ (.frequency .current) rfl, htx rfl ?_ .getPtt (.inl rfl), hkept ?_⟩
  · decide +kernel
  · decide +kernel
  · decide +kernel
  · decide

/-- So after a frequency was set on VFO B, whether the radio transmits is answered from before the
toggle, without a call on the line. -/
theorem start_changeover_getPtt :
    let line : ScriptedLine :=
      { script := [⟨[0x00, 0x00, 0x00, 0x00, 0xF7], [0x80]⟩,
          ⟨[0x00, 0x00, 0x00, 0x00, 0x81], [0x00]⟩,
          ⟨[0x00, 0x70, 0x00, 0x00, 0x01], [0x00]⟩,
          ⟨[0x00, 0x00, 0x00, 0x00, 0xF7], [0x80]⟩] }
    let channel : Channel (RecordedLine ScriptedLine) := ⟨⟨line, []⟩, 0⟩
    let rig := (start { Models.ft897 with ackMode := .read } channel).run [.perform .getPtt]
    let set := (rig.step (.perform (.setFrequency (.only .b) 7000000))).2
    let after := (perform .getPtt).apply set
    (∃ sent ∈ (rig.account (.setFrequency (.only .b) 7000000)).commands, sent.toggled = true) ∧
      after.1.toOption = some (.flag false) ∧
      after.2.engine.calls.length = set.engine.calls.length := by
  decide +kernel

end Rig

end Transceiver
