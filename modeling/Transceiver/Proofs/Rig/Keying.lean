import Transceiver.Proofs.Rig.Freshness
import Transceiver.Proofs.Rig.ReplyLength

/-!
# The Two Records of Keying

A session knows from two places whether its radio transmits: from the note that it makes of it, and
from the transmitter's status as long as that reply is kept. Keying makes the note and marks the
reply expired; reading the status stores the reply and makes the note. So the two agree whenever the
reply is one that may still be given, and a reading that is answered with it changes nothing.

## Main statement

* `Rig.start_keying`: in every run an unexpired reply agrees with the note.
-/

namespace Transceiver

variable {σ : Type}

namespace Rig

/-- The note that the radio transmits says the same as the reply that is kept of the transmitter's
status, unless that is marked expired. -/
def NoteAgrees (rig : Rig σ) : Prop :=
  ∀ reply, rig.cache.find? .txStatus = some reply → reply.expired = false →
    ∃ status, reply.bytes = [status] ∧ rig.cache.transmitting = isKeyed status

section Steps

variable {rig : Rig σ} {operation : Operation}

/-- A session begins without replies. -/
theorem noteAgrees_start (descriptor : Descriptor) (channel : Channel σ) :
    (start descriptor channel).NoteAgrees := by
  intro reply hfind
  cases hfind

/-- A reply that is given from the cache is not marked, so the note says the same. -/
theorem NoteAgrees.of_serve (h : rig.NoteAgrees) {bytes : Bytes}
    (hverdict : rig.verdict .txStatus = .serve bytes) :
    ∃ status, bytes = [status] ∧ rig.cache.transmitting = isKeyed status := by
  rw [verdict_of_mayAsk fun hunsafe => by cases hunsafe] at hverdict
  cases hfind : rig.cache.find? .txStatus with
  | none => simp [hfind] at hverdict
  | some reply =>
    cases hfresh : reply.isFresh rig.descriptor.cacheLifetime rig.engine.now with
    | false => simp [hfind, hfresh] at hverdict
    | true =>
      obtain rfl : reply.bytes = bytes := by simpa [hfind, hfresh] using hverdict
      exact h reply hfind ((CachedReply.isFresh_iff reply _ _).mp hfresh).1

variable [Line σ]

/-- A reading of the transmitter that does not ask the radio leaves the whole session alone: the
note is made anew, and is the same. -/
theorem NoteAgrees.apply_of_not_refresh (h : rig.NoteAgrees) (hreads : ReadsTransmitter operation)
    (hverdict : rig.verdict .txStatus ≠ .refresh) : ((perform operation).apply rig).2 = rig := by
  rw [apply_of_readsTransmitter rig hreads, apply_txStatus, txReply, apply_statusByte, apply_status]
  cases hanswer : rig.verdict .txStatus with
  | refresh => exact absurd hanswer hverdict
  | refuse => rfl
  | serve bytes =>
    obtain ⟨status, rfl, hnote⟩ := h.of_serve hanswer
    show { rig with cache := rig.cache.setTransmitting (isKeyed status) } = rig
    rw [← hnote]
    rfl

/-- A reading of the transmitter that asks the radio makes the note after the reply that it stores.
-/
theorem NoteAgrees.of_refresh (h : rig.NoteAgrees) (hreads : ReadsTransmitter operation)
    (hverdict : rig.verdict .txStatus = .refresh) :
    ((perform operation).apply rig).2.NoteAgrees := by
  rw [apply_of_readsTransmitter rig hreads, apply_txStatus, txReply, apply_statusByte, apply_status,
    hverdict, ask]
  rcases hread : readStatus rig.descriptor .txStatus rig.engine with ⟨e | bytes, engine⟩
  · -- Without an answer only the engine has changed.
    exact h
  · have hlength : bytes.length = 1 := length_readStatus (congrArg Prod.fst hread)
    obtain ⟨status, rfl⟩ := List.length_eq_one_iff.mp hlength
    intro reply hfind _
    have hstored : some (⟨[status], engine.now, false⟩ : CachedReply) = some reply := by
      rw [← hfind]
      exact (ResponseCache.find?_store_self rig.cache .txStatus _).symm
    obtain rfl := Option.some.inj hstored
    exact ⟨status, rfl, rfl⟩

/-- A reading of the receiver concerns neither record. -/
theorem NoteAgrees.of_reading (h : rig.NoteAgrees) (reading : Reading) :
    ((perform reading.operation).apply rig).2.NoteAgrees := by
  have hother : StatusQuery.txStatus ≠ reading.source := by
    cases reading <;> simp [Reading.source]
  rw [apply_reading]
  intro reply hfind hunexpired
  rw [find?_status, if_neg hother] at hfind
  obtain ⟨status, hbytes, hnote⟩ := h reply hfind hunexpired
  exact ⟨status, hbytes, (transmitting_status rig reading.source).trans hnote⟩

/-- A setting that leaves the reply unmarked leaves the note alone as well. -/
theorem NoteAgrees.of_setting (h : rig.NoteAgrees) {command : Command}
    (hcommand : operation.command? = some command) :
    (rig.step (.perform operation)).2.NoteAgrees := by
  intro reply hfind hunexpired
  rw [find?_of_command? rig hcommand] at hfind
  obtain ⟨earlier, hearlier, rfl⟩ := Option.map_eq_some_iff.mp hfind
  obtain ⟨hbefore, hspoiled⟩ : earlier.expired = false ∧
      StatusQuery.txStatus.spoiled (rig.commands (.perform operation))
        (rig.completed (.perform operation)) = false := by
    simpa [CachedReply.expireIf] using hunexpired
  obtain ⟨status, hbytes, hnote⟩ := h earlier hearlier hbefore
  refine ⟨status, hbytes, ?_⟩
  rw [← hnote]
  show ((perform operation).apply rig).2.cache.transmitting = rig.cache.transmitting
  by_cases hptt : ∃ on, operation = .setPtt on
  · obtain ⟨on, rfl⟩ := hptt
    rw [transmitting_setPtt]
    cases hresult : ((perform (.setPtt on)).apply rig).1 with
    | error e => rfl
    | ok answer =>
      -- Keying that succeeds would have marked the reply.
      have hcompleted : rig.completed (.perform (.setPtt on)) = [.setPtt on] := by
        rw [completed, hresult]
        rfl
      rw [hcompleted] at hspoiled
      cases hspoiled
  · refine transmitting_perform rig operation (fun on h => hptt ⟨on, h⟩) fun hreads => ?_
    rcases hreads with rfl | rfl <;> cases hcommand

/-- Every event keeps the two records in agreement. -/
theorem NoteAgrees.step (h : rig.NoteAgrees) (event : Event) : (rig.step event).2.NoteAgrees := by
  cases event with
  | sleep duration => exact h
  | perform operation =>
    cases hsource : source? operation with
    | some asked =>
      -- A reading of the transmitter stores its reply and its note together, or neither.
      rcases source?_eq_some hsource with ⟨reading, rfl, -⟩ | ⟨hreads, -⟩
      · exact h.of_reading reading
      · by_cases hverdict : rig.verdict .txStatus = .refresh
        · exact h.of_refresh hreads hverdict
        · rw [Rig.step, h.apply_of_not_refresh hreads hverdict]
          exact h
    | none =>
      by_cases hclose : operation = .close
      · rw [hclose, Rig.step, apply_close]
        exact h
      · obtain ⟨command, hcommand⟩ := exists_command hsource hclose
        exact h.of_setting hcommand

/-- A run keeps the note in agreement with the kept status. -/
theorem NoteAgrees.run (h : rig.NoteAgrees) (events : List Event) :
    (rig.run events).NoteAgrees := by
  induction events generalizing rig with
  | nil => exact h
  | cons event events ih => exact ih (h.step event)

/-- If keying could be read, the note says what was read. -/
theorem eq_flag_of_getPtt {answer : Answer} (h : ((perform .getPtt).apply rig).1 = .ok answer) :
    answer = .flag ((perform .getPtt).apply rig).2.cache.transmitting := by
  simp only [perform, getPtt, RigAction.apply_map, RigAction.apply_bind, apply_txStatus] at h ⊢
  cases hreply : rig.txReply with
  | error e =>
    rw [hreply] at h
    cases h
  | ok status =>
    rw [hreply] at h
    exact (Except.ok.inj h).symm

end Steps

/-- A reading of the transmitter that makes no call on the line changes nothing. -/
theorem NoteAgrees.apply_of_calls [Line σ] {rig : Rig (RecordedLine σ)} {operation : Operation}
    (h : rig.NoteAgrees) (hreads : ReadsTransmitter operation)
    (hcalls : ((perform operation).apply rig).2.engine.calls = rig.engine.calls) :
    ((perform operation).apply rig).2 = rig := by
  by_cases hverdict : rig.verdict .txStatus = .refresh
  · cases hframe : rig.descriptor.frame StatusQuery.txStatus.command with
    | error e =>
      -- A model without the query cannot be asked.
      rw [apply_of_readsTransmitter rig hreads, apply_txStatus, txReply, apply_statusByte,
        apply_status, hverdict]
      simp only [ask, readStatus, hframe]
      rfl
    | ok frame =>
      obtain ⟨exchanges, hattempts⟩ :=
        (asks_of_verdict hreads.source? hverdict).attempts frame hframe
      exact absurd hcalls hattempts.calls_ne
  · exact h.apply_of_not_refresh hreads hverdict

/-- In a session from its beginning the note that the radio transmits says what the transmitter's
status says, if this is kept and not marked expired. So a reading of the transmitter that makes no
call on the line changes nothing at all, and whenever keying could be read, the note is what was
read. -/
theorem start_keying [Line σ] (descriptor : Descriptor) (channel : Channel (RecordedLine σ))
    (events : List Event) :
    let rig := (start descriptor channel).run events
    (∀ reply, rig.cache.find? .txStatus = some reply → reply.expired = false →
      ∃ status, reply.bytes = [status] ∧
        (rig.cache.transmitting = true ↔ status &&& 0x80 = 0)) ∧
    (∀ operation, ReadsTransmitter operation →
      ((perform operation).apply rig).2.engine.calls = rig.engine.calls →
        ((perform operation).apply rig).2 = rig) ∧
    ∀ answer, ((perform .getPtt).apply rig).1 = .ok answer →
      answer = .flag ((perform .getPtt).apply rig).2.cache.transmitting := by
  intro rig
  have hagrees : rig.NoteAgrees := (noteAgrees_start descriptor channel).run events
  refine ⟨fun reply hfind hunexpired => ?_,
    fun operation hreads hcalls => hagrees.apply_of_calls hreads hcalls,
    fun answer h => eq_flag_of_getPtt h⟩
  obtain ⟨status, hbytes, hnote⟩ := hagrees reply hfind hunexpired
  refine ⟨status, hbytes, ?_⟩
  rw [hnote, isKeyed, receivingBit, beq_iff_eq]

/-- Someone else keys a radio, the status tells, and 20 milliseconds later it is told again from the
reply that is kept. -/
theorem start_keying_told :
    let line : ScriptedLine := { script := [⟨[0x00, 0x00, 0x00, 0x00, 0xF7], [0x00]⟩] }
    let channel : Channel (RecordedLine ScriptedLine) := ⟨⟨line, []⟩, 0⟩
    let rig := (start Models.ft897 channel).run [.perform .getPtt, .sleep 20]
    rig.cache.transmitting = true ∧ ((perform .getPtt).apply rig).2 = rig ∧
      Answer.flag true = .flag ((perform .getPtt).apply rig).2.cache.transmitting := by
  intro line channel rig
  obtain ⟨hagrees, hsame, hflag⟩ :=
    start_keying Models.ft897 channel [.perform .getPtt, .sleep 20]
  have hfind : rig.cache.find? .txStatus = some ⟨[0x00], 0, false⟩ := by decide +kernel
  have hserve : rig.verdict .txStatus = .serve [0x00] := by decide +kernel
  have hok : ((perform .getPtt).apply rig).1 = .ok (.flag true) := by decide +kernel
  have hengine : ((perform .getPtt).apply rig).2.engine = rig.engine := by
    rw [rig.view_of_source .getPtt Rig.engine (fun _ _ => rfl) rfl, apply_status, hserve]
  -- The session is not to be unfolded any more, since that would run it.
  have hrig : (start Models.ft897 channel).run [.perform .getPtt, .sleep 20] = rig := rfl
  clear_value rig
  subst hrig
  obtain ⟨status, hbytes, hnote⟩ := hagrees _ hfind rfl
  obtain rfl : status = 0x00 := (List.singleton_inj.mp hbytes).symm
  refine ⟨hnote.mpr (by decide), hsame .getPtt (.inl rfl) ?_, hflag (.flag true) hok⟩
  rw [hengine]

end Rig

end Transceiver
