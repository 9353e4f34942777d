import Transceiver.Line.Recorded
import Transceiver.Line.Scripted
import Transceiver.Models
import Transceiver.Proofs.Rig.Session

/-!
# Sessions while the Radio Transmits

While it transmits, a radio is not to be asked what it receives. A session that takes its radio to
transmit answers from the replies that it stored before, and asks for none. Whether the radio
transmits it learns from the commands that key it and from the transmitter's status.

## Main statement

* `Rig.start_transmitting`: while the radio is taken to transmit, readings of the receiver are those
  from before and cost no call on the line; and how that note comes and goes.
-/

namespace Transceiver

variable {σ : Type}

namespace Rig

section Readings

variable {rig : Rig σ} {query : StatusQuery}

/-- While transmitting, a query about the receiver is answered with the reply that is kept, good or
not. -/
theorem verdict_of_transmitting (hflag : rig.cache.transmitting = true)
    (hreceiver : query.txUnsafe = true) :
    rig.verdict query =
      match rig.cache.peek query with
      | some reply => .serve reply
      | none => .refuse :=
  ResponseCache.consult_of_forbidden ⟨hreceiver, hflag⟩

variable [Line σ]

/-- While the radio is taken to transmit, no reading of the receiver stores a reply. -/
theorem refreshed_of_transmitting (hflag : rig.cache.transmitting = true)
    (hreceiver : query.txUnsafe = true) : rig.refreshed query = none := by
  rw [refreshed, verdict_of_transmitting hflag hreceiver]
  cases rig.cache.peek query <;> rfl

/-- A reading leaves the whole session alone, the record of the line included. -/
theorem apply_reading_of_transmitting (hflag : rig.cache.transmitting = true) (reading : Reading) :
    (perform reading.operation).apply rig =
      (match rig.cache.peek reading.source with
        | some reply => reading.decode rig.descriptor reply
        | none => .error .transmitting, rig) := by
  rw [apply_reading, apply_status, verdict_of_transmitting hflag reading.txUnsafe_source]
  cases rig.cache.peek reading.source <;> rfl

/-- An event that leaves the radio transmitting stores no reply about the receiver. If it also began
like that, no such query was asked, and what sets the note in the first place asks only for the
transmitter's status. -/
theorem stored_of_transmitting {event : Event}
    (hflag : (rig.step event).2.cache.transmitting = true) (hreceiver : query.txUnsafe = true) :
    rig.stored query event = none := by
  cases event with
  | sleep duration => rfl
  | perform operation =>
    rw [stored, fetched]
    split
    next hsource =>
      rcases source?_eq_some hsource with ⟨reading, rfl, rfl⟩ | ⟨-, rfl⟩
      · have hbefore : rig.cache.transmitting = true := by
          rw [← hflag, step, apply_reading]
          exact (transmitting_status rig reading.source).symm
        exact refreshed_of_transmitting hbefore hreceiver
      · cases hreceiver
    next => rfl

/-- So the reply from before is still the one that is kept, for as long as the radio transmits. -/
theorem peek_run_of_transmitting (events : List Event)
    (hflag : ∀ done, done ≠ [] → done <+: events → (rig.run done).cache.transmitting = true)
    (hreceiver : query.txUnsafe = true) :
    (rig.run events).cache.peek query = rig.cache.peek query := by
  induction events generalizing rig with
  | nil => rfl
  | cons event events ih =>
    have hstep : (rig.step event).2.cache.transmitting = true :=
      hflag [event] (by simp) (by simp)
    have hrest (done : List Event) (hne : done ≠ []) (hinitial : done <+: events) :
        ((rig.step event).2.run done).cache.transmitting = true :=
      hflag (event :: done) (by simp) (by simpa using hinitial)
    rw [run, ih hrest, peek_step, stored_of_transmitting hstep hreceiver, Option.none_or]

end Readings

/-- How the note that the radio transmits comes and goes with an event. -/
structure NoteFollows [Line σ] (rig : Rig σ) (event : Event) : Prop where
  /-- It is made when the radio took the command to key it, or its status byte says that it is
  keyed. -/
  sets : rig.cache.transmitting = false → (rig.step event).2.cache.transmitting = true →
    event = .perform (.setPtt true) ∧ (rig.step event).1 = .ok .done ∨
      ∃ operation status, event = .perform operation ∧ ReadsTransmitter operation ∧
        rig.txReply = .ok status ∧ status &&& 0x80 = 0
  /-- It is dropped when the radio took the command to unkey it, or its status byte says that it is
  not keyed. -/
  clears : rig.cache.transmitting = true → (rig.step event).2.cache.transmitting = false →
    event = .perform (.setPtt false) ∧ (rig.step event).1 = .ok .done ∨
      ∃ operation status, event = .perform operation ∧ ReadsTransmitter operation ∧
        rig.txReply = .ok status ∧ status &&& 0x80 ≠ 0
  /-- Keying that fails does not change it. -/
  setPtt_failed : ∀ on e, event = .perform (.setPtt on) → (rig.step event).1 = .error e →
    (rig.step event).2.cache.transmitting = rig.cache.transmitting
  /-- A status that could not be read does not change it. -/
  read_failed : ∀ operation e, event = .perform operation → ReadsTransmitter operation →
    rig.txReply = .error e → (rig.step event).2.cache.transmitting = rig.cache.transmitting

section Note

variable [Line σ] {rig : Rig σ} {event : Event}

/-- An event that does not change the note follows these rules. -/
theorem NoteFollows.of_eq
    (h : (rig.step event).2.cache.transmitting = rig.cache.transmitting) :
    rig.NoteFollows event :=
  ⟨fun hclear hset => by simp [h, hclear] at hset, fun hset hclear => by simp [h, hset] at hclear,
    fun _ _ _ _ => h, fun _ _ _ _ _ => h⟩

/-- Keying follows these rules. -/
theorem noteFollows_setPtt (on : Bool) : rig.NoteFollows (.perform (.setPtt on)) := by
  have hnote := transmitting_setPtt on rig
  cases hresult : ((perform (.setPtt on)).apply rig).1 with
  | error e =>
    rw [hresult] at hnote
    exact .of_eq hnote
  | ok answer =>
    have hdone : answer = .done := by
      rw [apply_setPtt] at hresult
      split at hresult
      · exact (Except.ok.inj hresult).symm
      · cases hresult
    have hon : (rig.step (.perform (.setPtt on))).2.cache.transmitting = on := by
      rw [hresult] at hnote
      exact hnote
    have hsucceeded : (rig.step (.perform (.setPtt on))).1 = .ok .done := hdone ▸ hresult
    -- The note is now what was asked for, so a change of it says which way the key went.
    refine ⟨fun _ hset => .inl ?_, fun _ hclear => .inl ?_, fun on' e hevent hfailed => ?_,
      fun operation e hevent hreads => ?_⟩
    · obtain rfl : on = true := hon ▸ hset
      exact ⟨rfl, hsucceeded⟩
    · obtain rfl : on = false := hon ▸ hclear
      exact ⟨rfl, hsucceeded⟩
    · obtain ⟨⟩ := hevent
      simp [hsucceeded] at hfailed
    · obtain ⟨⟩ := hevent
      simp [ReadsTransmitter] at hreads

/-- So does reading the transmitter. -/
theorem noteFollows_of_readsTransmitter {operation : Operation} (h : ReadsTransmitter operation) :
    rig.NoteFollows (.perform operation) := by
  have hnote := transmitting_of_readsTransmitter rig h
  cases hreply : rig.txReply with
  | error e =>
    rw [hreply] at hnote
    exact .of_eq hnote
  | ok status =>
    have hkeyed : (rig.step (.perform operation)).2.cache.transmitting = isKeyed status := by
      rw [hreply] at hnote
      exact hnote
    refine ⟨fun _ hset => .inr ⟨operation, status, rfl, h, hreply, ?_⟩,
      fun _ hclear => .inr ⟨operation, status, rfl, h, hreply, ?_⟩, fun on e hevent => ?_,
      fun _ _ _ _ herror => by simp [hreply] at herror⟩
    · rw [hkeyed] at hset
      simpa [isKeyed, receivingBit] using hset
    · rw [hkeyed] at hclear
      simpa [isKeyed, receivingBit] using hclear
    · obtain ⟨⟩ := hevent
      simp [ReadsTransmitter] at h

end Note

/-- Every event follows these rules: no other operation touches the note. -/
theorem noteFollows [Line σ] (rig : Rig σ) (event : Event) : rig.NoteFollows event := by
  cases event with
  | sleep duration => exact .of_eq rfl
  | perform operation =>
    by_cases hptt : ∃ on, operation = .setPtt on
    · obtain ⟨on, rfl⟩ := hptt
      exact noteFollows_setPtt on
    · by_cases hreads : ReadsTransmitter operation
      · exact noteFollows_of_readsTransmitter hreads
      · exact .of_eq (transmitting_perform rig operation (fun on h => hptt ⟨on, h⟩) hreads)

/-- From the event that leaves the radio transmitting, and for as long as it does, a reading of the
receiver leaves the session alone, the record of its line included, and is decoded from the last
reply that was stored before; without one it is refused. In every session the note that the radio
transmits follows the commands that key it and the status bytes that tell. -/
theorem start_transmitting [Line σ] (descriptor : Descriptor) (channel : Channel (RecordedLine σ)) :
    (∀ (before : List Event) (event : Event) (during : List Event),
      (∀ done, done <+: during →
        ((start descriptor channel).run (before ++ event :: done)).cache.transmitting = true) →
      ∀ reading : Reading,
        let rig := (start descriptor channel).run (before ++ event :: during)
        (perform reading.operation).apply rig =
          (match ((start descriptor channel).replies reading.source before).getLast? with
            | some reply => reading.decode descriptor reply
            | none => .error .transmitting, rig)) ∧
    ∀ (rig : Rig (RecordedLine σ)) (event : Event), rig.NoteFollows event := by
  refine ⟨fun before event during hflag reading => ?_, noteFollows⟩
  -- The radio transmits from the event on, so no reply was stored since.
  have hsince (done : List Event) (hne : done ≠ []) (hinitial : done <+: event :: during) :
      (((start descriptor channel).run before).run done).cache.transmitting = true := by
    cases done with
    | nil => exact absurd rfl hne
    | cons first done =>
      obtain ⟨rfl, hrest⟩ := List.cons_prefix_cons.mp hinitial
      rw [← run_append]
      exact hflag done hrest
  have hkept := peek_run_of_transmitting (event :: during) hsince reading.txUnsafe_source
  rw [peek_run_start, ← run_append] at hkept
  have hdescriptor : ((start descriptor channel).run (before ++ event :: during)).descriptor =
      descriptor := descriptor_run _ _
  intro rig
  rw [apply_reading_of_transmitting (hflag during (List.prefix_refl during)), hdescriptor, hkept]

/-- A frequency that was read before the radio was keyed is still the answer a minute later, when it
has long gone stale. -/
theorem start_transmitting_frequency :
    let line : ScriptedLine :=
      { script := [⟨[0x00, 0x00, 0x00, 0x00, 0x03], [0x14, 0x25, 0x00, 0x00, 0x01]⟩,
          ⟨[0x00, 0x00, 0x00, 0x00, 0x08], [0x00]⟩] }
    let channel : Channel (RecordedLine ScriptedLine) := ⟨⟨line, []⟩, 0⟩
    let rig := (start Models.ft817 channel).run
      ([.perform (.getFrequency .current)] ++ .perform (.setPtt true) :: [.sleep 60000])
    rig.cache.transmitting = true ∧
      (perform (.getFrequency .current)).apply rig = (.ok (.frequency 142500000), rig) := by
  intro line channel rig
  have hflag : ∀ done, done <+: [Event.sleep 60000] →
      ((start Models.ft817 channel).run
        ([.perform (.getFrequency .current)] ++
          .perform (.setPtt true) :: done)).cache.transmitting = true := by
    intro done hinitial
    obtain rfl | rfl : done = [] ∨ done = [.sleep 60000] := by
      simpa [List.prefix_cons_iff] using hinitial
    · decide +kernel
    · decide +kernel
  have hreplies : (start Models.ft817 channel).replies .freqMode
      [.perform (.getFrequency .current)] = [[0x14, 0x25, 0x00, 0x00, 0x01]] := by
    decide +kernel
  refine ⟨hflag _ (List.prefix_refl _), ?_⟩
  have hreading :=
    (start_transmitting Models.ft817 channel).1 _ _ _ hflag (.frequency .current)
  rw [Reading.source, hreplies] at hreading
  refine hreading.trans ?_
  rfl

end Rig

end Transceiver
