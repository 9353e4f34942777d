import Mathlib.Data.List.Basic
import Transceiver.Line.Scripted
import Transceiver.Models
import Transceiver.Proofs.Bcd.RoundTrip
import Transceiver.Proofs.ResponseCache.History
import Transceiver.Proofs.Rig.Session

/-!
# The Lengths of Status Replies

A query answers with as many bytes as it was asked for, or fails. So every reply that a session
keeps has the length of its query, and whoever decodes it later finds each byte where it looks for
one. This is stated by decoding with all accesses checked: `Reading.decodeWithin` and
`clarifierFrameWithin` have no answer where a byte is missing, and never miss any.

## Main statement

* `Rig.start_lengths`: in every run the replies that are kept have the lengths of their queries, and
  no access to a reply or to a written field is out of range.
-/

namespace Transceiver

variable {σ : Type}

/-! ## What a query answers with -/

section Queries

variable [Line σ]

/-- Whoever wants no bytes gathers none. -/
theorem Channel.gather_zero (channel : Channel σ) (timeout : Nat) :
    channel.gather 0 timeout [] = (.ok [], channel) := by
  rw [gather, if_neg (by simp)]

namespace Engine

variable {engine : Engine σ} {frame : Frame} {count : Nat} {bytes : Bytes}

/-- A block that was read has the length that was asked for. -/
theorem length_read (h : (engine.read (.block count)).1 = .ok bytes) : bytes.length = count := by
  have hread : (engine.read (.block count)).1 =
      (engine.channel.gather count engine.timing.timeout []).1.bind
        ((Expectation.block count).conclude engine.sentinels) := rfl
  rw [hread] at h
  cases hgather : (engine.channel.gather count engine.timing.timeout []).1 with
  | error e =>
    rw [hgather] at h
    cases h
  | ok got =>
    -- A single byte could be taken for a status only where none was asked for.
    have hnone : count = 0 → got = [] := by
      rintro rfl
      rw [Channel.gather_zero] at hgather
      exact (Except.ok.inj hgather).symm
    rw [hgather] at h
    obtain ⟨rfl, hlength⟩ := (Expectation.conclude_block_eq_ok_iff hnone).mp h
    exact hlength

/-- The reply of an exchange has the length that was asked for. -/
theorem length_execute (h : (engine.execute frame (.block count)).1 = .ok bytes) :
    bytes.length = count := by
  rw [execute] at h
  split at h
  next => cases h
  next written _ =>
    have hread : (written.read (.block count)).1 = .ok bytes := h
    exact length_read hread

/-- So has the reply that ended the attempts. -/
theorem length_executeWithRetry {retries : Nat}
    (h : (engine.executeWithRetry frame (.block count) retries).1 = .ok bytes) :
    bytes.length = count := by
  -- The answer is that of the last attempt.
  induction retries generalizing engine with
  | zero => exact length_execute h
  | succ retries ih =>
    rw [executeWithRetry] at h
    split at h
    next e after hexecute =>
      split at h
      next => exact ih h
      next => cases h
    next answer after hexecute =>
      obtain rfl := Except.ok.inj h
      exact length_execute (congrArg Prod.fst hexecute)

/-- A query never answers with another number of bytes than it was asked for. -/
theorem length_query (h : (engine.query frame count).1 = .ok bytes) : bytes.length = count :=
  length_executeWithRetry h

end Engine

end Queries

namespace Rig

/-! ## What a session keeps -/

section Replies

variable [Line σ] {rig : Rig σ} {query : StatusQuery} {bytes : Bytes}

/-- A status reply has the length of its query. -/
theorem length_readStatus {descriptor : Descriptor} {engine : Engine σ}
    (h : (readStatus descriptor query engine).1 = .ok bytes) : bytes.length = query.length := by
  rw [readStatus] at h
  split at h
  next frame _ => exact Engine.length_query h
  next => cases h

/-- A reply that would be stored now has the length of its query. -/
theorem length_refreshed (h : rig.refreshed query = some bytes) : bytes.length = query.length := by
  rw [refreshed] at h
  split at h
  next =>
    cases hread : (readStatus rig.descriptor query rig.engine).1 with
    | error e => simp [hread, Except.toOption] at h
    | ok answer =>
      obtain rfl : answer = bytes := by simpa [hread, Except.toOption] using h
      exact length_readStatus hread
  next => cases h

/-- A reply that an event stores has the length of its query. -/
theorem length_stored {event : Event} (h : rig.stored query event = some bytes) :
    bytes.length = query.length := by
  cases event with
  | sleep duration => cases h
  | perform operation =>
    rw [stored, fetched] at h
    split at h
    next => exact length_refreshed h
    next => cases h

/-- Every reply that a run stores has the length of its query. -/
theorem length_of_mem_replies {events : List Event} (h : bytes ∈ rig.replies query events) :
    bytes.length = query.length := by
  induction events generalizing rig with
  | nil => cases h
  | cons event events ih =>
    rcases List.mem_append.mp h with hfirst | hrest
    · exact length_stored (Option.mem_toList.mp hfirst)
    · exact ih hrest

/-- What is kept is one of the replies that the run stored. -/
theorem length_peek_run {descriptor : Descriptor} {channel : Channel σ} {events : List Event}
    (h : ((start descriptor channel).run events).cache.peek query = some bytes) :
    bytes.length = query.length := by
  rw [peek_run_start] at h
  exact length_of_mem_replies (List.mem_of_getLast? h)

/-- A session that keeps replies of the right length also answers with one, whether it asks the
radio or not. -/
theorem length_status
    (hkept : ∀ kept, rig.cache.peek query = some kept → kept.length = query.length)
    (h : ((status query).apply rig).1 = .ok bytes) : bytes.length = query.length := by
  rw [apply_status] at h
  cases hverdict : rig.verdict query with
  | serve kept =>
    rw [hverdict] at h
    obtain rfl := Except.ok.inj h
    exact hkept kept (ResponseCache.peek_of_consult_eq_serve _ _ _ _ hverdict)
  | refuse =>
    rw [hverdict] at h
    cases h
  | refresh =>
    rw [hverdict] at h
    exact length_readStatus (fst_ask rig query ▸ h)

end Replies

/-! ## Decoding with checked accesses -/

/-- The first `count` bytes, if there are so many. -/
def front? (bytes : Bytes) (count : Nat) : Option Bytes :=
  if count ≤ bytes.length then some (bytes.take count) else none

/-- Decodes a reading from a status reply. There is no answer if a byte of it is missing. -/
def Reading.decodeWithin (descriptor : Descriptor) (reply : Bytes) :
    Reading → Option (Except Error Answer)
  | frequency _ =>
    (front? reply paramCount).map fun field =>
      (Bcd.toFrequency field 8 descriptor.freqOrder).map .frequency
  | mode _ => reply[paramCount]?.map fun raw => (decodeMode descriptor raw).map .mode
  | dcd => reply.head?.map fun status => .ok (.flag (status &&& squelchedBit == 0))
  | rawStrength => reply.head?.map fun status => .ok (.rawStrength (status &&& strengthBits))
  | strength =>
    reply.head?.map fun status => .ok (.strength (strengthDb (status &&& strengthBits)))

/-- The frame that sets the clarifier. There is no answer if one of the two bytes of digits is
missing. -/
def clarifierFrameWithin (descriptor : Descriptor) (offset : Int) :
    Option (Except Error Frame) :=
  let signed := Bcd.ofOffset offset 4 .bigEndian
  match signed.digits.exact with
  | .error e => some (.error e)
  | .ok digits => do
    let first ← digits[0]?
    let second ← digits[1]?
    -- The bytes are looked at before the command table is.
    return (descriptor.template .setClarifierFrequency).map fun template =>
      template.withParams #v[polarity signed.negative, 0x00, first, second]

/-- A reply of a single byte is read without falling back. -/
theorem exists_firstByte {reply : Bytes} (h : reply.length = 1) :
    ∃ byte, reply = [byte] ∧ firstByte reply = .ok byte := by
  obtain ⟨byte, rfl⟩ := List.length_eq_one_iff.mp h
  exact ⟨byte, rfl, rfl⟩

/-- A reply of the right length has every byte that a reading is decoded from. -/
theorem Reading.decodeWithin_of_length (descriptor : Descriptor) {reading : Reading} {reply : Bytes}
    (h : reply.length = reading.source.length) :
    reading.decodeWithin descriptor reply = some (reading.decode descriptor reply) := by
  cases reading with
  | frequency vfo =>
    have hlength : paramCount ≤ reply.length := by
      rw [h]
      show 4 ≤ 5
      decide
    simp [decodeWithin, decode, front?, hlength]
  | mode vfo =>
    have hlength : paramCount < reply.length := by
      rw [h]
      show 4 < 5
      decide
    simp [decodeWithin, decode, List.getD_eq_getElem?_getD, hlength]
  | dcd | rawStrength | strength =>
    obtain ⟨byte, rfl, hbyte⟩ := exists_firstByte h
    rw [decode, hbyte]
    rfl

/-- Four digits fill two bytes, whatever the offset. -/
theorem clarifierFrameWithin_eq (descriptor : Descriptor) (offset : Int) :
    clarifierFrameWithin descriptor offset = some (clarifierFrame descriptor offset) := by
  have hlength : (Bcd.ofOffset offset 4 .bigEndian).digits.bytes.length = 2 :=
    Bcd.length_bytes_encode _ 4 .bigEndian
  obtain ⟨first, second, hbytes⟩ := List.length_eq_two.mp hlength
  simp only [clarifierFrameWithin, clarifierFrame, Bcd.Encoding.exact, hbytes]
  -- With two bytes at hand both look-ups succeed, and only the field and the template can be
  -- missing.
  split
  next e hexact =>
    rw [hexact]
    rfl
  next digits hexact =>
    have hdigits : digits = [first, second] := by
      split at hexact
      · cases hexact
      · exact (Except.ok.inj hexact).symm
    rw [hexact, hdigits]
    cases descriptor.template .setClarifierFrequency <;> rfl

/-! ## Runs -/

/-- In a session from its beginning every reply that is kept has the length of its query. A reading
is decoded from bytes that are there, and a status byte is there whenever a reply is. So are the
digits of a clarifier offset. All this holds because no query answers with another number of bytes
than it was asked for. -/
theorem start_lengths [Line σ] (descriptor : Descriptor) (channel : Channel σ)
    (events : List Event) :
    let rig := (start descriptor channel).run events
    (∀ query reply, rig.cache.find? query = some reply → reply.bytes.length = query.length) ∧
    (∀ (reading : Reading) (block : Bytes), ((status reading.source).apply rig).1 = .ok block →
      reading.decodeWithin descriptor block =
        some ((perform reading.operation).apply rig).1) ∧
    (∀ query block, query ≠ .freqMode → ((status query).apply rig).1 = .ok block →
      ∃ byte, block = [byte] ∧ ((statusByte query).apply rig).1 = .ok byte) ∧
    (∀ offset, clarifierFrameWithin descriptor offset = some (clarifierFrame descriptor offset)) ∧
    ∀ (engine : Engine σ) (frame : Frame) (count : Nat) (bytes : Bytes),
      (engine.query frame count).1 = .ok bytes → bytes.length = count := by
  intro rig
  -- Every reply that is kept was stored in the run.
  have hkept (query : StatusQuery) (kept : Bytes) (h : rig.cache.peek query = some kept) :
      kept.length = query.length :=
    length_peek_run h
  have hdescriptor : rig.descriptor = descriptor := descriptor_run _ events
  refine ⟨fun query reply hfind => ?_, fun reading block hstatus => ?_,
    fun query block hquery hstatus => ?_, clarifierFrameWithin_eq descriptor,
    fun engine frame count bytes h => Engine.length_query h⟩
  · exact hkept query reply.bytes (by rw [ResponseCache.peek, hfind, Option.map_some])
  · rw [Reading.decodeWithin_of_length descriptor (length_status (hkept _) hstatus), apply_reading,
      hstatus, hdescriptor]
    rfl
  · have hone : query.length = 1 := by
      cases query with
      | freqMode => exact absurd rfl hquery
      | rxStatus | txStatus => rfl
    obtain ⟨byte, rfl, hbyte⟩ := exists_firstByte ((length_status (hkept query) hstatus).trans hone)
    refine ⟨byte, rfl, ?_⟩
    rw [apply_statusByte, hstatus]
    exact hbyte

/-- The mode of a radio on upper side band is the fifth byte of a reply that was read before. -/
theorem start_lengths_usb :
    let line : ScriptedLine :=
      { script := [⟨[0x00, 0x00, 0x00, 0x00, 0x03], [0x14, 0x25, 0x00, 0x00, 0x01]⟩] }
    let rig := (start Models.ft817 ⟨line, 0⟩).run [.perform (.getFrequency .current)]
    ((status .freqMode).apply rig).1 = .ok [0x14, 0x25, 0x00, 0x00, 0x01] ∧
      (Reading.mode .current).decodeWithin Models.ft817 [0x14, 0x25, 0x00, 0x00, 0x01] =
        some ((perform (.getMode .current)).apply rig).1 ∧
      ((perform (.getMode .current)).apply rig).1 = .ok (.mode .usb) := by
  intro line rig
  have hstatus : ((status .freqMode).apply rig).1 = .ok [0x14, 0x25, 0x00, 0x00, 0x01] := by
    decide +kernel
  obtain ⟨-, hdecode, -⟩ :=
    start_lengths Models.ft817 ⟨line, 0⟩ [.perform (.getFrequency .current)]
  refine ⟨hstatus, hdecode (.mode .current) _ hstatus, ?_⟩
  decide +kernel

end Rig

end Transceiver
