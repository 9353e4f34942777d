import Transceiver.Line.Disturbed
import Transceiver.Line.Scripted
import Transceiver.Proofs.Engine.HalfDuplex

/-!
# Reading a Reply

A reply may arrive in chunks of any size. What an exchange answers depends on the bytes that came
and on what put an end to the reading, and not on how the bytes were cut: `ComesTo` has no word
about chunks. A reading that is not cut short by a failure ends with the last byte that is wanted,
or before it if the line falls silent. Then a single byte that stands for a refusal is one, whatever
was asked for, while the same byte as the whole of a block of one byte is that block.

The line may answer a receive with fewer bytes than were asked for, but not with more, which is
`Line.KeepsToLimit`. Scripted lines keep to it, disturbed or not.

## Main statement

* `Engine.execute_reply`: how the reply to a frame that went out is read, and what the exchange
  answers.
-/

namespace Transceiver

variable {σ : Type}

/-! ## Lines that bring no more than is asked for -/

/-- A receive brings at most as many bytes as it asks for. -/
def Line.KeepsToLimit (σ : Type) [Line σ] : Prop :=
  ∀ (line : σ) (now limit timeout : Nat) (bytes : Bytes),
    (Line.receive line now limit timeout).result = .ok bytes → bytes.length ≤ limit

/-- A scripted line takes no more from what waits than it is asked for. -/
theorem ScriptedLine.keepsToLimit : Line.KeepsToLimit ScriptedLine := by
  intro line now limit timeout bytes h
  change (line.receive limit).1 = .ok bytes at h
  rw [receive] at h
  split at h
  · split at h
    · cases h
    · obtain rfl := Except.ok.inj h
      exact List.length_take_le limit line.waiting
  · cases h

/-- The bytes that a call brought are no more than it asked for. -/
def Call.KeepsToLimit : Call → Prop
  | receive limit _ (.ok bytes) => bytes.length ≤ limit
  | _ => True

section Layers

variable [Line σ] (h : Line.KeepsToLimit σ)

include h

/-- To cut receives short is to keep to the limit all the more. -/
theorem DisturbedLine.keepsToLimit : Line.KeepsToLimit (DisturbedLine σ) := by
  intro line now limit timeout bytes hbytes
  change (perform line.inner _ limit timeout (line.upcoming.headD {}).effect).result = _ at hbytes
  -- Only one of the effects asks the line, and then for no more than the limit.
  cases heffect : (line.upcoming.headD {}).effect with
  | ask most =>
    rw [heffect] at hbytes
    exact Nat.le_trans (h _ _ _ _ _ hbytes) (Nat.min_le_left _ _)
  | empty =>
    rw [heffect] at hbytes
    obtain rfl := Except.ok.inj hbytes
    exact Nat.zero_le limit
  | fail e =>
    rw [heffect] at hbytes
    cases hbytes

/-- On such a line no request puts a call on record that brought too many bytes. -/
theorem Line.KeepsToLimit.perform {engine : Engine (RecordedLine σ)} {request : Request}
    {added : List Call} (hcalls : (engine.perform request).2.calls = engine.calls ++ added) :
    ∀ call ∈ added, call.KeepsToLimit := by
  have hreceives (line : σ) (now limit timeout : Nat) :
      (Call.receive limit timeout (Line.receive line now limit timeout).result).KeepsToLimit := by
    cases hresult : (Line.receive line now limit timeout).result with
    | error => trivial
    | ok bytes => exact h line now limit timeout bytes hresult
  have hinvariant : Line.IsInvariant
      (RecordedLine.GrewBy (σ := σ) engine.channel.line.calls Call.KeepsToLimit) :=
    RecordedLine.isInvariant_grewBy _ (fun _ _ _ => trivial) hreceives (fun _ => trivial)
      fun _ => trivial
  exact RecordedLine.perform_of_isInvariant hinvariant hcalls

end Layers

/-! ## The end of a reading -/

/-- What puts an end to the reading of a reply. -/
inductive ReadingEnd where
  /-- All the bytes have come. -/
  | full
  /-- A receive brought no bytes, or timed out. -/
  | silent
  /-- A receive failed in another way. -/
  | failed (e : Error)
  deriving DecidableEq, Repr

/-- The end that a call puts to a reading, unless it goes on. -/
def Call.readingEnd? : Call → Option ReadingEnd
  | receive _ _ (.ok []) => some .silent
  | receive _ _ (.error .timeout) => some .silent
  | receive _ _ (.error e) => some (.failed e)
  | _ => none

namespace ReadingEnd

/-- The end of a reading: the first that one of the calls puts to it, and otherwise that all the
bytes have come. -/
def ofReads (reads : List Call) : ReadingEnd :=
  (reads.findSome? Call.readingEnd?).getD full

/-- What is handed on of the bytes that came: a failure takes their place. -/
def gathered (got : Bytes) : ReadingEnd → Except Error Bytes
  | failed e => .error e
  | _ => .ok got

/-- A reading without calls had all its bytes before. -/
@[simp]
theorem ofReads_nil : ofReads [] = full := rfl

/-- A receive that fails otherwise than by a timeout ends the reading with its error. -/
theorem readingEnd?_of_ne_timeout {e : Error} (he : e ≠ .timeout) (limit timeout : Nat) :
    (Call.receive limit timeout (.error e)).readingEnd? = some (.failed e) := by
  cases e <;> first | rfl | exact absurd rfl he

/-- A receive that brings bytes leaves the reading to go on. -/
theorem readingEnd?_of_ne_nil {bytes : Bytes} (hbytes : bytes ≠ []) (limit timeout : Nat) :
    (Call.receive limit timeout (.ok bytes)).readingEnd? = none := by
  cases bytes with
  | nil => exact absurd rfl hbytes
  | cons => rfl

/-- A call that puts no end to the reading leaves it to the calls after it. -/
theorem ofReads_cons_of_none {call : Call} (h : call.readingEnd? = none) (calls : List Call) :
    ofReads (call :: calls) = ofReads calls := by
  simp [ofReads, h]

/-- A reading of one call ends as this call does. -/
theorem ofReads_singleton {call : Call} {ending : ReadingEnd} (h : call.readingEnd? = some ending) :
    ofReads [call] = ending := by
  simp [ofReads, h]

end ReadingEnd

/-- The receives that read a reply of `want` bytes, however the line cuts it. -/
structure ReadsInChunks (want timeout : Nat) (reads : List Call) : Prop where
  /-- Each asks for the bytes that are missing at that time, of which there are some, and may wait
  the whole timeout. -/
  asks : ∀ before call later, reads = before ++ call :: later →
    (before.flatMap Call.received).length < want ∧
    ∃ answer, call = .receive (want - (before.flatMap Call.received).length) timeout answer
  /-- None follows the one that puts an end to the reading. -/
  ends : ∀ before call later, reads = before ++ call :: later → call.readingEnd? ≠ none → later = []
  /-- There are at most as many as bytes are wanted. -/
  length_le : reads.length ≤ want
  /-- No more bytes come than are wanted. -/
  received_le : (reads.flatMap Call.received).length ≤ want
  /-- The reading goes on to the last byte unless a call puts an end to it before. -/
  full_iff : ReadingEnd.ofReads reads = .full ↔ (reads.flatMap Call.received).length = want

namespace Reads

variable {want timeout : Nat} {got : Bytes} {calls : List Call} {result : Except Error Bytes}

/-- Where a call lies in a list of one. -/
theorem eq_of_singleton {only call : Call} {before later : List Call}
    (h : [only] = before ++ call :: later) : before = [] ∧ only = call ∧ later = [] := by
  cases before with
  | nil => simpa using h
  | cons first before => simp at h

/-- Each receive asks for the bytes that are still missing, and there are some. -/
theorem asks (h : Reads want timeout got calls result) {before later : List Call} {call : Call}
    (hcalls : calls = before ++ call :: later) :
    (got ++ before.flatMap Call.received).length < want ∧
    ∃ answer, call =
      .receive (want - (got ++ before.flatMap Call.received).length) timeout answer := by
  induction h generalizing before with
  | full => simp at hcalls
  | silent hshort =>
    obtain ⟨rfl, rfl, rfl⟩ := eq_of_singleton hcalls
    simpa using hshort
  | failed hshort =>
    obtain ⟨rfl, rfl, rfl⟩ := eq_of_singleton hcalls
    simpa using hshort
  | more hshort _ _ ih =>
    cases before with
    | nil =>
      obtain ⟨rfl, -⟩ := List.cons.inj hcalls
      simpa using hshort
    | cons first before =>
      -- The first call has brought its bytes by then.
      obtain ⟨rfl, hrest⟩ := List.cons.inj hcalls
      simpa [Call.received] using ih hrest

/-- A call that puts an end to the reading is its last one. -/
theorem ends (h : Reads want timeout got calls result) {before later : List Call} {call : Call}
    (hcalls : calls = before ++ call :: later) (hend : call.readingEnd? ≠ none) : later = [] := by
  induction h generalizing before with
  | full => simp at hcalls
  | silent => exact (eq_of_singleton hcalls).2.2
  | failed => exact (eq_of_singleton hcalls).2.2
  | more _ hbytes _ ih =>
    cases before with
    | nil =>
      obtain ⟨rfl, -⟩ := List.cons.inj hcalls
      exact absurd (ReadingEnd.readingEnd?_of_ne_nil hbytes _ _) hend
    | cons first before => exact ih (List.cons.inj hcalls).2

/-- Each receive but the last one brings a byte at least. -/
theorem length_le (h : Reads want timeout got calls result) : calls.length ≤ want - got.length := by
  induction h with
  | full => simp
  | silent => simp only [List.length_singleton]; omega
  | failed => simp only [List.length_singleton]; omega
  | more hshort hbytes _ ih =>
    have hpos := List.length_pos_iff.mpr hbytes
    simp only [List.length_append, List.length_cons] at ih ⊢
    omega

/-- A line that keeps to the limit brings no more than is missing. -/
theorem length_append_le {bytes : Bytes} (hshort : got.length < want)
    (hlimit : (Call.receive (want - got.length) timeout (.ok bytes)).KeepsToLimit) :
    (got ++ bytes).length ≤ want := by
  have hbytes : bytes.length ≤ want - got.length := hlimit
  rw [List.length_append]
  omega

/-- If no call brings more than it asked for, no more bytes come than are wanted. -/
theorem received_le (h : Reads want timeout got calls result) (hgot : got.length ≤ want)
    (hlimit : ∀ call ∈ calls, call.KeepsToLimit) :
    (got ++ calls.flatMap Call.received).length ≤ want := by
  induction h with
  | full => simpa using hgot
  | silent _ hanswer => rcases hanswer with rfl | rfl <;> simpa [Call.received] using hgot
  | failed => simpa [Call.received] using hgot
  | more hshort _ _ ih =>
    have hmore := length_append_le hshort (hlimit _ List.mem_cons_self)
    simpa [Call.received] using ih hmore fun call hmem => hlimit call (by simp [hmem])

/-- All the bytes have come exactly if no call puts an end to the reading. -/
theorem full_iff (h : Reads want timeout got calls result) (hgot : got.length ≤ want)
    (hlimit : ∀ call ∈ calls, call.KeepsToLimit) :
    ReadingEnd.ofReads calls = .full ↔ (got ++ calls.flatMap Call.received).length = want := by
  induction h with
  | full hfull => simpa using Nat.le_antisymm hgot hfull
  | silent hshort hanswer =>
    rcases hanswer with rfl | rfl <;>
      simpa [ReadingEnd.ofReads, Call.readingEnd?, Call.received] using Nat.ne_of_lt hshort
  | failed hshort he =>
    rw [ReadingEnd.ofReads_singleton (ReadingEnd.readingEnd?_of_ne_timeout he _ _)]
    simpa [Call.received] using Nat.ne_of_lt hshort
  | more hshort hbytes _ ih =>
    have hmore := length_append_le hshort (hlimit _ List.mem_cons_self)
    rw [ReadingEnd.ofReads_cons_of_none (ReadingEnd.readingEnd?_of_ne_nil hbytes _ _)]
    simpa [Call.received] using ih hmore fun call hmem => hlimit call (by simp [hmem])

/-- The calls of a reading read the reply in chunks, if no call brings more than it asked for. -/
theorem readsInChunks (h : Reads want timeout [] calls result)
    (hlimit : ∀ call ∈ calls, call.KeepsToLimit) : ReadsInChunks want timeout calls where
  asks _ _ _ hcalls := by simpa using h.asks hcalls
  ends _ _ _ hcalls hend := h.ends hcalls hend
  length_le := by simpa using h.length_le
  received_le := by simpa using h.received_le (Nat.zero_le want) hlimit
  full_iff := by simpa using h.full_iff (Nat.zero_le want) hlimit

/-- What is gathered are all the bytes that came, or the failure that put an end to the reading. -/
theorem eq_gathered (h : Reads want timeout got calls result) :
    result = (ReadingEnd.ofReads calls).gathered (got ++ calls.flatMap Call.received) := by
  induction h with
  | full => simp [ReadingEnd.gathered]
  | silent _ hanswer =>
    rcases hanswer with rfl | rfl <;>
      simp [ReadingEnd.ofReads, Call.readingEnd?, ReadingEnd.gathered, Call.received]
  | failed _ he =>
    rw [ReadingEnd.ofReads_singleton (ReadingEnd.readingEnd?_of_ne_timeout he _ _)]
    rfl
  | more _ hbytes _ ih =>
    rw [ReadingEnd.ofReads_cons_of_none (ReadingEnd.readingEnd?_of_ne_nil hbytes _ _), ih]
    simp [Call.received]

end Reads

/-! ## What a reply comes to -/

/-- `ComesTo sentinels expectation got ending answer`: a reading that brought the bytes `got` and
came to such an end is answered so. -/
inductive ComesTo (sentinels : Sentinels) :
    Expectation → Bytes → ReadingEnd → Except Error Bytes → Prop
  /-- A block is answered as it is, even if it looks like a status byte. -/
  | block {count : Nat} {got : Bytes} : ComesTo sentinels (.block count) got .full (.ok got)
  | accepted {status : UInt8} (h : status = sentinels.accepted) :
      ComesTo sentinels .ack [status] .full (.ok [status])
  /-- A byte that serves as both sentinels means acceptance. -/
  | refused {status : UInt8} (haccepted : status ≠ sentinels.accepted)
      (h : status = sentinels.rejected) : ComesTo sentinels .ack [status] .full (.error .rejected)
  | garbled {status : UInt8} (haccepted : status ≠ sentinels.accepted)
      (hrejected : status ≠ sentinels.rejected) :
      ComesTo sentinels .ack [status] .full (.error (.garbled status))
  /-- Nothing came. -/
  | nothing {expectation : Expectation} : ComesTo sentinels expectation [] .silent (.error .timeout)
  /-- A refusal came in place of a longer reply. -/
  | refusedEarly {expectation : Expectation} {status : UInt8} (h : status = sentinels.rejected) :
      ComesTo sentinels expectation [status] .silent (.error .rejected)
  | short {expectation : Expectation} {got : Bytes} (hgot : got ≠ [])
      (hrejected : got ≠ [sentinels.rejected]) :
      ComesTo sentinels expectation got .silent
        (.error (.shortRead expectation.length got.length))
  | failed {expectation : Expectation} {got : Bytes} {e : Error} :
      ComesTo sentinels expectation got (.failed e) (.error e)

namespace ComesTo

variable {sentinels : Sentinels} {expectation : Expectation} {got : Bytes} {ending : ReadingEnd}
  {answer other : Except Error Bytes}

/-- There is one answer only. -/
theorem unique (h : ComesTo sentinels expectation got ending answer)
    (h' : ComesTo sentinels expectation got ending other) : other = answer := by
  cases h <;> cases h' <;> simp_all

/-- The only way to an unexpected length is a line that fails with it. -/
theorem failed_of_unexpectedLength {expected count : Nat}
    (h : ComesTo sentinels expectation got ending (.error (.unexpectedLength expected count))) :
    ending = .failed (.unexpectedLength expected count) := by
  cases h
  rfl

end ComesTo

namespace Expectation

variable {expectation : Expectation} {got : Bytes}

/-- All the bytes of a reply settle it. -/
theorem comesTo_full (sentinels : Sentinels) (h : got.length = expectation.length) :
    ComesTo sentinels expectation got .full (expectation.conclude sentinels got) := by
  rw [conclude_of_le (Nat.le_of_eq h.symm)]
  -- A block is not looked into. Only a status byte is held against the sentinels.
  cases expectation with
  | block count =>
    have hlength : got.length = count := h
    simp only [interpret, hlength, ↓reduceIte]
    exact .block
  | ack =>
    obtain ⟨status, rfl⟩ := List.length_eq_one_iff.mp h
    simp only [interpret, Sentinels.classify]
    split
    next haccepted => exact .accepted haccepted
    next haccepted =>
      split
      next hrejected => exact .refused haccepted hrejected
      next hrejected => exact .garbled haccepted hrejected

/-- So do too few of them. -/
theorem comesTo_silent (sentinels : Sentinels) (h : got.length < expectation.length) :
    ComesTo sentinels expectation got .silent (expectation.conclude sentinels got) := by
  simp only [conclude, h, ↓reduceIte]
  split
  · exact .nothing
  next status =>
    split
    next hrejected => exact .refusedEarly hrejected
    next hrejected => exact .short (by simp) (by simpa using hrejected)
  next hnil hsingle => exact .short hnil (hsingle _)

end Expectation

/-! ## Exchanges -/

/-- What an exchange brought came by the calls that read the reply. -/
theorem Exchange.HalfDuplex.received_calls {pause : Nat} {exchange : Exchange}
    (h : exchange.HalfDuplex pause) :
    exchange.calls.flatMap Call.received = exchange.received := by
  have hwrites : exchange.writes.flatMap Call.received = [] := by
    refine List.flatMap_eq_nil_iff.mpr fun call hmem => ?_
    cases call with
    | receive limit timeout answer =>
      exact absurd ⟨limit, timeout, answer, rfl⟩ (h.not_isReceive _ hmem)
    | send => rfl
    | flush => rfl
    | close => rfl
  rw [calls, List.flatMap_cons, List.flatMap_append, hwrites]
  rfl

/-- If the frame went out, the reply is read, and what is gathered is concluded from. -/
theorem Exchange.Ends.reads_of_delivered {timing : Timing} {sentinels : Sentinels}
    {exchange : Exchange} {result : Except Error Bytes} {progress : Progress}
    {expectation : Expectation} (h : exchange.Ends timing sentinels result progress)
    (hsome : exchange.expectation = some expectation)
    (hdelivered : exchange.delivered = exchange.frame.bytes) :
    ∃ gathered, Reads expectation.length timing.timeout [] exchange.reads gathered ∧
      result = gathered.bind (expectation.conclude sentinels) ∧ progress = .ofResult result := by
  cases h with
  | unsent hwrites =>
    -- The pieces are not empty, so one that failed is missing from what was delivered.
    have hiff := hwrites.delivered_eq_iff fun _ => Frame.ne_nil_of_mem_pieces
    simp_all [delivered]
  | unread => simp at hsome
  | read _ hreads hresult =>
    obtain rfl := Option.some.inj hsome
    exact ⟨_, hreads, hresult, rfl⟩

/-- A reading in chunks settles what the exchange answers. -/
theorem ReadsInChunks.comesTo {timeout : Nat} {reads : List Call} {sentinels : Sentinels}
    {expectation : Expectation} (h : ReadsInChunks expectation.length timeout reads) :
    ComesTo sentinels expectation (reads.flatMap Call.received) (ReadingEnd.ofReads reads)
      (((ReadingEnd.ofReads reads).gathered (reads.flatMap Call.received)).bind
        (expectation.conclude sentinels)) := by
  -- Unless the reading failed, its end says whether bytes are missing.
  have hfull := h.full_iff
  cases hend : ReadingEnd.ofReads reads with
  | full => exact expectation.comesTo_full sentinels (hfull.mp hend)
  | silent =>
    have hne : (reads.flatMap Call.received).length ≠ expectation.length := by
      intro hlength
      simp [hfull.mpr hlength] at hend
    exact expectation.comesTo_silent sentinels (Nat.lt_of_le_of_ne h.received_le hne)
  | failed e => exact .failed

namespace Engine

variable [Line σ]

/-- An exchange is conducted, and if its frame goes out, the reply is read in chunks of whatever
sizes the line chooses. The bytes that come and the end of the reading settle the answer, the engine
notes the answer, and an unexpected length is never an error of its own. -/
theorem execute_reply (hline : Line.KeepsToLimit σ) (engine : Engine (RecordedLine σ))
    (frame : Frame) (expectation : Expectation) :
    ∃ exchange : Exchange, exchange.frame = frame ∧ exchange.expectation = some expectation ∧
      (engine.execute frame expectation).2.calls = engine.calls ++ exchange.calls ∧
      exchange.HalfDuplex engine.timing.writeDelay ∧
      (exchange.delivered = frame.bytes →
        ReadsInChunks expectation.length engine.timing.timeout exchange.reads ∧
        (∀ answer, ComesTo engine.sentinels expectation exchange.received
          (ReadingEnd.ofReads exchange.reads) answer ↔
            answer = (engine.execute frame expectation).1) ∧
        (engine.execute frame expectation).2.progress =
          .ofResult (engine.execute frame expectation).1 ∧
        ∀ expected count,
          (engine.execute frame expectation).1 = .error (.unexpectedLength expected count) →
          ReadingEnd.ofReads exchange.reads = .failed (.unexpectedLength expected count)) := by
  obtain ⟨exchange, rfl, hexpectation, hconducts⟩ := engine.conducts_execute frame expectation
  refine ⟨exchange, rfl, hexpectation, hconducts.calls, hconducts.ends.halfDuplex, ?_⟩
  intro hdelivered
  obtain ⟨gathered, hreads, hresult, hprogress⟩ :=
    hconducts.ends.reads_of_delivered hexpectation hdelivered
  have hcalls : (engine.perform (.execute exchange.frame expectation)).2.calls =
      engine.calls ++ exchange.calls := hconducts.calls
  -- Each receive keeps to its limit, so the reading goes by chunks and comes to an end of its own.
  have hlimit : ∀ call ∈ exchange.calls, call.KeepsToLimit := hline.perform hcalls
  have hchunks := hreads.readsInChunks fun call hmem => hlimit call (by simp [Exchange.calls, hmem])
  have hcomes : ComesTo engine.sentinels expectation exchange.received
      (ReadingEnd.ofReads exchange.reads) (engine.execute exchange.frame expectation).1 := by
    rw [hresult, hreads.eq_gathered]
    exact hchunks.comesTo
  refine ⟨hchunks, fun answer => ⟨fun h => hcomes.unique h, ?_⟩, hprogress, ?_⟩
  · rintro rfl
    exact hcomes
  · intro expected count hunexpected
    rw [hunexpected] at hcomes
    exact hcomes.failed_of_unexpectedLength

/-- A reply of five bytes that comes in three chunks. -/
theorem execute_reply_of_chunks :
    let readFrequency : Frame := ⟨.zero, 0x03⟩
    let reply : Bytes := [0x14, 0x25, 0x00, 0x00, 0x01]
    let line : DisturbedLine ScriptedLine :=
      { inner := { script := [⟨readFrequency.bytes, reply⟩] }
        upcoming := [{ effect := .ask (some 2) }, { effect := .ask (some 1) }] }
    let engine : Engine (RecordedLine (DisturbedLine ScriptedLine)) :=
      { channel := ⟨⟨line, []⟩, 0⟩ }
    let after := (engine.execute readFrequency (.block 5)).2
    Line.KeepsToLimit (DisturbedLine ScriptedLine) ∧
      after.calls.map Call.received = [[], [], [0x14, 0x25], [0x00], [0x00, 0x01]] ∧
      after.progress = .completed ∧
      ∃ exchange : Exchange, after.calls = engine.calls ++ exchange.calls ∧
        exchange.delivered = readFrequency.bytes ∧ ReadsInChunks 5 200 exchange.reads ∧
        ReadingEnd.ofReads exchange.reads = .full ∧
        ∀ answer, ComesTo engine.sentinels (.block 5) reply .full answer ↔ answer = .ok reply := by
  intro readFrequency reply line engine after
  have hline : Line.KeepsToLimit (DisturbedLine ScriptedLine) :=
    DisturbedLine.keepsToLimit ScriptedLine.keepsToLimit
  have hok : (engine.execute readFrequency (.block 5)).1 = .ok reply := by decide +kernel
  have hall : after.calls.flatMap Call.received = reply := by decide +kernel
  obtain ⟨exchange, hframe, -, hcalls, hhalf, hread⟩ :=
    execute_reply hline engine readFrequency (.block 5)
  -- The bytes on record are those of this exchange, so its frame went out and its reply is whole.
  have hreceived : exchange.received = reply := by
    rw [← hall, ← hhalf.received_calls]
    exact congrArg (List.flatMap Call.received) hcalls.symm
  have hdelivered : exchange.delivered = readFrequency.bytes := by
    rw [hhalf.delivered_of_received (by simp [hreceived, reply]), hframe]
  obtain ⟨hchunks, hcomes, -, -⟩ := hread hdelivered
  have hfull : ReadingEnd.ofReads exchange.reads = .full :=
    hchunks.full_iff.mpr (congrArg List.length hreceived)
  rw [hfull, hreceived, hok] at hcomes
  exact ⟨hline, by decide +kernel, by decide +kernel, exchange, hcalls, hdelivered, hchunks, hfull,
    hcomes⟩

end Engine

end Transceiver
