import Transceiver.Proofs.Rig.Plan

/-!
# Steps of a Session

Most operations touch neither the replies that are kept nor the note that the radio transmits. This
is said once, for anything that can be seen of a session without looking at what they do change:
`RigAction.Leaves view action` says that a step leaves what `view` shows alone, and
`Rig.leaves_perform` that every operation does which neither asks for a status reply nor keys the
transmitter, provided that `view` overlooks the engine, the VFO and the marks of expiry. A setting
changes no more than the engine and what its plan notes.

The other operations come down to a status reply. `Rig.apply_status` says how it is obtained,
`Rig.apply_reading` and `Rig.apply_txStatus` what becomes of it.

## Main statements

* `Rig.find?_status`, `Rig.peek_perform`: the replies that are kept after a status reply was
  obtained and after an operation;
* `Rig.transmitting_setPtt`, `Rig.transmitting_of_readsTransmitter`, `Rig.transmitting_perform`:
  whether the radio is taken to transmit after an operation.
-/

namespace Transceiver

variable {σ α β γ : Type}

/-! ## What settings leave alone -/

/-- However a step ends, what `view` shows of the session stays as it was. -/
def RigAction.Leaves (view : Rig σ → γ) (action : RigAction σ α) : Prop :=
  ∀ rig, view (action.apply rig).2 = view rig

namespace Rig

open RigAction

/-- What is seen does not depend on the engine, the VFO, or whether a reply is marked expired. -/
structure Overlooks (view : Rig σ → γ) : Prop where
  /-- The engine is not looked at. -/
  engine (rig : Rig σ) (engine : Engine σ) : view { rig with engine } = view rig
  /-- The VFO is not looked at. -/
  vfo (rig : Rig σ) (vfo : Vfo) : view { rig with vfo } = view rig
  /-- The marks of expiry are not looked at. -/
  expire (rig : Rig σ) (query : StatusQuery) :
    view { rig with cache := rig.cache.forceExpire query } = view rig

/-- The status reply that an operation asks for. -/
def source? : Operation → Option StatusQuery
  | .getFrequency _ | .getMode _ => some .freqMode
  | .getDcd | .getRawStrength | .getStrength => some .rxStatus
  | .getPtt | .getSplit => some .txStatus
  | _ => none

/-- What changes a setting asks for no status reply. -/
theorem source?_eq_none {operation : Operation} {command : Command}
    (h : operation.command? = some command) : source? operation = none := by
  cases operation <;> first | rfl | cases h

/-- What asks for no status reply changes a setting, or gives the line up. -/
theorem exists_command {operation : Operation} (h : source? operation = none)
    (hclose : operation ≠ .close) : ∃ command, operation.command? = some command := by
  cases operation with
  | setRepeaterShift shift => cases shift <;> exact ⟨_, rfl⟩
  | _ => simp_all [source?, Operation.command?]

section Settings

variable {view : Rig σ → γ}

variable [Line σ]

/-- Sending a command leaves alone whatever does not depend on the engine. -/
theorem leaves_sendCommand (h : Overlooks view) (command : Command) :
    (sendCommand command).Leaves view := by
  intro rig
  have hfollows : Follows (do sendCommand command; pure ()) rig _ :=
    follows_sendCommand (makes_nothing rig)
  rw [bind_pure] at hfollows
  rw [hfollows]
  exact view_carryOut h.engine (by simp) rig

/-- Giving the line up concerns the engine alone. -/
theorem apply_close (rig : Rig σ) :
    (perform .close).apply rig =
      (rig.engine.close.1.map fun _ => .done, { rig with engine := rig.engine.close.2 }) := by
  have hclose : (close : RigAction σ Unit).apply rig =
      (rig.engine.close.1, { rig with engine := rig.engine.close.2 }) := rfl
  rw [perform, acknowledge, apply_bind, hclose]
  cases rig.engine.close.1 <;> rfl

/-- An operation that asks for no status reply changes no more than the engine and what it notes. -/
theorem leaves_of_notes (h : Overlooks view) {operation : Operation}
    (hsource : source? operation = none)
    (hnotes : ∀ rig : Rig σ, ∀ stages, rig.plan operation = .ok stages → ∀ stage ∈ stages,
      ∀ note ∈ stage.notes, ∀ rig : Rig σ, view (rig.note note) = view rig) :
    (perform operation).Leaves view := by
  intro rig
  by_cases hclose : operation = .close
  · subst hclose
    rw [apply_close]
    exact h.engine rig _
  · obtain ⟨command, hcommand⟩ := exists_command hsource hclose
    rw [apply_setting hcommand]
    cases hplan : rig.plan operation with
    | error e => rw [account_of_refusal hplan]
    | ok stages =>
      rw [account_of_plan hplan]
      exact view_carryOut h.engine (hnotes rig stages hplan) rig

/-- An operation that neither asks for a status reply nor keys the transmitter changes no more than
the engine, the VFO and the marks of expiry. -/
theorem leaves_perform (h : Overlooks view) {operation : Operation}
    (hsource : source? operation = none) (hptt : ∀ on, operation ≠ .setPtt on) :
    (perform operation).Leaves view := by
  refine leaves_of_notes h hsource fun rig stages hplan stage hstage note hnote rig' => ?_
  cases note with
  | expire query => exact h.expire rig' query
  | vfo vfo => exact h.vfo rig' vfo
  | transmitting on =>
    rcases mem_plan hplan hstage with ⟨vfo, -, -, rfl⟩ | ⟨command, -, rfl⟩
    · simp [toggleStage] at hnote
    · exact absurd (Operation.setPtt_of_mem_notes hnote) (hptt on)

end Settings

/-! ## Status replies -/

section Status

variable [Line σ] (rig : Rig σ) (query : StatusQuery)

/-- How a session answers a query now. -/
def verdict : CacheVerdict :=
  rig.cache.consult query (rig.policy query) rig.engine.now

/-- Obtains a reply from the radio and stores it as of the time at which its read is over. -/
def ask : Except Error Bytes × Rig σ :=
  match readStatus rig.descriptor query rig.engine with
  | (.ok bytes, engine) =>
    (.ok bytes, { rig with engine, cache := rig.cache.store query ⟨bytes, engine.now, false⟩ })
  | (.error e, engine) => (.error e, { rig with engine })

/-- To ask is answered as the status read is. -/
theorem fst_ask : (rig.ask query).1 = (readStatus rig.descriptor query rig.engine).1 := by
  rw [ask]
  rcases readStatus rig.descriptor query rig.engine with ⟨e | bytes, engine⟩ <;> rfl

/-- To ask leaves the engine as the status read does. -/
theorem engine_ask : (rig.ask query).2.engine = (readStatus rig.descriptor query rig.engine).2 := by
  rw [ask]
  rcases readStatus rig.descriptor query rig.engine with ⟨e | bytes, engine⟩ <;> rfl

/-- The reply that is stored if the query is put to the session now: one that the radio gives, since
a reply that is kept is not stored anew. -/
def refreshed : Option Bytes :=
  match rig.verdict query with
  | .refresh => (readStatus rig.descriptor query rig.engine).1.toOption
  | _ => none

/-- A status reply is served from the cache, refused, or asked for, by the verdict of the cache. -/
theorem apply_status :
    (status query).apply rig =
      match rig.verdict query with
      | .serve bytes => (.ok bytes, rig)
      | .refuse => (.error .transmitting, rig)
      | .refresh => rig.ask query := by
  let answered := rig.cache.getOrRefresh query (rig.policy query) Engine.now
    (readStatus rig.descriptor query) rig.engine
  have hstatus : (status query).apply rig =
      (answered.1, { rig with cache := answered.2.1, engine := answered.2.2 }) := rfl
  -- The verdict decides on both sides.
  rw [hstatus, verdict]
  simp only [answered, ResponseCache.getOrRefresh]
  cases rig.cache.consult query (rig.policy query) rig.engine.now with
  | serve bytes => rfl
  | refuse => rfl
  | refresh =>
    dsimp only
    rw [ask]
    rcases readStatus rig.descriptor query rig.engine with ⟨e | bytes, engine⟩ <;> rfl

/-- A status reply is stored under its own query, as of the time at which it was there. -/
theorem find?_status (other : StatusQuery) :
    ((status query).apply rig).2.cache.find? other =
      if other = query then
        ((rig.refreshed query).map fun bytes =>
          ⟨bytes, ((status query).apply rig).2.engine.now, false⟩).or (rig.cache.find? query)
      else rig.cache.find? other := by
  rw [apply_status, refreshed]
  cases rig.verdict query with
  | serve bytes => by_cases h : other = query <;> simp [h]
  | refuse => by_cases h : other = query <;> simp [h]
  | refresh =>
    dsimp only
    rw [ask]
    rcases readStatus rig.descriptor query rig.engine with ⟨e | bytes, engine⟩
    · by_cases h : other = query <;> simp [h, Except.toOption]
    · by_cases h : other = query
      · simp [h, Except.toOption]
      · simp [h, ResponseCache.find?_store_of_ne]

/-- The bytes that are kept after a status reply are the new ones, if there are any. -/
theorem peek_status (other : StatusQuery) :
    ((status query).apply rig).2.cache.peek other =
      if other = query then (rig.refreshed query).or (rig.cache.peek query)
      else rig.cache.peek other := by
  rw [ResponseCache.peek, find?_status]
  by_cases h : other = query
  · cases hrefreshed : rig.refreshed query <;> simp [h, ResponseCache.peek]
  · simp [h, ResponseCache.peek]

/-- Obtaining a status reply changes the engine and the replies that are kept, and nothing else. -/
theorem view_status (view : Rig σ → γ)
    (hengine : ∀ (rig : Rig σ) engine, view { rig with engine } = view rig)
    (hstore : ∀ (rig : Rig σ) query reply,
      view { rig with cache := rig.cache.store query reply } = view rig) :
    view ((status query).apply rig).2 = view rig := by
  rw [apply_status]
  cases rig.verdict query with
  | serve bytes => rfl
  | refuse => rfl
  | refresh =>
    dsimp only
    rw [ask]
    rcases readStatus rig.descriptor query rig.engine with ⟨e | bytes, engine⟩
    · exact hengine rig engine
    · exact (hstore { rig with engine } query _).trans (hengine rig engine)

/-- Obtaining a status reply does not note whether the radio transmits. -/
theorem transmitting_status :
    ((status query).apply rig).2.cache.transmitting = rig.cache.transmitting :=
  rig.view_status query (fun rig => rig.cache.transmitting) (fun _ _ => rfl) (fun _ _ _ => rfl)

/-- Obtaining a status reply does not change the model. -/
theorem descriptor_status : ((status query).apply rig).2.descriptor = rig.descriptor :=
  rig.view_status query Rig.descriptor (fun _ _ => rfl) (fun _ _ _ => rfl)

end Status

/-- The byte of a reply that is to be a single one. -/
def firstByte : Bytes → Except Error UInt8
  | byte :: _ => .ok byte
  | [] => .error (.shortRead 1 0)

/-- A status of one byte is the first byte of its reply. -/
theorem apply_statusByte [Line σ] (query : StatusQuery) (rig : Rig σ) :
    (statusByte query).apply rig =
      (((status query).apply rig).1.bind firstByte, ((status query).apply rig).2) := by
  rw [statusByte, apply_bind]
  rcases (status query).apply rig with ⟨e | _ | ⟨byte, rest⟩, after⟩ <;> rfl

/-! ## Readings of the receiver -/

/-- The readings that make no sense while transmitting. -/
inductive Reading where
  | frequency (vfo : VfoChoice)
  | mode (vfo : VfoChoice)
  | dcd
  | rawStrength
  | strength
  deriving DecidableEq, Repr

namespace Reading

/-- The operation that takes a reading. -/
def operation : Reading → Operation
  | frequency vfo => .getFrequency vfo
  | mode vfo => .getMode vfo
  | dcd => .getDcd
  | rawStrength => .getRawStrength
  | strength => .getStrength

/-- The status reply from which a reading is decoded. -/
def source : Reading → StatusQuery
  | frequency _ | mode _ => .freqMode
  | dcd | rawStrength | strength => .rxStatus

/-- Decodes a reading from a status reply. -/
def decode (descriptor : Descriptor) (reply : Bytes) : Reading → Except Error Answer
  | frequency _ =>
    (Bcd.toFrequency (reply.take paramCount) 8 descriptor.freqOrder).map .frequency
  | mode _ => (decodeMode descriptor (reply.getD paramCount 0)).map .mode
  | dcd => (firstByte reply).map fun status => .flag (status &&& squelchedBit == 0)
  | rawStrength => (firstByte reply).map fun status => .rawStrength (status &&& strengthBits)
  | strength =>
    (firstByte reply).map fun status => .strength (strengthDb (status &&& strengthBits))

/-- A reading asks for the reply that it is decoded from. -/
theorem source?_operation (reading : Reading) :
    source? reading.operation = some reading.source := by
  cases reading <;> rfl

/-- Every reading of the receiver is unsafe while transmitting. -/
@[simp]
theorem txUnsafe_source (reading : Reading) : reading.source.txUnsafe = true := by
  cases reading <;> rfl

end Reading

/-- Taking a reading obtains the status reply and decodes it. -/
theorem apply_reading [Line σ] (reading : Reading) (rig : Rig σ) :
    (perform reading.operation).apply rig =
      (((status reading.source).apply rig).1.bind fun reply =>
          reading.decode rig.descriptor reply,
        ((status reading.source).apply rig).2) := by
  -- Decoding looks at the session for its model only, which obtaining the reply leaves alone.
  cases reading with
  | frequency vfo =>
    simp only [Reading.operation, Reading.source, perform, getFrequency, apply_map, apply_bind]
    rcases happly : (status .freqMode).apply rig with ⟨e | reply, after⟩
    · rfl
    · have hdescriptor : after.descriptor = rig.descriptor := by
        simpa [happly] using descriptor_status rig .freqMode
      simp [Except.bind, Reading.decode, hdescriptor]
  | mode vfo =>
    simp only [Reading.operation, Reading.source, perform, getMode, apply_map, apply_bind]
    rcases happly : (status .freqMode).apply rig with ⟨e | reply, after⟩
    · rfl
    · have hdescriptor : after.descriptor = rig.descriptor := by
        simpa [happly] using descriptor_status rig .freqMode
      simp [Except.bind, Reading.decode, hdescriptor]
  | dcd =>
    simp only [Reading.operation, Reading.source, perform, getDcd, apply_map, apply_bind,
      apply_statusByte]
    rcases (status .rxStatus).apply rig with ⟨e | _ | ⟨byte, rest⟩, after⟩ <;> rfl
  | rawStrength =>
    simp only [Reading.operation, Reading.source, perform, getRawStrength, apply_map, apply_bind,
      apply_statusByte]
    rcases (status .rxStatus).apply rig with ⟨e | _ | ⟨byte, rest⟩, after⟩ <;> rfl
  | strength =>
    simp only [Reading.operation, Reading.source, perform, getRawStrength, apply_map, apply_bind,
      apply_statusByte]
    rcases (status .rxStatus).apply rig with ⟨e | _ | ⟨byte, rest⟩, after⟩ <;> rfl

/-! ## Readings of the transmitter -/

/-- The operation asks for the transmitter's status. -/
def ReadsTransmitter (operation : Operation) : Prop :=
  operation = .getPtt ∨ operation = .getSplit

/-- What reads the transmitter asks for its status. -/
theorem ReadsTransmitter.source? {operation : Operation} (h : ReadsTransmitter operation) :
    source? operation = some .txStatus := by
  rcases h with rfl | rfl <;> rfl

/-- What asks for a status reply either takes a reading of the receiver or reads the transmitter. -/
theorem source?_eq_some {operation : Operation} {asked : StatusQuery}
    (h : source? operation = some asked) :
    (∃ reading : Reading, operation = reading.operation ∧ asked = reading.source) ∨
      ReadsTransmitter operation ∧ asked = .txStatus := by
  cases operation with
  | getFrequency vfo => exact .inl ⟨.frequency vfo, rfl, (Option.some.inj h).symm⟩
  | getMode vfo => exact .inl ⟨.mode vfo, rfl, (Option.some.inj h).symm⟩
  | getDcd => exact .inl ⟨.dcd, rfl, (Option.some.inj h).symm⟩
  | getRawStrength => exact .inl ⟨.rawStrength, rfl, (Option.some.inj h).symm⟩
  | getStrength => exact .inl ⟨.strength, rfl, (Option.some.inj h).symm⟩
  | getPtt => exact .inr ⟨.inl rfl, (Option.some.inj h).symm⟩
  | getSplit => exact .inr ⟨.inr rfl, (Option.some.inj h).symm⟩
  | _ => cases h

section Transmitter

variable [Line σ] (rig : Rig σ)

/-- The byte of the transmitter's status, if it could be obtained. -/
def txReply : Except Error UInt8 :=
  ((statusByte .txStatus).apply rig).1

/-- The transmitter's status is noted as soon as it is there. -/
theorem apply_txStatus :
    txStatus.apply rig =
      (rig.txReply,
        match rig.txReply with
        | .ok byte =>
          let after := ((status .txStatus).apply rig).2
          { after with cache := after.cache.setTransmitting (isKeyed byte) }
        | .error _ => ((status .txStatus).apply rig).2) := by
  rw [txStatus, txReply, apply_bind, apply_statusByte]
  rcases (status .txStatus).apply rig with ⟨e | _ | ⟨byte, rest⟩, after⟩ <;> rfl

/-- What is done with the transmitter's status changes nothing any more. -/
theorem apply_of_readsTransmitter {operation : Operation} (h : ReadsTransmitter operation) :
    ((perform operation).apply rig).2 = (txStatus.apply rig).2 := by
  rcases h with rfl | rfl
  · simp only [perform, getPtt, apply_map, apply_bind]
    rcases txStatus.apply rig with ⟨e | byte, after⟩ <;> rfl
  · simp only [perform, getSplit, apply_map, apply_bind]
    rcases txStatus.apply rig with ⟨e | byte, after⟩
    · rfl
    · dsimp only
      split <;> rfl

/-- Reading the transmitter notes what its status says, if it could be obtained. -/
theorem transmitting_of_readsTransmitter {operation : Operation} (h : ReadsTransmitter operation) :
    ((perform operation).apply rig).2.cache.transmitting =
      match rig.txReply with
      | .ok byte => isKeyed byte
      | .error _ => rig.cache.transmitting := by
  rw [apply_of_readsTransmitter rig h, apply_txStatus]
  cases rig.txReply with
  | ok byte => rfl
  | error e => exact transmitting_status rig .txStatus

end Transmitter

/-! ## Keying -/

/-- Keying sends its command and, once the radio took it, notes that and marks the status
expired. -/
theorem apply_setPtt [Line σ] (on : Bool) (rig : Rig σ) :
    (perform (.setPtt on)).apply rig =
      match (sendCommand (if on then .pttOn else .pttOff)).apply rig with
      | (.ok (), after) =>
        (.ok .done,
          { after with cache := (after.cache.setTransmitting on).forceExpire .txStatus })
      | (.error e, after) => (.error e, after) := by
  simp only [perform, acknowledge, setPtt, apply_bind]
  rcases (sendCommand (if on then .pttOn else .pttOff)).apply rig with ⟨e | ⟨⟩, after⟩ <;> rfl

/-- The note that the radio transmits is none of the things that most operations change. -/
theorem overlooks_transmitting : Overlooks fun rig : Rig σ => rig.cache.transmitting :=
  ⟨fun _ _ => rfl, fun _ _ => rfl, fun _ _ => rfl⟩

/-- Nor are the bytes of the replies: a mark of expiry leaves them. -/
theorem overlooks_peek (query : StatusQuery) :
    Overlooks fun rig : Rig σ => rig.cache.peek query := by
  refine ⟨fun _ _ => rfl, fun _ _ => rfl, fun rig expired => ?_⟩
  simp only [ResponseCache.peek, ResponseCache.find?_forceExpire, Option.map_map]
  congr 1
  funext reply
  by_cases h : query = expired <;> simp [h, CachedReply.expire]

/-- Nor is the model. -/
theorem overlooks_descriptor : Overlooks (Rig.descriptor (σ := σ)) :=
  ⟨fun _ _ => rfl, fun _ _ => rfl, fun _ _ => rfl⟩

/-- Where the note that the radio transmits is overlooked as well, the same holds of keying. -/
theorem leaves_of_source [Line σ] {view : Rig σ → γ} (h : Overlooks view)
    (hnote : ∀ (rig : Rig σ) (on : Bool),
      view { rig with cache := rig.cache.setTransmitting on } = view rig)
    {operation : Operation} (hsource : source? operation = none) :
    (perform operation).Leaves view := by
  refine leaves_of_notes h hsource fun _ _ _ _ _ note _ rig => ?_
  cases note with
  | expire query => exact h.expire rig query
  | vfo vfo => exact h.vfo rig vfo
  | transmitting on => exact hnote rig on

/-- Keying is noted if the radio took the command, and only then. -/
theorem transmitting_setPtt [Line σ] (on : Bool) (rig : Rig σ) :
    ((perform (.setPtt on)).apply rig).2.cache.transmitting =
      match ((perform (.setPtt on)).apply rig).1 with
      | .ok _ => on
      | .error _ => rig.cache.transmitting := by
  have hsend := leaves_sendCommand overlooks_transmitting (if on then .pttOn else .pttOff) rig
  rw [apply_setPtt]
  rcases happly : (sendCommand (if on then .pttOn else .pttOff)).apply rig with ⟨e | ⟨⟩, after⟩
  · simpa [happly] using hsend
  · rfl

/-! ## What an operation does -/

section Operations

variable [Line σ] (rig : Rig σ) (operation : Operation) (query : StatusQuery)

/-- The reply to a query that an operation fetches from the radio and stores. -/
def fetched : Option Bytes :=
  if source? operation = some query then rig.refreshed query else none

/-- After an operation that asks for a status reply the session is as this leaves it, apart from the
note that the radio transmits. -/
theorem view_of_source (view : Rig σ → γ)
    (hnote : ∀ (rig : Rig σ) on,
      view { rig with cache := rig.cache.setTransmitting on } = view rig)
    {asked : StatusQuery} (h : source? operation = some asked) :
    view ((perform operation).apply rig).2 = view ((status asked).apply rig).2 := by
  rcases source?_eq_some h with ⟨reading, rfl, rfl⟩ | ⟨hreads, rfl⟩
  · rw [apply_reading]
  · rw [apply_of_readsTransmitter rig hreads, apply_txStatus]
    cases rig.txReply with
    | error e => rfl
    | ok status => exact hnote _ _

/-- Without the reply it asks for an operation fails. -/
theorem fst_perform_of_error {asked : StatusQuery} {e : Error} (h : source? operation = some asked)
    (hstatus : ((status asked).apply rig).1 = .error e) :
    ((perform operation).apply rig).1 = .error e := by
  rcases source?_eq_some h with ⟨reading, rfl, rfl⟩ | ⟨hreads, rfl⟩
  · rw [apply_reading, hstatus]
    rfl
  · have hbyte : rig.txReply = .error e := by
      rw [txReply, apply_statusByte, hstatus]
      rfl
    rcases hreads with rfl | rfl
    · simp only [perform, getPtt, apply_map, apply_bind, apply_txStatus, hbyte]
      rfl
    · simp only [perform, getSplit, apply_map, apply_bind, apply_txStatus, hbyte]
      rfl

/-- After an operation the reply to a query is the one it fetched, or else the one that was kept
before. A setting may mark it expired but does not drop it. -/
theorem peek_perform :
    ((perform operation).apply rig).2.cache.peek query =
      (rig.fetched operation query).or (rig.cache.peek query) := by
  rw [fetched]
  cases hsource : source? operation with
  | some asked =>
    rw [rig.view_of_source operation (fun rig => rig.cache.peek query) (fun _ _ => rfl) hsource,
      peek_status]
    by_cases h : query = asked
    · simp [h]
    · simp [h, Ne.symm h]
  | none =>
    rw [if_neg (by simp), Option.none_or]
    exact leaves_of_source (overlooks_peek query) (fun _ _ => rfl) hsource rig

/-- No other operation than keying and reading the transmitter changes whether the radio is taken to
transmit. -/
theorem transmitting_perform (hptt : ∀ on, operation ≠ .setPtt on)
    (hreads : ¬ ReadsTransmitter operation) :
    ((perform operation).apply rig).2.cache.transmitting = rig.cache.transmitting := by
  cases hsource : source? operation with
  | none => exact leaves_perform overlooks_transmitting hsource hptt rig
  | some asked =>
    rcases source?_eq_some hsource with ⟨reading, rfl, -⟩ | ⟨h, -⟩
    · rw [apply_reading]
      exact transmitting_status rig reading.source
    · exact absurd h hreads

/-- The model stays the same. -/
theorem descriptor_perform : ((perform operation).apply rig).2.descriptor = rig.descriptor := by
  cases hsource : source? operation with
  | some asked =>
    rw [rig.view_of_source operation Rig.descriptor (fun _ _ => rfl) hsource]
    exact rig.descriptor_status asked
  | none => exact leaves_of_source overlooks_descriptor (fun _ _ => rfl) hsource rig

end Operations

end Rig

end Transceiver
