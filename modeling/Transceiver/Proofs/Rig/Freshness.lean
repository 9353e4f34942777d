import Transceiver.Line.Recorded
import Transceiver.Line.Scripted
import Transceiver.Models
import Transceiver.Proofs.Rig.Session

/-!
# Fresh and Stale Replies

A reply that is kept is given again until it is too old or until the radio has taken a command that
makes it stale. `Rig.lastReply` remembers of a run when the last reply to a query was read and what
the session did since, and `Rig.find?_run` says that the cache is right about it: an entry is marked
expired exactly if such a command came since.

## Main statement

* `Rig.start_freshness`: in every run a reading is answered from the cache while the last reply is
  fresh, and asks the radio when it is stale.
-/

namespace Transceiver

variable {σ : Type}

/-! ## Marks of expiry -/

namespace CachedReply

/-- Marks a reply expired on a condition. -/
def expireIf (condition : Bool) (reply : CachedReply) : CachedReply :=
  { reply with expired := reply.expired || condition }

/-- To mark a reply on a condition that fails leaves it as it is. -/
@[simp]
theorem expireIf_false : expireIf false = id := by
  funext reply
  simp [expireIf]

/-- A reply that is marked on one condition and then on another is marked if either holds. -/
theorem expireIf_expireIf (first second : Bool) (reply : CachedReply) :
    (reply.expireIf first).expireIf second = reply.expireIf (first || second) := by
  simp [expireIf, Bool.or_assoc]

end CachedReply

/-- The command changes what the selected VFO is tuned to, or which VFO is selected. -/
def Command.retunes : Command → Bool
  | toggleVfo | setFrequency | setMode => true
  | _ => false

/-- The operation changes what the transmitter's status says. -/
def Operation.affectsTransmitter : Operation → Bool
  | setPtt _ | setSplit _ | toggleVfo => true
  | _ => false

/-- Whether the reply to a query is stale after commands that were sent and operations that
succeeded. What the receiver reports nothing makes stale but age. -/
def StatusQuery.spoiled (sent : List SentCommand) (done : List Operation) : StatusQuery → Bool
  | freqMode => sent.any fun command => command.succeeded && command.command.retunes
  | rxStatus => false
  | txStatus => done.any Operation.affectsTransmitter

/-- A reply is spoiled by two stretches of a run if either of them spoils it. -/
theorem StatusQuery.spoiled_append (query : StatusQuery) (sent sent' : List SentCommand)
    (done done' : List Operation) :
    query.spoiled (sent ++ sent') (done ++ done') =
      (query.spoiled sent done || query.spoiled sent' done') := by
  cases query <;> simp [spoiled]

namespace Rig

/-- Notes mark the reply to a query exactly if one of them says that it is expired. -/
theorem find?_noteAll (rig : Rig σ) (notes : List Note) (query : StatusQuery) :
    (rig.noteAll notes).cache.find? query =
      (rig.cache.find? query).map (CachedReply.expireIf (decide (.expire query ∈ notes))) := by
  induction notes generalizing rig with
  | nil => simp [noteAll]
  | cons note notes ih =>
    rw [noteAll, List.foldl_cons, ← noteAll, ih]
    cases note with
    | transmitting on => simp [Rig.note, ResponseCache.find?, ResponseCache.setTransmitting]
    | vfo vfo => simp [Rig.note]
    | expire expired =>
      rw [Rig.note, ResponseCache.find?_forceExpire, Option.map_map]
      congr 1
      funext reply
      by_cases h : query = expired <;>
        simp [h, CachedReply.expireIf, CachedReply.expire]

/-- The commands of an operation that mark the reply to a query expired. -/
def marks (operation : Operation) (query : StatusQuery) (command : Command) : Bool :=
  match query with
  | .freqMode => command.retunes
  | .rxStatus => false
  | .txStatus => operation.affectsTransmitter

/-- An operation notes that a reply is expired exactly if its command marks that reply. -/
theorem expire_mem_notes {operation : Operation} {command : Command}
    (h : operation.command? = some command) (vfo : Vfo) (query : StatusQuery) :
    .expire query ∈ operation.notes vfo ↔ marks operation query command := by
  cases operation with
  | setRepeaterShift shift =>
    cases shift <;> cases h <;> cases query <;>
      simp [Operation.notes, marks, Command.retunes, Operation.affectsTransmitter]
  | setPtt on | setSplit on | setRitEnabled on | setLock on =>
    cases on <;> cases h <;> cases query <;>
      simp [Operation.notes, marks, Command.retunes, Operation.affectsTransmitter]
  | _ =>
    cases h <;> cases query <;>
      simp [Operation.notes, marks, Command.retunes, Operation.affectsTransmitter]

/-- Every stage of an operation marks what its command marks. -/
theorem expire_mem_of_plan {rig : Rig σ} {operation : Operation} {stages : List Stage}
    (hplan : rig.plan operation = .ok stages) (query : StatusQuery) :
    ∀ stage ∈ stages, .expire query ∈ stage.notes ↔ marks operation query stage.command := by
  intro stage hstage
  rcases mem_plan hplan hstage with ⟨vfo, htarget, -, rfl⟩ | ⟨command, hcommand, rfl⟩
  · -- What toggles on the way to a VFO is a frequency or a mode.
    have haffects : operation.affectsTransmitter = false := by
      cases operation <;> first | rfl | cases htarget
    cases query <;> simp [toggleStage, marks, Command.retunes, haffects]
  · exact expire_mem_notes hcommand rig.vfo query

section Marks

variable [Line σ]

/-- An entry is marked by the commands that the radio took, and only by those. -/
theorem find?_carryOut {rig : Rig σ} {stages : List Stage} {query : StatusQuery}
    {marks : Command → Bool}
    (h : ∀ stage ∈ stages, .expire query ∈ stage.notes ↔ marks stage.command) :
    (rig.carryOut stages).rig.cache.find? query =
      (rig.cache.find? query).map (CachedReply.expireIf
        ((rig.carryOut stages).commands.any fun sent => sent.succeeded && marks sent.command)) := by
  -- Stages after a command that failed are not carried out and mark nothing.
  fun_induction rig.carryOut stages with
  | case1 rig => simp
  | case2 rig stage stages e hframe => simp
  | case3 rig stage stages frame hframe e engine hsend => simp
  | case4 rig stage stages frame hframe engine hsend ih =>
    have hmark : decide (.expire query ∈ stage.notes) = marks stage.command := by
      simp [h stage (by simp)]
    have hrest := ih fun stage hmem => h stage (by simp [hmem])
    rw [find?_noteAll, hmark, Option.map_map] at hrest
    simp only [Account.prepend, List.any_cons]
    rw [hrest]
    congr 1
    funext reply
    simp [CachedReply.expireIf_expireIf]

/-- What a setting does to an entry is to mark it, if the radio took a command that marks it. -/
theorem find?_account (rig : Rig σ) (operation : Operation) (query : StatusQuery) :
    (rig.account operation).rig.cache.find? query =
      (rig.cache.find? query).map (CachedReply.expireIf
        ((rig.account operation).commands.any fun sent =>
          sent.succeeded && marks operation query sent.command)) := by
  cases hplan : rig.plan operation with
  | error e => simp [account_of_refusal hplan]
  | ok stages =>
    rw [account_of_plan hplan]
    exact find?_carryOut (expire_mem_of_plan hplan query)

/-- What affects the transmitter is a single command, so it is sent and taken exactly if the
operation succeeds. -/
theorem any_succeeded_of_affectsTransmitter (rig : Rig σ) {operation : Operation}
    (h : operation.affectsTransmitter = true) :
    (rig.account operation).commands.any SentCommand.succeeded =
      (rig.account operation).result.isOk := by
  have hsingle : ∃ stage, rig.plan operation = .ok [stage] := by
    cases operation <;> first | exact ⟨_, rfl⟩ | cases h
  obtain ⟨stage, hplan⟩ := hsingle
  rw [account_of_plan hplan, carryOut]
  split
  next => rfl
  next frame hframe =>
    split
    next => rfl
    next => rfl

end Marks

/-! ## The last reply -/

/-- The operations that an event completes. -/
def completed [Line σ] (rig : Rig σ) : Event → List Operation
  | .perform operation => if ((perform operation).apply rig).1.isOk then [operation] else []
  | .sleep _ => []

/-- A reply that was read from the radio, and what the session did since. -/
structure Receipt where
  bytes : Bytes
  /-- The time at which its read was over. -/
  time : Nat
  /-- The commands that were sent since, the first one first. -/
  sent : List SentCommand
  /-- The operations that succeeded since, the first one first. -/
  done : List Operation

/-- The entry that a cache ought to have. -/
def Receipt.entry (receipt : Receipt) (query : StatusQuery) : CachedReply :=
  ⟨receipt.bytes, receipt.time, query.spoiled receipt.sent receipt.done⟩

section Replies

variable [Line σ]

/-- The last reply to a query after an event, if it was `known` before. -/
def learn (rig : Rig σ) (query : StatusQuery) (known : Option Receipt) (event : Event) :
    Option Receipt :=
  match rig.stored query event with
  | some bytes => some ⟨bytes, (rig.step event).2.engine.now, [], []⟩
  | none => known.map fun receipt =>
    { receipt with
      sent := receipt.sent ++ rig.commands event
      done := receipt.done ++ rig.completed event }

/-- The last reply to a query after a run, if it was `known` before. -/
def lastReply (rig : Rig σ) (query : StatusQuery) (known : Option Receipt) :
    List Event → Option Receipt
  | [] => known
  | event :: events => (rig.step event).2.lastReply query (rig.learn query known event) events

/-- Readings make no reply stale. -/
theorem spoiled_of_command?_eq_none (rig : Rig σ) {operation : Operation}
    (h : operation.command? = none) (query : StatusQuery) :
    query.spoiled (rig.commands (.perform operation)) (rig.completed (.perform operation)) =
      false := by
  have haffects : operation.affectsTransmitter = false := by
    cases operation <;> first | rfl | cases h
  have hcommands : rig.commands (.perform operation) = [] := by
    rw [commands, account_of_command?_eq_none h]
  rw [hcommands, completed]
  split <;> cases query <;> simp [StatusQuery.spoiled, haffects]

/-- A setting stores no reply. -/
theorem stored_of_command? (rig : Rig σ) {operation : Operation} {command : Command}
    (h : operation.command? = some command) (query : StatusQuery) :
    rig.stored query (.perform operation) = none := by
  simp [stored, fetched, source?_eq_none h]

/-- A setting marks an entry exactly if it makes the reply stale. -/
theorem find?_of_command? (rig : Rig σ) {operation : Operation} {command : Command}
    (h : operation.command? = some command) (query : StatusQuery) :
    (rig.step (.perform operation)).2.cache.find? query =
      (rig.cache.find? query).map (CachedReply.expireIf
        (query.spoiled (rig.commands (.perform operation))
          (rig.completed (.perform operation)))) := by
  have hspoiled : query.spoiled (rig.commands (.perform operation))
      (rig.completed (.perform operation)) =
        (rig.account operation).commands.any fun sent =>
          sent.succeeded && marks operation query sent.command := by
    cases query with
    | freqMode => rfl
    | rxStatus => simp [StatusQuery.spoiled, marks]
    | txStatus =>
      -- The one counts commands and the other operations, and here the two succeed together.
      have hresult :
          ((perform operation).apply rig).1.isOk = (rig.account operation).result.isOk := by
        rw [apply_setting h]
        cases (rig.account operation).result <;> rfl
      simp only [StatusQuery.spoiled, completed, hresult, marks]
      cases haffects : operation.affectsTransmitter with
      | false => split <;> simp [haffects]
      | true =>
        simp only [Bool.and_true]
        show _ = (rig.account operation).commands.any SentCommand.succeeded
        rw [any_succeeded_of_affectsTransmitter rig haffects]
        split
        next hok => simp [haffects, hok]
        next hfailed => simp [hfailed]
  rw [hspoiled, ← find?_account, step, apply_setting h]

/-- An event stores a new reply, or marks the one that is kept if it makes it stale. -/
theorem find?_step (rig : Rig σ) (query : StatusQuery) (event : Event) :
    (rig.step event).2.cache.find? query =
      match rig.stored query event with
      | some bytes => some ⟨bytes, (rig.step event).2.engine.now, false⟩
      | none => (rig.cache.find? query).map (CachedReply.expireIf
          (query.spoiled (rig.commands event) (rig.completed event))) := by
  cases event with
  | sleep duration => cases query <;> simp [step, stored, commands, completed, StatusQuery.spoiled]
  | perform operation =>
    -- A setting stores nothing, and what is no setting marks nothing.
    cases hcommand : operation.command? with
    | some command =>
      rw [stored_of_command? rig hcommand]
      exact rig.find?_of_command? hcommand query
    | none =>
      rw [spoiled_of_command?_eq_none rig hcommand, CachedReply.expireIf_false, Option.map_id_apply]
      cases hsource : source? operation with
      | some asked =>
        rw [step, stored, fetched, hsource,
          rig.view_of_source operation (fun rig => rig.cache.find? query) (fun _ _ => rfl) hsource,
          rig.view_of_source operation (fun rig => rig.engine.now) (fun _ _ => rfl) hsource,
          find?_status]
        by_cases h : query = asked
        · cases hrefreshed : rig.refreshed asked <;> simp [h, hrefreshed]
        · simp [h, Ne.symm h]
      | none =>
        by_cases hclose : operation = .close
        · simp [hclose, step, apply_close, stored, fetched, source?]
        · obtain ⟨command, hsome⟩ := exists_command hsource hclose
          simp [hcommand] at hsome

/-- The cache is right about the last reply. -/
theorem find?_run (rig : Rig σ) (query : StatusQuery) (known : Option Receipt)
    (events : List Event)
    (h : rig.cache.find? query = known.map fun receipt => receipt.entry query) :
    (rig.run events).cache.find? query =
      (rig.lastReply query known events).map fun receipt => receipt.entry query := by
  -- The agreement of the cache with what is known carries over each event.
  induction events generalizing rig known with
  | nil => exact h
  | cons event events ih =>
    refine ih (rig.step event).2 (rig.learn query known event) ?_
    rw [find?_step, learn]
    cases hstored : rig.stored query event with
    | some bytes =>
      cases query <;> rfl
    | none =>
      simp only [h, Option.map_map]
      congr 1
      funext receipt
      simp [Receipt.entry, CachedReply.expireIf, StatusQuery.spoiled_append]

/-- What is known after two runs is known after the second, from what the first one taught. -/
theorem lastReply_append (rig : Rig σ) (query : StatusQuery) (known : Option Receipt)
    (events later : List Event) :
    rig.lastReply query known (events ++ later) =
      (rig.run events).lastReply query (rig.lastReply query known events) later := by
  induction events generalizing rig known with
  | nil => rfl
  | cons event events ih => exact ih (rig.step event).2 _

/-- In a session from its beginning no reply is known before the run. -/
theorem find?_run_start (descriptor : Descriptor) (channel : Channel σ) (query : StatusQuery)
    (events : List Event) :
    ((start descriptor channel).run events).cache.find? query =
      ((start descriptor channel).lastReply query none events).map fun receipt =>
        receipt.entry query :=
  find?_run _ query none events rfl

end Replies

/-! ## Answers from the cache and from the radio -/

/-- Of the last reply to a query, whether it is not to be given any more at time `now`: there is
none, it is too old, or it is spoiled. -/
def Stale (query : StatusQuery) (lifetime now : Nat) : Option Receipt → Prop
  | none => True
  | some receipt =>
    lifetime = 0 ∨ lifetime ≤ now - receipt.time ∨
      query.spoiled receipt.sent receipt.done = true

instance (query : StatusQuery) (lifetime now : Nat) (last : Option Receipt) :
    Decidable (Stale query lifetime now last) :=
  match last with
  | none => isTrue trivial
  | some _ => inferInstanceAs (Decidable (_ ∨ _ ∨ _))

/-- The cache takes the same view of the entry that it ought to have. -/
theorem isFresh_entry_iff (receipt : Receipt) (query : StatusQuery) (lifetime now : Nat) :
    (receipt.entry query).isFresh lifetime now = true ↔
      ¬ Stale query lifetime now (some receipt) := by
  rw [CachedReply.isFresh_iff, Stale, Receipt.entry]
  cases query.spoiled receipt.sent receipt.done with
  | true => simp
  | false =>
    -- A lifetime of zero needs no case of its own, since no age is below it.
    simp only [true_and, Bool.false_eq_true, or_false]
    omega

section Answers

variable {rig : Rig σ} {query : StatusQuery} {last : Option Receipt}

/-- What the receiver reports is asked for only while it receives. -/
def MayAsk (rig : Rig σ) (query : StatusQuery) : Prop :=
  query.txUnsafe = true → rig.cache.transmitting = false

/-- While a query may be put to the radio, a fresh entry is served, and otherwise the radio is
asked. -/
theorem verdict_of_mayAsk (h : rig.MayAsk query) :
    rig.verdict query =
      match rig.cache.find? query with
      | some reply =>
        if reply.isFresh rig.descriptor.cacheLifetime rig.engine.now then .serve reply.bytes
        else .refresh
      | none => .refresh := by
  refine ResponseCache.consult_of_allowed fun ⟨hforbids, hflag⟩ => ?_
  rw [h hforbids] at hflag
  cases hflag

variable (hfind : rig.cache.find? query = last.map fun receipt => receipt.entry query)
  (hask : rig.MayAsk query)

include hfind hask

/-- The radio is asked if the last reply is stale. -/
theorem verdict_of_stale (h : Stale query rig.descriptor.cacheLifetime rig.engine.now last) :
    rig.verdict query = .refresh := by
  rw [verdict_of_mayAsk hask, hfind]
  cases last with
  | none => rfl
  | some receipt =>
    have hstale : ¬ (receipt.entry query).isFresh rig.descriptor.cacheLifetime rig.engine.now := by
      rw [isFresh_entry_iff]
      exact not_not_intro h
    simp [hstale]

/-- The last reply is served if it is not stale. -/
theorem verdict_of_not_stale (h : ¬ Stale query rig.descriptor.cacheLifetime rig.engine.now last) :
    ∃ receipt, last = some receipt ∧ rig.verdict query = .serve receipt.bytes := by
  cases last with
  | none => exact absurd trivial h
  | some receipt =>
    have hfresh := (isFresh_entry_iff receipt query _ _).mpr h
    refine ⟨receipt, rfl, ?_⟩
    rw [verdict_of_mayAsk hask, hfind, Option.map_some]
    exact if_pos hfresh

end Answers

/-- An operation puts a query to the radio: it makes the exchanges of the query, leaves the engine
as they do, and fails if they do. -/
structure Asks [Line σ] (rig : Rig (RecordedLine σ)) (query : StatusQuery) (operation : Operation) :
    Prop where
  /-- The exchanges, with the answer of the last one, if the model has a frame for the query. -/
  attempts : ∀ frame, rig.descriptor.frame query.command = .ok frame →
    ∃ exchanges, Engine.Attempts frame (.block query.length) rig.engine.timing.retries rig.engine
      exchanges (rig.ask query).1 ((perform operation).apply rig).2.engine
  /-- What becomes of the operation without an answer. -/
  failed : ∀ e, (rig.ask query).1 = .error e → ((perform operation).apply rig).1 = .error e

/-- An operation whose query has to be refreshed puts it to the radio. -/
theorem asks_of_verdict [Line σ] {rig : Rig (RecordedLine σ)} {query : StatusQuery}
    {operation : Operation} (hsource : source? operation = some query)
    (h : rig.verdict query = .refresh) : rig.Asks query operation := by
  have hstatus : (status query).apply rig = rig.ask query := by
    rw [apply_status, h]
  refine ⟨fun frame hframe => ?_, fun e herror => ?_⟩
  · have hengine : ((perform operation).apply rig).2.engine = (rig.ask query).2.engine := by
      rw [rig.view_of_source operation Rig.engine (fun _ _ => rfl) hsource, hstatus]
    have hread : readStatus rig.descriptor query rig.engine =
        rig.engine.executeWithRetry frame (.block query.length) rig.engine.timing.retries := by
      simp only [readStatus, hframe, Engine.query]
    rw [hengine, fst_ask, engine_ask, hread]
    exact rig.engine.attempts_executeWithRetry frame (.block query.length) rig.engine.timing.retries
  · rw [← hstatus] at herror
    exact rig.fst_perform_of_error operation hsource herror

/-- In every run from the beginning of a session, while the radio is not taken to transmit, a
reading of the receiver asks the radio if the last reply is stale and is decoded from that reply,
without a call on the line, if not. In any state a reading of the transmitter asks the radio if its
status is stale. -/
theorem start_freshness [Line σ] (descriptor : Descriptor) (channel : Channel (RecordedLine σ))
    (events : List Event) :
    let rig := (start descriptor channel).run events
    let last := fun query => (start descriptor channel).lastReply query none events
    let stale := fun query => Stale query descriptor.cacheLifetime rig.engine.now (last query)
    (rig.cache.transmitting = false → ∀ reading : Reading,
      (stale reading.source →
        rig.Asks reading.source reading.operation ∧
          (perform reading.operation).apply rig =
            ((rig.ask reading.source).1.bind fun reply => reading.decode descriptor reply,
              (rig.ask reading.source).2)) ∧
      (¬ stale reading.source →
        ∃ receipt, last reading.source = some receipt ∧
          (perform reading.operation).apply rig = (reading.decode descriptor receipt.bytes, rig))) ∧
    ∀ operation, ReadsTransmitter operation →
      (stale .txStatus → rig.Asks .txStatus operation) ∧
        (¬ stale .txStatus → ((perform operation).apply rig).2.engine = rig.engine) := by
  intro rig last stale
  have hdescriptor : rig.descriptor = descriptor := descriptor_run _ events
  have hfind (query : StatusQuery) : rig.cache.find? query =
      (last query).map fun receipt => receipt.entry query :=
    find?_run_start descriptor channel query events
  have hrefresh {query : StatusQuery} (hask : rig.MayAsk query) (h : stale query) :
      rig.verdict query = .refresh := by
    refine verdict_of_stale (hfind query) hask ?_
    rwa [hdescriptor]
  have hserve {query : StatusQuery} (hask : rig.MayAsk query) (h : ¬ stale query) :
      ∃ receipt, last query = some receipt ∧ rig.verdict query = .serve receipt.bytes := by
    refine verdict_of_not_stale (hfind query) hask ?_
    rwa [hdescriptor]
  -- Readings of the receiver need the radio to receive, those of the transmitter do not.
  refine ⟨fun hflag reading => ⟨fun h => ?_, fun h => ?_⟩, fun operation hreads =>
    ⟨fun h => ?_, fun h => ?_⟩⟩
  · have hverdict := hrefresh (fun _ => hflag) h
    refine ⟨asks_of_verdict reading.source?_operation hverdict, ?_⟩
    rw [apply_reading, apply_status, hverdict, hdescriptor]
  · obtain ⟨receipt, hlast, hverdict⟩ := hserve (fun _ => hflag) h
    refine ⟨receipt, hlast, ?_⟩
    rw [apply_reading, apply_status, hverdict, hdescriptor]
    rfl
  · exact asks_of_verdict hreads.source? (hrefresh (fun hunsafe => by cases hunsafe) h)
  · obtain ⟨receipt, -, hverdict⟩ := hserve (fun hunsafe => by cases hunsafe) h
    rw [rig.view_of_source operation Rig.engine (fun _ _ => rfl) hreads.source?, apply_status,
      hverdict]

/-- The mode comes from the same reply as the frequency for 50 milliseconds, and then from a new
one. The transmitter's status, which was never read, is asked for at once. -/
theorem start_freshness_mode :
    let line : ScriptedLine :=
      { script := [⟨[0x00, 0x00, 0x00, 0x00, 0x03], [0x14, 0x25, 0x00, 0x00, 0x01]⟩] }
    let channel : Channel (RecordedLine ScriptedLine) := ⟨⟨line, []⟩, 0⟩
    let rig := fun pause =>
      (start Models.ft897 channel).run [.perform (.getFrequency .current), .sleep pause]
    (perform (.getMode .current)).apply (rig 49) = (.ok (.mode .usb), rig 49) ∧
      (rig 50).Asks .freqMode (.getMode .current) ∧ (rig 49).Asks .txStatus .getPtt := by
  intro line channel rig
  obtain ⟨hearly, htransmitter⟩ := start_freshness Models.ft897 channel
    [.perform (.getFrequency .current), .sleep 49]
  obtain ⟨hlate, -⟩ := start_freshness Models.ft897 channel
    [.perform (.getFrequency .current), .sleep 50]
  refine ⟨?_, ((hlate (by decide +kernel) (.mode .current)).1 (by decide +kernel)).1,
    (htransmitter .getPtt (.inl rfl)).1 (by decide +kernel)⟩
  obtain ⟨receipt, hlast, happly⟩ :=
    (hearly (by decide +kernel) (.mode .current)).2 (by decide +kernel)
  have hbytes : ((start Models.ft897 channel).lastReply .freqMode none
      [.perform (.getFrequency .current), .sleep 49]).map Receipt.bytes =
        some [0x14, 0x25, 0x00, 0x00, 0x01] := by
    decide +kernel
  have hreply : some receipt.bytes = some [0x14, 0x25, 0x00, 0x00, 0x01] := by
    rw [← hbytes]
    exact (congrArg (Option.map Receipt.bytes) hlast).symm
  refine happly.trans ?_
  rw [Option.some.inj hreply]
  rfl

end Rig

end Transceiver
