import Transceiver.ResponseCache

/-!
# Histories of a Cache

What a query is answered with depends on everything that was done with the cache before. A
`ResponseCache.Session` carries a cache along with the world in which the radio is asked and with a
history of what happened. It is the refresh that writes down that it was called and what it answered
(`ResponseCache.recorded`), so the history holds one entry for every call.

Three things can be read from a history without the cache: the last reply to a query
(`History.last?`), whether it was marked expired since (`History.isExpired`), and whether the radio
transmits (`History.transmitting`). `Session.Agrees` says that the cache is right about all of them,
and `Session.agrees_run` that it is so after every run.

## Main statement

* `ResponseCache.query_after_run`: after every run, when a query calls its refresh, what it answers,
  and what becomes of the entries.
-/

namespace Transceiver

namespace ResponseCache

variable {κ s : Type}

/-! ## What happens to a cache -/

/-- What can be done with a cache, where the radio is asked in the world `s`. -/
inductive Action (κ s : Type) where
  /-- A query is answered, with `refresh` to ask the radio. -/
  | query (key : κ) (policy : CachePolicy) (refresh : s → Except Error Bytes × s)
  | forceExpire (key : κ)
  | expireAll
  | setTransmitting (transmitting : Bool)
  /-- The world changes, and time passes in it. -/
  | pass (change : s → s)

/-- What happened to a cache. -/
inductive Happening (κ : Type) where
  /-- The radio was asked, and the answer was there at `time`. -/
  | asked (key : κ) (answer : Except Error Bytes) (time : Nat)
  | expired (key : κ)
  | expiredAll
  | noted (transmitting : Bool)

namespace Happening

/-- The note that the radio transmits, or that it does not. -/
def note? : Happening κ → Option Bool
  | noted transmitting => some transmitting
  | _ => none

variable [DecidableEq κ]

/-- The reply to a query, with the time at which it was there. -/
def reply? (key : κ) : Happening κ → Option (Bytes × Nat)
  | asked other (.ok bytes) time => if other = key then some (bytes, time) else none
  | _ => none

/-- The reply to a query is marked expired. -/
def expires (key : κ) : Happening κ → Bool
  | expired other => other = key
  | expiredAll => true
  | _ => false

end Happening

/-- What happened to a cache, the latest first. -/
abbrev History (κ : Type) := List (Happening κ)

namespace History

/-- Whether the radio transmits, by the last note. -/
def transmitting (history : History κ) : Bool :=
  (history.findSome? Happening.note?).getD false

variable [DecidableEq κ]

/-- The last reply to a query, with the time at which it was there. -/
def last? (history : History κ) (key : κ) : Option (Bytes × Nat) :=
  history.findSome? (Happening.reply? key)

/-- Since the last reply to a query it was marked expired. -/
def isExpired (history : History κ) (key : κ) : Bool :=
  (history.takeWhile fun happening => (happening.reply? key).isNone).any (Happening.expires key)

/-- The entry that a cache ought to have for a query. -/
def kept? (history : History κ) (key : κ) : Option CachedReply :=
  (history.last? key).map fun (bytes, time) => ⟨bytes, time, history.isExpired key⟩

/-- The last reply to a query is good at time `now`. -/
def Fresh (history : History κ) (key : κ) (lifetime now : Nat) : Prop :=
  ∃ bytes time, history.last? key = some (bytes, time) ∧ history.isExpired key = false ∧
    0 < lifetime ∧ now - time < lifetime

/-- A reply replaces the entry and is not marked expired. -/
theorem kept?_cons_of_reply {happening : Happening κ} {key : κ} {bytes : Bytes} {time : Nat}
    (h : happening.reply? key = some (bytes, time)) (history : History κ) :
    kept? (happening :: history) key = some ⟨bytes, time, false⟩ := by
  simp [kept?, last?, isExpired, h]

/-- What is no reply to a query keeps the entry, and marks it if it is a mark for that query. -/
theorem kept?_cons_of_none {happening : Happening κ} {key : κ}
    (h : happening.reply? key = none) (history : History κ) :
    kept? (happening :: history) key =
      (history.kept? key).map fun reply =>
        if happening.expires key then reply.expire else reply := by
  have hlast : last? (happening :: history) key = history.last? key := by
    simp [last?, h]
  have hexpired : isExpired (happening :: history) key =
      (happening.expires key || history.isExpired key) := by
    simp [isExpired, h]
  -- A mark on a reply that is marked already makes no difference.
  rw [kept?, kept?, hlast, hexpired, Option.map_map]
  congr 1
  funext reply
  cases happening.expires key <;> simp [CachedReply.expire]

/-- The entry is fresh exactly if the last reply is good. A lifetime of zero needs no rule of its
own, since no age is below it. -/
theorem fresh_iff {history : History κ} {key : κ} {lifetime now : Nat} :
    history.Fresh key lifetime now ↔
      ∃ reply, history.kept? key = some reply ∧ reply.isFresh lifetime now = true := by
  rw [Fresh, kept?]
  cases history.last? key with
  | none => simp
  | some last =>
    obtain ⟨bytes, time⟩ := last
    simp only [Option.map_some, Option.some.injEq, exists_eq_left', CachedReply.isFresh_iff]
    constructor
    · rintro ⟨_, _, hlast, hexpired, -, hage⟩
      cases hlast
      exact ⟨hexpired, hage⟩
    · rintro ⟨hexpired, hage⟩
      exact ⟨bytes, time, rfl, hexpired, Nat.zero_lt_of_lt hage, hage⟩

end History

/-! ## Verdicts -/

section Verdicts

variable [DecidableEq κ] (cache : ResponseCache κ) (key : κ) (policy : CachePolicy) (now : Nat)

/-- The radio is asked unless it must not be or a fresh reply is kept. -/
theorem consult_eq_refresh_iff :
    cache.consult key policy now = .refresh ↔
      ¬ (policy.txUnsafe = true ∧ cache.transmitting = true) ∧
        ¬ ∃ reply, cache.find? key = some reply ∧ reply.isFresh policy.lifetime now = true := by
  by_cases h : policy.txUnsafe = true ∧ cache.transmitting = true
  · rw [consult_of_forbidden h]
    cases cache.peek key <;> simp [h]
  · rw [consult_of_allowed h]
    cases cache.find? key with
    | none => simp [h]
    | some reply => cases hfresh : reply.isFresh policy.lifetime now <;> simp [h, hfresh]

/-- A query is refused exactly if the radio must not be asked and nothing is kept. -/
theorem consult_eq_refuse_iff :
    cache.consult key policy now = .refuse ↔
      (policy.txUnsafe = true ∧ cache.transmitting = true) ∧ cache.find? key = none := by
  by_cases h : policy.txUnsafe = true ∧ cache.transmitting = true
  · rw [consult_of_forbidden h, peek]
    cases cache.find? key <;> simp [h]
  · rw [consult_of_allowed h]
    cases cache.find? key with
    | none => simp [h]
    | some reply => cases hfresh : reply.isFresh policy.lifetime now <;> simp [h, hfresh]

/-- Whatever is served is what is kept. -/
theorem peek_of_consult_eq_serve {bytes : Bytes}
    (hserve : cache.consult key policy now = .serve bytes) : cache.peek key = some bytes := by
  by_cases h : policy.txUnsafe = true ∧ cache.transmitting = true
  · rw [consult_of_forbidden h] at hserve
    cases hpeek : cache.peek key with
    | none => simp [hpeek] at hserve
    | some kept => simpa [hpeek] using hserve
  · rw [consult_of_allowed h] at hserve
    rw [peek]
    cases hfind : cache.find? key with
    | none => simp [hfind] at hserve
    | some reply =>
      cases hfresh : reply.isFresh policy.lifetime now with
      | false => simp [hfind, hfresh] at hserve
      | true => simpa [hfind, hfresh] using hserve

end Verdicts

/-! ## Runs -/

/-- A refresh that writes its answer down in a history that goes with the world. -/
def recorded (now : s → Nat) (key : κ) (refresh : s → Except Error Bytes × s) :
    s × History κ → Except Error Bytes × s × History κ :=
  fun (world, history) =>
    let (answer, world) := refresh world
    (answer, world, .asked key answer (now world) :: history)

/-- A cache, the world in which the radio is asked, and what happened so far. -/
structure Session (κ s : Type) where
  cache : ResponseCache κ
  world : s
  history : History κ

namespace Session

/-- Nothing is kept, and nothing has happened. -/
def start (world : s) : Session κ s :=
  ⟨{}, world, []⟩

variable [DecidableEq κ] (now : s → Nat)

/-- Answers a query with a refresh that keeps the history. -/
def query (session : Session κ s) (key : κ) (policy : CachePolicy)
    (refresh : s → Except Error Bytes × s) : Except Error Bytes × Session κ s :=
  let (answer, cache, world, history) :=
    session.cache.getOrRefresh key policy (fun world => now world.1) (recorded now key refresh)
      (session.world, session.history)
  (answer, ⟨cache, world, history⟩)

/-- Does one thing with the cache. -/
def step (session : Session κ s) : Action κ s → Session κ s
  | .query key policy refresh => (session.query now key policy refresh).2
  | .forceExpire key =>
    { session with
      cache := session.cache.forceExpire key
      history := .expired key :: session.history }
  | .expireAll =>
    { session with
      cache := session.cache.expireAll
      history := .expiredAll :: session.history }
  | .setTransmitting transmitting =>
    { session with
      cache := session.cache.setTransmitting transmitting
      history := .noted transmitting :: session.history }
  | .pass change => { session with world := change session.world }

/-- Does things with the cache in order. -/
def run (session : Session κ s) (actions : List (Action κ s)) : Session κ s :=
  actions.foldl (step now) session

/-- The session in which the radio was asked. A reply is kept as of the time at which it was
there, and a failure leaves the cache as it is. -/
def ask (session : Session κ s) (key : κ) (refresh : s → Except Error Bytes × s) : Session κ s :=
  let (answer, world) := refresh session.world
  { world
    cache :=
      match answer with
      | .ok bytes => session.cache.store key ⟨bytes, now world, false⟩
      | .error _ => session.cache
    history := .asked key answer (now world) :: session.history }

/-- A refresh is called only on the verdict that the radio has to be asked, and then once. -/
theorem query_eq (session : Session κ s) (key : κ) (policy : CachePolicy)
    (refresh : s → Except Error Bytes × s) :
    session.query now key policy refresh =
      match session.cache.consult key policy (now session.world) with
      | .serve bytes => (.ok bytes, session)
      | .refuse => (.error .transmitting, session)
      | .refresh => ((refresh session.world).1, session.ask now key refresh) := by
  rw [query, getOrRefresh]
  cases session.cache.consult key policy (now session.world) with
  | serve bytes => rfl
  | refuse => rfl
  | refresh =>
    simp only [recorded, ask]
    rcases refresh session.world with ⟨e | bytes, world⟩ <;> rfl

/-! ## What the cache knows -/

/-- The cache is right about its history. -/
structure Agrees (session : Session κ s) : Prop where
  /-- It has the entries that the history calls for. -/
  find? (key : κ) : session.cache.find? key = session.history.kept? key
  /-- It knows whether the radio transmits. -/
  transmitting : session.cache.transmitting = session.history.transmitting

/-- At the start the cache is right about its history. -/
theorem agrees_start (world : s) : (start world : Session κ s).Agrees :=
  ⟨fun _ => rfl, rfl⟩

variable {now} {session : Session κ s}

/-- The bytes that are kept are those of the last reply. -/
theorem Agrees.peek (h : session.Agrees) (key : κ) :
    session.cache.peek key = (session.history.last? key).map Prod.fst := by
  rw [ResponseCache.peek, h.find?, History.kept?, Option.map_map]
  rfl

/-- Nothing is kept exactly if there was no reply. -/
theorem Agrees.find?_eq_none_iff (h : session.Agrees) {key : κ} :
    session.cache.find? key = none ↔ session.history.last? key = none := by
  rw [h.find?, History.kept?, Option.map_eq_none_iff]

/-- To ask the radio keeps the cache right about its history. -/
theorem agrees_ask (h : session.Agrees) (key : κ) (refresh : s → Except Error Bytes × s) :
    (session.ask now key refresh).Agrees := by
  rw [ask]
  rcases refresh session.world with ⟨e | bytes, world⟩
  · -- A failure is no reply to any query, and no mark.
    refine ⟨fun other => ?_, h.transmitting⟩
    rw [History.kept?_cons_of_none rfl]
    simpa [Happening.expires] using h.find? other
  · refine ⟨fun other => ?_, h.transmitting⟩
    by_cases hkey : key = other
    · subst hkey
      have hreply : (Happening.asked key (.ok bytes) (now world)).reply? key =
          some (bytes, now world) := if_pos rfl
      rw [History.kept?_cons_of_reply hreply, find?_store_self]
    · -- The reply to one query is nothing to the others.
      rw [History.kept?_cons_of_none (by simp [Happening.reply?, hkey]),
        find?_store_of_ne _ _ (Ne.symm hkey)]
      simpa [Happening.expires] using h.find? other

/-- A query keeps the cache right about its history, whether it asks the radio or not. -/
theorem agrees_query (h : session.Agrees) (key : κ) (policy : CachePolicy)
    (refresh : s → Except Error Bytes × s) :
    (session.query now key policy refresh).2.Agrees := by
  rw [query_eq]
  cases session.cache.consult key policy (now session.world) with
  | serve bytes => exact h
  | refuse => exact h
  | refresh => exact agrees_ask h key refresh

/-- Whatever is done with the cache keeps it right about its history. -/
theorem agrees_step (h : session.Agrees) (action : Action κ s) :
    (session.step now action).Agrees := by
  -- Each action adds one entry to the history, which is a reply, a mark or neither.
  cases action with
  | query key policy refresh => exact agrees_query h key policy refresh
  | forceExpire key =>
    refine ⟨fun other => ?_, h.transmitting⟩
    rw [step, find?_forceExpire, h.find?, History.kept?_cons_of_none rfl]
    simp only [Happening.expires, decide_eq_true_eq, @eq_comm _ key]
  | expireAll =>
    refine ⟨fun other => ?_, h.transmitting⟩
    rw [step, find?_expireAll, h.find?, History.kept?_cons_of_none rfl]
    rfl
  | setTransmitting transmitting =>
    refine ⟨fun other => ?_, rfl⟩
    rw [step, History.kept?_cons_of_none rfl]
    simpa [Happening.expires, setTransmitting, ResponseCache.find?] using h.find? other
  | pass change => exact ⟨h.find?, h.transmitting⟩

/-- A run keeps the cache right about its history. -/
theorem agrees_run (h : session.Agrees) (actions : List (Action κ s)) :
    (session.run now actions).Agrees := by
  induction actions generalizing session with
  | nil => exact h
  | cons action actions ih => exact ih (agrees_step h action)

/-! ## Answers -/

variable (now)

/-- A query has to be put to the radio: it may be asked, and the last reply is not good. -/
def MustAsk (session : Session κ s) (key : κ) (policy : CachePolicy) : Prop :=
  ¬ (policy.txUnsafe = true ∧ session.history.transmitting = true) ∧
    ¬ session.history.Fresh key policy.lifetime (now session.world)

/-- A query must not be put to the radio, and there is nothing to answer it with. -/
def Refused (session : Session κ s) (key : κ) (policy : CachePolicy) : Prop :=
  policy.txUnsafe = true ∧ session.history.transmitting = true ∧ session.history.last? key = none

variable {now} {key : κ} {policy : CachePolicy}

/-- A query has to be put to the radio exactly if the cache says so. -/
theorem Agrees.mustAsk_iff (h : session.Agrees) :
    session.MustAsk now key policy ↔
      session.cache.consult key policy (now session.world) = .refresh := by
  rw [consult_eq_refresh_iff, MustAsk, History.fresh_iff, h.transmitting, h.find?]

/-- A query is refused exactly if the cache says so. -/
theorem Agrees.refused_iff (h : session.Agrees) :
    session.Refused key policy ↔
      session.cache.consult key policy (now session.world) = .refuse := by
  rw [consult_eq_refuse_iff, Refused, h.transmitting, h.find?_eq_none_iff, and_assoc]

/-- What a query that is not put to the radio is answered with is the last reply to it. -/
theorem Agrees.last?_of_serve (h : session.Agrees) {bytes : Bytes}
    (hserve : session.cache.consult key policy (now session.world) = .serve bytes) :
    ∃ time, session.history.last? key = some (bytes, time) := by
  have hpeek := peek_of_consult_eq_serve _ _ _ _ hserve
  rw [h.peek, Option.map_eq_some_iff] at hpeek
  obtain ⟨⟨_, time⟩, hlast, rfl⟩ := hpeek
  exact ⟨time, hlast⟩

/-- What the radio answered is written down. -/
theorem history_ask (refresh : s → Except Error Bytes × s) :
    (session.ask now key refresh).history =
      .asked key (refresh session.world).1 (now (refresh session.world).2) :: session.history := by
  rw [ask]

/-- The world is the one that the refresh left. -/
theorem world_ask (refresh : s → Except Error Bytes × s) :
    (session.ask now key refresh).world = (refresh session.world).2 := by
  rw [ask]

/-- A failure leaves every entry as it is, its mark of expiry and its time included. -/
theorem cache_ask_of_error {refresh : s → Except Error Bytes × s} {e : Error}
    (h : (refresh session.world).1 = .error e) :
    (session.ask now key refresh).cache = session.cache := by
  rw [ask]
  rcases hasked : refresh session.world with ⟨e' | bytes, world⟩
  · rfl
  · simp [hasked] at h

/-- To ask for one reply leaves the entries of the others alone. -/
theorem find?_ask_of_ne {other : κ} (h : other ≠ key) (refresh : s → Except Error Bytes × s) :
    (session.ask now key refresh).cache.find? other = session.cache.find? other := by
  rw [ask]
  rcases refresh session.world with ⟨e | bytes, world⟩
  · rfl
  · exact find?_store_of_ne _ _ h

/-- A reply is the last one as of the time at which it was there. -/
theorem last?_ask_of_ok {refresh : s → Except Error Bytes × s} {bytes : Bytes}
    (h : (refresh session.world).1 = .ok bytes) :
    (session.ask now key refresh).history.last? key =
      some (bytes, now (refresh session.world).2) := by
  rw [history_ask, h]
  simp [History.last?, Happening.reply?]

end Session

open Session

variable [DecidableEq κ]

/-- After every run, a query calls its refresh once if it has to be put to the radio, and otherwise
not at all. A reply that it gives is the last one to that query, the one that the refresh brought if
it was called. It is refused if it must not be asked and was never replied to; the same failure
comes from a refresh only. When the refresh fails the cache stays as it is, and entries for other
queries stay in any case. -/
theorem query_after_run (now : s → Nat) (world : s) (actions : List (Action κ s)) (key : κ)
    (policy : CachePolicy) (refresh : s → Except Error Bytes × s) :
    let session := (start world : Session κ s).run now actions
    let asked := refresh session.world
    let answer := (session.query now key policy refresh).1
    let after := (session.query now key policy refresh).2
    (session.MustAsk now key policy →
      answer = asked.1 ∧ after.world = asked.2 ∧
        after.history = .asked key asked.1 (now asked.2) :: session.history) ∧
    (¬ session.MustAsk now key policy → after = session) ∧
    (∀ bytes, answer = .ok bytes → ∃ time, after.history.last? key = some (bytes, time)) ∧
    (answer = .error .transmitting ↔
      session.Refused key policy ∨
        session.MustAsk now key policy ∧ asked.1 = .error .transmitting) ∧
    (session.MustAsk now key policy → ∀ e, asked.1 = .error e →
      answer = .error e ∧ after.cache = session.cache) ∧
    ∀ other, other ≠ key → after.cache.find? other = session.cache.find? other := by
  intro session asked answer after
  have hagrees : session.Agrees := agrees_run (agrees_start world) actions
  have hquery : (answer, after) = _ := session.query_eq now key policy refresh
  -- Since the cache is right about the history, its verdict decides on both sides.
  rw [hagrees.mustAsk_iff, hagrees.refused_iff]
  cases hverdict : session.cache.consult key policy (now session.world) with
  | serve bytes =>
    rw [hverdict] at hquery
    obtain ⟨hanswer, hafter⟩ := Prod.mk.inj hquery
    rw [hanswer, hafter]
    refine ⟨nofun, fun _ => rfl, ?_, by simp, nofun, fun _ _ => rfl⟩
    rintro _ ⟨⟩
    exact hagrees.last?_of_serve hverdict
  | refuse =>
    rw [hverdict] at hquery
    obtain ⟨hanswer, hafter⟩ := Prod.mk.inj hquery
    rw [hanswer, hafter]
    exact ⟨nofun, fun _ => rfl, nofun, by simp, nofun, fun _ _ => rfl⟩
  | refresh =>
    rw [hverdict] at hquery
    obtain ⟨hanswer, hafter⟩ := Prod.mk.inj hquery
    rw [hanswer, hafter]
    refine ⟨fun _ => ⟨rfl, world_ask refresh, history_ask refresh⟩, fun h => absurd rfl h,
      fun bytes hok => ⟨_, last?_ask_of_ok hok⟩, by simp [asked],
      fun _ e herror => ⟨herror, cache_ask_of_error herror⟩,
      fun other hne => find?_ask_of_ne hne refresh⟩

/-- While the radio transmits, a reply from before is given long after its time, and a query that
was never replied to is refused. -/
theorem query_after_run_transmitting :
    let policy : CachePolicy := ⟨50, true⟩
    let read : Nat → Except Error Bytes × Nat := fun time => (.ok [0x14], time + 3)
    let session := (start 0 : Session Nat Nat).run id
      [.query 0 policy read, .forceExpire 0, .setTransmitting true, .pass fun time => time + 60]
    (session.query id 0 policy read).1 = .ok [0x14] ∧
      (session.query id 0 policy read).2 = session ∧
      (session.query id 1 policy read).1 = .error .transmitting := by
  intro policy read session
  have htransmitting : policy.txUnsafe = true ∧ session.history.transmitting = true := ⟨rfl, rfl⟩
  obtain ⟨-, hkept, -⟩ := query_after_run id 0
    [.query 0 policy read, .forceExpire 0, .setTransmitting true, .pass fun time => time + 60]
    0 policy read
  obtain ⟨-, -, -, hrefused, -⟩ := query_after_run id 0
    [.query 0 policy read, .forceExpire 0, .setTransmitting true, .pass fun time => time + 60]
    1 policy read
  refine ⟨rfl, hkept fun hask => hask.1 htransmitting, hrefused.mpr (.inl ?_)⟩
  exact ⟨rfl, rfl, rfl⟩

end ResponseCache

end Transceiver
