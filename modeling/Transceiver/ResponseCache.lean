import Transceiver.Error

/-!
# Cached Replies

Several readings are decoded from the same reply, so replies are kept for a while, one for each kind
of query. A reply can be marked expired before its time. Some queries make no sense while the radio
transmits; meanwhile they are answered with the last reply from before, however old.

`consult` decides how a query is to be answered, `store` keeps a new reply, and `getOrRefresh` puts
them together.
-/

namespace Transceiver

/-- How long a reply to a query is good for. -/
structure CachePolicy where
  /-- The time for which a reply is fresh, in milliseconds. With none, every query is asked. -/
  lifetime : Nat
  /-- The query is not to be asked while transmitting. -/
  txUnsafe : Bool := false
  deriving DecidableEq, Repr

/-- A reply that is kept. -/
structure CachedReply where
  bytes : Bytes
  /-- The time at which it was complete. -/
  time : Nat
  /-- It is no longer good, whatever its age. -/
  expired : Bool := false
  deriving DecidableEq, Repr

namespace CachedReply

/-- The reply, marked expired. -/
def expire (reply : CachedReply) : CachedReply :=
  { reply with expired := true }

/-- The reply is good at time `now`. A lifetime of zero makes no reply good. -/
def isFresh (reply : CachedReply) (lifetime now : Nat) : Bool :=
  !reply.expired && decide (now - reply.time < lifetime)

/-- An expired reply is not fresh. -/
@[simp]
theorem isFresh_expire (reply : CachedReply) (lifetime now : Nat) :
    reply.expire.isFresh lifetime now = false := rfl

/-- A fresh reply is unexpired and younger than its lifetime. -/
theorem isFresh_iff (reply : CachedReply) (lifetime now : Nat) :
    reply.isFresh lifetime now = true ↔ reply.expired = false ∧ now - reply.time < lifetime := by
  simp [isFresh]

end CachedReply

/-- The replies kept for the queries of one radio. -/
structure ResponseCache (κ : Type) where
  /-- The replies, at most one for each query. -/
  entries : List (κ × CachedReply) := []
  transmitting : Bool := false
  deriving DecidableEq, Repr

/-- How a query is answered. -/
inductive CacheVerdict where
  /-- With a reply that is kept. -/
  | serve (bytes : Bytes)
  /-- Not at all: the radio transmits, and no reply is kept. -/
  | refuse
  /-- By asking the radio. -/
  | refresh
  deriving DecidableEq, Repr

namespace ResponseCache

variable {κ : Type} [DecidableEq κ]

/-- The reply kept for a query. -/
def find? (cache : ResponseCache κ) (key : κ) : Option CachedReply :=
  cache.entries.lookup key

/-- The bytes kept for a query, good or not. -/
def peek (cache : ResponseCache κ) (key : κ) : Option Bytes :=
  (cache.find? key).map CachedReply.bytes

/-- Keeps a reply in place of the previous one. -/
def store (cache : ResponseCache κ) (key : κ) (reply : CachedReply) : ResponseCache κ :=
  { cache with entries := (key, reply) :: cache.entries.filter fun entry => entry.1 ≠ key }

/-- Marks the reply to a query expired. -/
def forceExpire (cache : ResponseCache κ) (key : κ) : ResponseCache κ :=
  { cache with
    entries := cache.entries.map fun entry =>
      (entry.1, if entry.1 = key then entry.2.expire else entry.2) }

omit [DecidableEq κ] in
/-- Marks every reply expired. -/
def expireAll (cache : ResponseCache κ) : ResponseCache κ :=
  { cache with entries := cache.entries.map fun entry => (entry.1, entry.2.expire) }

omit [DecidableEq κ] in
/-- Notes whether the radio transmits. -/
def setTransmitting (cache : ResponseCache κ) (transmitting : Bool) : ResponseCache κ :=
  { cache with transmitting }

/-- Decides how a query is answered at time `now`. -/
def consult (cache : ResponseCache κ) (key : κ) (policy : CachePolicy) (now : Nat) :
    CacheVerdict :=
  if policy.txUnsafe && cache.transmitting then
    match cache.peek key with
    | some bytes => .serve bytes
    | none => .refuse
  else
    match cache.find? key with
    | some reply => if reply.isFresh policy.lifetime now then .serve reply.bytes else .refresh
    | none => .refresh

/-- Answers a query. If the radio has to be asked, `refresh` does so in the world `s`, in which time
may pass; a new reply is kept as of the time at which it was complete, and a failure changes no
entry. -/
def getOrRefresh {s : Type} (cache : ResponseCache κ) (key : κ) (policy : CachePolicy)
    (now : s → Nat) (refresh : s → Except Error Bytes × s) (world : s) :
    Except Error Bytes × ResponseCache κ × s :=
  match cache.consult key policy (now world) with
  | .serve bytes => (.ok bytes, cache, world)
  | .refuse => (.error .transmitting, cache, world)
  | .refresh =>
    match refresh world with
    | (.ok bytes, world) => (.ok bytes, cache.store key ⟨bytes, now world, false⟩, world)
    | (.error e, world) => (.error e, cache, world)

/-! ## How a query is answered -/

section Consult

variable {cache : ResponseCache κ} {policy : CachePolicy} {key : κ} {now : Nat}

/-- While a query must not be asked, what is kept is served, however old. -/
theorem consult_of_forbidden (h : policy.txUnsafe = true ∧ cache.transmitting = true) :
    cache.consult key policy now =
      match cache.peek key with
      | some bytes => .serve bytes
      | none => .refuse := by
  rw [consult, h.1, h.2]
  rfl

/-- A query that may be asked is asked unless a fresh reply is kept. -/
theorem consult_of_allowed (h : ¬ (policy.txUnsafe = true ∧ cache.transmitting = true)) :
    cache.consult key policy now =
      match cache.find? key with
      | some reply =>
        if reply.isFresh policy.lifetime now then .serve reply.bytes else .refresh
      | none => .refresh := by
  have hallowed : (policy.txUnsafe && cache.transmitting) = false := by
    simpa using h
  rw [consult, hallowed]
  rfl

end Consult

/-! ## What each operation does to the entries -/

/-- The reply that was just stored is the one kept. -/
@[simp]
theorem find?_store_self (cache : ResponseCache κ) (key : κ) (reply : CachedReply) :
    (cache.store key reply).find? key = some reply := by
  simp [find?, store]

/-- Storing a reply leaves the replies to other queries alone. -/
theorem find?_store_of_ne (cache : ResponseCache κ) {key other : κ} (reply : CachedReply)
    (h : other ≠ key) : (cache.store key reply).find? other = cache.find? other := by
  have hne : (other == key) = false := by simp [h]
  simp only [find?, store, List.lookup_cons, hne]
  induction cache.entries with
  | nil => rfl
  | cons entry entries ih =>
    obtain ⟨k, kept⟩ := entry
    by_cases hk : k = key
    · subst hk
      simpa [List.lookup_cons, hne] using ih
    · by_cases ho : other = k
      · subst ho
        simp [hk]
      · have hok : (other == k) = false := by simp [ho]
        simpa [List.lookup_cons, hk, hok] using ih

/-- Expiring a query marks the reply to it and no other. -/
theorem find?_forceExpire (cache : ResponseCache κ) (key other : κ) :
    (cache.forceExpire key).find? other =
      (cache.find? other).map fun reply => if other = key then reply.expire else reply := by
  simp only [find?, forceExpire]
  induction cache.entries with
  | nil => rfl
  | cons entry entries ih =>
    obtain ⟨k, kept⟩ := entry
    by_cases h : other = k
    · subst h
      simp
    · have hne : (other == k) = false := by simp [h]
      simpa [List.lookup_cons, hne] using ih

/-- Expiring everything marks every reply. -/
theorem find?_expireAll (cache : ResponseCache κ) (key : κ) :
    cache.expireAll.find? key = (cache.find? key).map CachedReply.expire := by
  simp only [find?, expireAll]
  induction cache.entries with
  | nil => rfl
  | cons entry entries ih =>
    obtain ⟨k, kept⟩ := entry
    by_cases h : key = k
    · subst h
      simp
    · have hne : (key == k) = false := by simp [h]
      simpa [List.lookup_cons, hne] using ih

end ResponseCache

end Transceiver
