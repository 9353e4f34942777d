import Transceiver.Proofs.Line.Pieces
import Mathlib.Algebra.GroupWithZero.Nat
import Mathlib.Data.List.TakeDrop

/-!
# A Request and Its Reply

A scripted line takes the first request of its script in any pieces, and uses the entry up with the
last of them. The reply waits from then on, and receives of any sizes bring it part by part until
nothing is left. Between the pieces the line differs from what it was in the bytes it has heard and
in its log (`ScriptedLine.sendAll_of_begunBy`), and between the receives in the bytes that wait
(`ScriptedLine.receiveAll_of_connected`).

## Main statement

* `ScriptedLine.plays_first_entry`: how a line takes a request and gives the reply.
-/

namespace Transceiver

/-- The bytes begin the request of an entry and do not complete it. -/
structure ScriptEntry.BegunBy (entry : ScriptEntry) (bytes : Bytes) : Prop where
  /-- The request continues the bytes. -/
  isPrefix : bytes <+: entry.request
  /-- Something is missing. -/
  ne : bytes ≠ entry.request

namespace ScriptEntry.BegunBy

variable {entry : ScriptEntry} {first second : Bytes}

/-- What is followed by something begins the request and does not complete it. -/
theorem of_append_eq (h : first ++ second = entry.request) (hsecond : second ≠ []) :
    entry.BegunBy first := by
  refine ⟨h ▸ List.prefix_append _ _, fun heq => hsecond ?_⟩
  exact List.append_right_eq_self.mp (h.trans heq.symm)

/-- What begins something that is incomplete is incomplete too. -/
theorem of_append (h : entry.BegunBy (first ++ second)) : entry.BegunBy first := by
  refine ⟨(List.prefix_append _ _).trans h.isPrefix, fun heq => h.ne ?_⟩
  -- If nothing were missing from the first bytes, nothing could be added to them.
  exact h.isPrefix.eq_of_length_le (by simp [← heq])

end ScriptEntry.BegunBy

namespace ScriptedLine

variable {line : ScriptedLine} {entry : ScriptEntry} {script : List ScriptEntry}

/-! ## Sending pieces -/

/-- The line after pieces have been sent one after the other. -/
def sendAll (line : ScriptedLine) (pieces : List Bytes) : ScriptedLine :=
  pieces.foldl (fun line piece => (line.send piece).2) line

/-- The last piece is sent to the line that the others have left. -/
theorem sendAll_concat (line : ScriptedLine) (before : List Bytes) (piece : Bytes) :
    line.sendAll (before ++ [piece]) = ((line.sendAll before).send piece).2 :=
  List.foldl_concat _ _ _ _

/-- A line takes a request in pieces. Each piece is sent to the line that the pieces before it have
left. -/
structure TakesInPieces (line : ScriptedLine) (pieces : List Bytes) : Prop where
  /-- Every send succeeds. -/
  succeeds (before : List Bytes) (piece : Bytes) (later : List Bytes)
    (h : pieces = before ++ piece :: later) : ((line.sendAll before).send piece).1 = .ok ()
  /-- No entry is used up before the last piece. -/
  keeps (before : List Bytes) (piece : Bytes) (later : List Bytes)
    (h : pieces = before ++ piece :: later) : (line.sendAll before).script = line.script
  /-- With it the first entry is. -/
  usesUp : (line.sendAll pieces).script = line.script.tail
  /-- The pieces are logged as they are sent. -/
  logs (before later : List Bytes) (h : pieces = before ++ later) :
    (line.sendAll before).sent = line.sent ++ before

/-- Before a further piece a request is incomplete. -/
theorem begunBy_of_further {pieces before later : List Bytes} {piece : Bytes}
    (hpieces : ∀ piece ∈ pieces, piece ≠ [])
    (hcut : line.heard ++ pieces.flatten = entry.request)
    (h : pieces = before ++ piece :: later) : entry.BegunBy (line.heard ++ before.flatten) := by
  have hpiece : piece ≠ [] := hpieces piece (by simp [h])
  have hwhole : line.heard ++ before.flatten ++ (piece :: later).flatten = entry.request := by
    rw [List.append_assoc, ← List.flatten_append, ← h, hcut]
  exact .of_append_eq hwhole (by simp [hpiece])

section Sending

variable (hconnected : line.connected = true) (hfailures : line.sendFailures = 0)
  (hscript : line.script = entry :: script)

include hconnected hfailures hscript

/-- A piece that leaves the request incomplete is heard and logged. -/
theorem send_of_begunBy {piece : Bytes} (h : entry.BegunBy (line.heard ++ piece)) :
    line.send piece = (.ok (),
      { line with heard := line.heard ++ piece, sent := line.sent ++ [piece] }) := by
  rw [send_of_connected hconnected hfailures, hear_of_incomplete hscript h.ne h.isPrefix]
  rfl

/-- A piece that completes the request uses the entry up, and the reply waits. -/
theorem send_of_complete {piece : Bytes} (h : line.heard ++ piece = entry.request) :
    line.send piece = (.ok (),
      { line with
        script, heard := [], waiting := entry.response, sent := line.sent ++ [piece] }) := by
  rw [send_of_connected hconnected hfailures, hear_of_complete hscript h]
  rfl

/-- Until the request is complete, pieces are heard and logged, and nothing else changes. -/
theorem sendAll_of_begunBy {pieces : List Bytes}
    (h : entry.BegunBy (line.heard ++ pieces.flatten)) :
    line.sendAll pieces =
      { line with heard := line.heard ++ pieces.flatten, sent := line.sent ++ pieces } := by
  induction pieces generalizing line with
  | nil => simp [sendAll]
  | cons piece rest ih =>
    rw [List.flatten_cons, ← List.append_assoc] at h
    let next := { line with heard := line.heard ++ piece, sent := line.sent ++ [piece] }
    have hrest : next.sendAll rest =
        { next with heard := next.heard ++ rest.flatten, sent := next.sent ++ rest } :=
      ih hconnected hfailures hscript h
    rw [sendAll, List.foldl_cons, send_of_begunBy hconnected hfailures hscript h.of_append,
      ← sendAll, hrest]
    simp [next]

variable {before : List Bytes} {piece : Bytes}

/-- A further piece that does not complete the request is taken. -/
theorem send_of_further (h : entry.BegunBy (line.heard ++ (before ++ [piece]).flatten)) :
    ((line.sendAll before).send piece).1 = .ok () := by
  rw [List.flatten_append, List.flatten_singleton, ← List.append_assoc] at h
  rw [sendAll_of_begunBy hconnected hfailures hscript h.of_append]
  let next := { line with heard := line.heard ++ before.flatten, sent := line.sent ++ before }
  exact congrArg Prod.fst (@send_of_begunBy next _ _ hconnected hfailures hscript _ h)

/-- With the last piece the entry is used up, and its reply waits. -/
theorem send_of_last (hpiece : piece ≠ [])
    (h : line.heard ++ (before ++ [piece]).flatten = entry.request) :
    (line.sendAll before).send piece = (.ok (),
      { line with
        script, heard := [], waiting := entry.response,
        sent := line.sent ++ (before ++ [piece]) }) := by
  rw [List.flatten_append, List.flatten_singleton, ← List.append_assoc] at h
  rw [sendAll_of_begunBy hconnected hfailures hscript (.of_append_eq h hpiece)]
  let next := { line with heard := line.heard ++ before.flatten, sent := line.sent ++ before }
  rw [@send_of_complete next entry script hconnected hfailures hscript piece h]
  simp [next]

/-! ### The pieces of a whole request -/

variable {pieces : List Bytes} (hpieces : ∀ piece ∈ pieces, piece ≠ [])
  (hcut : line.heard ++ pieces.flatten = entry.request)

include hpieces hcut

/-- Once all pieces are sent the entry is used up, and the reply waits. -/
theorem sendAll_of_complete (hne : pieces ≠ []) :
    line.sendAll pieces =
      { line with
        script, heard := [], waiting := entry.response, sent := line.sent ++ pieces } := by
  obtain ⟨before, piece, rfl⟩ := (List.eq_nil_or_concat' pieces).resolve_left hne
  have hlast := send_of_last hconnected hfailures hscript (hpieces piece (by simp)) hcut
  rw [sendAll_concat, hlast]

/-- A request is taken in the pieces that it is cut into. -/
theorem takesInPieces (hne : pieces ≠ []) : line.TakesInPieces pieces where
  succeeds := by
    rintro before piece (_ | ⟨next, later⟩) rfl
    -- The last piece completes the request, and any other one leaves it incomplete.
    · rw [send_of_last hconnected hfailures hscript (hpieces piece (by simp)) hcut]
    · have hnext : before ++ piece :: next :: later = before ++ [piece] ++ next :: later := by simp
      have hbegun := begunBy_of_further hpieces hcut hnext
      exact send_of_further hconnected hfailures hscript hbegun
  keeps before piece later h := by
    have hbegun := begunBy_of_further hpieces hcut h
    rw [sendAll_of_begunBy hconnected hfailures hscript hbegun]
  usesUp := by
    rw [sendAll_of_complete hconnected hfailures hscript hpieces hcut hne, hscript, List.tail_cons]
  logs := by
    rintro before (_ | ⟨piece, later⟩) h
    · rw [List.append_nil] at h
      rw [← h, sendAll_of_complete hconnected hfailures hscript hpieces hcut hne]
    · have hbegun := begunBy_of_further hpieces hcut h
      rw [sendAll_of_begunBy hconnected hfailures hscript hbegun]

end Sending

/-! ## Receiving parts -/

/-- The line after receives of certain sizes. -/
def receiveAll (line : ScriptedLine) (limits : List Nat) : ScriptedLine :=
  limits.foldl (fun line limit => (line.receive limit).2) line

/-- The bytes that receives of certain sizes bring, one after the other. -/
def received (line : ScriptedLine) : List Nat → Bytes
  | [] => []
  | limit :: limits =>
    (line.receive limit).1.toOption.getD [] ++ (line.receive limit).2.received limits

/-- Receives bring a reply part by part. -/
structure GivesInParts (line : ScriptedLine) (reply : Bytes) : Prop where
  /-- The parts make up a beginning of the reply. -/
  inOrder (limits : List Nat) : line.received limits <+: reply
  /-- While something is left, a receive brings as much of it as it asks for. -/
  brings (limits : List Nat) (limit : Nat) (h : line.received limits ≠ reply) :
    ∃ bytes, ((line.receiveAll limits).receive limit).1 = .ok bytes ∧
      bytes.length = min limit (reply.length - (line.received limits).length)
  /-- When nothing is left, there is silence. -/
  silent (limits : List Nat) (limit : Nat) (h : line.received limits = reply) :
    ((line.receiveAll limits).receive limit).1 = .error .timeout

section Receiving

variable (hconnected : line.connected = true)

include hconnected

/-- A receive takes from the front of what waits, and times out if nothing does. -/
theorem receive_of_connected (limit : Nat) :
    line.receive limit =
      (if line.waiting = [] then .error .timeout else .ok (line.waiting.take limit),
        { line with waiting := line.waiting.drop limit }) := by
  rw [receive, if_pos hconnected]
  split
  next hnone => rw [if_pos hnone, hnone, List.drop_nil, ← hnone]
  next hsome => rw [if_neg hsome]

/-- What a receive brings is taken from what waits, also if that is nothing. -/
theorem bytes_receive (limit : Nat) :
    (line.receive limit).1.toOption.getD [] = line.waiting.take limit := by
  rw [receive_of_connected hconnected]
  by_cases h : line.waiting = [] <;> simp [h, Except.toOption]

/-- Receives take from what waits as many bytes as they ask for together. -/
theorem receiveAll_of_connected (limits : List Nat) :
    line.receiveAll limits = { line with waiting := line.waiting.drop limits.sum } := by
  induction limits generalizing line with
  | nil => rfl
  | cons limit limits ih =>
    let next := { line with waiting := line.waiting.drop limit }
    have hrest : next.receiveAll limits = { next with waiting := next.waiting.drop limits.sum } :=
      ih hconnected
    rw [receiveAll, List.foldl_cons, receive_of_connected hconnected, ← receiveAll, hrest,
      List.sum_cons, List.drop_drop]

/-- What receives bring is the beginning of what waited. -/
theorem received_of_connected (limits : List Nat) :
    line.received limits = line.waiting.take limits.sum := by
  induction limits generalizing line with
  | nil => rfl
  | cons limit limits ih =>
    let next := { line with waiting := line.waiting.drop limit }
    have hrest : next.received limits = next.waiting.take limits.sum := ih hconnected
    rw [received, bytes_receive hconnected, receive_of_connected hconnected, hrest, List.sum_cons,
      List.take_add]

/-- After some receives another one brings the bytes that come next, unless all have come. -/
theorem receive_receiveAll (limits : List Nat) (limit : Nat) :
    ((line.receiveAll limits).receive limit).1 =
      if line.received limits = line.waiting then .error .timeout
      else .ok ((line.waiting.drop limits.sum).take limit) := by
  have hline : (line.receiveAll limits).connected = true := by
    rw [receiveAll_of_connected hconnected, hconnected]
  have hall : line.received limits = line.waiting ↔ line.waiting.drop limits.sum = [] := by
    rw [received_of_connected hconnected, List.take_eq_self_iff, List.drop_eq_nil_iff]
  rw [receive_of_connected hline, receiveAll_of_connected hconnected]
  simp only [hall]

/-- A line that is connected gives what waits. -/
theorem givesInParts_waiting : line.GivesInParts line.waiting where
  inOrder limits := by
    rw [received_of_connected hconnected]
    exact List.take_prefix _ _
  brings limits limit h := by
    refine ⟨_, (receive_receiveAll hconnected limits limit).trans (if_neg h), ?_⟩
    rw [received_of_connected hconnected, List.length_take, List.length_take, List.length_drop]
    omega
  silent limits limit h := (receive_receiveAll hconnected limits limit).trans (if_pos h)

end Receiving

/-! ## The first entry of a script -/

/-- A line that has heard nothing yet of a request takes it in any pieces, and gives the reply in
any parts. -/
theorem plays_first_entry (hconnected : line.connected = true) (hheard : line.heard = [])
    (hfailures : line.sendFailures = 0) (hscript : line.script = entry :: script)
    (hrequest : entry.request ≠ []) (pieces : List Bytes) (hpieces : ∀ piece ∈ pieces, piece ≠ [])
    (hcut : pieces.flatten = entry.request) :
    line.TakesInPieces pieces ∧ (line.sendAll pieces).GivesInParts entry.response := by
  have hne : pieces ≠ [] := by
    rintro rfl
    exact hrequest hcut.symm
  have hwhole : line.heard ++ pieces.flatten = entry.request := by
    rw [hheard, hcut, List.nil_append]
  refine ⟨takesInPieces hconnected hfailures hscript hpieces hwhole hne, ?_⟩
  rw [sendAll_of_complete hconnected hfailures hscript hpieces hwhole hne]
  exact givesInParts_waiting hconnected

/-- A request of five bytes that is sent in three pieces, while another byte waits. -/
theorem plays_first_entry_frequency :
    let frequency : ScriptEntry :=
      ⟨[0x00, 0x00, 0x00, 0x00, 0x03], [0x14, 0x25, 0x00, 0x00, 0x01]⟩
    let line : ScriptedLine :=
      { script := [frequency, ⟨[0x00, 0x00, 0x00, 0x00, 0xE7], [0x09]⟩], waiting := [0xF0] }
    let pieces : List Bytes := [[0x00, 0x00], [0x00], [0x00, 0x03]]
    line.connected = true ∧ line.heard = [] ∧ line.sendFailures = 0 ∧ frequency.request ≠ [] ∧
      (∀ piece ∈ pieces, piece ≠ []) ∧ pieces.flatten = frequency.request ∧
      (line.sendAll pieces).remaining = 1 ∧
      (line.sendAll pieces).received [2, 0, 1, 4] = frequency.response ∧
      line.TakesInPieces pieces ∧ (line.sendAll pieces).GivesInParts frequency.response := by
  intro frequency line pieces
  have hplays :=
    @plays_first_entry line frequency _ rfl rfl rfl rfl (by decide) pieces (by decide) rfl
  exact ⟨rfl, rfl, rfl, by decide, by decide, rfl, by decide, by decide +kernel, hplays⟩

end ScriptedLine

end Transceiver
