import Transceiver.Line.Scripted
import Mathlib.Data.List.Basic

/-!
# Requests in Pieces

A request may reach a scripted line at once or byte by byte. The line hears the same: it answers
with the entry's response as soon as the request is complete, and gives the entry up as soon as what
it has heard no longer continues the request. Only its log, and the words in which it reports what
it heard instead, tell the two apart.

A line that expects frames starts each request anew: whatever frame it gets, it has taken it for the
request or given the request up by its last byte.

## Main statements

* `ScriptedLine.sendEach_alike`: sending bytes one at a time comes to the same as sending them at
  once, as long as they do not go beyond the request;
* `ScriptedLine.ExpectsFrames.send`: a line that expects frames still does after one.
-/

namespace Transceiver

/-- Two results are the same, but for the words in which a breach of the protocol is reported. -/
inductive SameButWording {α : Type} : Except Error α → Except Error α → Prop
  | same (result : Except Error α) : SameButWording result result
  | reworded (reason other : String) :
      SameButWording (.error (.protocol reason)) (.error (.protocol other))

namespace SameButWording

variable {α β : Type} {result other : Except Error α}

/-- Results that are the same but for their wording stay so when their values are mapped. -/
theorem map (f : α → β) (h : SameButWording result other) :
    SameButWording (result.map f) (other.map f) := by
  cases h with
  | same => exact .same _
  | reworded reason other => exact .reworded reason other

/-- Either both results are a certain one or neither is, unless it is a breach of the protocol. -/
theorem eq_iff (h : SameButWording result other) {target : Except Error α}
    (htarget : ∀ reason, target ≠ .error (.protocol reason)) :
    other = target ↔ result = target := by
  cases h with
  | same => rfl
  | reworded reason again => simp [(htarget reason).symm, (htarget again).symm]

end SameButWording

namespace ScriptedLine

variable {line : ScriptedLine} {entry : ScriptEntry} {script : List ScriptEntry} {bytes : Bytes}

/-! ## Lines with another log -/

/-- The line with another log of what was sent. -/
def withLog (line : ScriptedLine) (log : List Bytes) : ScriptedLine :=
  { line with sent := log }

/-- What has been logged makes no difference to what is heard. -/
theorem hear_withLog (line : ScriptedLine) (log : List Bytes) (bytes : Bytes) :
    (line.withLog log).hear bytes = ((line.hear bytes).1, (line.hear bytes).2.withLog log) := by
  rcases line with ⟨_ | ⟨entry, script⟩, heard, waiting, connected, sent, flushes, failures, fails⟩
  · rfl
  · by_cases hcomplete : heard ++ bytes = entry.request
    · simp [hear, withLog, hcomplete]
    · by_cases hprefix : (heard ++ bytes).isPrefixOf entry.request = true <;>
        simp [hear, withLog, hcomplete, hprefix]

/-- What has been logged makes no difference to a receive. -/
theorem receive_withLog (line : ScriptedLine) (log : List Bytes) (limit : Nat) :
    (line.withLog log).receive limit =
      ((line.receive limit).1, (line.receive limit).2.withLog log) := by
  rcases line with ⟨script, heard, _ | ⟨byte, waiting⟩, _ | _, sent, flushes, failures, fails⟩ <;>
    rfl

/-- What has been logged makes no difference to a flush. -/
theorem flush_withLog (line : ScriptedLine) (log : List Bytes) :
    (line.withLog log).flush = (line.flush.1, line.flush.2.withLog log) := by
  rcases line with ⟨script, heard, waiting, connected, sent, flushes, failures, _ | _⟩ <;> rfl

/-- Without a failure in the way, what is sent is heard. -/
theorem send_of_connected (hconnected : line.connected = true) (hfailures : line.sendFailures = 0)
    (bytes : Bytes) :
    line.send bytes =
      ((line.hear bytes).1, (line.hear bytes).2.withLog (line.sent ++ [bytes])) := by
  rcases line with ⟨script, heard, waiting, connected, sent, flushes, failures, fails⟩
  obtain rfl : connected = true := hconnected
  obtain rfl : failures = 0 := hfailures
  rw [← hear_withLog]
  rfl

/-- Nothing is sent over a line that is down. -/
theorem send_of_not_connected (hconnected : ¬ line.connected = true) (bytes : Bytes) :
    line.send bytes = (.error .notConnected, line) := by
  rw [send, if_neg hconnected]

/-- What has been logged makes no difference to a send, except that the send is logged behind it. -/
theorem send_withLog (line : ScriptedLine) (log : List Bytes) (bytes : Bytes)
    (hfailures : line.sendFailures = 0) :
    ∃ log', (line.withLog log).send bytes =
      ((line.send bytes).1, (line.send bytes).2.withLog log') := by
  by_cases hconnected : line.connected = true
  · refine ⟨log ++ [bytes], ?_⟩
    have hline : (line.withLog log).connected = true := hconnected
    rw [send_of_connected hconnected hfailures, send_of_connected hline hfailures, hear_withLog]
    rfl
  · have hline : ¬ (line.withLog log).connected = true := hconnected
    exact ⟨log, by rw [send_of_not_connected hconnected, send_of_not_connected hline]⟩

/-! ## What a line hears -/

/-- A script that is over expects nothing. -/
theorem hear_of_nil (hscript : line.script = []) :
    line.hear bytes = (.error (.protocol "no more expectations in mock transport"), line) := by
  rw [hear, hscript]

/-- A request that is complete is answered. -/
theorem hear_of_complete (hscript : line.script = entry :: script)
    (h : line.heard ++ bytes = entry.request) :
    line.hear bytes = (.ok (), { line with script, heard := [], waiting := entry.response }) := by
  simp only [hear, hscript, h, ↓reduceIte]

/-- A request that is incomplete is waited for. -/
theorem hear_of_incomplete (hscript : line.script = entry :: script)
    (hne : line.heard ++ bytes ≠ entry.request) (h : line.heard ++ bytes <+: entry.request) :
    line.hear bytes = (.ok (), { line with heard := line.heard ++ bytes }) := by
  simp only [hear, hscript, hne, ↓reduceIte, List.isPrefixOf_iff_prefix.mpr h]

/-- A request that can no longer become the expected one is given up. -/
theorem hear_of_diverging (hscript : line.script = entry :: script)
    (h : ¬ line.heard ++ bytes <+: entry.request) :
    ∃ reason, line.hear bytes =
      (.error (.protocol reason), { line with script, heard := [] }) := by
  have hne : line.heard ++ bytes ≠ entry.request := by
    intro heq
    exact h (heq ▸ List.prefix_rfl)
  simp only [hear, hscript, hne, ↓reduceIte]
  rw [if_neg (mt List.isPrefixOf_iff_prefix.mp h)]
  exact ⟨_, rfl⟩

/-! ## Sending bytes one at a time -/

/-- Sends bytes one at a time. The first failure ends the sending. -/
def sendEach (line : ScriptedLine) : Bytes → Except Error Unit × ScriptedLine
  | [] => (.ok (), line)
  | byte :: rest =>
    match line.send [byte] with
    | (.error e, line) => (.error e, line)
    | (.ok (), line) => line.sendEach rest

/-- A line that hears bytes in two parts hears the same as if they came at once. -/
theorem hear_append (first : Bytes) {second : Bytes} (hsecond : second ≠ [])
    (hroom : ∀ entry ∈ line.script.head?,
      (line.heard ++ first ++ second).length ≤ entry.request.length) :
    (line.hear first = (.ok (), { line with heard := line.heard ++ first }) ∧
      line.hear (first ++ second) = { line with heard := line.heard ++ first }.hear second) ∨
    ∃ reason other after, line.hear first = (.error (.protocol reason), after) ∧
      line.hear (first ++ second) = (.error (.protocol other), after) := by
  -- With nothing expected both ways of sending meet the same complaint.
  by_cases hnil : line.script = []
  · exact .inr ⟨_, _, _, hear_of_nil hnil, hear_of_nil hnil⟩
  · obtain ⟨entry, script, hscript⟩ := List.exists_cons_of_ne_nil hnil
    have hlength := hroom entry (by simp [hscript])
    have hpos : 0 < second.length := List.length_pos_of_ne_nil hsecond
    by_cases hprefix : line.heard ++ first <+: entry.request
    · -- The first part alone is too short to be the request.
      have hne : line.heard ++ first ≠ entry.request := by
        intro heq
        simp only [← heq, List.length_append] at hlength
        omega
      refine .inl ⟨hear_of_incomplete hscript hne hprefix, ?_⟩
      simp only [hear, hscript, List.append_assoc]
    · -- What has diverged diverges however much follows it.
      have hlonger : ¬ line.heard ++ (first ++ second) <+: entry.request := by
        intro h
        rw [← List.append_assoc] at h
        exact hprefix ((List.prefix_append _ _).trans h)
      obtain ⟨reason, hfirst⟩ := hear_of_diverging hscript hprefix
      obtain ⟨other, hboth⟩ := hear_of_diverging hscript hlonger
      exact .inr ⟨reason, other, _, hfirst, hboth⟩

/-- Bytes that do not go beyond the expected request may be sent one at a time. -/
theorem sendEach_alike (hfailures : line.sendFailures = 0) (hbytes : bytes ≠ [])
    (hroom : ∀ entry ∈ line.script.head?, (line.heard ++ bytes).length ≤ entry.request.length) :
    SameButWording (line.send bytes).1 (line.sendEach bytes).1 ∧
      ∃ log, (line.sendEach bytes).2 = (line.send bytes).2.withLog log := by
  -- The line is generalised, since the bytes behind the first meet one that has heard it.
  induction bytes generalizing line with
  | nil => exact absurd rfl hbytes
  | cons byte rest ih =>
    by_cases hconnected : line.connected = true
    · rw [sendEach]
      by_cases hrest : rest = []
      · subst hrest
        rcases hsend : line.send [byte] with ⟨e | ⟨⟩, after⟩ <;> exact ⟨.same _, after.sent, rfl⟩
      · have happend := hear_append [byte] hrest (by simpa using hroom)
        rw [List.singleton_append] at happend
        rw [send_of_connected hconnected hfailures (byte :: rest),
          send_of_connected hconnected hfailures [byte]]
        rcases happend with ⟨hfirst, hboth⟩ | ⟨reason, other, after, hfirst, hboth⟩
        · -- The line has heard the first byte, and hears the others as if they came at once.
          let heard := { line with heard := line.heard ++ [byte] }
          let after := heard.withLog (line.sent ++ [[byte]])
          have hconnected' : after.connected = true := hconnected
          have hfailures' : after.sendFailures = 0 := hfailures
          have hafter : after.send rest =
              ((heard.hear rest).1, (heard.hear rest).2.withLog (after.sent ++ [rest])) := by
            have hsend := send_of_connected hconnected' hfailures' rest
            rwa [hear_withLog] at hsend
          have hroom' : ∀ entry ∈ after.script.head?,
              (after.heard ++ rest).length ≤ entry.request.length := by
            intro entry hentry
            have hlength := hroom entry hentry
            rwa [← List.singleton_append, ← List.append_assoc] at hlength
          obtain ⟨halike, log, hlog⟩ := ih hfailures' hrest hroom'
          rw [hafter] at halike hlog
          rw [hfirst, hboth]
          exact ⟨halike, log, hlog⟩
        · -- The first byte already makes it give the request up, and so do all of them.
          rw [hfirst, hboth]
          exact ⟨.reworded other reason, _, rfl⟩
    · rw [sendEach, send_of_not_connected hconnected, send_of_not_connected hconnected]
      exact ⟨.same _, line.sent, rfl⟩

/-! ## Lines that expect frames -/

/-- Every request of the script is as long as a frame, none is heard in part, and no failure is
arranged. -/
structure ExpectsFrames (line : ScriptedLine) : Prop where
  /-- No request is heard in part. -/
  heard : line.heard = []
  /-- No failure to send is arranged. -/
  sendFailures : line.sendFailures = 0
  /-- The requests are as long as a frame. -/
  length_request : ∀ entry ∈ line.script, entry.request.length = 5

namespace ExpectsFrames

variable (h : line.ExpectsFrames)

include h

/-- A frame is heard whole: it is the request, or it makes the line give the request up. -/
theorem hear (hlength : bytes.length = 5) : (line.hear bytes).2.ExpectsFrames := by
  by_cases hnil : line.script = []
  · rwa [hear_of_nil hnil]
  · -- The entry is used up either way, and the entries behind it are left.
    obtain ⟨entry, script, hscript⟩ := List.exists_cons_of_ne_nil hnil
    have hrest : ∀ entry ∈ script, entry.request.length = 5 := fun entry hmem =>
      h.length_request entry (by simp [hscript, hmem])
    -- A prefix of the same length is the request.
    by_cases hprefix : line.heard ++ bytes <+: entry.request
    · have hrequest : entry.request.length = 5 := h.length_request entry (by simp [hscript])
      have hcomplete : line.heard ++ bytes = entry.request :=
        hprefix.eq_of_length (by simp [h.heard, hlength, hrequest])
      rw [hear_of_complete hscript hcomplete]
      exact ⟨rfl, h.sendFailures, hrest⟩
    · obtain ⟨reason, hhear⟩ := hear_of_diverging hscript hprefix
      rw [hhear]
      exact ⟨rfl, h.sendFailures, hrest⟩

/-- A line that expects frames does so whatever it has logged. -/
theorem withLog (log : List Bytes) : (line.withLog log).ExpectsFrames :=
  ⟨h.heard, h.sendFailures, h.length_request⟩

/-- A line that expects frames still does after a frame, be it the expected one or not. -/
theorem send (hlength : bytes.length = 5) : (line.send bytes).2.ExpectsFrames := by
  by_cases hconnected : line.connected = true
  · rw [send_of_connected hconnected h.sendFailures]
    exact (h.hear hlength).withLog _
  · rwa [send_of_not_connected hconnected]

/-- A line that expects frames still does after a receive. -/
theorem receive (limit : Nat) : (line.receive limit).2.ExpectsFrames := by
  rw [ScriptedLine.receive]
  split
  · split
    · exact h
    · exact ⟨h.heard, h.sendFailures, h.length_request⟩
  · exact h

/-- A line that expects frames still does after a flush. -/
theorem flush : line.flush.2.ExpectsFrames := by
  rw [ScriptedLine.flush]
  split <;> exact ⟨h.heard, h.sendFailures, h.length_request⟩

/-- A frame may be sent byte by byte. -/
theorem sendEach_alike (hlength : bytes.length = 5) :
    SameButWording (line.send bytes).1 (line.sendEach bytes).1 ∧
      ∃ log, (line.sendEach bytes).2 = (line.send bytes).2.withLog log := by
  refine ScriptedLine.sendEach_alike h.sendFailures ?_ fun entry hentry => ?_
  · rintro rfl
    simp at hlength
  · have hrequest := h.length_request entry (List.mem_of_mem_head? hentry)
    simp [h.heard, hlength, hrequest]

end ExpectsFrames

end ScriptedLine

end Transceiver
