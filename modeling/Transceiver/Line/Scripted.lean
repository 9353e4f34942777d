import Transceiver.Line

/-!
# Scripted Lines

A scripted line plays the part of a radio. Its script lists the requests it expects, in order, each
with the reply it gives. A request may arrive in pieces; the reply is there once the last piece is.
A piece that does not continue the request fails and uses the entry up. Failures can be arranged,
and bytes can be left waiting as if the radio had sent them unasked. Everything sent is logged.
No call takes any time.
-/

namespace Transceiver

/-- A request and the reply to it. -/
structure ScriptEntry where
  request : Bytes
  /-- The bytes that come back; none for a radio that stays silent. -/
  response : Bytes
  deriving DecidableEq, Repr

/-- A line that follows a script. -/
structure ScriptedLine where
  script : List ScriptEntry := []
  /-- The part of the first entry's request that has been heard. -/
  heard : Bytes := []
  /-- The bytes that wait to be received. -/
  waiting : Bytes := []
  connected : Bool := true
  /-- What has been sent, call by call. -/
  sent : List Bytes := []
  /-- How often the line has been flushed. -/
  flushes : Nat := 0
  /-- How many of the next sends are to fail. -/
  sendFailures : Nat := 0
  flushFails : Bool := false
  deriving DecidableEq, Repr

namespace ScriptedLine

/-- Adds an entry to the end of the script. -/
def expect (line : ScriptedLine) (request response : Bytes) : ScriptedLine :=
  { line with script := line.script ++ [⟨request, response⟩] }

/-- Adds an entry that is not answered. -/
def expectSilence (line : ScriptedLine) (request : Bytes) : ScriptedLine :=
  line.expect request []

/-- Leaves bytes waiting, in place of any that are. -/
def injectStale (line : ScriptedLine) (bytes : Bytes) : ScriptedLine :=
  { line with waiting := bytes }

/-- Makes one more send fail. -/
def failNextSend (line : ScriptedLine) : ScriptedLine :=
  { line with sendFailures := line.sendFailures + 1 }

/-- Says whether flushing fails. -/
def setFlushFails (line : ScriptedLine) (fails : Bool) : ScriptedLine :=
  { line with flushFails := fails }

/-- Takes the line up or down. -/
def setConnected (line : ScriptedLine) (connected : Bool) : ScriptedLine :=
  { line with connected }

/-- How many entries are still to be played. -/
def remaining (line : ScriptedLine) : Nat :=
  line.script.length

/-- Hears bytes as the continuation of the first entry's request. -/
def hear (line : ScriptedLine) (bytes : Bytes) : Except Error Unit × ScriptedLine :=
  match line.script with
  | [] => (.error (.protocol "no more expectations in mock transport"), line)
  | entry :: script =>
    let heard := line.heard ++ bytes
    -- A whole request is looked for first, since it is also a prefix of itself.
    if heard = entry.request then
      (.ok (), { line with script, heard := [], waiting := entry.response })
    else if heard.isPrefixOf entry.request then
      (.ok (), { line with heard })
    else
      (.error (.protocol
        s!"unexpected send data: expected {Hex.list entry.request}, got {Hex.list heard}"),
        { line with script, heard := [] })

/-- Sends bytes. -/
def send (line : ScriptedLine) (bytes : Bytes) : Except Error Unit × ScriptedLine :=
  if line.connected then
    let line := { line with sent := line.sent ++ [bytes] }
    match line.sendFailures with
    -- An arranged failure leaves the script as it is.
    | failures + 1 =>
      (.error (.system "injected write failure"), { line with sendFailures := failures })
    | 0 => line.hear bytes
  else (.error .notConnected, line)

/-- Receives at most `limit` of the bytes that wait. -/
def receive (line : ScriptedLine) (limit : Nat) : Except Error Bytes × ScriptedLine :=
  if line.connected then
    match line.waiting with
    | [] => (.error .timeout, line)
    | waiting => (.ok (waiting.take limit), { line with waiting := waiting.drop limit })
  else (.error .notConnected, line)

/-- Discards the bytes that wait. -/
def flush (line : ScriptedLine) : Except Error Unit × ScriptedLine :=
  let line := { line with flushes := line.flushes + 1 }
  if line.flushFails then (.error (.transport "injected flush failure"), line)
  else (.ok (), { line with waiting := [] })

/-- Takes the line down and discards the bytes that wait. -/
def close (line : ScriptedLine) : Except Error Unit × ScriptedLine :=
  (.ok (), { line with connected := false, waiting := [] })

/-- A call that takes no time. -/
private def atOnce {α : Type} (step : Except Error α × ScriptedLine) : Outcome ScriptedLine α :=
  ⟨step.1, 0, step.2⟩

instance : Line ScriptedLine where
  send line _ bytes := atOnce (line.send bytes)
  receive line _ limit _ := atOnce (line.receive limit)
  flush line _ := atOnce line.flush
  close line _ := atOnce line.close

/-- A flush of a scripted line takes no time. -/
theorem flush_eq (line : ScriptedLine) (now : Nat) :
    Line.flush line now = ⟨line.flush.1, 0, line.flush.2⟩ := rfl

end ScriptedLine

end Transceiver
