import Transceiver.Error

/-!
# Replies

A radio answers with one status byte or with a block whose length the query fixes. The two status
bytes of a model are its sentinels.
-/

namespace Transceiver

/-- The two status bytes of a model. -/
structure Sentinels where
  accepted : UInt8
  /-- The command was understood and refused. -/
  rejected : UInt8
  deriving DecidableEq, Repr

namespace Sentinels

instance : Inhabited Sentinels := ⟨⟨0x00, 0xF0⟩⟩

/-- The meaning of a status byte. A byte that serves as both sentinels means acceptance. -/
def classify (sentinels : Sentinels) (status : UInt8) : Except Error Unit :=
  if status = sentinels.accepted then .ok ()
  else if status = sentinels.rejected then .error .rejected
  else .error (.garbled status)

end Sentinels

/-- What an exchange waits for. -/
inductive Expectation where
  | ack
  | block (length : Nat)
  deriving DecidableEq, Repr

/-- A reply that has the expected shape. -/
inductive Response where
  | ack
  | block (bytes : Bytes)
  deriving DecidableEq, Repr

namespace Expectation

/-- The number of bytes to read. -/
def length : Expectation → Nat
  | ack => 1
  | block length => length

/-- Nothing has to be read. -/
def isEmpty (expectation : Expectation) : Bool :=
  expectation.length == 0

/-- Interprets the bytes of a reply. A single byte in place of a longer block is a status byte, so
that a refused query is reported as refused. -/
def interpret (expectation : Expectation) (sentinels : Sentinels) (bytes : Bytes) :
    Except Error Response :=
  match expectation, bytes with
  | ack, [status] => (sentinels.classify status).map fun _ => .ack
  | ack, _ => .error (.unexpectedLength 1 bytes.length)
  | block length, _ =>
    if bytes.length = length then .ok (.block bytes)
    else match bytes with
      | [status] => (sentinels.classify status).map fun _ => .ack
      | _ => .error (.unexpectedLength length bytes.length)

/-- What becomes of the bytes that came before the line fell silent. Too few of them are a refusal
if there is one and it says so, a timeout if there is none, and otherwise a short read. -/
def conclude (expectation : Expectation) (sentinels : Sentinels) (got : Bytes) :
    Except Error Bytes :=
  if got.length < expectation.length then
    match got with
    | [] => .error .timeout
    | [status] =>
      if status = sentinels.rejected then .error .rejected
      else .error (.shortRead expectation.length 1)
    | _ => .error (.shortRead expectation.length got.length)
  else (expectation.interpret sentinels got).map fun _ => got

end Expectation

end Transceiver
