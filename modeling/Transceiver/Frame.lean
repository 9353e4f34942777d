import Transceiver.Error

/-!
# Command Frames

A command is five bytes: four parameters and an opcode. A model's command table holds templates.
A complete template is a frame as it stands; an incomplete one waits for its parameters.
`Template.build` overwrites single parameters, and no index reaches the opcode.
-/

namespace Transceiver

/-- The number of parameters of a frame. -/
abbrev paramCount : Nat := 4

/-- The parameters of a frame. -/
abbrev Params := Vector UInt8 paramCount

namespace Params

/-- Four zero parameters. -/
def zero : Params := #v[0, 0, 0, 0]

/-- Four bytes as parameters. -/
def ofBytes? (bytes : Bytes) : Option Params :=
  if h : bytes.length = paramCount then some ⟨bytes.toArray, by simpa using h⟩ else none

/-- Four bytes as parameters; a field of any other length does not fit. -/
def ofBytes (bytes : Bytes) : Except Error Params :=
  match ofBytes? bytes with
  | some params => .ok params
  | none =>
    .error (.invalidParameter
      s!"encoded field is {bytes.length} bytes, frame has {paramCount}")

/-- Overwrites the parameter at an index. -/
def write (params : Params) (entry : Nat × UInt8) : Except Error Params :=
  if h : entry.1 < paramCount then .ok (params.set entry.1 entry.2)
  else .error (.invalidTemplate entry.1 paramCount)

end Params

/-- A command as it goes to the radio. -/
structure Frame where
  /-- The parameters. -/
  params : Params
  opcode : UInt8
  deriving DecidableEq, Repr

namespace Frame

/-- The bytes of a frame, in the order in which they are sent. -/
def bytes (frame : Frame) : Bytes :=
  frame.params.toList ++ [frame.opcode]

/-- The parameter at `index`, if there is one. -/
def param? (frame : Frame) (index : Nat) : Option UInt8 :=
  frame.params[index]?

/-- A frame is five bytes long. -/
@[simp]
theorem length_bytes (frame : Frame) : frame.bytes.length = 5 := by
  simp [bytes]

end Frame

/-- An entry of a command table. -/
structure Template where
  /-- The parameters, or placeholders for them. -/
  params : Params
  opcode : UInt8
  /-- The parameters are the ones to send. -/
  isComplete : Bool
  deriving DecidableEq, Repr

namespace Template

/-- A template that is ready to be sent. -/
def complete (params : Params) (opcode : UInt8) : Template :=
  ⟨params, opcode, true⟩

/-- A template whose parameters each call supplies. -/
def incomplete (opcode : UInt8) : Template :=
  ⟨Params.zero, opcode, false⟩

/-- The frame of a complete template. Placeholders are never sent. -/
def frame (template : Template) : Except Error Frame :=
  if template.isComplete then .ok ⟨template.params, template.opcode⟩
  else .error (.invalidTemplate 0 paramCount)

/-- The frame with all four parameters replaced. -/
def withParams (template : Template) (params : Params) : Frame :=
  ⟨params, template.opcode⟩

/-- The frame with some parameters overwritten, in the order of the list. -/
def build (template : Template) (overrides : List (Nat × UInt8)) : Except Error Frame :=
  (overrides.foldlM Params.write template.params).map fun params => ⟨params, template.opcode⟩

end Template

end Transceiver
