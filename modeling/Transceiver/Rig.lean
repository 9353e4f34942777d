import Transceiver.Bcd.Frequency
import Transceiver.Descriptor
import Transceiver.Operation
import Transceiver.ResponseCache

/-!
# Radios with Five-Byte Commands

A `Rig` is a session with one radio. Every setting is a frame from the model's command table, sent
through the engine. Readings are decoded from three status replies, which are cached: frequency and
mode from one block of five bytes, squelch and signal strength from one byte, keying and split from
another. A setting expires the reply it makes stale.

The radio cannot say which VFO is selected and can only toggle between the two, so the session keeps
track of the one it selected last.

## Main definitions

* `RigAction`: a step of a session, which may fail and changes the session either way;
* `Rig.status`: a status reply, from the cache or the radio;
* `Rig.perform`: any `Operation` as a step.
-/

namespace Transceiver

/-- The replies from which readings are decoded. -/
inductive StatusQuery where
  /-- Frequency and mode. -/
  | freqMode
  /-- Squelch and signal strength. -/
  | rxStatus
  /-- Keying and split. -/
  | txStatus
  deriving DecidableEq, Repr

namespace StatusQuery

/-- The command that asks for a reply. -/
def command : StatusQuery → Command
  | freqMode => .readFreqMode
  | rxStatus => .readRxStatus
  | txStatus => .readTxStatus

/-- The length of a reply. -/
def length : StatusQuery → Nat
  | freqMode => 5
  | rxStatus | txStatus => 1

/-- What the receiver reports makes no sense while transmitting. -/
def txUnsafe : StatusQuery → Bool
  | freqMode | rxStatus => true
  | txStatus => false

end StatusQuery

/-- A session with a radio. -/
structure Rig (σ : Type) where
  descriptor : Descriptor
  engine : Engine σ
  cache : ResponseCache StatusQuery := {}
  /-- The VFO that was selected last. -/
  vfo : Vfo := .a

/-- A step of a session. A step that fails keeps what it changed before. -/
abbrev RigAction (σ α : Type) := ExceptT Error (StateM (Rig σ)) α

/-- Carries out a step. -/
def RigAction.apply {σ α : Type} (action : RigAction σ α) (rig : Rig σ) :
    Except Error α × Rig σ :=
  action.run.run rig

/-- The second of two steps runs in the session that the first one leaves, if that succeeded. -/
theorem RigAction.apply_bind {σ α β : Type} (action : RigAction σ α) (next : α → RigAction σ β)
    (rig : Rig σ) :
    RigAction.apply (action >>= next) rig =
      match action.apply rig with
      | (.ok value, rig) => (next value).apply rig
      | (.error e, rig) => (.error e, rig) := by
  simp only [RigAction.apply, ExceptT.run_bind, StateT.run_bind]
  rcases action.run.run rig with ⟨result, next⟩
  cases result <;> rfl

namespace Rig

/-! ## The bits of a status reply -/

/-- The bit of the mode byte that stands for a narrow filter. -/
def narrowBit : UInt8 := 0x80

/-- The bit of the transmitter's status that is clear while it is keyed. -/
def receivingBit : UInt8 := 0x80

/-- The bit of the transmitter's status that stands for split operation. -/
def splitBit : UInt8 := 0x20

/-- The bit of the receiver's status that is clear while the squelch is open. -/
def squelchedBit : UInt8 := 0x80

/-- The bits of the receiver's status that hold the signal strength. -/
def strengthBits : UInt8 := 0x0F

/-- The polarity byte of a clarifier offset. -/
def polarity (negative : Bool) : UInt8 :=
  if negative then 0xFF else 0x00

/-- A status byte of the transmitter says that it is keyed. -/
def isKeyed (status : UInt8) : Bool :=
  status &&& receivingBit == 0

/-- The mode that a mode byte stands for. Of the modes only narrow FM has a name of its own. -/
def decodeMode (descriptor : Descriptor) (raw : UInt8) : Except Error Mode :=
  match descriptor.modeOfCode (raw &&& ~~~narrowBit) with
  | none => .error (.protocol s!"unknown mode code 0x{Hex.byte raw}")
  -- The narrow bit is masked away, so an entry whose code carries it is never the one found.
  | some .fm => .ok (if raw &&& narrowBit == 0 then .fm else .fmNarrow)
  | some mode => .ok mode

/-! ## Frames with parameters -/

/-- The frame that sets a frequency, to the nearest ten hertz. -/
def frequencyFrame (descriptor : Descriptor) (hz : Nat) : Except Error Frame := do
  let digits ← (Bcd.ofFrequency hz 8 descriptor.freqOrder .nearest).exact
  let template ← descriptor.template .setFrequency
  return template.withParams (← Params.ofBytes digits)

/-- The frame that sets the repeater offset, cut to tens of hertz. -/
def repeaterOffsetFrame (descriptor : Descriptor) (offset : Nat) : Except Error Frame := do
  let digits ← (Bcd.ofFrequency offset 8 .bigEndian .truncate).exact
  let template ← descriptor.template .setRepeaterOffset
  return template.withParams (← Params.ofBytes digits)

/-- The frame that sets the clarifier, cut to tens of hertz: the polarity, nothing, two bytes of
digits. -/
def clarifierFrame (descriptor : Descriptor) (offset : Int) : Except Error Frame := do
  let signed := Bcd.ofOffset offset 4 .bigEndian
  let digits ← signed.digits.exact
  let template ← descriptor.template .setClarifierFrequency
  return template.withParams
    #v[polarity signed.negative, 0x00, digits.getD 0 0, digits.getD 1 0]

/-- The frame that sets a mode by its code. -/
def modeFrame (descriptor : Descriptor) (code : UInt8) : Except Error Frame := do
  (← descriptor.template .setMode).build [(0, code)]

/-! ## Sessions -/

/-- The liveness query of a model: its transmitter's status, if that can be asked for. -/
def livenessQuery (descriptor : Descriptor) : Option (Frame × Nat) :=
  match descriptor.frame StatusQuery.txStatus.command with
  | .ok frame => some (frame, StatusQuery.txStatus.length)
  | .error _ => none

variable {σ : Type}

/-- Begins a session with a radio that has VFO A selected. -/
def start (descriptor : Descriptor) (channel : Channel σ) : Rig σ where
  descriptor
  engine :=
    { channel
      timing := descriptor.timing
      sentinels := descriptor.sentinels
      ackMode := descriptor.ackMode
      liveness := livenessQuery descriptor }

/-- How long a reply to a query is good for. -/
def policy (rig : Rig σ) (query : StatusQuery) : CachePolicy :=
  ⟨rig.descriptor.cacheLifetime, query.txUnsafe⟩

/-- Marks a reply expired. -/
def expire (query : StatusQuery) : RigAction σ Unit :=
  modify fun rig => { rig with cache := rig.cache.forceExpire query }

/-- Notes whether the radio transmits. -/
def setTransmitting (on : Bool) : RigAction σ Unit :=
  modify fun rig => { rig with cache := rig.cache.setTransmitting on }

/-- Notes which VFO is selected. -/
def setVfo (vfo : Vfo) : RigAction σ Unit :=
  modify fun rig => { rig with vfo }

variable [Line σ]

/-- Has the engine do something. -/
def onEngine {α : Type} (step : Engine σ → Except Error α × Engine σ) : RigAction σ α :=
  ExceptT.mk fun rig =>
    let (result, engine) := step rig.engine
    (result, { rig with engine })

/-- Sends a frame and has it confirmed. -/
def send (frame : Frame) : RigAction σ Unit :=
  onEngine fun engine => engine.sendCommand frame

/-- Sends a command that takes no parameters. -/
def sendCommand (command : Command) : RigAction σ Unit := do
  send (← (← get).descriptor.frame command)

/-- Asks the radio for a status reply. -/
def readStatus (descriptor : Descriptor) (query : StatusQuery) (engine : Engine σ) :
    Except Error Bytes × Engine σ :=
  match descriptor.frame query.command with
  | .ok frame => engine.query frame query.length
  | .error e => (.error e, engine)

/-- A status reply, from the cache if it is good and from the radio if not. -/
def status (query : StatusQuery) : RigAction σ Bytes :=
  ExceptT.mk fun rig =>
    let (result, cache, engine) :=
      rig.cache.getOrRefresh query (rig.policy query) Engine.now
        (readStatus rig.descriptor query) rig.engine
    (result, { rig with cache, engine })

/-- A status reply of one byte. -/
def statusByte (query : StatusQuery) : RigAction σ UInt8 := do
  match ← status query with
  | byte :: _ => return byte
  | [] => throw (.shortRead 1 0)

/-- The transmitter's status, which also shows whether the radio transmits. -/
def txStatus : RigAction σ UInt8 := do
  let byte ← statusByte .txStatus
  setTransmitting (isKeyed byte)
  return byte

/-- Selects a VFO by toggling, unless it is the one selected. -/
def selectVfo (choice : VfoChoice) : RigAction σ Unit := do
  match choice with
  | .current => return ()
  | .only vfo =>
    unless vfo = (← get).vfo do
      sendCommand .toggleVfo
      -- From here on the radio has changed over, whatever becomes of the setting that asked for it.
      setVfo vfo
      expire .freqMode

/-! ## Readings and settings -/

/-- The frequency of the selected VFO. -/
def getFrequency : RigAction σ Nat := do
  let block ← status .freqMode
  Bcd.toFrequency (block.take paramCount) 8 (← get).descriptor.freqOrder

/-- Sets the frequency of a VFO. -/
def setFrequency (vfo : VfoChoice) (hz : Nat) : RigAction σ Unit := do
  let descriptor := (← get).descriptor
  -- The range is checked before anything is sent, so a bad frequency does not change the VFO.
  unless descriptor.canReceive hz do
    throw (.invalidParameter s!"{hz} Hz is outside the {descriptor.modelName} coverage")
  selectVfo vfo
  send (← frequencyFrame descriptor hz)
  expire .freqMode

/-- The mode of the selected VFO. -/
def getMode : RigAction σ Mode := do
  let block ← status .freqMode
  decodeMode (← get).descriptor (block.getD paramCount 0)

/-- Sets the mode of a VFO. -/
def setMode (vfo : VfoChoice) (mode : Mode) : RigAction σ Unit := do
  let descriptor := (← get).descriptor
  match descriptor.modeCode mode with
  | none => throw (.unsupported s!"mode {mode.name} on {descriptor.modelName}")
  | some code =>
    selectVfo vfo
    send (← modeFrame descriptor code)
    expire .freqMode

/-- Whether the transmitter is keyed. -/
def getPtt : RigAction σ Bool := do
  return isKeyed (← txStatus)

/-- Keys or unkeys the transmitter. -/
def setPtt (on : Bool) : RigAction σ Unit := do
  sendCommand (if on then .pttOn else .pttOff)
  setTransmitting on
  expire .txStatus

/-- Whether the radio transmits and receives on different VFOs, which it says only while it
transmits. -/
def getSplit : RigAction σ Bool := do
  let byte ← txStatus
  -- While the radio receives, the split bit says nothing.
  unless isKeyed byte do
    throw (.unsupported "split state is only reported while transmitting")
  return byte &&& splitBit != 0

/-- Turns split operation on or off. -/
def setSplit (on : Bool) : RigAction σ Unit := do
  sendCommand (if on then .splitOn else .splitOff)
  expire .txStatus

/-- Selects the other VFO. -/
def toggleVfo : RigAction σ Unit := do
  sendCommand .toggleVfo
  setVfo (← get).vfo.other
  expire .freqMode
  expire .txStatus

/-- Sets the clarifier. -/
def setRit (offset : Int) : RigAction σ Unit := do
  let descriptor := (← get).descriptor
  if descriptor.maxRit < offset.natAbs then
    throw (.invalidParameter
      s!"clarifier offset {offset} Hz exceeds ±{descriptor.maxRit} Hz")
  send (← clarifierFrame descriptor offset)

/-- Turns the clarifier on or off. -/
def setRitEnabled (on : Bool) : RigAction σ Unit :=
  sendCommand (if on then .clarifierOn else .clarifierOff)

/-- Sets where a repeater listens. -/
def setRepeaterShift (shift : RepeaterShift) : RigAction σ Unit :=
  sendCommand <|
    match shift with
    | .simplex => .repeaterSimplex
    | .minus => .repeaterMinus
    | .plus => .repeaterPlus

/-- Sets how far away a repeater listens. -/
def setRepeaterOffset (offset : Nat) : RigAction σ Unit := do
  send (← repeaterOffsetFrame (← get).descriptor offset)

/-- Locks or unlocks the dial. -/
def setLock (on : Bool) : RigAction σ Unit :=
  sendCommand (if on then .lockOn else .lockOff)

/-- Whether the squelch is open. -/
def getDcd : RigAction σ Bool := do
  return (← statusByte .rxStatus) &&& squelchedBit == 0

/-- The signal strength on the scale of the radio. -/
def getRawStrength : RigAction σ UInt8 := do
  return (← statusByte .rxStatus) &&& strengthBits

/-- Gives the line up. -/
def close : RigAction σ Unit :=
  onEngine Engine.close

/-- A step that answers only that it succeeded. -/
def acknowledge (action : RigAction σ Unit) : RigAction σ Answer := do
  action
  return .done

/-- Carries out any operation. -/
def perform : Operation → RigAction σ Answer
  | .getFrequency _ => .frequency <$> getFrequency
  | .setFrequency vfo hz => acknowledge (setFrequency vfo hz)
  | .getMode _ => .mode <$> getMode
  | .setMode vfo mode => acknowledge (setMode vfo mode)
  | .getPtt => .flag <$> getPtt
  | .setPtt on => acknowledge (setPtt on)
  | .getSplit => .flag <$> getSplit
  | .setSplit on => acknowledge (setSplit on)
  | .toggleVfo => acknowledge toggleVfo
  | .setRit offset => acknowledge (setRit offset)
  | .setRitEnabled on => acknowledge (setRitEnabled on)
  | .setRepeaterShift shift => acknowledge (setRepeaterShift shift)
  | .setRepeaterOffset offset => acknowledge (setRepeaterOffset offset)
  | .setLock on => acknowledge (setLock on)
  | .getDcd => .flag <$> getDcd
  | .getRawStrength => .rawStrength <$> getRawStrength
  | .getStrength => (fun raw => .strength (strengthDb raw)) <$> getRawStrength
  | .close => acknowledge close

end Rig

end Transceiver
