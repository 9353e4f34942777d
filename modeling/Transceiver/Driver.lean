import Transceiver.Rig

/-!
# Drivers

A driver is a model that has been opened on a channel. Its descriptor says which kind of driver it
is to have. `Driver.perform` carries out an operation; drivers that know little refuse the rest.
-/

namespace Transceiver

/-- A model that has been opened on a channel. -/
inductive Driver (σ : Type) where
  /-- A session with a radio that takes five-byte commands. -/
  | fiveByte (rig : Rig σ)
  /-- A driver that never uses its channel. -/
  | identity (info : RigInfo) (channel : Channel σ)
  /-- A driver that never uses its channel and shows the number of its model as signal strength. -/
  | meter (info : RigInfo) (channel : Channel σ)

namespace Driver

variable {σ : Type}

/-- How the radio presents itself. -/
def info : Driver σ → RigInfo
  | fiveByte rig => rig.descriptor.info
  | identity info _ | meter info _ => info

/-- The channel to the radio. -/
def channel : Driver σ → Channel σ
  | fiveByte rig => rig.engine.channel
  | identity _ channel | meter _ channel => channel

/-- The driver with something done to its channel between operations. -/
def setChannel (driver : Driver σ) (channel : Channel σ) : Driver σ :=
  match driver with
  | fiveByte rig => fiveByte { rig with engine.channel := channel }
  | identity info _ => identity info channel
  | meter info _ => meter info channel

/-- Carries out an operation. -/
def perform [Line σ] (driver : Driver σ) (operation : Operation) :
    Except Error Answer × Driver σ :=
  match driver with
  | fiveByte rig =>
    let (result, rig) := (Rig.perform operation).apply rig
    (result, fiveByte rig)
  | identity _ _ => (operation.default, driver)
  | meter info _ => (operation.fromMeter (UInt8.ofNat info.modelId.value), driver)

end Driver

/-- Opens a model on a channel. -/
def Descriptor.openOn {σ : Type} (descriptor : Descriptor) (channel : Channel σ) :
    Except Error (Driver σ) :=
  match descriptor.driver with
  | .fiveByte => .ok (.fiveByte (Rig.start descriptor channel))
  | .identity => .ok (.identity descriptor.info channel)
  | .meter => .ok (.meter descriptor.info channel)
  | .refused => .error (.unsupported s!"factory of {descriptor.modelName}")

end Transceiver
