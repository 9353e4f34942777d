import Transceiver.Error

/-!
# Serial Line Settings

A model fixes the character format of its serial line and the range of its baud rates; a port is
opened with one rate out of that range. What opening a port leads to is up to the machine:
`PortOpener` stands for it, and `noPorts` is a machine without any.
-/

namespace Transceiver

/-- The data bits of a character. -/
inductive DataBits where
  | five
  | six
  | seven
  | eight
  deriving DecidableEq, Repr

/-- The stop bits of a character. -/
inductive StopBits where
  | one
  | two
  deriving DecidableEq, Repr

/-- The parity bit of a character. -/
inductive Parity where
  | none
  | odd
  | even
  deriving DecidableEq, Repr

/-- The way in which a receiver stops a sender. -/
inductive FlowControl where
  | none
  | software
  | hardware
  deriving DecidableEq, Repr

/-- The serial line parameters that a model accepts. -/
structure SerialSettings where
  /-- The lowest baud rate, which is the one set in the factory. -/
  baudMin : Nat := 4800
  /-- The highest baud rate. -/
  baudMax : Nat := 38400
  dataBits : DataBits := .eight
  stopBits : StopBits := .two
  parity : Parity := .none
  /-- The way in which a receiver stops a sender. -/
  flowControl : FlowControl := .none
  deriving DecidableEq, Repr

instance : Inhabited SerialSettings := ⟨{}⟩

/-- The model works at a baud rate. -/
def SerialSettings.supports (settings : SerialSettings) (baud : Nat) : Bool :=
  settings.baudMin ≤ baud && baud ≤ settings.baudMax

/-- The parameters with which a port is opened. -/
structure SerialConfig where
  baudRate : Nat := 9600
  dataBits : DataBits := .eight
  stopBits : StopBits := .two
  parity : Parity := .none
  /-- The way in which a receiver stops a sender. -/
  flowControl : FlowControl := .none
  deriving DecidableEq, Repr

instance : Inhabited SerialConfig := ⟨{}⟩

/-- The settings of a model at one baud rate. -/
def SerialSettings.at (settings : SerialSettings) (baud : Nat) : SerialConfig where
  baudRate := baud
  dataBits := settings.dataBits
  stopBits := settings.stopBits
  parity := settings.parity
  flowControl := settings.flowControl

/-- Opens the port at a path. -/
abbrev PortOpener (σ : Type) := String → SerialConfig → Except Error σ

/-- The failure to open a port, for a reason the machine gives. -/
def Error.cannotOpen (port reason : String) : Error :=
  .transport s!"Failed to open serial port {port}: {reason}"

/-- A machine without ports: no path leads to one. -/
def noPorts (σ : Type) : PortOpener σ :=
  fun port _ => .error (.cannotOpen port "No such file or directory")

end Transceiver
