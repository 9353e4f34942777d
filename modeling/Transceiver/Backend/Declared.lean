import Transceiver.Backend

/-!
# Declared Backends

A declared backend is given by data: the descriptors it stages, the ports at which it finds a radio,
and the failures it meets. Its hooks write down in a journal when they run.
-/

namespace Transceiver

/-- An event of a declared backend. -/
inductive JournalEntry where
  | resolve (name : String)
  /-- A backend staged some number of descriptors. -/
  | init (name : String) (staged : Nat)
  | probe (name : String) (port : Port)
  deriving DecidableEq, Repr

/-- The events so far, the first one first. -/
abbrev Journal := List JournalEntry

/-- A model that is found at the ports a rule fits. -/
structure ProbeRule where
  /-- The path that the rule is restricted to. -/
  path : Option String
  /-- The baud rate that the rule is restricted to. -/
  baud : Option Nat
  model : ModelId
  deriving DecidableEq, Repr

/-- A rule fits a port. -/
def ProbeRule.fits (rule : ProbeRule) (port : Port) : Bool :=
  (rule.path.all fun path => path == port.path) &&
    (rule.baud.all fun baud => port.baud == some baud)

/-- A backend given by data. -/
structure DeclaredBackend where
  name : String
  models : List Descriptor
  /-- The ports at which it finds a radio, if it looks at all. The first rule that fits counts. -/
  probes : Option (List ProbeRule)
  /-- The failure that follows the staging. -/
  failure : Option Error
  /-- The failure that keeps it from being found. -/
  unusable : Option Error

namespace DeclaredBackend

/-- Stages the descriptors. -/
def init (declared : DeclaredBackend) : InitHook Journal := fun journal =>
  (⟨declared.models, declared.failure.elim (.ok ()) .error⟩,
    journal ++ [.init declared.name declared.models.length])

/-- Looks at a port by the rules. -/
def probe (declared : DeclaredBackend) : Option (ProbeHook Journal) :=
  declared.probes.map fun rules port journal =>
    ((rules.find? fun rule => rule.fits port).map ProbeRule.model,
      journal ++ [.probe declared.name port])

/-- The backend as one that came with the program. -/
def toModule (declared : DeclaredBackend) : BackendModule Journal :=
  ⟨declared.name, declared.init, declared.probe⟩

/-- Finds a backend among `declared`, and attaches a module to it if `handles` is set. -/
def resolve (declared : List DeclaredBackend) (handles : Bool) (name : String) :
    Except Error (Option (Backend Journal)) :=
  match declared.find? fun backend => backend.name == name with
  | none => .ok none
  | some backend =>
    match backend.unusable with
    | some e => .error e
    | none =>
      .ok (some ⟨backend.init, backend.probe, if handles then some ⟨name⟩ else none⟩)

/-- A source of declared backends that writes down what it is asked for. -/
def source (declared : List DeclaredBackend) (handles : Bool) : Source Journal where
  provides name _ := declared.any fun backend => backend.name == name
  resolve name journal := (resolve declared handles name, journal ++ [.resolve name])

end DeclaredBackend

end Transceiver
