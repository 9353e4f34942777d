import Transceiver.Descriptor
import Transceiver.SearchPath

/-!
# Backends and Where They Come From

A backend looks after a family of models. It has a hook that stages the descriptors of the family
and may have one that looks for a radio at a port. Backends are found in sources: those that came
with the program, or libraries in a search path.

Hooks and sources act on a world `ω`, about which nothing is assumed. What holds for every world and
every hook holds whatever they do.
-/

namespace Transceiver

/-- The names of the known backends. The place in the list is the number of the backend. -/
def knownBackends : List String :=
  ["dummy", "yaesu", "kenwood", "icom", "pcr", "aor", "jrc", "radioshack", "uniden", "drake",
    "lowe", "racal", "wj", "ek", "skanti", "winradio", "tentec", "alinco", "kachina", "rpcrig"]

/-- The name of the backend with a certain number. -/
def backendName (number : Nat) : Option String :=
  knownBackends[number]?

/-- A port to look at. -/
structure Port where
  /-- Where the port is. -/
  path : String
  /-- The baud rate to look at it with. Without one, the hook chooses. -/
  baud : Option Nat := none
  deriving DecidableEq, Repr

/-- What an initial hook did: the descriptors it staged, and whether it succeeded. -/
structure Staging where
  /-- The descriptors, in the order in which they were staged. -/
  descriptors : List Descriptor
  /-- Whether the hook succeeded. -/
  result : Except Error Unit

/-- A hook that stages the descriptors of a family. -/
abbrev InitHook (ω : Type) := ω → Staging × ω

/-- A hook that looks for a radio at a port. -/
abbrev ProbeHook (ω : Type) := Port → ω → Option ModelId × ω

/-- A backend that has been found. -/
structure Backend (ω : Type) where
  /-- Stages the descriptors of the family. -/
  init : InitHook ω
  /-- Looks for a radio at a port. -/
  probe : Option (ProbeHook ω)
  /-- The module that the backend came from, if it did not come with the program. -/
  module : Option ModuleHandle

namespace Backend

variable {ω : Type}

/-- The descriptors of a backend refer to the module they came from. -/
def tag (backend : Backend ω) (descriptors : List Descriptor) : List Descriptor :=
  match backend.module with
  | some handle => descriptors.map fun descriptor => { descriptor with module := some handle }
  | none => descriptors

end Backend

/-- A place where backends are found. -/
structure Source (ω : Type) where
  /-- Whether it has a backend of a certain name, which is not loaded to find out. -/
  provides : String → ω → Bool
  /-- Finds the backend of a certain name, or none. A backend that is there but cannot be used is a
  failure. -/
  resolve : String → ω → Except Error (Option (Backend ω)) × ω

/-- A backend that came with the program. -/
structure BackendModule (ω : Type) where
  name : String
  /-- Stages the descriptors of the family. -/
  init : InitHook ω
  /-- Looks for a radio at a port. -/
  probe : Option (ProbeHook ω)

namespace Source

variable {ω : Type}

/-- The backends that came with the program. The first of a name counts. -/
def ofModules (modules : List (BackendModule ω)) : Source ω where
  provides name _ := modules.any fun module => module.name == name
  resolve name world :=
    let found := modules.find? fun module => module.name == name
    (.ok (found.map fun module => ⟨module.init, module.probe, none⟩), world)

/-- The backends in the libraries of a search path, where `library` tells which file is a library
and what it holds. The first file that is a library counts. -/
def ofLibraries (search : SearchPath)
    (library : String → Option (Except Error (Backend ω))) : Source ω where
  provides name _ := (search.candidates name).any fun file => (library file).isSome
  resolve name world :=
    match (search.candidates name).findSome? library with
    | some (.ok backend) => (.ok (some backend), world)
    | some (.error e) => (.error e, world)
    | none => (.ok none, world)

end Source

end Transceiver
