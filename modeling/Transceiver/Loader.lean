import Transceiver.Backend
import Transceiver.Builder
import Transceiver.Models
import Transceiver.Registry

/-!
# Loading Backends

A loader fills a registry from an ordered list of sources. A backend is loaded when one of its
models is asked for: the first source that has it counts, its hook stages the descriptors, and they
are registered as a whole. A failure leaves the registry as it was. The hooks that look at ports are
kept in the order in which their backends were first loaded.

## Main definitions

* `Loader.ensureLoaded`: loads a backend unless one of its models is registered;
* `Loader.loadAll`: tries every known backend;
* `Loader.probeAll` and `Loader.probeEach`: look for a radio at a port;
* `Loader.openRig` and `Loader.supportedRigs`: what a program starts with.
-/

namespace Transceiver

/-- A registry with the sources it is filled from. -/
structure Loader (ω : Type) where
  /-- The world that hooks and sources act on. -/
  world : ω
  registry : Registry := default
  /-- Where backends are found, in the order in which they are asked. -/
  sources : List (Source ω) := []
  /-- The hooks that look at ports, with the names of their backends. -/
  probes : List (String × ProbeHook ω) := []

/-- What became of each known backend. -/
structure LoadReport where
  loaded : List String := []
  unavailable : List String := []
  /-- The backends that could not be loaded, and why. -/
  failed : List (String × Error) := []
  deriving DecidableEq, Repr

/-- No backend failed. -/
def LoadReport.isClean (report : LoadReport) : Bool :=
  report.failed.isEmpty

namespace Loader

variable {ω : Type}

/-- Appends a source. -/
def withSource (loader : Loader ω) (source : Source ω) : Loader ω :=
  { loader with sources := loader.sources ++ [source] }

/-! ## Loading one backend -/

/-- Asks sources in order until one has the backend or fails. -/
def resolve (name : String) : List (Source ω) → ω → Except Error (Backend ω) × ω
  | [], world => (.error (.load name "no source provides this backend"), world)
  | source :: rest, world =>
    match source.resolve name world with
    | (.ok (some backend), world) => (.ok backend, world)
    | (.ok none, world) => resolve name rest world
    | (.error e, world) => (.error e, world)

/-- The hooks that look at ports, with that of one more backend at the end unless it is there. -/
def addProbe (probes : List (String × ProbeHook ω)) (name : String)
    (probe : Option (ProbeHook ω)) : List (String × ProbeHook ω) :=
  match probe with
  | some hook =>
    if probes.any fun entry => entry.1 == name then probes else probes ++ [(name, hook)]
  | none => probes

/-- Has a backend stage its descriptors and registers them. -/
def install (loader : Loader ω) (name : String) (backend : Backend ω) :
    Except Error Unit × Loader ω :=
  let (staging, world) := backend.init loader.world
  match staging.result with
  -- What a failing hook has staged is dropped.
  | .error e => (.error (.load name e.message), { loader with world })
  | .ok () =>
    match loader.registry.registerBatch (backend.tag staging.descriptors) with
    | (.error e, registry) => (.error (.load name e.message), { loader with world, registry })
    | (.ok (), registry) =>
      (.ok (),
        { loader with world, registry, probes := addProbe loader.probes name backend.probe })

/-- Loads a backend, unless one of its models is registered. -/
def ensureLoaded (loader : Loader ω) (name : String) : Except Error Unit × Loader ω :=
  if loader.registry.containsBackend name then (.ok (), loader)
  else
    match resolve name loader.sources loader.world with
    -- A source words its own failures, so this one is passed on as it is.
    | (.error e, world) => (.error e, { loader with world })
    | (.ok backend, world) => install { loader with world } name backend

/-- Loads the backend that owns a model. -/
def checkBackend (loader : Loader ω) (id : ModelId) : Except Error Unit × Loader ω :=
  match backendName id.backendNumber with
  | some name => loader.ensureLoaded name
  | none => (.error (.load (toString id.backendNumber) "unknown backend number"), loader)

/-! ## Loading every backend -/

/-- A backend is loaded or some source has it. -/
def provides (loader : Loader ω) (name : String) : Bool :=
  loader.registry.containsBackend name ||
    loader.sources.any fun source => source.provides name loader.world

/-- Tries to load one backend, and adds what became of it to the report. -/
def tryLoad (progress : LoadReport × Loader ω) (name : String) : LoadReport × Loader ω :=
  let (report, loader) := progress
  if loader.provides name then
    match loader.ensureLoaded name with
    | (.ok (), loader) => ({ report with loaded := report.loaded ++ [name] }, loader)
    | (.error e, loader) => ({ report with failed := report.failed ++ [(name, e)] }, loader)
  else ({ report with unavailable := report.unavailable ++ [name] }, loader)

/-- Tries to load every known backend. -/
def loadAll (loader : Loader ω) : LoadReport × Loader ω :=
  knownBackends.foldl tryLoad ({}, loader)

/-- Every model that is registered once all known backends have been tried. -/
def supportedRigs (loader : Loader ω) : List RigInfo × Loader ω :=
  let (_, loader) := loader.loadAll
  (loader.registry.descriptors.map Descriptor.info, loader)

/-! ## Looking at ports -/

/-- Has hooks look at a port until one finds a radio. -/
def probeFirst (port : Port) : List (String × ProbeHook ω) → ω → Option ModelId × ω
  | [], world => (none, world)
  | (_, hook) :: rest, world =>
    match hook port world with
    | (some id, world) => (some id, world)
    | (none, world) => probeFirst port rest world

/-- Has every hook look at a port, and lists what they find. -/
def probeList (port : Port) : List (String × ProbeHook ω) → ω → List (String × ModelId) × ω
  | [], world => ([], world)
  | (name, hook) :: rest, world =>
    let (found, world) := hook port world
    let (others, world) := probeList port rest world
    ((found.map fun id => (name, id)).toList ++ others, world)

/-- Looks for a radio at a port. The first one found counts. -/
def probeAll (loader : Loader ω) (port : Port) : Option ModelId × Loader ω :=
  let (found, world) := probeFirst port loader.probes loader.world
  (found, { loader with world })

/-- Looks for radios at a port with every hook. -/
def probeEach (loader : Loader ω) (port : Port) : List (String × ModelId) × Loader ω :=
  let (found, world) := probeList port loader.probes loader.world
  (found, { loader with world })

/-! ## Starting a program -/

/-- Loads the backend of a model and opens the model on a port with the settings it came with. -/
def openRig {σ : Type} (loader : Loader ω) (id : ModelId) (port : String)
    (openPort : PortOpener σ) : Except Error (Driver σ) × Loader ω :=
  match loader.checkBackend id with
  | (.error e, loader) => (.error e, loader)
  | (.ok (), loader) =>
    match loader.registry.lookup id with
    -- The backend is loaded, but has no such model.
    | none => (.error (.notRegistered id), loader)
    | some descriptor => ((Builder.mk descriptor (some port) none).build openPort, loader)

/-- The text of a loader. -/
def describe (loader : Loader ω) : String :=
  s!"BackendLoader \x7b sources: {loader.sources.length}, registry: " ++
    loader.registry.describe ++ " \x7d"

end Loader

/-! ## The backends that come with the program -/

/-- The backend of the FT-817, FT-857 and FT-897. They cannot be asked who they are, so it does not
look at ports. -/
def nativeBackend (ω : Type) : BackendModule ω where
  name := "yaesu"
  init world := (⟨Models.all, .ok ()⟩, world)
  probe := none

/-- Every backend that comes with the program. -/
def builtinBackends (ω : Type) : List (BackendModule ω) :=
  [nativeBackend ω]

/-- A loader with an empty registry and the backends that come with the program. -/
def Loader.builtin {ω : Type} (world : ω) : Loader ω where
  world
  sources := [.ofModules (builtinBackends ω)]

end Transceiver
