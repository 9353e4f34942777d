import Transceiver.Loader
import Transceiver.Proofs.Registry.Bindings

/-!
# The Course of Loading a Backend

Loading a backend asks the sources in order, has the backend that is found stage its descriptors,
and registers them. `Loader.Search` says how far the sources are asked and what with.
`Loader.Course` lists what can become of all this, with the calls that are made of sources and
hooks. There is a course for every loader and every name (`Loader.exists_course`), and what a course
says is what happens (`Loader.Course.ensureLoaded`).

The calls are seen by having them written down. `Loader.recorded` is a loader in which every source
and every hook does as before and adds its call to a list that goes with the world, and
`Loader.Course.recorded` says that such a loader takes the same course and has made its calls
afterwards.
-/

namespace Transceiver

variable {ω : Type}

/-! ## Records -/

/-- A call of a source or of a hook. -/
inductive HookCall where
  /-- The source at some place of the list is asked for a backend. -/
  | resolve (place : Nat) (name : String)
  /-- A backend stages its descriptors. -/
  | init
  /-- A port is looked at. -/
  | probe (port : Port)
  deriving DecidableEq, Repr

/-- A hook that writes down its calls. -/
def ProbeHook.recorded (hook : ProbeHook ω) : ProbeHook (ω × List HookCall) :=
  fun port (world, calls) =>
    let (found, world) := hook port world
    (found, world, calls ++ [.probe port])

/-- A backend whose hooks write down their calls. -/
def Backend.recorded (backend : Backend ω) : Backend (ω × List HookCall) where
  init := fun (world, calls) =>
    let (staging, world) := backend.init world
    (staging, world, calls ++ [.init])
  probe := backend.probe.map ProbeHook.recorded
  module := backend.module

/-- A source that writes down its calls, and so do the hooks of its backends. -/
def Source.recorded (source : Source ω) (place : Nat) : Source (ω × List HookCall) where
  provides name world := source.provides name world.1
  resolve name world :=
    let (answer, after) := source.resolve name world.1
    (answer.map (Option.map Backend.recorded), after, world.2 ++ [.resolve place name])

namespace Loader

/-- Sources that write down their calls, the first one under a certain place. -/
def recordedFrom (place : Nat) : List (Source ω) → List (Source (ω × List HookCall))
  | [] => []
  | source :: rest => source.recorded place :: recordedFrom (place + 1) rest

/-- The hooks that look at ports, each writing down its calls. -/
def recordedProbes (probes : List (String × ProbeHook ω)) :
    List (String × ProbeHook (ω × List HookCall)) :=
  probes.map fun (name, hook) => (name, ProbeHook.recorded hook)

/-- A loader whose sources and hooks write down their calls, of which some have been made. -/
def recorded (loader : Loader ω) (calls : List HookCall) : Loader (ω × List HookCall) where
  world := (loader.world, calls)
  registry := loader.registry
  sources := recordedFrom 0 loader.sources
  probes := recordedProbes loader.probes

/-- A hook that writes down its calls is kept exactly where the hook itself would be. -/
theorem addProbe_recorded (probes : List (String × ProbeHook ω)) (name : String)
    (probe : Option (ProbeHook ω)) :
    addProbe (recordedProbes probes) name (probe.map ProbeHook.recorded) =
      recordedProbes (addProbe probes name probe) := by
  cases probe with
  | none => rfl
  | some hook =>
    simp only [addProbe, recordedProbes, Option.map_some, List.any_map, Function.comp_def]
    split <;> simp

/-! ## Searching the sources -/

/-- Asking sources in order until one has the backend or fails: what this one answers, the world
afterwards, and how many sources are asked. If none has the backend, all of them are. -/
inductive Search (name : String) :
    List (Source ω) → ω → Except Error (Option (Backend ω)) → ω → Nat → Prop where
  | exhausted (world : ω) : Search name [] world (.ok none) world 0
  | declined {source : Source ω} {rest : List (Source ω)} {world next after : ω}
      {answer : Except Error (Option (Backend ω))} {asked : Nat} :
      source.resolve name world = (.ok none, next) → Search name rest next answer after asked →
        Search name (source :: rest) world answer after (asked + 1)
  | found {source : Source ω} {world after : ω} {backend : Backend ω} (rest : List (Source ω)) :
      source.resolve name world = (.ok (some backend), after) →
        Search name (source :: rest) world (.ok (some backend)) after 1
  | failed {source : Source ω} {world after : ω} {e : Error} (rest : List (Source ω)) :
      source.resolve name world = (.error e, after) →
        Search name (source :: rest) world (.error e) after 1

/-- The calls of the sources that are asked. -/
def resolves (name : String) (place asked : Nat) : List HookCall :=
  (List.range' place asked).map fun place => .resolve place name

variable {name : String} {sources : List (Source ω)} {world after : ω}
  {answer : Except Error (Option (Backend ω))} {asked : Nat}

/-- A search of sources always comes to an end. -/
theorem exists_search (name : String) (sources : List (Source ω)) (world : ω) :
    ∃ answer after asked, Search name sources world answer after asked := by
  induction sources generalizing world with
  | nil => exact ⟨_, _, _, .exhausted world⟩
  | cons source rest ih =>
    rcases hresolve : source.resolve name world with ⟨e | _ | backend, next⟩
    · exact ⟨_, _, _, .failed rest hresolve⟩
    · obtain ⟨answer, after, asked, hrest⟩ := ih next
      exact ⟨_, _, _, .declined hresolve hrest⟩
    · exact ⟨_, _, _, .found rest hresolve⟩

/-- The backend that a search ends with. -/
def backendOf (name : String) : Except Error (Option (Backend ω)) → Except Error (Backend ω)
  | .ok (some backend) => .ok backend
  | .ok none => .error (.load name "no source provides this backend")
  | .error e => .error e

/-- What a search ends with is what the sources are resolved to. -/
theorem Search.resolve_eq (h : Search name sources world answer after asked) :
    resolve name sources world = (backendOf name answer, after) := by
  induction h with
  | exhausted world => rfl
  | declined hresolve hrest ih => simpa only [resolve, hresolve] using ih
  | found rest hresolve => simp only [resolve, hresolve, backendOf]
  | failed rest hresolve => simp only [resolve, hresolve, backendOf]

/-- Sources that write down their calls answer as before, and write down who was asked. -/
theorem Search.recorded (h : Search name sources world answer after asked) (place : Nat)
    (calls : List HookCall) :
    Search name (recordedFrom place sources) (world, calls)
      (answer.map (Option.map Backend.recorded)) (after, calls ++ resolves name place asked)
      asked := by
  -- The place counts up with each source that is passed over.
  induction h generalizing place calls with
  | exhausted world =>
    simp only [resolves, List.range'_zero, List.map_nil, List.append_nil]
    exact .exhausted (world, calls)
  | @declined source rest world next after answer asked hresolve hrest ih =>
    have hcalls : calls ++ resolves name place (asked + 1) =
        (calls ++ [.resolve place name]) ++ resolves name (place + 1) asked := by
      simp [resolves, List.range'_succ]
    rw [hcalls]
    refine .declined ?_ (ih (place + 1) _)
    simp only [Source.recorded, hresolve]
    rfl
  | found rest hresolve =>
    refine .found _ ?_
    simp only [Source.recorded, hresolve]
    rfl
  | failed rest hresolve =>
    refine .failed _ ?_
    simp only [Source.recorded, hresolve]
    rfl

/-! ## Courses -/

/-- What becomes of loading a backend, and the calls that it takes. -/
inductive Course (loader : Loader ω) (name : String) :
    Except Error Unit → Loader ω → List HookCall → Prop where
  /-- One of its models is registered already. -/
  | registered : loader.registry.containsBackend name = true → Course loader name (.ok ()) loader []
  /-- No source has it. -/
  | missing {after : ω} {asked : Nat} :
      loader.registry.containsBackend name = false →
      Search name loader.sources loader.world (.ok none) after asked →
        Course loader name (.error (.load name "no source provides this backend"))
          { loader with world := after } (resolves name 0 asked)
  /-- A source fails. -/
  | unusable {after : ω} {asked : Nat} {e : Error} :
      loader.registry.containsBackend name = false →
      Search name loader.sources loader.world (.error e) after asked →
        Course loader name (.error e) { loader with world := after } (resolves name 0 asked)
  /-- It fails after staging some descriptors. -/
  | unstaged {found after : ω} {asked : Nat} {backend : Backend ω} {staged : List Descriptor}
      {cause : Error} :
      loader.registry.containsBackend name = false →
      Search name loader.sources loader.world (.ok (some backend)) found asked →
      backend.init found = (⟨staged, .error cause⟩, after) →
        Course loader name (.error (.load name cause.message)) { loader with world := after }
          (resolves name 0 asked ++ [.init])
  /-- Its descriptors cannot be registered. -/
  | refused {found after : ω} {asked : Nat} {backend : Backend ω} {staged : List Descriptor}
      {cause : Error} :
      loader.registry.containsBackend name = false →
      Search name loader.sources loader.world (.ok (some backend)) found asked →
      backend.init found = (⟨staged, .ok ()⟩, after) →
      loader.registry.registerBatch (backend.tag staged) = (.error cause, loader.registry) →
        Course loader name (.error (.load name cause.message)) { loader with world := after }
          (resolves name 0 asked ++ [.init])
  /-- Its descriptors are registered. -/
  | installed {found after : ω} {asked : Nat} {backend : Backend ω} {staged : List Descriptor} :
      loader.registry.containsBackend name = false →
      Search name loader.sources loader.world (.ok (some backend)) found asked →
      backend.init found = (⟨staged, .ok ()⟩, after) →
      loader.registry.Accepts (backend.tag staged) →
        Course loader name (.ok ())
          { loader with
            world := after
            registry := (backend.tag staged).foldl Registry.insert loader.registry
            probes := addProbe loader.probes name backend.probe }
          (resolves name 0 asked ++ [.init])

variable {loader next : Loader ω} {result : Except Error Unit} {calls : List HookCall}

/-- A backend that is not loaded yet is installed if a search ends with one. -/
theorem ensureLoaded_of_search (hfree : loader.registry.containsBackend name = false)
    (hsearch : Search name loader.sources loader.world answer after asked) :
    loader.ensureLoaded name =
      match backendOf name answer with
      | .error e => (.error e, { loader with world := after })
      | .ok backend => install { loader with world := after } name backend := by
  rw [Loader.ensureLoaded, hfree, hsearch.resolve_eq]
  cases backendOf name answer <;> rfl

/-- What a course says is what happens. -/
theorem Course.ensureLoaded (h : Course loader name result next calls) :
    loader.ensureLoaded name = (result, next) := by
  cases h with
  | registered hregistered => rw [Loader.ensureLoaded, if_pos hregistered]
  | missing hfree hsearch => exact ensureLoaded_of_search hfree hsearch
  | unusable hfree hsearch => exact ensureLoaded_of_search hfree hsearch
  | unstaged hfree hsearch hinit =>
    rw [ensureLoaded_of_search hfree hsearch]
    simp only [backendOf, install, hinit]
  | refused hfree hsearch hinit hbatch =>
    rw [ensureLoaded_of_search hfree hsearch]
    simp only [backendOf, install, hinit, hbatch]
  | installed hfree hsearch hinit haccepts =>
    rw [ensureLoaded_of_search hfree hsearch]
    simp only [backendOf, install, hinit, Registry.registerBatch_of_accepts haccepts]

/-- There is always a course to take. -/
theorem exists_course (loader : Loader ω) (name : String) :
    ∃ result next calls, Course loader name result next calls := by
  cases hregistered : loader.registry.containsBackend name with
  | true => exact ⟨_, _, _, .registered hregistered⟩
  | false =>
    obtain ⟨answer, found, asked, hsearch⟩ := exists_search name loader.sources loader.world
    rcases answer with e | _ | backend
    · exact ⟨_, _, _, .unusable hregistered hsearch⟩
    · exact ⟨_, _, _, .missing hregistered hsearch⟩
    · rcases hinit : backend.init found with ⟨⟨staged, cause | ⟨⟩⟩, after⟩
      · exact ⟨_, _, _, .unstaged hregistered hsearch hinit⟩
      · by_cases haccepts : loader.registry.Accepts (backend.tag staged)
        · exact ⟨_, _, _, .installed hregistered hsearch hinit haccepts⟩
        · obtain ⟨descriptor, -, hbatch⟩ := Registry.registerBatch_of_not_accepts haccepts
          exact ⟨_, _, _, .refused hregistered hsearch hinit hbatch⟩

/-- A loader that keeps a record takes the same course, and has recorded its calls afterwards. -/
theorem Course.recorded (h : Course loader name result next calls) (before : List HookCall) :
    Course (loader.recorded before) name result (next.recorded (before ++ calls)) calls := by
  -- The search adds its calls to the record first, and then the initial hook adds its own.
  cases h with
  | registered hregistered =>
    rw [List.append_nil]
    exact .registered hregistered
  | missing hfree hsearch => exact .missing hfree (hsearch.recorded 0 before)
  | unusable hfree hsearch => exact .unusable hfree (hsearch.recorded 0 before)
  | @unstaged found after asked backend staged cause hfree hsearch hinit =>
    rw [← List.append_assoc]
    have hrecorded : backend.recorded.init (found, before ++ resolves name 0 asked) =
        (⟨staged, .error cause⟩, after, before ++ resolves name 0 asked ++ [.init]) := by
      simp only [Backend.recorded, hinit]
    exact .unstaged hfree (hsearch.recorded 0 before) hrecorded
  | @refused found after asked backend staged cause hfree hsearch hinit hbatch =>
    rw [← List.append_assoc]
    have hrecorded : backend.recorded.init (found, before ++ resolves name 0 asked) =
        (⟨staged, .ok ()⟩, after, before ++ resolves name 0 asked ++ [.init]) := by
      simp only [Backend.recorded, hinit]
    exact .refused hfree (hsearch.recorded 0 before) hrecorded hbatch
  | @installed found after asked backend staged hfree hsearch hinit haccepts =>
    rw [← List.append_assoc]
    have hrecorded : backend.recorded.init (found, before ++ resolves name 0 asked) =
        (⟨staged, .ok ()⟩, after, before ++ resolves name 0 asked ++ [.init]) := by
      simp only [Backend.recorded, hinit]
    have hcourse : Course (loader.recorded before) name (.ok ()) _ _ :=
      .installed hfree (hsearch.recorded 0 before) hrecorded haccepts
    have hprobes : addProbe (loader.recorded before).probes name backend.recorded.probe =
        recordedProbes (addProbe loader.probes name backend.probe) :=
      addProbe_recorded loader.probes name backend.probe
    rwa [hprobes] at hcourse

end Loader

end Transceiver
