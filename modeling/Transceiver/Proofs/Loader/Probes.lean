import Transceiver.Proofs.Loader.LoadAll
import Transceiver.Proofs.Registry.Refinement

/-!
# The Hooks That Look at Ports

A loader keeps the hooks that look at ports. One comes with a backend that is really loaded, and
`Loader.history` lists those that came in a run. What is kept is the first hook of each backend, in
the order in which they came (`Loader.probes_run`), whatever is unregistered in between.

Looks at ports are seen by having them written down, as in `Loader.watched`. One look after the
other is taken, by `Loader.probeEach` with every hook and by `Loader.probeAll` up to the first that
finds a radio.

## Main statement

* `Loader.run_probes`: which hooks are kept after a run, and how they look at a port.
-/

namespace Transceiver

variable {ω : Type}

namespace Loader

/-! ## Runs -/

/-- What can be done with a loader and its registry. -/
inductive Action (ω : Type) where
  | ensureLoaded (name : String)
  | checkBackend (id : ModelId)
  | loadAll
  | change (change : Registry.Change)
  /-- The world changes for some other reason, such as a look at a port. -/
  | elsewhere (world : ω)

/-- Takes an action, whether or not it succeeds. -/
def step (loader : Loader ω) : Action ω → Loader ω
  | .ensureLoaded name => (loader.ensureLoaded name).2
  | .checkBackend id => (loader.checkBackend id).2
  | .loadAll => loader.loadAll.2
  | .change change => { loader with registry := (loader.registry.apply change).2 }
  | .elsewhere world => { loader with world }

/-- Takes actions in order. -/
def run (loader : Loader ω) (actions : List (Action ω)) : Loader ω :=
  actions.foldl step loader

/-! ## Which hooks come -/

/-- The hook that comes with a backend, under its name, if the backend is really loaded: none of its
models is registered, the sources have it, and the whole succeeds. -/
def arrival (loader : Loader ω) (name : String) : List (String × ProbeHook ω) :=
  if loader.registry.containsBackend name then []
  else
    match resolve name loader.sources loader.world, (loader.ensureLoaded name).1 with
    | (.ok backend, _), .ok () => (backend.probe.map fun hook => (name, hook)).toList
    | _, _ => []

/-- The hooks that come when backends are tried one after the other, as far as they are offered. -/
def arrivalsInTurn (loader : Loader ω) : List String → List (String × ProbeHook ω)
  | [] => []
  | name :: names =>
    (if loader.provides name then loader.arrival name else []) ++
      (tryLoad ({}, loader) name).2.arrivalsInTurn names

/-- The hooks that come with an action. -/
def arrivals (loader : Loader ω) : Action ω → List (String × ProbeHook ω)
  | .ensureLoaded name => loader.arrival name
  | .checkBackend id => (backendName id.backendNumber).elim [] loader.arrival
  | .loadAll => loader.arrivalsInTurn knownBackends
  | .change _ | .elsewhere _ => []

/-- The hooks that come in a run, the first one first. -/
def history (loader : Loader ω) : List (Action ω) → List (String × ProbeHook ω)
  | [] => []
  | action :: actions => loader.arrivals action ++ (loader.step action).history actions

/-- The first entry of each name, in the order of the entries. -/
def firsts {α : Type} : List (String × α) → List (String × α)
  | [] => []
  | entry :: entries => entry :: (firsts entries).filter fun other => other.1 ≠ entry.1

/-- No name has two first entries. -/
theorem nodup_map_fst_firsts {α : Type} (entries : List (String × α)) :
    ((firsts entries).map Prod.fst).Nodup := by
  induction entries with
  | nil => exact .nil
  | cons entry entries ih =>
    rw [firsts, List.map_cons, List.nodup_cons]
    exact ⟨by simp, ih.sublist (List.filter_sublist.map Prod.fst)⟩

/-! ## Which hooks are kept -/

/-- The hooks that are kept once another one has come. -/
def keep (probes : List (String × ProbeHook ω)) (entry : String × ProbeHook ω) :
    List (String × ProbeHook ω) :=
  addProbe probes entry.1 (some entry.2)

/-- A hook whose name is there already is not kept. -/
theorem keep_of_mem {probes : List (String × ProbeHook ω)} {entry : String × ProbeHook ω}
    (h : entry.1 ∈ probes.map Prod.fst) : keep probes entry = probes := by
  have hpresent : (probes.any fun other => other.1 == entry.1) = true := by simpa using h
  rw [keep, addProbe, if_pos hpresent]

/-- A hook of a new name is kept behind the others. -/
theorem keep_of_not_mem {probes : List (String × ProbeHook ω)} {entry : String × ProbeHook ω}
    (h : entry.1 ∉ probes.map Prod.fst) : keep probes entry = probes ++ [entry] := by
  have habsent : ¬ (probes.any fun other => other.1 == entry.1) = true := by simpa using h
  rw [keep, addProbe, if_neg habsent]

/-- Of the hooks that come, those are kept which are the first of a new name. -/
theorem foldl_keep (probes entries : List (String × ProbeHook ω)) :
    entries.foldl keep probes =
      probes ++ (firsts entries).filter fun entry => entry.1 ∉ probes.map Prod.fst := by
  induction entries generalizing probes with
  | nil => simp [firsts]
  | cons entry entries ih =>
    rw [List.foldl_cons, ih, firsts]
    by_cases hmem : entry.1 ∈ probes.map Prod.fst
    · -- The hook is one of a name that is there already, so it is left out on both sides.
      rw [keep_of_mem hmem, List.filter_cons_of_neg (by simpa using hmem), List.filter_filter]
      congr 1
      refine List.filter_congr fun other _ => ?_
      by_cases hother : other.1 = entry.1 <;> simp [hother, hmem]
    · rw [keep_of_not_mem hmem, List.filter_cons_of_pos (by simpa using hmem), List.filter_filter,
        List.append_assoc, List.singleton_append]
      congr 2
      refine List.filter_congr fun other _ => ?_
      by_cases hother : other.1 = entry.1 <;> simp [hother, hmem]

variable {loader next : Loader ω} {name : String} {fate : Fate} {result : Except Error Unit}
  {calls : List HookCall}

/-- Loading a backend keeps the hook that comes with it. -/
theorem Course.probes_eq (h : Course loader name result next calls) :
    next.probes = (loader.arrival name).foldl keep loader.probes := by
  have hensure := h.ensureLoaded
  rw [arrival]
  cases h with
  | registered hregistered => simp [hregistered]
  | missing hfree hsearch => simp [hfree, hsearch.resolve_eq, backendOf]
  | unusable hfree hsearch => simp [hfree, hsearch.resolve_eq, backendOf]
  | unstaged hfree hsearch hinit => simp [hfree, hsearch.resolve_eq, backendOf, hensure]
  | refused hfree hsearch hinit hbatch => simp [hfree, hsearch.resolve_eq, backendOf, hensure]
  | @installed _ _ _ backend _ hfree hsearch hinit haccepts =>
    simp only [hfree, hsearch.resolve_eq, backendOf, hensure]
    cases backend.probe <;> rfl

/-- Loading a backend keeps the hook that comes with it, if one does. -/
theorem probes_ensureLoaded (loader : Loader ω) (name : String) :
    (loader.ensureLoaded name).2.probes = (loader.arrival name).foldl keep loader.probes := by
  obtain ⟨result, next, calls, hcourse⟩ := loader.exists_course name
  rw [hcourse.ensureLoaded]
  exact hcourse.probes_eq

/-- At most one hook comes with a backend, and under its name. -/
theorem arrival_cases (loader : Loader ω) (name : String) :
    loader.arrival name = [] ∨ ∃ hook, loader.arrival name = [(name, hook)] := by
  rw [arrival]
  split
  · exact .inl rfl
  · split
    next backend _ _ _ =>
      cases backend.probe with
      | none => exact .inl rfl
      | some hook => exact .inr ⟨hook, rfl⟩
    next => exact .inl rfl

/-- A backend that has a hook brings no second one. -/
theorem foldl_keep_arrival (loader : Loader ω) {probes : List (String × ProbeHook ω)}
    (h : name ∈ probes.map Prod.fst) : (loader.arrival name).foldl keep probes = probes := by
  rcases loader.arrival_cases name with hnone | ⟨hook, hsome⟩
  · rw [hnone, List.foldl_nil]
  · rw [hsome, List.foldl_cons, List.foldl_nil]
    exact keep_of_mem h

/-- A turn keeps the hook that comes with the backend, if this is on offer. -/
theorem Turn.probes_eq (h : Turn loader name fate calls next) :
    next.probes =
      (if loader.provides name then loader.arrival name else []).foldl keep loader.probes := by
  cases h with
  | unavailable hoffers =>
    rw [if_neg (mt provides_iff.mp hoffers)]
    rfl
  | tried hoffers hensure hrecorded =>
    rw [if_pos (provides_iff.mpr hoffers)]
    exact (course_of_ensureLoaded hensure hrecorded).probes_eq

/-- Turns keep the hooks that come in them, in their order. -/
theorem probes_foldl_tryLoad (names : List String) (report : LoadReport) (loader : Loader ω) :
    (names.foldl tryLoad (report, loader)).2.probes =
      (loader.arrivalsInTurn names).foldl keep loader.probes := by
  induction names generalizing report loader with
  | nil => rfl
  | cons name names ih =>
    -- What has been reported so far does not matter to the loader.
    obtain ⟨fate, calls, next, hturn⟩ := loader.exists_turn name
    rw [List.foldl_cons, hturn.tryLoad_eq, ih, arrivalsInTurn, hturn.tryLoad_eq, List.foldl_append,
      hturn.probes_eq]

/-- Every action keeps the hooks that come with it, and no action drops one. -/
theorem probes_step (loader : Loader ω) (action : Action ω) :
    (loader.step action).probes = (loader.arrivals action).foldl keep loader.probes := by
  cases action with
  | ensureLoaded name => exact loader.probes_ensureLoaded name
  | checkBackend id =>
    rw [step, checkBackend, arrivals]
    cases backendName id.backendNumber with
    | none => rfl
    | some name => exact loader.probes_ensureLoaded name
  | loadAll =>
    rw [step, loadAll, arrivals, probes_foldl_tryLoad]
  | change change => rfl
  | elsewhere world => rfl

/-- A run keeps the hooks that come in it, the first of each name. -/
theorem probes_run (loader : Loader ω) (actions : List (Action ω)) :
    (loader.run actions).probes = (loader.history actions).foldl keep loader.probes := by
  induction actions generalizing loader with
  | nil => rfl
  | cons action actions ih =>
    rw [history, List.foldl_append, ← probes_step]
    exact ih (loader.step action)

/-! ## Looks at ports -/

end Loader

/-- A look at a port by the hook of a backend. -/
structure Look where
  /-- The name of the backend. -/
  name : String
  port : Port
  found : Option ModelId
  deriving DecidableEq, Repr

namespace Look

/-- The radio that a look found, under the name of the backend. -/
def hit (look : Look) : Option (String × ModelId) :=
  look.found.map fun id => (look.name, id)

/-- The looks up to and including the first that found a radio. -/
def upToHit : List Look → List Look
  | [] => []
  | look :: looks => if look.found.isSome then [look] else look :: upToHit looks

end Look

/-- A hook that writes down its looks under the name of its backend. -/
def ProbeHook.watched (hook : ProbeHook ω) (name : String) : ProbeHook (ω × List Look) :=
  fun port (world, looks) =>
    let (found, world) := hook port world
    (found, world, looks ++ [⟨name, port, found⟩])

/-- A backend whose looks at ports are written down. -/
def Backend.watched (backend : Backend ω) (name : String) : Backend (ω × List Look) where
  init := fun (world, looks) =>
    let (staging, world) := backend.init world
    (staging, world, looks)
  probe := backend.probe.map fun hook => hook.watched name
  module := backend.module

/-- A source with backends whose looks at ports are written down. -/
def Source.watched (source : Source ω) : Source (ω × List Look) where
  provides name world := source.provides name world.1
  resolve name world :=
    let (answer, after) := source.resolve name world.1
    (answer.map (Option.map fun backend => backend.watched name), after, world.2)

namespace Loader

/-- Hooks that write down their looks. -/
def watchedProbes (probes : List (String × ProbeHook ω)) :
    List (String × ProbeHook (ω × List Look)) :=
  probes.map fun (name, hook) => (name, ProbeHook.watched hook name)

/-- A loader whose hooks write down their looks, of which some have been taken. -/
def watched (loader : Loader ω) (looks : List Look) : Loader (ω × List Look) where
  world := (loader.world, looks)
  registry := loader.registry
  sources := loader.sources.map Source.watched
  probes := watchedProbes loader.probes

/-- The looks of hooks at a port, one after the other, in a world that they may change. -/
def looks (port : Port) : List (String × ProbeHook ω) → ω → List Look
  | [], _ => []
  | (name, hook) :: rest, world =>
    ⟨name, port, (hook port world).1⟩ :: looks port rest (hook port world).2

section Looks

variable (port : Port) (probes : List (String × ProbeHook ω)) (world : ω)

/-- Every hook looks, in order. -/
theorem map_name_looks : (looks port probes world).map Look.name = probes.map Prod.fst := by
  induction probes generalizing world with
  | nil => rfl
  | cons entry rest ih => rw [looks, List.map_cons, List.map_cons, ih]

/-- All hooks look at the same port. -/
theorem port_of_mem_looks {look : Look} (h : look ∈ looks port probes world) :
    look.port = port := by
  induction probes generalizing world with
  | nil => cases h
  | cons entry rest ih =>
    rcases List.mem_cons.mp h with rfl | hrest
    · rfl
    · exact ih _ hrest

/-- What is listed is what the looks found. -/
theorem fst_probeList :
    (probeList port probes world).1 = (looks port probes world).filterMap Look.hit := by
  induction probes generalizing world with
  | nil => rfl
  | cons entry rest ih =>
    obtain ⟨name, hook⟩ := entry
    rw [looks, List.filterMap_cons, probeList, ← ih]
    dsimp only [Look.hit]
    cases (hook port world).1 <;> rfl

/-- The radio that is found first is the first one that would be listed. -/
theorem fst_probeFirst :
    (probeFirst port probes world).1 = (probeList port probes world).1.head?.map Prod.snd := by
  induction probes generalizing world with
  | nil => rfl
  | cons entry rest ih =>
    obtain ⟨name, hook⟩ := entry
    rw [probeFirst, probeList]
    rcases hook port world with ⟨_ | id, after⟩
    · exact ih after
    · rfl

/-- Looking with every hook writes down a look for each. -/
theorem probeList_watchedProbes (before : List Look) :
    probeList port (watchedProbes probes) (world, before) =
      ((probeList port probes world).1, (probeList port probes world).2,
        before ++ looks port probes world) := by
  induction probes generalizing world before with
  | nil => simp [watchedProbes, probeList, looks]
  | cons entry rest ih =>
    obtain ⟨name, hook⟩ := entry
    have hrest := ih (hook port world).2 (before ++ [⟨name, port, (hook port world).1⟩])
    rw [List.append_assoc, List.singleton_append] at hrest
    rw [looks]
    simp only [watchedProbes, List.map_cons, probeList, ProbeHook.watched] at hrest ⊢
    rw [hrest]

/-- Looking for one radio writes down the looks up to the first that finds one. -/
theorem probeFirst_watchedProbes (before : List Look) :
    probeFirst port (watchedProbes probes) (world, before) =
      ((probeFirst port probes world).1, (probeFirst port probes world).2,
        before ++ Look.upToHit (looks port probes world)) := by
  induction probes generalizing world before with
  | nil => simp [watchedProbes, probeFirst, looks, Look.upToHit]
  | cons entry rest ih =>
    obtain ⟨name, hook⟩ := entry
    rw [looks, Look.upToHit]
    simp only [watchedProbes, List.map_cons, probeFirst, ProbeHook.watched] at ih ⊢
    rcases hook port world with ⟨_ | id, after⟩
    · simp [ih]
    · rfl

end Looks

/-- After every run the hooks that are kept are the first of each backend that came, in the order in
which they came, and there is one for each. A load that fails keeps none, none is ever dropped, and
a backend that has one brings no second one when it is loaded again after a shutdown. Every hook
looks at a port once and in that order, and the hits are listed. Looking for one radio stops at the
first hit, and finds what is listed first. -/
theorem run_probes (world : ω) (registry : Registry) (sources : List (Source ω))
    (actions : List (Action ω)) :
    let start : Loader ω := { world, registry, sources }
    let loader := start.run actions
    ((loader.probes.map Prod.fst).Nodup ∧ loader.probes = firsts (start.history actions)) ∧
    (∀ name e, (loader.ensureLoaded name).1 = .error e →
      (loader.ensureLoaded name).2.probes = loader.probes) ∧
    (∀ later, loader.probes <+: (loader.run later).probes) ∧
    (∀ name ∈ loader.probes.map Prod.fst,
      ((loader.step (.change .shutdown)).ensureLoaded name).2.probes = loader.probes) ∧
    ∀ port, ∃ looks,
      (loader.watched []).probeEach port =
        ((loader.probeEach port).1, (loader.probeEach port).2.watched looks) ∧
      looks.map Look.name = loader.probes.map Prod.fst ∧ (∀ look ∈ looks, look.port = port) ∧
      (loader.probeEach port).1 = looks.filterMap Look.hit ∧
      (loader.watched []).probeAll port =
        ((loader.probeAll port).1, (loader.probeAll port).2.watched (Look.upToHit looks)) ∧
      (loader.probeAll port).1 = (loader.probeEach port).1.head?.map Prod.snd := by
  intro start loader
  -- A loader starts without hooks, so what is kept are the first of all that came.
  have hkept : loader.probes = firsts (start.history actions) := by
    have hrun := start.probes_run actions
    rw [foldl_keep] at hrun
    simpa [start] using hrun
  refine ⟨⟨?_, hkept⟩, fun name e herror => ?_, fun later => ?_, fun name hmem => ?_,
    fun port => ?_⟩
  · rw [hkept]
    exact nodup_map_fst_firsts _
  · obtain ⟨result, next, calls, hcourse⟩ := loader.exists_course name
    rw [hcourse.ensureLoaded] at herror ⊢
    obtain rfl : result = .error e := herror
    exact hcourse.of_error.2
  · rw [loader.probes_run later, foldl_keep]
    exact List.prefix_append _ _
  · rw [probes_ensureLoaded]
    exact foldl_keep_arrival _ hmem
  · have heach := probeList_watchedProbes port loader.probes loader.world []
    have hall := probeFirst_watchedProbes port loader.probes loader.world []
    rw [List.nil_append] at heach hall
    refine ⟨looks port loader.probes loader.world, ?_, map_name_looks port _ _,
      fun look => port_of_mem_looks port _ _, ?_, ?_, ?_⟩
    · simp only [probeEach, watched, heach]
    · exact fst_probeList port loader.probes loader.world
    · simp only [probeAll, watched, hall]
    · exact fst_probeFirst port loader.probes loader.world

/-- A backend keeps its place when it is loaded again after a shutdown. -/
example :
    let kenwood : DeclaredBackend := ⟨"kenwood", [Models.ft857], some [], none, none⟩
    let yaesu : DeclaredBackend := ⟨"yaesu", [Models.ft817], some [], none, none⟩
    let loader : Loader Journal :=
      { world := [], sources := [DeclaredBackend.source [kenwood, yaesu] false] }
    let actions := [.ensureLoaded "yaesu", .loadAll, .change .shutdown, .ensureLoaded "kenwood"]
    (loader.history actions).map Prod.fst = ["yaesu", "kenwood", "kenwood"] ∧
      (loader.run actions).probes.map Prod.fst = ["yaesu", "kenwood"] := by
  decide +kernel

end Loader

end Transceiver
