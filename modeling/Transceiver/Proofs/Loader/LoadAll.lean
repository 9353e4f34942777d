import Transceiver.Proofs.Loader.Outcome
import Transceiver.Proofs.Loader.Repetition

/-!
# Loading Every Backend

The known backends are tried one after the other, each with the registry that the earlier ones have
left. `Loader.Turn` says what becomes of a backend when it is its turn, and `Loader.Turns` says it
of a list of backends. There are turns for every loader (`Loader.exists_turns`), and the report
lists what they come to (`Loader.Turns.foldl_tryLoad`).

A backend that fails has changed the world and nothing else. If the sources are steady, the world
does not decide about anything, so the registry and the hooks that look at ports are in the end as
if only the backends that were loaded had been tried (`Loader.Turns.exists_loadEach_eq`).

## Main statement

* `Loader.loadAll_outcome`: what becomes of the known backends, and what is registered then.
-/

namespace Transceiver

variable {ω : Type}

/-! ## Reports -/

/-- What becomes of a backend when it is its turn. -/
inductive Fate where
  | loaded
  | unavailable
  | failed (e : Error)
  deriving DecidableEq, Repr

/-- A backend that is tried is loaded or fails. -/
def Fate.ofResult : Except Error Unit → Fate
  | .ok () => .loaded
  | .error e => .failed e

namespace LoadReport

/-- One report is continued by another. -/
instance : Append LoadReport where
  append before after :=
    { loaded := before.loaded ++ after.loaded
      unavailable := before.unavailable ++ after.unavailable
      failed := before.failed ++ after.failed }

/-- A report is continued list by list. -/
theorem append_def (before after : LoadReport) :
    before ++ after =
      { loaded := before.loaded ++ after.loaded
        unavailable := before.unavailable ++ after.unavailable
        failed := before.failed ++ after.failed } :=
  rfl

/-- It does not matter how continued reports are put together. -/
theorem append_assoc (first second third : LoadReport) :
    first ++ second ++ third = first ++ (second ++ third) := by
  simp only [append_def, List.append_assoc]

/-- The report of what became of backends, in the order of their turns. -/
def ofFates (fates : List (String × Fate)) : LoadReport where
  loaded := fates.filterMap fun
    | (name, .loaded) => some name
    | _ => none
  unavailable := fates.filterMap fun
    | (name, .unavailable) => some name
    | _ => none
  failed := fates.filterMap fun
    | (name, .failed e) => some (name, e)
    | _ => none

/-- The report of two groups of backends is that of the first, continued by that of the second. -/
theorem ofFates_append (before after : List (String × Fate)) :
    ofFates (before ++ after) = ofFates before ++ ofFates after := by
  simp only [ofFates, append_def, List.filterMap_append]

/-- The names in a report, those that were loaded first. -/
def names (report : LoadReport) : List String :=
  report.loaded ++ report.unavailable ++ report.failed.map Prod.fst

/-- Every name is in one of the lists. -/
theorem names_ofFates (fates : List (String × Fate)) :
    (ofFates fates).names.Perm (fates.map Prod.fst) := by
  -- The name of a turn stands in front of the one list that gets it.
  induction fates with
  | nil => exact .nil
  | cons entry fates ih =>
    obtain ⟨name, fate⟩ := entry
    cases fate with
    | loaded => exact ih.cons name
    | unavailable =>
      have hmiddle : (ofFates ((name, .unavailable) :: fates)).names.Perm
          (name :: (ofFates fates).names) := List.perm_middle.append_right _
      exact hmiddle.trans (ih.cons name)
    | failed e =>
      have hmiddle : (ofFates ((name, .failed e) :: fates)).names.Perm
          (name :: (ofFates fates).names) := List.perm_middle
      exact hmiddle.trans (ih.cons name)

/-- The lists are in the order of the turns. -/
theorem sublists_ofFates (fates : List (String × Fate)) :
    (ofFates fates).loaded.Sublist (fates.map Prod.fst) ∧
      (ofFates fates).unavailable.Sublist (fates.map Prod.fst) ∧
      ((ofFates fates).failed.map Prod.fst).Sublist (fates.map Prod.fst) := by
  induction fates with
  | nil => exact ⟨.slnil, .slnil, .slnil⟩
  | cons entry fates ih =>
    obtain ⟨name, fate⟩ := entry
    obtain ⟨hloaded, hunavailable, hfailed⟩ := ih
    cases fate with
    | loaded => exact ⟨hloaded.cons_cons name, hunavailable.cons name, hfailed.cons name⟩
    | unavailable => exact ⟨hloaded.cons name, hunavailable.cons_cons name, hfailed.cons name⟩
    | failed e => exact ⟨hloaded.cons name, hunavailable.cons name, hfailed.cons_cons name⟩

end LoadReport

namespace Loader

/-! ## Turns -/

/-- A model of the backend is registered, or some source has the backend. -/
def Offers (loader : Loader ω) (name : String) : Prop :=
  (∃ descriptor ∈ loader.registry.descriptors, descriptor.backend = name) ∨
    ∃ source ∈ loader.sources, source.provides name loader.world = true

/-- The loader's own test for a backend that is on offer. -/
theorem provides_iff {loader : Loader ω} {name : String} :
    loader.provides name = true ↔ loader.Offers name := by
  simp [provides, Offers, Registry.containsBackend]

/-- What becomes of a backend at its turn, the calls that this takes, and the loader afterwards. -/
inductive Turn (loader : Loader ω) (name : String) :
    Fate → List HookCall → Loader ω → Prop where
  /-- Nothing is called, and the loader stays as it is. -/
  | unavailable : ¬ loader.Offers name → Turn loader name .unavailable [] loader
  /-- It is loaded, once. The calls are those that this takes. -/
  | tried {result : Except Error Unit} {next : Loader ω} {calls : List HookCall} :
      loader.Offers name → loader.ensureLoaded name = (result, next) →
      (loader.recorded []).ensureLoaded name = (result, next.recorded calls) →
        Turn loader name (.ofResult result) calls next

/-- What becomes of backends that have their turns one after the other. -/
inductive Turns :
    Loader ω → List String → List (String × Fate) → List HookCall → Loader ω → Prop where
  | nil (loader : Loader ω) : Turns loader [] [] [] loader
  | cons {loader next last : Loader ω} {name : String} {names : List String} {fate : Fate}
      {fates : List (String × Fate)} {calls more : List HookCall} :
      Turn loader name fate calls next → Turns next names fates more last →
        Turns loader (name :: names) ((name, fate) :: fates) (calls ++ more) last

variable {loader next last : Loader ω} {name : String} {names : List String} {fate : Fate}
  {fates : List (String × Fate)} {result : Except Error Unit} {calls : List HookCall}

/-- The one course of loading a backend is the one that was taken. -/
theorem course_of_ensureLoaded (hensure : loader.ensureLoaded name = (result, next))
    (hrecorded : (loader.recorded []).ensureLoaded name = (result, next.recorded calls)) :
    Course loader name result next calls := by
  obtain ⟨_, _, calls', hcourse⟩ := loader.exists_course name
  obtain ⟨rfl, rfl⟩ := Prod.mk.inj (hensure.symm.trans hcourse.ensureLoaded)
  have hsame : (result, next.recorded calls) = (result, next.recorded calls') :=
    hrecorded.symm.trans (hcourse.recorded []).ensureLoaded
  have hcalls : calls = calls' := congrArg (fun outcome => outcome.2.world.2) hsame
  rwa [hcalls]

/-- Loading a backend that is on offer makes up its turn. -/
theorem Turn.of_course (hoffers : loader.Offers name)
    (hcourse : Course loader name result next calls) :
    Turn loader name (.ofResult result) calls next :=
  .tried hoffers hcourse.ensureLoaded (hcourse.recorded []).ensureLoaded

/-- Every backend can have its turn. -/
theorem exists_turn (loader : Loader ω) (name : String) :
    ∃ fate calls next, Turn loader name fate calls next := by
  by_cases hoffers : loader.Offers name
  · obtain ⟨result, next, calls, hcourse⟩ := loader.exists_course name
    exact ⟨_, _, _, .of_course hoffers hcourse⟩
  · exact ⟨_, _, _, .unavailable hoffers⟩

/-- Backends can have their turns one after the other. -/
theorem exists_turns (loader : Loader ω) (names : List String) :
    ∃ fates calls last, Turns loader names fates calls last := by
  induction names generalizing loader with
  | nil => exact ⟨_, _, _, .nil loader⟩
  | cons name names ih =>
    obtain ⟨fate, calls, next, hturn⟩ := loader.exists_turn name
    obtain ⟨fates, more, last, hturns⟩ := ih next
    exact ⟨_, _, _, .cons hturn hturns⟩

/-- Everyone has a turn. -/
theorem Turns.map_fst (h : Turns loader names fates calls last) : fates.map Prod.fst = names := by
  induction h with
  | nil loader => rfl
  | cons hturn hturns ih => rw [List.map_cons, ih]

/-! ## Turns with a record -/

/-- Sources that write down their calls have the same backends. -/
theorem any_recordedFrom (place : Nat) (sources : List (Source ω)) (name : String) (world : ω)
    (calls : List HookCall) :
    ((recordedFrom place sources).any fun source => source.provides name (world, calls)) =
      sources.any fun source => source.provides name world := by
  induction sources generalizing place with
  | nil => rfl
  | cons source rest ih =>
    rw [recordedFrom, List.any_cons, List.any_cons, ih]
    rfl

/-- It makes no difference to what is offered that calls are written down. -/
theorem offers_recorded (loader : Loader ω) (before : List HookCall) (name : String) :
    (loader.recorded before).Offers name ↔ loader.Offers name := by
  rw [← provides_iff, ← provides_iff, provides, provides, recorded, any_recordedFrom]

/-- A loader that keeps a record takes the same turn, and has recorded its calls afterwards. -/
theorem Turn.recorded (h : Turn loader name fate calls next) (before : List HookCall) :
    Turn (loader.recorded before) name fate calls (next.recorded (before ++ calls)) := by
  cases h with
  | unavailable hoffers =>
    rw [List.append_nil]
    exact .unavailable (mt (offers_recorded loader before name).mp hoffers)
  | tried hoffers hensure hrecorded =>
    have hcourse := course_of_ensureLoaded hensure hrecorded
    exact .of_course ((offers_recorded loader before name).mpr hoffers) (hcourse.recorded before)

/-- A loader that keeps a record has the same turns, and has recorded their calls afterwards. -/
theorem Turns.recorded (h : Turns loader names fates calls last) (before : List HookCall) :
    Turns (loader.recorded before) names fates calls (last.recorded (before ++ calls)) := by
  induction h generalizing before with
  | nil loader =>
    rw [List.append_nil]
    exact .nil _
  | @cons loader next last name names fate fates calls more hturn hturns ih =>
    rw [← List.append_assoc]
    exact .cons (hturn.recorded before) (ih (before ++ calls))

/-! ## The report -/

/-- A turn continues the report by what became of the backend. -/
theorem Turn.tryLoad_eq (h : Turn loader name fate calls next) (report : LoadReport) :
    tryLoad (report, loader) name = (report ++ .ofFates [(name, fate)], next) := by
  cases h with
  | unavailable hoffers =>
    rw [tryLoad, if_neg (mt provides_iff.mp hoffers)]
    simp [LoadReport.append_def, LoadReport.ofFates]
  | @tried result _ _ hoffers hensure =>
    rw [tryLoad, if_pos (provides_iff.mpr hoffers), hensure]
    rcases result with e | ⟨⟩
    · simp [LoadReport.append_def, LoadReport.ofFates, Fate.ofResult]
    · simp [LoadReport.append_def, LoadReport.ofFates, Fate.ofResult]

/-- The report lists what the turns came to. -/
theorem Turns.foldl_tryLoad (h : Turns loader names fates calls last) (report : LoadReport) :
    names.foldl tryLoad (report, loader) = (report ++ .ofFates fates, last) := by
  -- What has been reported so far stays in front.
  induction h generalizing report with
  | nil loader => simp [LoadReport.append_def, LoadReport.ofFates]
  | @cons loader next last name names fate fates calls more hturn hturns ih =>
    rw [List.foldl_cons, hturn.tryLoad_eq, ih, LoadReport.append_assoc,
      ← LoadReport.ofFates_append, List.singleton_append]

/-- Trying every known backend is to give each of them its turn. -/
theorem Turns.loadAll_eq (h : Turns loader knownBackends fates calls last) :
    loader.loadAll = (.ofFates fates, last) := by
  rw [loadAll, h.foldl_tryLoad]
  rfl

/-! ## Leaving out the failures -/

/-- Loads backends one after the other. -/
def loadEach (loader : Loader ω) (names : List String) : Loader ω :=
  names.foldl (fun loader name => (loader.ensureLoaded name).2) loader

/-- Loading a backend leaves the sources alone. -/
theorem Course.sources_eq (h : Course loader name result next calls) :
    next.sources = loader.sources := by
  cases h <;> rfl

/-- A failure changes nothing but the world. -/
theorem Course.eq_of_error {e : Error} (h : Course loader name (.error e) next calls) :
    next = { loader with world := next.world } := by
  cases h <;> rfl

/-- With steady sources, the course of loading a backend is the same in every world. -/
theorem Course.inWorld (h : Course loader name result next calls)
    (hsteady : ∀ source ∈ loader.sources, source.Steady name) (world : ω) :
    ∃ after, Course { loader with world } name result { next with world := after } calls := by
  -- The searches and what is staged do not depend on the world, and nothing else looks at it.
  cases h with
  | registered hregistered => exact ⟨world, .registered hregistered⟩
  | missing hfree hsearch =>
    obtain ⟨after, hsearch'⟩ := hsearch.again hsteady world
    exact ⟨after, .missing hfree hsearch'⟩
  | unusable hfree hsearch =>
    obtain ⟨after, hsearch'⟩ := hsearch.again hsteady world
    exact ⟨after, .unusable hfree hsearch'⟩
  | unstaged hfree hsearch hinit =>
    obtain ⟨found, after, hsearch', hinit'⟩ := hsearch.staging_again hinit hsteady world
    exact ⟨after, .unstaged hfree hsearch' hinit'⟩
  | refused hfree hsearch hinit hbatch =>
    obtain ⟨found, after, hsearch', hinit'⟩ := hsearch.staging_again hinit hsteady world
    exact ⟨after, .refused hfree hsearch' hinit' hbatch⟩
  | installed hfree hsearch hinit haccepts =>
    obtain ⟨found, after, hsearch', hinit'⟩ := hsearch.staging_again hinit hsteady world
    exact ⟨after, .installed hfree hsearch' hinit' haccepts⟩

/-- A turn leaves the sources alone. -/
theorem Turn.sources_eq (h : Turn loader name fate calls next) : next.sources = loader.sources := by
  cases h with
  | unavailable => rfl
  | tried _ hensure hrecorded => exact (course_of_ensureLoaded hensure hrecorded).sources_eq

/-- A turn leaves the loader that loading the backend would leave if it was loaded, and otherwise
what it was before. Only the worlds may differ. -/
theorem Turn.exists_loadEach_eq (h : Turn loader name fate calls next)
    (hsteady : ∀ source ∈ loader.sources, source.Steady name) (world : ω) :
    ∃ after, loadEach { loader with world } (LoadReport.ofFates [(name, fate)]).loaded =
      { next with world := after } := by
  cases h with
  | unavailable hoffers => exact ⟨world, rfl⟩
  | @tried result _ _ _ hensure hrecorded =>
    have hcourse := course_of_ensureLoaded hensure hrecorded
    rcases result with e | ⟨⟩
    · -- Nothing is left to load, and the failure itself counts for nothing.
      refine ⟨world, ?_⟩
      rw [hcourse.eq_of_error]
      rfl
    · obtain ⟨after, hcourse'⟩ := hcourse.inWorld hsteady world
      refine ⟨after, ?_⟩
      show (Loader.ensureLoaded { loader with world } name).2 = _
      rw [hcourse'.ensureLoaded]

/-- Backends that are loaded after others meet the loader that these have left. -/
theorem loadEach_append (loader : Loader ω) (before after : List String) :
    loader.loadEach (before ++ after) = (loader.loadEach before).loadEach after :=
  List.foldl_append

/-- The backends that are loaded at their turns would be loaded alike if the others were left
out. -/
theorem Turns.exists_loadEach_eq (h : Turns loader names fates calls last)
    (hsteady : ∀ name ∈ names, ∀ source ∈ loader.sources, source.Steady name) (world : ω) :
    ∃ after, loadEach { loader with world } (LoadReport.ofFates fates).loaded =
      { last with world := after } := by
  -- The two loaders may differ in their worlds from one turn to the next.
  induction h generalizing world with
  | nil loader => exact ⟨world, rfl⟩
  | @cons loader next last name names fate fates calls more hturn hturns ih =>
    obtain ⟨hfirst, hothers⟩ := List.forall_mem_cons.mp hsteady
    obtain ⟨found, hnext⟩ := hturn.exists_loadEach_eq hfirst world
    rw [← hturn.sources_eq] at hothers
    obtain ⟨after, hlast⟩ := ih hothers found
    refine ⟨after, ?_⟩
    have hloaded : (LoadReport.ofFates ((name, fate) :: fates)).loaded =
        (LoadReport.ofFates [(name, fate)]).loaded ++ (LoadReport.ofFates fates).loaded := by
      rw [← List.singleton_append, LoadReport.ofFates_append]
      rfl
    rw [hloaded, loadEach_append, hnext, hlast]

/-! ## The known backends -/

/-- The information on the registered models is in ascending order of the numbers. -/
theorem pairwise_map_info (registry : Registry) :
    (registry.descriptors.map Descriptor.info).Pairwise
      fun a b => a.modelId.value < b.modelId.value :=
  List.pairwise_map.mpr registry.ascending

/-- What is known of a model is listed exactly if the model is bound. -/
theorem mem_map_info_iff (registry : Registry) (info : RigInfo) :
    info ∈ registry.descriptors.map Descriptor.info ↔
      ∃ id descriptor, registry.lookup id = some descriptor ∧ descriptor.info = info := by
  rw [List.mem_map]
  constructor
  · rintro ⟨descriptor, hmem, hinfo⟩
    exact ⟨descriptor.modelId, descriptor, (Registry.mem_descriptors_iff descriptor).mp hmem, hinfo⟩
  · rintro ⟨id, descriptor, hlookup, hinfo⟩
    exact ⟨descriptor, List.mem_of_find?_eq_some hlookup, hinfo⟩

/-- Every known backend has its turn, in order. What it comes to decides about the one list of the
report that has its name. If the sources are steady, the registry and the hooks that look at ports
are in the end those that loading the backends listed as loaded would have left, and what a program
starts with is the information on every model registered then, in ascending order of the numbers. -/
theorem loadAll_outcome (loader : Loader ω)
    (hsteady : ∀ name ∈ knownBackends, ∀ source ∈ loader.sources, source.Steady name) :
    let report := loader.loadAll.1
    let last := loader.loadAll.2
    let rigs := loader.supportedRigs.1
    (∃ fates calls, Turns loader knownBackends fates calls last ∧ report = .ofFates fates ∧
      (loader.recorded []).loadAll = (report, last.recorded calls)) ∧
    (report.names.Perm knownBackends ∧ report.names.Nodup ∧
      report.loaded.Sublist knownBackends ∧ report.unavailable.Sublist knownBackends ∧
      (report.failed.map Prod.fst).Sublist knownBackends) ∧
    ((loader.loadEach report.loaded).registry = last.registry ∧
      (loader.loadEach report.loaded).probes = last.probes) ∧
    loader.supportedRigs.2 = last ∧
    rigs.Pairwise (fun a b => a.modelId.value < b.modelId.value) ∧
    ∀ info, info ∈ rigs ↔
      ∃ id descriptor, last.registry.lookup id = some descriptor ∧ descriptor.info = info := by
  obtain ⟨fates, calls, last, hturns⟩ := loader.exists_turns knownBackends
  have hall : loader.loadAll = (.ofFates fates, last) := hturns.loadAll_eq
  have hrecorded : (loader.recorded []).loadAll = (.ofFates fates, last.recorded calls) :=
    (hturns.recorded []).loadAll_eq
  have hrigs : loader.supportedRigs = (last.registry.descriptors.map Descriptor.info, last) := by
    rw [supportedRigs, hall]
  rw [hall, hrigs]
  have hnames := LoadReport.names_ofFates fates
  have hsublists := LoadReport.sublists_ofFates fates
  rw [hturns.map_fst] at hnames hsublists
  have hdistinct : knownBackends.Nodup := by decide +kernel
  -- What failed left nothing behind, so it can be left out.
  have heach : ∃ after, loader.loadEach (LoadReport.ofFates fates).loaded =
      { last with world := after } := hturns.exists_loadEach_eq hsteady loader.world
  obtain ⟨after, heach⟩ := heach
  refine ⟨⟨fates, calls, hturns, rfl, hrecorded⟩,
    ⟨hnames, hnames.nodup_iff.mpr hdistinct, hsublists⟩, ?_, rfl,
    pairwise_map_info last.registry, mem_map_info_iff last.registry⟩
  rw [heach]
  exact ⟨rfl, rfl⟩

/-- Two backends stage the FT-817. The one that is known first gets it, and the other one fails and
leaves nothing behind. -/
theorem loadAll_outcome_taken :
    let kenwood : DeclaredBackend := ⟨"kenwood", [Models.ft817], none, none, none⟩
    let yaesu : DeclaredBackend := ⟨"yaesu", Models.all, none, none, none⟩
    let loader : Loader Journal :=
      { world := [], sources := [DeclaredBackend.source [kenwood, yaesu] false] }
    let report := loader.loadAll.1
    report.loaded = ["yaesu"] ∧
      report.failed = [("kenwood", .load "kenwood" "model 120 is already registered")] ∧
      report.names.Perm knownBackends ∧
      (loader.loadEach ["yaesu"]).registry = loader.loadAll.2.registry := by
  intro kenwood yaesu loader report
  have hsteady : ∀ name ∈ knownBackends, ∀ source ∈ loader.sources, source.Steady name := by
    intro name _
    simpa [loader] using DeclaredBackend.steady_source [kenwood, yaesu] false name
  obtain ⟨-, ⟨hnames, -⟩, ⟨hregistry, -⟩, -⟩ := loadAll_outcome loader hsteady
  have hloaded : loader.loadAll.1.loaded = ["yaesu"] := by decide +kernel
  rw [hloaded] at hregistry
  exact ⟨hloaded, by decide +kernel, hnames, hregistry⟩

end Loader

end Transceiver
