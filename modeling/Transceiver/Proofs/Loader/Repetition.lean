import Transceiver.Backend.Declared
import Transceiver.Models
import Transceiver.Proofs.Loader.Outcome

/-!
# Loading a Backend Again

Once a backend is loaded, loading it again changes neither the registry nor the hooks that look at
ports, provided that its source and its initial hook answer the same each time (`Source.Steady`). It
takes the registered models to tell that a backend is loaded. A family none of whose models names
the backend is loaded anew, and then refused by a registry in which its own numbers are taken.

## Main statement

* `Loader.ensureLoaded_again`: what becomes of loading a backend for the second time.
-/

namespace Transceiver

variable {ω : Type}

/-- Whatever the world, a source gives the same answer to who asks for a backend, and the backend
stages the same. -/
structure Source.Steady (source : Source ω) (name : String) : Prop where
  /-- The answer is the same. -/
  resolve (world world' : ω) : (source.resolve name world).1 = (source.resolve name world').1
  /-- What the backend stages is the same. -/
  init {world : ω} {backend : Backend ω}
    (h : (source.resolve name world).1 = .ok (some backend)) (found found' : ω) :
    (backend.init found).1 = (backend.init found').1

/-- A steady source gives in every world the answer that it gave in one. -/
theorem Source.Steady.resolve_eq {source : Source ω} {name : String} (h : source.Steady name)
    {world after : ω} {answer : Except Error (Option (Backend ω))}
    (hresolve : source.resolve name world = (answer, after)) (world' : ω) :
    source.resolve name world' = (answer, (source.resolve name world').2) := by
  have hsame := h.resolve world' world
  rw [hresolve] at hsame
  exact Prod.ext hsame rfl

namespace Loader

variable {name : String} {sources : List (Source ω)} {world after : ω}
  {answer : Except Error (Option (Backend ω))} {asked : Nat}

/-- A search of steady sources ends the same in every world. -/
theorem Search.again (h : Search name sources world answer after asked)
    (hsteady : ∀ source ∈ sources, source.Steady name) (world' : ω) :
    ∃ after', Search name sources world' answer after' asked := by
  induction h generalizing world' with
  | exhausted world => exact ⟨_, .exhausted world'⟩
  | declined hresolve hrest ih =>
    obtain ⟨hfirst, hothers⟩ := List.forall_mem_cons.mp hsteady
    obtain ⟨after', hrest'⟩ := ih hothers _
    exact ⟨after', .declined (hfirst.resolve_eq hresolve world') hrest'⟩
  | found rest hresolve =>
    obtain ⟨hfirst, -⟩ := List.forall_mem_cons.mp hsteady
    exact ⟨_, .found rest (hfirst.resolve_eq hresolve world')⟩
  | failed rest hresolve =>
    obtain ⟨hfirst, -⟩ := List.forall_mem_cons.mp hsteady
    exact ⟨_, .failed rest (hfirst.resolve_eq hresolve world')⟩

/-- The backend of a steady source stages the same in every world. -/
theorem Search.init_eq {backend : Backend ω}
    (h : Search name sources world (.ok (some backend)) after asked)
    (hsteady : ∀ source ∈ sources, source.Steady name) (found found' : ω) :
    (backend.init found).1 = (backend.init found').1 := by
  generalize hanswer : Except.ok (some backend) = answer at h
  induction h with
  | exhausted world => cases hanswer
  | declined hresolve hrest ih =>
    exact ih (List.forall_mem_cons.mp hsteady).2 hanswer
  | found rest hresolve =>
    cases hanswer
    exact (List.forall_mem_cons.mp hsteady).1.init (by rw [hresolve]) found found'
  | failed rest hresolve => cases hanswer

/-- In every world a search of steady sources ends with the same backend, which stages the same. -/
theorem Search.staging_again {backend : Backend ω} {staging : Staging} {found : ω}
    (h : Search name sources world (.ok (some backend)) found asked)
    (hinit : backend.init found = (staging, after))
    (hsteady : ∀ source ∈ sources, source.Steady name) (world' : ω) :
    ∃ found' after', Search name sources world' (.ok (some backend)) found' asked ∧
      backend.init found' = (staging, after') := by
  obtain ⟨found', hsearch⟩ := h.again hsteady world'
  have hsame := h.init_eq hsteady found' found
  rw [hinit] at hsame
  exact ⟨found', (backend.init found').2, hsearch, Prod.ext hsame rfl⟩

/-- A hook that has been kept is not kept twice. -/
theorem addProbe_addProbe (probes : List (String × ProbeHook ω)) (name : String)
    (probe : Option (ProbeHook ω)) :
    addProbe (addProbe probes name probe) name probe = addProbe probes name probe := by
  cases probe with
  | none => rfl
  | some hook =>
    have hpresent : (addProbe probes name (some hook)).any (fun entry => entry.1 == name) := by
      rw [addProbe]
      split
      next h => exact h
      next => simp
    rw [addProbe, if_pos hpresent]

/-- A family that was registered is refused, since the number of one of its models is taken. -/
def RefusedFor (family : List Descriptor) (registry : Registry) (name : String) (e : Error) :
    Prop :=
  ∃ descriptor ∈ family, registry.contains descriptor.modelId = true ∧
    e = .load name (Error.alreadyRegistered descriptor.modelId).message

/-- If no model names the backend after it was loaded, the sources are searched again. They end with
the same backend, this stages the same family, and all depends on whether the registry accepts it
once more. -/
theorem Course.again {loader once : Loader ω} {calls : List HookCall}
    (h : Course loader name (.ok ()) once calls)
    (hsteady : ∀ source ∈ loader.sources, source.Steady name)
    (hunnamed : once.registry.containsBackend name = false) :
    ∃ result next calls, Course once name result next calls ∧
      next.registry = once.registry ∧ next.probes = once.probes ∧
      (result = .ok () ↔
        once.registry.overwrite = true ∨ once.registry = loader.registry) ∧
      ∃ answer found asked family,
        Search name loader.sources loader.world answer found asked ∧ Stages answer found family ∧
        once.registry.Extends loader.registry family ∧
        ∀ e, result = .error e → RefusedFor family once.registry name e := by
  cases h with
  | registered hregistered =>
    rw [hunnamed] at hregistered
    cases hregistered
  | @installed found after asked backend staged hfree hsearch hinit haccepts =>
    obtain ⟨found', after', hsearch', hinit'⟩ := hsearch.staging_again hinit hsteady after
    have hiff := Registry.accepts_insertAll_iff haccepts
    have hstages := (stages_iff hinit _).mpr ⟨rfl, rfl⟩
    have hextends := Registry.extends_insertAll loader.registry (backend.tag staged)
    -- The family is staged again, and met by a registry in which it is bound.
    by_cases haccepted :
        ((backend.tag staged).foldl Registry.insert loader.registry).Accepts (backend.tag staged)
    · refine ⟨_, _, _, .installed hunnamed hsearch' hinit' haccepted, ?_, ?_, ?_,
        _, _, _, _, hsearch, hstages, hextends, nofun⟩
      · exact Registry.insertAll_insertAll loader.registry (backend.tag staged)
      · exact addProbe_addProbe loader.probes name backend.probe
      · simpa using hiff.mp haccepted
    · obtain ⟨descriptor, hmem, hbatch⟩ := Registry.registerBatch_of_not_accepts haccepted
      refine ⟨_, _, _, .refused hunnamed hsearch' hinit' hbatch, rfl, rfl, ?_,
        _, _, _, _, hsearch, hstages, hextends, ?_⟩
      · simpa using fun h => haccepted (hiff.mpr h)
      · rintro _ ⟨⟩
        refine ⟨descriptor, hmem, ?_, rfl⟩
        rw [Registry.contains, Option.isSome_iff_ne_none]
        exact Registry.lookup_insertAll_ne_none loader.registry hmem

/-- If a backend of a steady source was loaded, loading it again changes neither the registry nor
the hooks that look at ports. It succeeds if taken numbers may be registered anew, if one of the
models names the backend, or if none was registered. Otherwise it fails for the number of a model of
the family that was staged and registered. -/
theorem ensureLoaded_again (loader : Loader ω) (name : String)
    (hsteady : ∀ source ∈ loader.sources, source.Steady name)
    (h : (loader.ensureLoaded name).1 = .ok ()) :
    let once := (loader.ensureLoaded name).2
    let again := once.ensureLoaded name
    again.2.registry = once.registry ∧ again.2.probes = once.probes ∧
      (again.1 = .ok () ↔
        once.registry.overwrite = true ∨ once.registry.containsBackend name = true ∨
          once.registry = loader.registry) ∧
      ∀ e, again.1 = .error e →
        ∃ answer found asked family,
          Search name loader.sources loader.world answer found asked ∧
          Stages answer found family ∧ once.registry.Extends loader.registry family ∧
          RefusedFor family once.registry name e := by
  obtain ⟨result, once, calls, hcourse⟩ := loader.exists_course name
  rw [hcourse.ensureLoaded] at h ⊢
  obtain rfl : result = .ok () := h
  intro once again
  cases hnamed : once.registry.containsBackend name with
  | true =>
    have hagain : again = (.ok (), once) := (Course.registered hnamed).ensureLoaded
    rw [hagain]
    exact ⟨rfl, rfl, by simp, nofun⟩
  | false =>
    obtain ⟨result, next, calls, hcourse', hregistry, hprobes, hok, answer, found, asked, family,
      hsearch, hstages, hextends, hrefused⟩ := hcourse.again hsteady hnamed
    have hagain : again = (result, next) := hcourse'.ensureLoaded
    rw [hagain]
    exact ⟨hregistry, hprobes, by simpa using hok, fun e he =>
      ⟨answer, found, asked, family, hsearch, hstages, hextends, hrefused e he⟩⟩

end Loader

/-- A source of declared backends is steady, since the journal does not count. -/
theorem DeclaredBackend.steady_source (declared : List DeclaredBackend) (handles : Bool)
    (name : String) : (source declared handles).Steady name := by
  refine ⟨fun _ _ => rfl, fun {journal backend} h found found' => ?_⟩
  simp only [source, resolve] at h
  split at h
  · cases h
  · split at h
    · cases h
    · cases h
      rfl

namespace Loader

/-- The family of the program's own backend is loaded once. -/
theorem ensureLoaded_again_yaesu :
    let yaesu : DeclaredBackend := ⟨"yaesu", Models.all, none, none, none⟩
    let loader : Loader Journal := { world := [], sources := [DeclaredBackend.source [yaesu] true] }
    let once := (loader.ensureLoaded "yaesu").2
    (once.ensureLoaded "yaesu").1 = .ok () ∧
      (once.ensureLoaded "yaesu").2.registry = once.registry := by
  intro yaesu loader once
  have hsteady : ∀ source ∈ loader.sources, source.Steady "yaesu" := by
    simpa [loader] using DeclaredBackend.steady_source [yaesu] true "yaesu"
  obtain ⟨hregistry, -, hok, -⟩ := ensureLoaded_again loader "yaesu" hsteady rfl
  exact ⟨hok.mpr (.inr (.inl (by decide +kernel))), hregistry⟩

/-- A family of another name is loaded anew and refused. -/
theorem ensureLoaded_again_mislabelled :
    let kenwood : DeclaredBackend := ⟨"kenwood", [Models.ft817], none, none, none⟩
    let loader : Loader Journal :=
      { world := [], sources := [DeclaredBackend.source [kenwood] false] }
    let once := loader.ensureLoaded "kenwood"
    (∀ source ∈ loader.sources, source.Steady "kenwood") ∧ once.1 = .ok () ∧
      (once.2.ensureLoaded "kenwood").1 =
        .error (.load "kenwood" "model 120 is already registered") := by
  intro kenwood loader once
  refine ⟨?_, rfl, rfl⟩
  simpa [loader] using DeclaredBackend.steady_source [kenwood] false "kenwood"

end Loader

end Transceiver
