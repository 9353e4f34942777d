import Transceiver.Backend.Declared
import Transceiver.Proofs.Loader.Course

/-!
# What Loading a Backend Comes To

Loading a backend either registers the whole family that the backend staged or leaves the registry
and the hooks that look at ports as they were. Its failures are worded for the backend, apart from
those of a source, which words its own.

## Main statements

* `Loader.ensureLoaded_atomic`: which calls loading a backend takes, when it succeeds, and what it
  does to the registry;
* `Loader.ensureLoaded_error_iff`: the failures.
-/

namespace Transceiver

variable {ω : Type}

/-- The descriptors of a backend refer to the module it came from, if it came from one. -/
theorem Backend.tag_eq (backend : Backend ω) (staged : List Descriptor) :
    backend.tag staged = staged.map fun descriptor =>
      { descriptor with module := backend.module.or descriptor.module } := by
  rw [Backend.tag]
  cases backend.module with
  | none => simp
  | some handle => simp

namespace Loader

/-- The calls of initial hooks that follow a search: one if a backend was found. -/
def inits : Except Error (Option (Backend ω)) → List HookCall
  | .ok (some _) => [.init]
  | _ => []

/-- A search that ends in some world with a backend whose initial hook succeeds there, and the
family that this stages. Each descriptor has the module of the backend, if there is one. -/
inductive Stages : Except Error (Option (Backend ω)) → ω → List Descriptor → Prop where
  | intro {backend : Backend ω} {found : ω} {staged : List Descriptor} :
      (backend.init found).1 = ⟨staged, .ok ()⟩ →
        Stages (.ok (some backend)) found
          (staged.map fun descriptor =>
            { descriptor with module := backend.module.or descriptor.module })

/-- What a backend stages is a family exactly if its initial hook succeeds. -/
theorem stages_iff {backend : Backend ω} {found after : ω} {staged : List Descriptor}
    {result : Except Error Unit} (h : backend.init found = (⟨staged, result⟩, after))
    (family : List Descriptor) :
    Stages (.ok (some backend)) found family ↔
      result = .ok () ∧ family = backend.tag staged := by
  rw [Backend.tag_eq]
  constructor
  · rintro ⟨hstaged⟩
    rw [h] at hstaged
    cases hstaged
    exact ⟨rfl, rfl⟩
  · rintro ⟨rfl, rfl⟩
    exact .intro (by rw [h])

variable {loader next : Loader ω} {name : String} {result : Except Error Unit}
  {calls : List HookCall}

/-- With a model of the backend registered there is nothing to do. -/
theorem Course.of_registered (h : Course loader name result next calls)
    (hregistered : loader.registry.containsBackend name = true) :
    result = .ok () ∧ next = loader ∧ calls = [] := by
  cases h with
  | registered => exact ⟨rfl, rfl, rfl⟩
  | missing hfree | unusable hfree | unstaged hfree | refused hfree | installed hfree =>
    rw [hregistered] at hfree
    cases hfree

/-- A failure leaves the registry and the hooks that look at ports as they were. -/
theorem Course.of_error {e : Error} (h : Course loader name (.error e) next calls) :
    next.registry = loader.registry ∧ next.probes = loader.probes := by
  cases h <;> exact ⟨rfl, rfl⟩

/-- Without a model of the backend registered, the sources are searched. What they end with decides
about the calls and about success, and the family that is staged then is registered. -/
theorem Course.exists_search (h : Course loader name result next calls)
    (hfree : loader.registry.containsBackend name = false) :
    ∃ answer found asked, Search name loader.sources loader.world answer found asked ∧
      calls = resolves name 0 asked ++ inits answer ∧
      (result = .ok () ↔ ∃ family, Stages answer found family ∧ loader.registry.Accepts family) ∧
      ∀ family, Stages answer found family → result = .ok () →
        next.registry.Extends loader.registry family := by
  cases h with
  | registered hregistered =>
    rw [hfree] at hregistered
    cases hregistered
  | missing _ hsearch | unusable _ hsearch =>
    -- Without a backend nothing is staged.
    refine ⟨_, _, _, hsearch, (List.append_nil _).symm, ?_, nofun⟩
    exact ⟨nofun, fun ⟨_, hstages, _⟩ => nomatch hstages⟩
  | unstaged _ hsearch hinit =>
    refine ⟨_, _, _, hsearch, rfl, ?_, nofun⟩
    simp [stages_iff hinit]
  | refused _ hsearch hinit hbatch =>
    refine ⟨_, _, _, hsearch, rfl, ?_, nofun⟩
    simp [stages_iff hinit, Registry.accepts_iff, hbatch]
  | installed _ hsearch hinit haccepts =>
    refine ⟨_, _, _, hsearch, rfl, ?_, ?_⟩
    · simp [stages_iff hinit, haccepts]
    · intro family hstages _
      obtain ⟨-, rfl⟩ := (stages_iff hinit family).mp hstages
      exact Registry.extends_insertAll _ _

/-- With a model of the backend registered, nothing is called and nothing changes. Otherwise the
sources are asked up to the first that has the backend or fails, and its initial hook is called once
if it was found. This succeeds if the hook does and the registry accepts the family that it stages,
which is registered then. Else the registry and the hooks that look at ports stay as they were. -/
theorem ensureLoaded_atomic (loader : Loader ω) (name : String) :
    let result := (loader.ensureLoaded name).1
    let after := (loader.ensureLoaded name).2
    ∃ calls, (loader.recorded []).ensureLoaded name = (result, after.recorded calls) ∧
      (loader.registry.containsBackend name = true →
        result = .ok () ∧ after = loader ∧ calls = []) ∧
      (loader.registry.containsBackend name = false →
        ∃ answer found asked, Search name loader.sources loader.world answer found asked ∧
          calls = resolves name 0 asked ++ inits answer ∧
          (result = .ok () ↔
            ∃ family, Stages answer found family ∧ loader.registry.Accepts family) ∧
          ∀ family, Stages answer found family → result = .ok () →
            after.registry.Extends loader.registry family) ∧
      ∀ e, result = .error e →
        after.registry = loader.registry ∧ after.probes = loader.probes := by
  obtain ⟨result, after, calls, hcourse⟩ := loader.exists_course name
  rw [hcourse.ensureLoaded]
  refine ⟨calls, (hcourse.recorded []).ensureLoaded, hcourse.of_registered,
    hcourse.exists_search, ?_⟩
  rintro e rfl
  exact hcourse.of_error

/-! ## Failures -/

/-- Loading a backend fails as a source that is asked does, or for the backend: because no source
has it, its initial hook fails, or its family is refused. -/
theorem ensureLoaded_error_iff (loader : Loader ω) (name : String) (e : Error) :
    (loader.ensureLoaded name).1 = .error e ↔
      loader.registry.containsBackend name = false ∧
        ∃ answer found asked, Search name loader.sources loader.world answer found asked ∧
          (answer = .error e ∨
            answer = .ok none ∧ e = .load name "no source provides this backend" ∨
            (∃ backend cause, answer = .ok (some backend) ∧
              (backend.init found).1.result = .error cause ∧ e = .load name cause.message) ∨
            ∃ family cause, Stages answer found family ∧
              (loader.registry.registerBatch family).1 = .error cause ∧
                e = .load name cause.message) := by
  constructor
  · intro h
    obtain ⟨result, after, calls, hcourse⟩ := loader.exists_course name
    obtain rfl : result = .error e := by rw [← h, hcourse.ensureLoaded]
    -- Every course but the two that succeed is one of the four causes.
    cases hcourse with
    | missing hfree hsearch => exact ⟨hfree, _, _, _, hsearch, .inr (.inl ⟨rfl, rfl⟩)⟩
    | unusable hfree hsearch => exact ⟨hfree, _, _, _, hsearch, .inl rfl⟩
    | unstaged hfree hsearch hinit =>
      exact ⟨hfree, _, _, _, hsearch, .inr (.inr (.inl ⟨_, _, rfl, by rw [hinit], rfl⟩))⟩
    | refused hfree hsearch hinit hbatch =>
      have hstages := (stages_iff hinit _).mpr ⟨rfl, rfl⟩
      exact ⟨hfree, _, _, _, hsearch,
        .inr (.inr (.inr ⟨_, _, hstages, by rw [hbatch], rfl⟩))⟩
  · rintro ⟨hfree, answer, found, asked, hsearch, hcause⟩
    -- Each cause leaves one course open.
    rcases hcause with rfl | ⟨rfl, rfl⟩ | ⟨backend, cause, rfl, hfailed, rfl⟩ |
      ⟨family, cause, hstages, hbatch, rfl⟩
    · rw [(Course.unusable hfree hsearch).ensureLoaded]
    · rw [(Course.missing hfree hsearch).ensureLoaded]
    · rcases hinit : backend.init found with ⟨⟨staged, result⟩, after⟩
      obtain rfl : result = .error cause := by simpa [hinit] using hfailed
      rw [(Course.unstaged hfree hsearch hinit).ensureLoaded]
    · rcases answer with e | _ | backend
      · nomatch hstages
      · nomatch hstages
      · rcases hinit : backend.init found with ⟨⟨staged, result⟩, after⟩
        obtain ⟨rfl, rfl⟩ := (stages_iff hinit family).mp hstages
        have hrefused := Registry.registerBatch_of_error hbatch
        rw [(Course.refused hfree hsearch hinit hrefused).ensureLoaded]

/-- So a source that fails with a timeout is not said to have failed to load the backend. -/
theorem ensureLoaded_timeout :
    let broken : DeclaredBackend := ⟨"yaesu", [], none, none, some .timeout⟩
    let loader : Loader Journal :=
      { world := [], sources := [DeclaredBackend.source [broken] false] }
    (loader.ensureLoaded "yaesu").1 = .error .timeout ∧
      ∀ reason, Error.timeout ≠ .load "yaesu" reason := by
  exact ⟨rfl, nofun⟩

end Loader

end Transceiver
