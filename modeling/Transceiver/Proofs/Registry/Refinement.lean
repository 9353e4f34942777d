import Mathlib.Data.Finset.Dedup
import Mathlib.Data.Finset.Card
import Mathlib.Logic.Function.Basic
import Transceiver.Proofs.Registry.Batch

/-!
# A Registry as a Finite Map

What a registry stands for is which descriptor is bound to which number (`Registry.Bindings`). Each
change has a meaning for the bindings alone, where a batch is just one descriptor after the other.
`Registry.follows_apply` says that a registry goes along with its bindings for one change, and
`Registry.run_eq` for a whole run. Everything a registry tells is told by its bindings
(`Registry.Shows`).

## Main statement

* `Registry.refines_bindings`: a registry, after any run, against its bindings.
-/

namespace Transceiver

namespace Registry

/-! ## Changes -/

/-- What can be done to a registry. -/
inductive Change where
  | register (descriptor : Descriptor)
  | registerBatch (batch : List Descriptor)
  | unregister (id : ModelId)
  | shutdown

/-- Makes a change. -/
def apply (registry : Registry) : Change → Except Error Unit × Registry
  | .register descriptor => registry.register descriptor
  | .registerBatch batch => registry.registerBatch batch
  | .unregister id => registry.unregister id
  | .shutdown => (.ok (), registry.shutdown)

/-- Makes changes in order, whether or not they succeed. -/
def run (registry : Registry) (changes : List Change) : Registry :=
  changes.foldl (fun registry change => (registry.apply change).2) registry

/-- A run goes on with the registry that the first change left. -/
theorem run_cons (registry : Registry) (change : Change) (changes : List Change) :
    registry.run (change :: changes) = (registry.apply change).2.run changes :=
  rfl

/-- Which descriptor is bound to which number. -/
abbrev Bindings := ModelId → Option Descriptor

namespace Bindings

/-- Binds a descriptor to its number, unless that is taken and may not be registered anew. -/
def register (bindings : Bindings) (overwrite : Bool) (descriptor : Descriptor) :
    Except Error Bindings :=
  if overwrite = true ∨ bindings descriptor.modelId = none then
    .ok (Function.update bindings descriptor.modelId (some descriptor))
  else .error (.alreadyRegistered descriptor.modelId)

/-- What a change makes of the bindings. A batch binds its descriptors one after the other. -/
def apply (bindings : Bindings) (overwrite : Bool) : Change → Except Error Bindings
  | .register descriptor => bindings.register overwrite descriptor
  | .registerBatch batch =>
    batch.foldlM (fun bindings descriptor => bindings.register overwrite descriptor) bindings
  | .unregister id =>
    if bindings id = none then .error (.notRegistered id)
    else .ok (Function.update bindings id none)
  | .shutdown => .ok fun _ => none

/-- To bind a batch is to bind its first descriptor and then the rest. -/
theorem apply_registerBatch_cons (bindings : Bindings) (overwrite : Bool)
    (descriptor : Descriptor) (rest : List Descriptor) :
    bindings.apply overwrite (.registerBatch (descriptor :: rest)) =
      (bindings.register overwrite descriptor).bind fun next =>
        Bindings.apply next overwrite (.registerBatch rest) :=
  rfl

/-- Makes changes in order. One that fails leaves the bindings as they are. -/
def run (bindings : Bindings) (overwrite : Bool) (changes : List Change) : Bindings :=
  changes.foldl (fun bindings change =>
    match bindings.apply overwrite change with
    | .ok after => after
    | .error _ => bindings) bindings

end Bindings

variable {registry : Registry}

/-! ## A registry goes along with its bindings -/

/-- A change comes to the same for a registry as for its bindings: it succeeds and leaves the
registry with the bindings that there ought to be, or it fails for the same reason and leaves the
registry as it is. -/
inductive Follows (registry : Registry) :
    Except Error Unit × Registry → Except Error Bindings → Prop where
  | made {after : Registry} (overwrite : after.overwrite = registry.overwrite) :
      Follows registry (.ok (), after) (.ok after.lookup)
  | refused (e : Error) : Follows registry (.error e, registry) (.error e)

/-- Whatever becomes of a change, the rule for taken numbers stays. -/
theorem Follows.overwrite_eq {outcome : Except Error Unit × Registry}
    {expected : Except Error Bindings} (h : registry.Follows outcome expected) :
    outcome.2.overwrite = registry.overwrite := by
  cases h with
  | made hoverwrite => exact hoverwrite
  | refused e => rfl

/-- Insertion changes the bindings at one number. -/
theorem lookup_insert_eq_update (registry : Registry) (descriptor : Descriptor) :
    (registry.insert descriptor).lookup =
      Function.update registry.lookup descriptor.modelId (some descriptor) := by
  funext id
  rw [lookup_insert, Function.update_apply]
  simp only [@eq_comm _ id]

/-- If the number is free, the bindings of the registry take the descriptor in as the registry
does. -/
theorem register_lookup_of_free {descriptor : Descriptor}
    (h : registry.IsFree descriptor.modelId) :
    Bindings.register registry.lookup registry.overwrite descriptor =
      .ok (registry.insert descriptor).lookup := by
  rw [lookup_insert_eq_update]
  exact if_pos h

/-- If the number is taken, the bindings of the registry refuse the descriptor. -/
theorem register_lookup_of_taken {descriptor : Descriptor}
    (h : ¬ registry.IsFree descriptor.modelId) :
    Bindings.register registry.lookup registry.overwrite descriptor =
      .error (.alreadyRegistered descriptor.modelId) :=
  if_neg h

/-- A registration goes along with the bindings. -/
theorem follows_register (registry : Registry) (descriptor : Descriptor) :
    registry.Follows (registry.register descriptor)
      (Bindings.register registry.lookup registry.overwrite descriptor) := by
  by_cases hfree : registry.IsFree descriptor.modelId
  · rw [register_of_free hfree, register_lookup_of_free hfree]
    exact .made rfl
  · rw [register_of_taken hfree, register_lookup_of_taken hfree]
    exact .refused _

/-- So does the registration of a batch. -/
theorem follows_registerBatch (registry : Registry) (batch : List Descriptor) :
    registry.Follows (registry.registerBatch batch)
      (Bindings.apply registry.lookup registry.overwrite (.registerBatch batch)) := by
  induction batch generalizing registry with
  | nil =>
    rw [registerBatch_of_accepts (by simp [Accepts])]
    exact .made rfl
  | cons descriptor rest ih =>
    rw [Bindings.apply_registerBatch_cons]
    by_cases hfree : registry.IsFree descriptor.modelId
    · rw [registerBatch_cons_of_free hfree, register_lookup_of_free hfree]
      -- The rest is registered or refused as it is after the first descriptor.
      have hrest := ih (registry.insert descriptor)
      simp only [Except.bind, overwrite_insert] at hrest ⊢
      generalize (registry.insert descriptor).registerBatch rest = outcome at hrest ⊢
      generalize Bindings.apply _ _ (.registerBatch rest) = expected at hrest ⊢
      cases hrest with
      | made hoverwrite => exact .made hoverwrite
      | refused e => exact .refused e
    · rw [registerBatch_cons_of_taken hfree, register_lookup_of_taken hfree]
      exact .refused _

/-- A number that is given up is unbound, and no other. -/
theorem lookup_unregister {id : ModelId} (h : registry.lookup id ≠ none) :
    (registry.unregister id).1 = .ok () ∧
      (registry.unregister id).2.overwrite = registry.overwrite ∧
      (registry.unregister id).2.lookup = Function.update registry.lookup id none := by
  have hcontains : registry.contains id = true := Option.isSome_iff_ne_none.mpr h
  rw [unregister, if_pos hcontains]
  refine ⟨rfl, rfl, ?_⟩
  funext other
  rw [lookup, List.find?_filter, Function.update_apply]
  -- What is filtered out has the number `id`, so it is not missed under any other.
  by_cases hother : other = id
  · simp [hother]
  · rw [if_neg hother, lookup]
    congr 1
    funext descriptor
    by_cases hid : descriptor.modelId = other <;> simp [hid, hother]

/-- A number that is unbound cannot be given up, and nothing changes. -/
theorem unregister_of_unbound {id : ModelId} (h : registry.lookup id = none) :
    registry.unregister id = (.error (.notRegistered id), registry) := by
  rw [unregister, contains, h]
  rfl

/-- To give up a number goes along with the bindings. -/
theorem follows_unregister (registry : Registry) (id : ModelId) :
    registry.Follows (registry.unregister id)
      (Bindings.apply registry.lookup registry.overwrite (.unregister id)) := by
  rw [Bindings.apply]
  by_cases h : registry.lookup id = none
  · rw [if_pos h, unregister_of_unbound h]
    exact .refused _
  · obtain ⟨hok, hoverwrite, hlookup⟩ := lookup_unregister h
    rw [if_neg h, ← hlookup, ← Prod.mk.eta (p := registry.unregister id), hok]
    exact .made hoverwrite

/-- A registry goes along with its bindings. -/
theorem follows_apply (registry : Registry) (change : Change) :
    registry.Follows (registry.apply change)
      (Bindings.apply registry.lookup registry.overwrite change) := by
  cases change with
  | register descriptor => exact follows_register registry descriptor
  | registerBatch batch => exact follows_registerBatch registry batch
  | unregister id => exact follows_unregister registry id
  | shutdown => exact .made rfl

/-- After a run a registry has the bindings that the run makes of those at its start. -/
theorem lookup_run (registry : Registry) (changes : List Change) :
    (registry.run changes).overwrite = registry.overwrite ∧
      (registry.run changes).lookup =
        Bindings.run registry.lookup registry.overwrite changes := by
  induction changes generalizing registry with
  | nil => exact ⟨rfl, rfl⟩
  | cons change changes ih =>
    rw [run_cons, Bindings.run, List.foldl_cons]
    have hfollows := registry.follows_apply change
    generalize registry.apply change = outcome at hfollows ⊢
    generalize Bindings.apply _ _ change = expected at hfollows ⊢
    -- The rest of the run starts with the bindings of the registry that the change left.
    cases hfollows with
    | @made after hoverwrite =>
      obtain ⟨hafter, hlookup⟩ := ih after
      rw [hoverwrite] at hafter hlookup
      exact ⟨hafter, hlookup⟩
    | refused e => exact ih registry

/-! ## Walks -/

/-- A visitor that writes down whom it visits and whether it goes on. -/
def recordVisits {s : Type} (visit : s → Descriptor → s × Bool) :
    s × List (Descriptor × Bool) → Descriptor → (s × List (Descriptor × Bool)) × Bool :=
  fun (state, visits) descriptor =>
    let (state, goesOn) := visit state descriptor
    ((state, visits ++ [(descriptor, goesOn)]), goesOn)

/-- A walk over descriptors made these visits, each with whether the visitor went on, and said
whether it was completed. -/
structure IsWalk (descriptors : List Descriptor) (visits : List (Descriptor × Bool))
    (completed : Bool) : Prop where
  /-- The descriptors are visited in order, from the first one. -/
  inOrder : visits.map Prod.fst <+: descriptors
  /-- The walk ends with the first visitor that breaks off. -/
  stops : ∀ visit ∈ visits.dropLast, visit.2 = true
  /-- The walk is completed exactly if no visitor breaks off. -/
  completed_iff : completed = true ↔ ∀ visit ∈ visits, visit.2 = true
  /-- A walk that is completed leaves nobody out. -/
  all : completed = true → visits.map Prod.fst = descriptors

/-- A walk over nobody is completed. -/
theorem isWalk_nil : IsWalk [] [] true :=
  ⟨List.prefix_rfl, by simp, by simp, fun _ => rfl⟩

/-- A visitor that breaks off at once has visited the first descriptor and nobody else. -/
theorem IsWalk.broken (descriptor : Descriptor) (rest : List Descriptor) :
    IsWalk (descriptor :: rest) [(descriptor, false)] false :=
  ⟨by simp, by simp, by simp, nofun⟩

/-- A visitor that goes on walks over the rest. -/
theorem IsWalk.cons {rest : List Descriptor} {visits : List (Descriptor × Bool)}
    {completed : Bool} (h : IsWalk rest visits completed) (descriptor : Descriptor) :
    IsWalk (descriptor :: rest) ((descriptor, true) :: visits) completed where
  inOrder := by simpa using h.inOrder
  stops := by
    cases visits with
    | nil => simp
    | cons visit visits => simpa using h.stops
  completed_iff := by simpa using h.completed_iff
  all hcompleted := by rw [List.map_cons, h.all hcompleted]

/-- A visitor that writes down its visits walks like the plain one. -/
theorem walkList_recordVisits {s : Type} (visit : s → Descriptor → s × Bool) (state : s)
    (descriptors : List Descriptor) (earlier : List (Descriptor × Bool)) :
    ∃ visits,
      walkList (recordVisits visit) (state, earlier) descriptors =
          (((walkList visit state descriptors).1, earlier ++ visits),
            (walkList visit state descriptors).2) ∧
        IsWalk descriptors visits (walkList visit state descriptors).2 := by
  -- The record grows at its end, so the induction is for all records that the walk may start with.
  induction descriptors generalizing state earlier with
  | nil => exact ⟨[], by simp [walkList], isWalk_nil⟩
  | cons descriptor rest ih =>
    rcases hvisit : visit state descriptor with ⟨next, goesOn⟩
    cases goesOn with
    | true =>
      obtain ⟨visits, hwalk, hvisits⟩ := ih next (earlier ++ [(descriptor, true)])
      refine ⟨(descriptor, true) :: visits, ?_, ?_⟩
      · simp only [walkList, recordVisits, hvisit] at hwalk ⊢
        rw [hwalk, List.append_assoc]
        rfl
      · simpa only [walkList, hvisit] using hvisits.cons descriptor
    | false =>
      refine ⟨[(descriptor, false)], by simp only [walkList, recordVisits, hvisit], ?_⟩
      simpa only [walkList, hvisit] using IsWalk.broken descriptor rest

/-! ## What a registry tells -/

/-- What a registry tells is what can be told from its bindings. -/
structure Shows (registry : Registry) (bindings : Bindings) : Prop where
  lookup (id : ModelId) : registry.lookup id = bindings id
  /-- Descriptors are bound to their own numbers. -/
  own {id : ModelId} {descriptor : Descriptor} (h : bindings id = some descriptor) :
    descriptor.modelId = id
  ascending : registry.models.Pairwise fun id other => id.value < other.value
  mem_models_iff (id : ModelId) : id ∈ registry.models ↔ (bindings id).isSome = true
  contains (id : ModelId) : registry.contains id = (bindings id).isSome
  /-- Finitely many numbers are bound, and the size is how many. -/
  size : ∃ bound : Finset ModelId,
    (∀ id, id ∈ bound ↔ (bindings id).isSome = true) ∧ registry.size = bound.card
  isEmpty_iff : registry.isEmpty = true ↔ ∀ id, bindings id = none
  containsBackend_iff (name : String) : registry.containsBackend name = true ↔
    ∃ id descriptor, bindings id = some descriptor ∧ descriptor.backend = name
  /-- Walks go over the descriptors that are bound, in the order of their numbers. -/
  walk {s : Type} (visit : s → Descriptor → s × Bool) (state : s) : ∃ visits,
    registry.walk (recordVisits visit) (state, []) =
        (((registry.walk visit state).1, visits), (registry.walk visit state).2) ∧
      IsWalk (registry.models.filterMap bindings) visits (registry.walk visit state).2

/-- The descriptors are those that are bound to the numbers of the models. -/
theorem filterMap_lookup_models (registry : Registry) :
    registry.models.filterMap registry.lookup = registry.descriptors := by
  rw [models, List.filterMap_map]
  calc registry.descriptors.filterMap (registry.lookup ∘ Descriptor.modelId)
      = registry.descriptors.filterMap some :=
        List.filterMap_congr fun descriptor hmem => (mem_descriptors_iff descriptor).mp hmem
    _ = registry.descriptors := List.filterMap_some

/-- No model is listed twice. -/
theorem nodup_models (registry : Registry) : registry.models.Nodup := by
  rw [models, List.nodup_iff_pairwise_ne, List.pairwise_map]
  exact registry.ascending.imp fun hlt heq => absurd hlt (by simp [heq])

/-- A number is bound to a descriptor that has it. -/
theorem modelId_of_lookup {id : ModelId} {descriptor : Descriptor}
    (h : registry.lookup id = some descriptor) : descriptor.modelId = id := by
  simpa using List.find?_some h

/-- Of every registry it can be told from its bindings what it tells. -/
theorem shows_lookup (registry : Registry) : registry.Shows registry.lookup where
  lookup _ := rfl
  own := modelId_of_lookup
  ascending := List.pairwise_map.mpr registry.ascending
  mem_models_iff id := by rw [mem_models_iff, Option.isSome_iff_ne_none]
  contains _ := rfl
  -- Numbers are distinct, so the set of those that are bound has as many members as the list.
  size := by
    refine ⟨registry.models.toFinset, fun id => ?_, ?_⟩
    · rw [List.mem_toFinset, mem_models_iff, Option.isSome_iff_ne_none]
    · rw [List.toFinset_card_of_nodup registry.nodup_models, models, List.length_map, size]
  isEmpty_iff := by
    rw [isEmpty, List.isEmpty_iff]
    constructor
    · intro hnil id
      rw [lookup_eq_none_iff, models, hnil]
      exact List.not_mem_nil
    · intro hnone
      refine List.eq_nil_iff_forall_not_mem.mpr fun descriptor hmem => ?_
      rw [mem_descriptors_iff, hnone] at hmem
      cases hmem
  containsBackend_iff name := by
    simp only [containsBackend, List.any_eq_true, beq_iff_eq]
    constructor
    · rintro ⟨descriptor, hmem, hname⟩
      exact ⟨descriptor.modelId, descriptor, (mem_descriptors_iff descriptor).mp hmem, hname⟩
    · rintro ⟨id, descriptor, hlookup, hname⟩
      exact ⟨descriptor, List.mem_of_find?_eq_some hlookup, hname⟩
  walk visit state := by
    rw [filterMap_lookup_models]
    exact walkList_recordVisits visit state registry.descriptors []

/-! ## Bindings that stay -/

/-- A change that takes a number off its descriptor. -/
def Change.Releases (id : ModelId) : Change → Prop
  | .unregister other => other = id
  | .shutdown => True
  | _ => False

/-- A batch binds no number that is bound, unless taken numbers may be registered anew. -/
theorem lookup_registerBatch_of_bound {id : ModelId} {descriptor : Descriptor}
    (hoverwrite : registry.overwrite = false) (h : registry.lookup id = some descriptor)
    (batch : List Descriptor) :
    (registry.registerBatch batch).2.lookup id = some descriptor := by
  by_cases haccepts : registry.Accepts batch
  · have hfree : ∀ other ∈ batch, registry.lookup other.modelId = none :=
      (haccepts.resolve_left (by simp [hoverwrite])).2
    have hlast : lastOf batch id = none := by
      refine lastOf_eq_none_iff.mpr fun other hmem hid => ?_
      have hnone := hfree other hmem
      rw [hid, h] at hnone
      cases hnone
    rw [registerBatch_of_accepts haccepts, (extends_insertAll registry batch).lookup, hlast]
    exact h
  · obtain ⟨_, -, hrefused⟩ := registerBatch_of_not_accepts haccepts
    rw [hrefused]
    exact h

/-- Unless taken numbers may be registered anew, a descriptor loses its number only by a change that
gives that number up, and this change succeeds. -/
theorem releases_of_lookup_apply_ne {id : ModelId} {descriptor : Descriptor} {change : Change}
    (hoverwrite : registry.overwrite = false) (h : registry.lookup id = some descriptor)
    (hlost : (registry.apply change).2.lookup id ≠ some descriptor) :
    change.Releases id ∧ (registry.apply change).1 = .ok () := by
  -- Registering loses no binding, so what lost this one gave it up.
  cases change with
  | register other => exact absurd (lookup_registerBatch_of_bound hoverwrite h [other]) hlost
  | registerBatch batch => exact absurd (lookup_registerBatch_of_bound hoverwrite h batch) hlost
  | unregister other =>
    by_cases hbound : registry.lookup other = none
    · -- Nothing was given up.
      rw [apply, unregister_of_unbound hbound] at hlost
      exact absurd h hlost
    · obtain ⟨hok, -, hlookup⟩ := lookup_unregister hbound
      refine ⟨?_, hok⟩
      by_contra hne
      rw [apply, hlookup, Function.update_of_ne (Ne.symm hne)] at hlost
      exact hlost h
  | shutdown => exact ⟨trivial, rfl⟩

/-- Unless taken numbers may be registered anew, a run in which a descriptor loses its number gives
that number up. -/
theorem exists_release_of_lookup_run_ne {id : ModelId} {descriptor : Descriptor}
    (hoverwrite : registry.overwrite = false) (h : registry.lookup id = some descriptor)
    {changes : List Change} (hlost : (registry.run changes).lookup id ≠ some descriptor) :
    ∃ before change after, changes = before ++ change :: after ∧ change.Releases id ∧
      ((registry.run before).apply change).1 = .ok () := by
  -- The binding is lost by the first change after which it is gone.
  induction changes generalizing registry with
  | nil => exact absurd h hlost
  | cons change changes ih =>
    by_cases hkept : (registry.apply change).2.lookup id = some descriptor
    · obtain ⟨before, released, after, rfl, hreleases, hok⟩ :=
        ih ((registry.follows_apply change).overwrite_eq.trans hoverwrite) hkept hlost
      exact ⟨change :: before, released, after, rfl, hreleases, hok⟩
    · obtain ⟨hreleases, hok⟩ := releases_of_lookup_apply_ne hoverwrite h hkept
      exact ⟨[], change, changes, rfl, hreleases, hok⟩

/-! ## Registries and finite maps -/

/-- After every run of changes a registry tells what its bindings tell, and the next change comes to
what it comes to for them. Giving up a number fails exactly if it is unbound, and otherwise unbinds
that number alone. Unless taken numbers may be registered anew, a descriptor that is bound stays so
until its number is given up or the registry is shut down. -/
theorem refines_bindings (overwrite : Bool) (changes : List Change) :
    let registry := (empty overwrite).run changes
    let bindings := Bindings.run (fun _ => none) overwrite changes
    registry.Shows bindings ∧
      (∀ change, registry.Follows (registry.apply change) (bindings.apply overwrite change)) ∧
      (∀ id, bindings id = none →
        registry.unregister id = (.error (.notRegistered id), registry)) ∧
      (∀ id, bindings id ≠ none →
        (registry.unregister id).1 = .ok () ∧
          (registry.unregister id).2.lookup = Function.update bindings id none) ∧
      (overwrite = false → ∀ id descriptor later, bindings id = some descriptor →
        (registry.run later).lookup id ≠ some descriptor →
          ∃ before change after, later = before ++ change :: after ∧ change.Releases id ∧
            ((registry.run before).apply change).1 = .ok ()) := by
  intro registry bindings
  obtain ⟨hoverwrite, hlookup⟩ := lookup_run (empty overwrite) changes
  change registry.overwrite = overwrite at hoverwrite
  change registry.lookup = bindings at hlookup
  -- The bindings are those of the registry, of which all this has been shown.
  rw [← hlookup]
  refine ⟨registry.shows_lookup, fun change => ?_, fun _ => unregister_of_unbound,
    fun _ hbound => ?_, fun hkeeps _ _ _ hbound hlost => ?_⟩
  · rw [← hoverwrite]
    exact registry.follows_apply change
  · obtain ⟨hok, -, hunregister⟩ := lookup_unregister hbound
    exact ⟨hok, hunregister⟩
  · exact exists_release_of_lookup_run_ne (hoverwrite.trans hkeeps) hbound hlost

end Registry

end Transceiver
