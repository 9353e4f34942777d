import Transceiver.Proofs.Registry.Bindings

/-!
# Batches and Single Registrations

A batch is checked against the registry before any of it is registered, while descriptors that are
registered one at a time meet a registry that grows. Both come to the same, since the numbers that
the check adds to the taken ones are those that single registrations bind on the way
(`Registry.registerBatch_cons_of_free`). What differs is the registry after a refusal, where the
batch leaves nothing behind.

## Main statement

* `Registry.registerBatch_agrees`: a batch against its descriptors registered one at a time.
-/

namespace Transceiver

namespace Registry

variable {registry : Registry} {descriptor : Descriptor}

/-! ## Single registrations -/

/-- A number may be bound: it is not taken, or taken numbers may be registered anew. -/
def IsFree (registry : Registry) (id : ModelId) : Prop :=
  registry.overwrite = true ∨ registry.lookup id = none

/-- A batch of one descriptor is accepted exactly if the number of the descriptor is free. -/
theorem accepts_singleton_iff :
    registry.Accepts [descriptor] ↔ registry.IsFree descriptor.modelId := by
  simp [Accepts, IsFree]

/-- A descriptor with a free number is registered. -/
theorem register_of_free (h : registry.IsFree descriptor.modelId) :
    registry.register descriptor = (.ok (), registry.insert descriptor) :=
  registerBatch_of_accepts (accepts_singleton_iff.mpr h)

/-- A descriptor with a taken number is refused for it, and nothing changes. -/
theorem register_of_taken (h : ¬ registry.IsFree descriptor.modelId) :
    registry.register descriptor = (.error (.alreadyRegistered descriptor.modelId), registry) := by
  obtain ⟨other, hmem, hrefused⟩ :=
    registerBatch_of_not_accepts fun haccepts => h (accepts_singleton_iff.mp haccepts)
  obtain rfl := List.mem_singleton.mp hmem
  exact hrefused

/-- What registering a descriptor by itself comes to. -/
structure RegistersAlone (registry : Registry) (descriptor : Descriptor) : Prop where
  /-- It succeeds if the number is not taken, or if taken numbers may be registered anew. -/
  accepted : registry.overwrite = true ∨ registry.lookup descriptor.modelId = none →
    registry.register descriptor = (.ok (), registry.insert descriptor)
  /-- Otherwise it is refused for the number, and nothing changes. -/
  refused : registry.overwrite = false → registry.lookup descriptor.modelId ≠ none →
    registry.register descriptor = (.error (.alreadyRegistered descriptor.modelId), registry)
  /-- What is inserted is bound to its number, and other numbers stay as they are. -/
  lookup (id : ModelId) : (registry.insert descriptor).lookup id =
    if descriptor.modelId = id then some descriptor else registry.lookup id
  /-- The rule for taken numbers stays. -/
  overwrite : (registry.insert descriptor).overwrite = registry.overwrite

/-- A descriptor is registered by itself if its number is free, and refused for it otherwise. -/
theorem registersAlone (registry : Registry) (descriptor : Descriptor) :
    registry.RegistersAlone descriptor where
  accepted := register_of_free
  refused hoverwrite htaken := register_of_taken (by simp [IsFree, hoverwrite, htaken])
  lookup := lookup_insert registry descriptor
  overwrite := rfl

/-- Registers descriptors one at a time: what each registration answers, and the registry after the
last one. A refusal does not keep later descriptors from being tried. -/
def registerEach (registry : Registry) : List Descriptor → List (Except Error Unit) × Registry
  | [] => ([], registry)
  | descriptor :: rest =>
    let (outcome, next) := registry.register descriptor
    let (outcomes, after) := next.registerEach rest
    (outcome :: outcomes, after)

/-- The first descriptor is registered by itself, and the others meet the registry that it
leaves. -/
theorem registerEach_cons (registry : Registry) (descriptor : Descriptor)
    (rest : List Descriptor) :
    registry.registerEach (descriptor :: rest) =
      ((registry.register descriptor).1 ::
          ((registry.register descriptor).2.registerEach rest).1,
        ((registry.register descriptor).2.registerEach rest).2) :=
  rfl

/-- Descriptors that come later meet the registry that the earlier ones left. -/
theorem registerEach_append (registry : Registry) (before after : List Descriptor) :
    (registry.registerEach (before ++ after)).1 =
      (registry.registerEach before).1 ++
        ((registry.registerEach before).2.registerEach after).1 := by
  induction before generalizing registry with
  | nil => rfl
  | cons descriptor before ih =>
    rw [List.cons_append, registerEach_cons, registerEach_cons, ih, List.cons_append]

/-! ## The first descriptor of a batch -/

/-- Conflicts depend only on which numbers are taken. -/
theorem firstConflict_congr {taken taken' : List ModelId} (h : ∀ id, id ∈ taken ↔ id ∈ taken')
    (batch : List Descriptor) : firstConflict taken batch = firstConflict taken' batch := by
  induction batch generalizing taken taken' with
  | nil => rfl
  | cons descriptor batch ih =>
    -- Both lists take the number of the descriptor in before they go on.
    have hrest (id : ModelId) :
        id ∈ descriptor.modelId :: taken ↔ id ∈ descriptor.modelId :: taken' := by
      rw [List.mem_cons, List.mem_cons, h]
    simp only [firstConflict, h, ih hrest]

/-- The numbers that are taken are those that are bound. -/
theorem mem_models_iff {id : ModelId} : id ∈ registry.models ↔ registry.lookup id ≠ none := by
  rw [Ne, lookup_eq_none_iff, Decidable.not_not]

/-- Insertion takes the number of the descriptor and no other. -/
theorem mem_models_insert {id : ModelId} :
    id ∈ (registry.insert descriptor).models ↔ id ∈ descriptor.modelId :: registry.models := by
  rw [mem_models_iff, lookup_insert, List.mem_cons, mem_models_iff]
  split
  next h => simp [h]
  next h => simp [Ne.symm h]

/-- Insertion leaves the rule for taken numbers alone. -/
theorem overwrite_insert (registry : Registry) (descriptor : Descriptor) :
    (registry.insert descriptor).overwrite = registry.overwrite :=
  rfl

/-- A batch whose first number is taken is refused for it. -/
theorem registerBatch_cons_of_taken (h : ¬ registry.IsFree descriptor.modelId)
    (rest : List Descriptor) :
    registry.registerBatch (descriptor :: rest) =
      (.error (.alreadyRegistered descriptor.modelId), registry) := by
  obtain ⟨hoverwrite, htaken⟩ := not_or.mp h
  rw [registerBatch, if_neg hoverwrite, firstConflict, if_pos (mem_models_iff.mpr htaken)]

/-- If the first number of a batch is free, the rest of the batch fares as it would with the first
descriptor registered. A refusal takes the first descriptor back. -/
theorem registerBatch_cons_of_free (h : registry.IsFree descriptor.modelId)
    (rest : List Descriptor) :
    registry.registerBatch (descriptor :: rest) =
      match (registry.insert descriptor).registerBatch rest with
      | (.ok (), after) => (.ok (), after)
      | (.error e, _) => (.error e, registry) := by
  rw [registerBatch, registerBatch, overwrite_insert]
  by_cases hfree : registry.overwrite = true
  · rw [if_pos hfree, if_pos hfree, List.foldl_cons]
  · have hunbound : registry.lookup descriptor.modelId = none := h.resolve_left hfree
    rw [if_neg hfree, if_neg hfree, firstConflict, if_neg (lookup_eq_none_iff.mp hunbound)]
    -- The numbers taken for the rest are those that are bound once the first is registered.
    rw [firstConflict_congr (fun _ => mem_models_insert) rest]
    cases firstConflict (descriptor.modelId :: registry.models) rest with
    | none => rw [List.foldl_cons]
    | some id => rfl

/-! ## Whole batches -/

/-- Registered one at a time, the descriptors of a batch are bound up to `refused`, which is refused
for its number. -/
def FirstRefused (registry : Registry) (batch : List Descriptor) (refused : Descriptor) : Prop :=
  ∃ before after, batch = before ++ refused :: after ∧
    (∀ outcome ∈ (registry.registerEach before).1, outcome = .ok ()) ∧
    ((registry.registerEach before).2.register refused).1 =
      .error (.alreadyRegistered refused.modelId)

/-- If the first number is taken, the first descriptor is the one that is refused. -/
theorem FirstRefused.of_taken (h : ¬ registry.IsFree descriptor.modelId)
    (rest : List Descriptor) : registry.FirstRefused (descriptor :: rest) descriptor := by
  refine ⟨[], rest, rfl, by simp [registerEach], ?_⟩
  rw [registerEach, register_of_taken h]

/-- Behind a descriptor with a free number the first refusal is the one among the rest. -/
theorem FirstRefused.cons {rest : List Descriptor} {refused : Descriptor}
    (hfree : registry.IsFree descriptor.modelId)
    (h : (registry.insert descriptor).FirstRefused rest refused) :
    registry.FirstRefused (descriptor :: rest) refused := by
  obtain ⟨before, after, rfl, hbound, hrefused⟩ := h
  refine ⟨descriptor :: before, after, rfl, ?_, ?_⟩
  · rw [registerEach_cons, register_of_free hfree]
    exact List.forall_mem_cons.mpr ⟨rfl, hbound⟩
  · rw [registerEach_cons, register_of_free hfree]
    exact hrefused

/-- A refusal is among what the single registrations answer. -/
theorem FirstRefused.exists_error {batch : List Descriptor} {refused : Descriptor}
    (h : registry.FirstRefused batch refused) :
    .error (.alreadyRegistered refused.modelId) ∈ (registry.registerEach batch).1 := by
  obtain ⟨before, after, rfl, -, hrefused⟩ := h
  rw [registerEach_append, registerEach_cons, hrefused]
  exact List.mem_append_right _ List.mem_cons_self

/-- Either all single registrations succeed and the batch binds what they bind, or the batch is
refused for the first one that fails. -/
theorem registerBatch_cases (registry : Registry) (batch : List Descriptor) :
    ((∀ outcome ∈ (registry.registerEach batch).1, outcome = .ok ()) ∧
        registry.registerBatch batch = (.ok (), (registry.registerEach batch).2)) ∨
      ∃ refused, registry.FirstRefused batch refused ∧
        registry.registerBatch batch =
          (.error (.alreadyRegistered refused.modelId), registry) := by
  -- The single registrations go through a registry that grows, so the claim is about all of them.
  induction batch generalizing registry with
  | nil =>
    left
    refine ⟨by simp [registerEach], registerBatch_of_accepts ?_⟩
    simp [Accepts]
  | cons descriptor rest ih =>
    by_cases hfree : registry.IsFree descriptor.modelId
    · rw [registerBatch_cons_of_free hfree, registerEach_cons, register_of_free hfree]
      rcases ih (registry.insert descriptor) with ⟨hbound, hrest⟩ | ⟨refused, hrefused, hrest⟩
      · left
        rw [hrest]
        exact ⟨List.forall_mem_cons.mpr ⟨rfl, hbound⟩, rfl⟩
      · right
        rw [hrest]
        exact ⟨refused, hrefused.cons hfree, rfl⟩
    · right
      exact ⟨descriptor, .of_taken hfree rest, registerBatch_cons_of_taken hfree rest⟩

/-- A batch is registered exactly if all its descriptors can be registered one after the other, and
then it binds what they bind. Otherwise it is refused for the first descriptor that would be
refused, and the registry stays as it is. A single descriptor is refused exactly if its number is
taken and must not be registered anew. -/
theorem registerBatch_agrees (registry : Registry) (batch : List Descriptor) :
    let each := registry.registerEach batch
    let whole := registry.registerBatch batch
    (whole.1 = .ok () ↔ ∀ outcome ∈ each.1, outcome = .ok ()) ∧
      (whole.1 = .ok () → whole.2 = each.2) ∧
      (∀ e, whole.1 = .error e →
        whole.2 = registry ∧
          ∃ refused, registry.FirstRefused batch refused ∧
            e = .alreadyRegistered refused.modelId) ∧
      ∀ (registry : Registry) (descriptor : Descriptor), registry.RegistersAlone descriptor := by
  intro each whole
  rcases registry.registerBatch_cases batch with ⟨hbound, hbatch⟩ | ⟨refused, hrefused, hbatch⟩
  · have hwhole : whole = (.ok (), each.2) := hbatch
    rw [hwhole]
    exact ⟨iff_of_true rfl hbound, fun _ => rfl, nofun, registersAlone⟩
  · have hwhole : whole = (.error (.alreadyRegistered refused.modelId), registry) := hbatch
    rw [hwhole]
    refine ⟨iff_of_false nofun fun hall => ?_, nofun, ?_, registersAlone⟩
    · -- One of the single registrations fails.
      cases hall _ hrefused.exists_error
    · rintro e ⟨⟩
      exact ⟨rfl, refused, hrefused, rfl⟩

end Registry

end Transceiver
