import Transceiver.Registry

/-!
# Bindings of a Registry

Two registries with the same bindings, and the same rule for taken numbers, are the same
(`Registry.eq_of_lookup`), since the order of the descriptors follows from their numbers. So it is
enough to say what an operation does to the bindings. `Registry.Extends` says it of a batch that is
registered: the batch counts before what was there, and later descriptors before earlier ones.
`Registry.Accepts` says when this happens.

## Main statements

* `Registry.registerBatch_of_accepts`, `Registry.extends_insertAll`: a batch that is registered;
* `Registry.registerBatch_of_not_accepts`: a batch that is refused.
-/

namespace Transceiver

/-- Insertion binds the number of the descriptor and no other. -/
theorem find?_insertById (descriptor : Descriptor) (descriptors : List Descriptor) (id : ModelId) :
    ((insertById descriptor descriptors).find? fun other => other.modelId == id) =
      if descriptor.modelId = id then some descriptor
      else descriptors.find? fun other => other.modelId == id := by
  induction descriptors with
  | nil => by_cases h : descriptor.modelId = id <;> simp [insertById, h]
  | cons first rest ih =>
    rw [insertById]
    split
    · by_cases h : descriptor.modelId = id <;> simp [h]
    · split
      next heq =>
        -- The descriptor that is replaced had the same number.
        by_cases h : descriptor.modelId = id
        · simp [h]
        · have hfirst : first.modelId ≠ id := heq ▸ h
          simp [h, hfirst]
      next hne =>
        by_cases hfirst : first.modelId = id
        · have h : descriptor.modelId ≠ id := fun h => hne (h.trans hfirst.symm)
          simp [h, hfirst]
        · simp [hfirst, ih]

namespace Registry

variable {registry before after : Registry} {batch : List Descriptor}

/-- Insertion binds the number of the descriptor and leaves every other one as it was. -/
theorem lookup_insert (registry : Registry) (descriptor : Descriptor) (id : ModelId) :
    (registry.insert descriptor).lookup id =
      if descriptor.modelId = id then some descriptor else registry.lookup id :=
  find?_insertById descriptor registry.descriptors id

/-! ## A registry is its bindings -/

/-- What is registered is bound to its own number. -/
theorem mem_descriptors_iff (descriptor : Descriptor) :
    descriptor ∈ registry.descriptors ↔
      registry.lookup descriptor.modelId = some descriptor := by
  constructor
  · have hsorted := registry.ascending
    rw [lookup]
    -- Of the registry only the order of its descriptors counts.
    generalize registry.descriptors = descriptors at hsorted
    intro hmem
    induction descriptors with
    | nil => cases hmem
    | cons first rest ih =>
      obtain ⟨below, hsorted⟩ := List.pairwise_cons.mp hsorted
      rcases List.mem_cons.mp hmem with rfl | hmem
      · simp
      · -- The first number is below that of the descriptor.
        have hne : first.modelId ≠ descriptor.modelId := fun h =>
          absurd (below descriptor hmem) (by simp [h])
        simpa [hne] using ih hsorted hmem
  · exact List.mem_of_find?_eq_some

/-- A number is unbound exactly if it is not among those of the registered models. -/
theorem lookup_eq_none_iff {id : ModelId} : registry.lookup id = none ↔ id ∉ registry.models := by
  simp [lookup, models]

/-- Ascending descriptors have different numbers. -/
theorem nodup_descriptors (registry : Registry) : registry.descriptors.Nodup :=
  registry.ascending.imp fun hlt heq => absurd hlt (by simp [heq])

/-- Registries that bind the same numbers to the same descriptors have the same descriptors in the
same order. -/
theorem eq_of_lookup (hoverwrite : after.overwrite = before.overwrite)
    (h : ∀ id, after.lookup id = before.lookup id) : after = before := by
  have hmem (descriptor : Descriptor) :
      descriptor ∈ after.descriptors ↔ descriptor ∈ before.descriptors := by
    rw [mem_descriptors_iff, mem_descriptors_iff, h]
  -- Both lists are in order, so it is enough that one is a permutation of the other.
  have hperm : after.descriptors.Perm before.descriptors :=
    (List.perm_ext_iff_of_nodup after.nodup_descriptors before.nodup_descriptors).mpr hmem
  have hdescriptors : after.descriptors = before.descriptors :=
    hperm.eq_of_pairwise (fun _ _ _ _ hlt hgt => absurd hlt (Nat.lt_asymm hgt))
      after.ascending before.ascending
  cases after
  cases before
  simp_all

/-! ## Batches -/

/-- The last descriptor of a number in a batch. -/
def lastOf (batch : List Descriptor) (id : ModelId) : Option Descriptor :=
  batch.reverse.find? fun descriptor => descriptor.modelId == id

/-- A registry has the bindings of another and, counting before them, those of a batch, in which
later descriptors count before earlier ones. -/
structure Extends (after before : Registry) (batch : List Descriptor) : Prop where
  /-- The rule for taken numbers stays. -/
  overwrite : after.overwrite = before.overwrite
  /-- The batch counts first, and other bindings stay. -/
  lookup (id : ModelId) : after.lookup id = (lastOf batch id).or (before.lookup id)

/-- A batch can be registered: taken numbers may be registered anew, or none is taken, not even by
another descriptor of the batch. -/
def Accepts (registry : Registry) (batch : List Descriptor) : Prop :=
  registry.overwrite = true ∨
    (batch.map Descriptor.modelId).Nodup ∧
      ∀ descriptor ∈ batch, registry.lookup descriptor.modelId = none

/-- A batch binds a number exactly if one of its descriptors has it. -/
theorem lastOf_eq_none_iff {id : ModelId} :
    lastOf batch id = none ↔ ∀ descriptor ∈ batch, descriptor.modelId ≠ id := by
  simp [lastOf]

/-- Insertion of a whole batch extends the registry by it. -/
theorem extends_insertAll (registry : Registry) (batch : List Descriptor) :
    (batch.foldl insert registry).Extends registry batch := by
  induction batch generalizing registry with
  | nil => exact ⟨rfl, fun _ => rfl⟩
  | cons descriptor batch ih =>
    obtain ⟨hoverwrite, hlookup⟩ := ih (registry.insert descriptor)
    refine ⟨hoverwrite, fun id => ?_⟩
    -- The first descriptor counts only where no later one does.
    rw [List.foldl_cons, hlookup, lookup_insert, lastOf, lastOf, List.reverse_cons,
      List.find?_append, Option.or_assoc]
    congr 1
    by_cases h : descriptor.modelId = id <;> simp [h]

/-- A batch has no conflict exactly if its numbers are different and none of them is taken. -/
theorem firstConflict_eq_none_iff (taken : List ModelId) :
    firstConflict taken batch = none ↔
      (batch.map Descriptor.modelId).Nodup ∧ ∀ descriptor ∈ batch, descriptor.modelId ∉ taken := by
  induction batch generalizing taken with
  | nil => simp [firstConflict]
  | cons descriptor batch ih =>
    rw [firstConflict]
    split
    next htaken => simp [htaken]
    next hfree =>
      rw [ih]
      simp only [List.map_cons, List.nodup_cons, List.mem_cons, not_or, List.mem_map]
      grind

/-- A conflict is about the number of one of the descriptors. -/
theorem mem_of_firstConflict {taken : List ModelId} {id : ModelId}
    (h : firstConflict taken batch = some id) : ∃ descriptor ∈ batch, descriptor.modelId = id := by
  induction batch generalizing taken with
  | nil => cases h
  | cons descriptor batch ih =>
    rw [firstConflict] at h
    split at h
    · exact ⟨descriptor, List.mem_cons_self, Option.some.inj h⟩
    · obtain ⟨other, hmem, hid⟩ := ih h
      exact ⟨other, List.mem_cons_of_mem _ hmem, hid⟩

/-- A batch that is accepted is inserted as a whole. -/
theorem registerBatch_of_accepts (h : registry.Accepts batch) :
    registry.registerBatch batch = (.ok (), batch.foldl insert registry) := by
  rw [registerBatch]
  rcases h with hoverwrite | ⟨hnodup, hfree⟩
  · rw [if_pos hoverwrite]
  · have hconflict : firstConflict registry.models batch = none :=
      (firstConflict_eq_none_iff _).mpr
        ⟨hnodup, fun descriptor hmem => lookup_eq_none_iff.mp (hfree descriptor hmem)⟩
    rw [hconflict, ite_self]

/-- A batch that cannot be registered is refused for one of its numbers, and changes nothing. -/
theorem registerBatch_of_not_accepts (h : ¬ registry.Accepts batch) :
    ∃ descriptor ∈ batch,
      registry.registerBatch batch =
        (.error (.alreadyRegistered descriptor.modelId), registry) := by
  obtain ⟨hoverwrite, hconflict⟩ := not_or.mp h
  cases hfirst : firstConflict registry.models batch with
  | none =>
    obtain ⟨hnodup, hfree⟩ := (firstConflict_eq_none_iff _).mp hfirst
    exact absurd ⟨hnodup, fun descriptor hmem => lookup_eq_none_iff.mpr (hfree descriptor hmem)⟩
      hconflict
  | some id =>
    obtain ⟨descriptor, hmem, rfl⟩ := mem_of_firstConflict hfirst
    exact ⟨descriptor, hmem, by rw [registerBatch, if_neg hoverwrite, hfirst]⟩

/-- A batch is accepted exactly if its registration succeeds. -/
theorem accepts_iff : registry.Accepts batch ↔ (registry.registerBatch batch).1 = .ok () := by
  by_cases h : registry.Accepts batch
  · simp [h, registerBatch_of_accepts h]
  · obtain ⟨descriptor, -, hbatch⟩ := registerBatch_of_not_accepts h
    simp [h, hbatch]

/-- A batch that is refused changes nothing. -/
theorem registerBatch_of_error {cause : Error}
    (h : (registry.registerBatch batch).1 = .error cause) :
    registry.registerBatch batch = (.error cause, registry) := by
  have hrefused : ¬ registry.Accepts batch := by simp [accepts_iff, h]
  obtain ⟨descriptor, -, hbatch⟩ := registerBatch_of_not_accepts hrefused
  rw [hbatch] at h ⊢
  rw [← h]

/-! ## Registering a batch again -/

/-- A batch that is registered binds each of its numbers. -/
theorem lookup_insertAll_ne_none (registry : Registry) {descriptor : Descriptor}
    (hmem : descriptor ∈ batch) :
    (batch.foldl insert registry).lookup descriptor.modelId ≠ none := by
  rw [(extends_insertAll registry batch).lookup]
  intro hnone
  have hlast := (Option.or_eq_none_iff.mp hnone).1
  exact lastOf_eq_none_iff.mp hlast descriptor hmem rfl

/-- Registering a batch for the second time changes nothing. -/
theorem insertAll_insertAll (registry : Registry) (batch : List Descriptor) :
    batch.foldl insert (batch.foldl insert registry) = batch.foldl insert registry := by
  have honce := extends_insertAll registry batch
  have htwice := extends_insertAll (batch.foldl insert registry) batch
  refine eq_of_lookup htwice.overwrite fun id => ?_
  rw [htwice.lookup, honce.lookup, ← Option.or_assoc, Option.or_self]

/-- A batch that was registered can be registered again only if taken numbers may be registered anew
or if there was nothing to register. -/
theorem accepts_insertAll_iff (h : registry.Accepts batch) :
    (batch.foldl insert registry).Accepts batch ↔
      (batch.foldl insert registry).overwrite = true ∨ batch.foldl insert registry = registry := by
  constructor
  · rintro (hoverwrite | ⟨-, hfree⟩)
    · exact .inl hoverwrite
    · have hempty : batch = [] := List.eq_nil_iff_forall_not_mem.mpr fun descriptor hmem =>
        lookup_insertAll_ne_none registry hmem (hfree descriptor hmem)
      exact .inr (by rw [hempty, List.foldl_nil])
  · rintro (hoverwrite | hsame)
    · exact .inl hoverwrite
    · rwa [hsame]

end Registry

end Transceiver
