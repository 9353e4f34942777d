import Transceiver.Descriptor

/-!
# Registered Models

A registry binds model numbers to descriptors, each under its own number, and keeps them in
ascending order. It either refuses a number that is taken or, if it allows overwriting, replaces the
descriptor. A batch is registered as a whole or not at all.

## Main definitions

* `Registry.registerBatch` and `Registry.unregister`: how the bindings change;
* `Registry.lookup` and `Registry.models`: what is bound;
* `Registry.walk`: a visit to the descriptors that may break off.
-/

namespace Transceiver

/-- The descriptors stand in strictly ascending order of their numbers. -/
def Ascending (descriptors : List Descriptor) : Prop :=
  descriptors.Pairwise fun a b => a.modelId.value < b.modelId.value

/-- Puts a descriptor in its place, where it replaces one of the same number. -/
def insertById (descriptor : Descriptor) : List Descriptor → List Descriptor
  | [] => [descriptor]
  | first :: rest =>
    if descriptor.modelId.value < first.modelId.value then descriptor :: first :: rest
    else if descriptor.modelId = first.modelId then descriptor :: rest
    else first :: insertById descriptor rest

/-- Insertion brings in nothing but the descriptor. -/
theorem mem_of_mem_insertById {descriptor other : Descriptor} {descriptors : List Descriptor}
    (h : other ∈ insertById descriptor descriptors) :
    other = descriptor ∨ other ∈ descriptors := by
  induction descriptors with
  | nil => simpa [insertById] using h
  | cons first rest ih =>
    rw [insertById] at h
    split at h
    · simpa using h
    · split at h
      · rcases List.mem_cons.mp h with h | h
        · exact .inl h
        · exact .inr (List.mem_cons_of_mem first h)
      · rcases List.mem_cons.mp h with h | h
        · exact .inr (by simp [h])
        · exact (ih h).imp_right (List.mem_cons_of_mem first)

/-- Insertion keeps the order. -/
theorem Ascending.insertById {descriptor : Descriptor} {descriptors : List Descriptor}
    (h : Ascending descriptors) : Ascending (insertById descriptor descriptors) := by
  induction descriptors with
  | nil => simp [Transceiver.insertById, Ascending]
  | cons first rest ih =>
    obtain ⟨below, sorted⟩ := List.pairwise_cons.mp h
    rw [Transceiver.insertById]
    split
    · rename_i lt
      refine List.pairwise_cons.mpr ⟨fun other hmem => ?_, h⟩
      rcases List.mem_cons.mp hmem with rfl | hmem
      · exact lt
      · exact Nat.lt_trans lt (below other hmem)
    · split
      · rename_i eq
        exact List.pairwise_cons.mpr ⟨fun other hmem => eq ▸ below other hmem, sorted⟩
      · rename_i nlt ne
        refine List.pairwise_cons.mpr ⟨fun other hmem => ?_, ih sorted⟩
        rcases mem_of_mem_insertById hmem with rfl | hmem
        · have hne : other.modelId.value ≠ first.modelId.value :=
            fun h => ne (by cases ho : other.modelId; cases hf : first.modelId; simp_all)
          omega
        · exact below other hmem

/-- The models that are known at present. -/
structure Registry where
  /-- The descriptors, in ascending order of their numbers. -/
  descriptors : List Descriptor
  /-- A taken number may be registered anew. -/
  overwrite : Bool
  /-- The order of the descriptors. -/
  ascending : Ascending descriptors

namespace Registry

/-- A registry without models. -/
def empty (overwrite : Bool) : Registry :=
  ⟨[], overwrite, List.Pairwise.nil⟩

instance : Inhabited Registry := ⟨empty false⟩

/-! ## What is bound -/

/-- The descriptor bound to a number. -/
def lookup (registry : Registry) (id : ModelId) : Option Descriptor :=
  registry.descriptors.find? fun descriptor => descriptor.modelId == id

/-- A number is bound. -/
def contains (registry : Registry) (id : ModelId) : Bool :=
  (registry.lookup id).isSome

/-- Some model belongs to a backend. -/
def containsBackend (registry : Registry) (name : String) : Bool :=
  registry.descriptors.any fun descriptor => descriptor.backend == name

/-- The bound numbers, in ascending order. -/
def models (registry : Registry) : List ModelId :=
  registry.descriptors.map Descriptor.modelId

/-- How many models there are. -/
def size (registry : Registry) : Nat :=
  registry.descriptors.length

/-- There are no models. -/
def isEmpty (registry : Registry) : Bool :=
  registry.descriptors.isEmpty

/-- Visits descriptors in order. The visitor says whether to go on, and the result says whether it
never broke off. -/
def walkList {s : Type} (visit : s → Descriptor → s × Bool) (state : s) :
    List Descriptor → s × Bool
  | [] => (state, true)
  | descriptor :: rest =>
    match visit state descriptor with
    | (state, true) => walkList visit state rest
    | (state, false) => (state, false)

/-- Visits the descriptors of a registry in ascending order of their numbers. -/
def walk {s : Type} (registry : Registry) (visit : s → Descriptor → s × Bool) (state : s) :
    s × Bool :=
  walkList visit state registry.descriptors

/-- The text of a registry. -/
def describe (registry : Registry) : String :=
  let models := registry.models.map fun id => s!"ModelId({id})"
  "Registry \x7b models: [" ++ ", ".intercalate models ++
    s!"], allow_overwrite: {registry.overwrite} \x7d"

/-! ## How the bindings change -/

/-- Binds a descriptor to its number. -/
def insert (registry : Registry) (descriptor : Descriptor) : Registry :=
  { registry with
    descriptors := insertById descriptor registry.descriptors
    ascending := registry.ascending.insertById }

/-- The first number of a batch that is taken, by `taken` or by an earlier descriptor of the
batch. -/
def firstConflict (taken : List ModelId) : List Descriptor → Option ModelId
  | [] => none
  | descriptor :: rest =>
    if descriptor.modelId ∈ taken then some descriptor.modelId
    else firstConflict (descriptor.modelId :: taken) rest

/-- Registers a batch of models. Unless overwriting is allowed, a taken number leaves the registry
as it is. -/
def registerBatch (registry : Registry) (batch : List Descriptor) :
    Except Error Unit × Registry :=
  match if registry.overwrite then none else firstConflict registry.models batch with
  | some id => (.error (.alreadyRegistered id), registry)
  | none => (.ok (), batch.foldl insert registry)

/-- Registers a model. -/
def register (registry : Registry) (descriptor : Descriptor) : Except Error Unit × Registry :=
  registry.registerBatch [descriptor]

/-- Gives a number up. -/
def unregister (registry : Registry) (id : ModelId) : Except Error Unit × Registry :=
  if registry.contains id then
    (.ok (),
      { registry with
        descriptors := registry.descriptors.filter fun descriptor => descriptor.modelId ≠ id
        ascending := registry.ascending.filter _ })
  else (.error (.notRegistered id), registry)

/-- Gives all numbers up. -/
def shutdown (registry : Registry) : Registry :=
  empty registry.overwrite

end Registry

end Transceiver
