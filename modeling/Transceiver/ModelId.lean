/-!
# Model Numbers

Every radio model has a number. Numbers are handed out in blocks of one hundred, one block to a
backend, so a model's number also names the backend that looks after it.
-/

namespace Transceiver

/-- The number of a radio model. -/
structure ModelId where
  value : Nat
  deriving DecidableEq, Repr, Inhabited

namespace ModelId

/-- How many model numbers each backend owns. -/
def blockSize : Nat := 100

/-- The number of model `index` of backend number `backend`. -/
def ofBackend (backend index : Nat) : ModelId :=
  ⟨backend * blockSize + index⟩

/-- The number of the backend that owns a model. -/
def backendNumber (id : ModelId) : Nat :=
  id.value / blockSize

instance : ToString ModelId :=
  ⟨fun id => toString id.value⟩

/-- An index inside the block leads back to the backend it was taken from. -/
theorem backendNumber_ofBackend {backend index : Nat} (h : index < blockSize) :
    (ofBackend backend index).backendNumber = backend := by
  simp only [blockSize] at h
  simp only [ofBackend, backendNumber, blockSize]
  omega

end ModelId

end Transceiver
