import Transceiver.Frame

/-!
# Overridden Parameters

`Template.build` writes overrides into the parameters of a template, one after the other, until it
meets an index that no parameter has. Of several overrides of one parameter the last one counts
(`Params.lastValue?`), so that only the order among those of one parameter matters
(`Params.Reordered`).

## Main statement

* `Template.build_overrides`: which frame is built, and for which index none is.
-/

namespace Transceiver

namespace Params

/-! ## Lists of overrides -/

/-- What the last override of a parameter sets it to, if there is one. -/
def lastValue? (overrides : List (Nat × UInt8)) (index : Nat) : Option UInt8 :=
  overrides.reverse.lookup index

/-- The first override of something that is no parameter. -/
def firstBeyond? (overrides : List (Nat × UInt8)) : Option (Nat × UInt8) :=
  overrides.find? fun entry => paramCount ≤ entry.1

/-- Two lists hold the same overrides, and those of each parameter in the same order: neighbours may
change places if they have different indices. -/
inductive Reordered : List (Nat × UInt8) → List (Nat × UInt8) → Prop
  | refl (overrides : List (Nat × UInt8)) : Reordered overrides overrides
  | swap {first second : Nat × UInt8} (later : List (Nat × UInt8)) (h : first.1 ≠ second.1) :
      Reordered (first :: second :: later) (second :: first :: later)
  | cons (entry : Nat × UInt8) {overrides other : List (Nat × UInt8)}
      (h : Reordered overrides other) : Reordered (entry :: overrides) (entry :: other)
  | trans {overrides other another : List (Nat × UInt8)} (h : Reordered overrides other)
      (h' : Reordered other another) : Reordered overrides another

variable {overrides other later : List (Nat × UInt8)} {entry : Nat × UInt8}

/-- An override counts until the parameter is overridden again. -/
theorem lastValue?_cons (entry : Nat × UInt8) (later : List (Nat × UInt8)) (index : Nat) :
    lastValue? (entry :: later) index =
      (lastValue? later index).or (if entry.1 = index then some entry.2 else none) := by
  obtain ⟨own, value⟩ := entry
  rw [lastValue?, List.reverse_cons, List.lookup_append, ← lastValue?]
  congr 1
  by_cases h : own = index
  · simp [h]
  · have hne : (index == own) = false := by simpa using Ne.symm h
    simp [List.lookup_cons, h, hne]

namespace Reordered

/-- Reordering keeps which overrides there are. -/
theorem perm (h : Reordered overrides other) : overrides.Perm other := by
  induction h with
  | refl overrides => exact .refl overrides
  | swap later h => exact .swap _ _ later
  | cons entry _ ih => exact ih.cons entry
  | trans _ _ ih ih' => exact ih.trans ih'

/-- The last override of a parameter stays the last one. -/
theorem lastValue?_eq (h : Reordered overrides other) (index : Nat) :
    lastValue? other index = lastValue? overrides index := by
  induction h with
  | refl => rfl
  | @swap first second later h =>
    simp only [lastValue?_cons, Option.or_assoc]
    congr 1
    -- One of the two at most is of this parameter.
    by_cases hfirst : first.1 = index
    · have hsecond : second.1 ≠ index := fun hsecond => h (hfirst.trans hsecond.symm)
      simp [hfirst, hsecond]
    · simp [hfirst]
  | cons entry _ ih => rw [lastValue?_cons, lastValue?_cons, ih]
  | trans _ _ ih ih' => exact ih'.trans ih

end Reordered

/-- Nothing is beyond the parameters exactly if every override is of one. -/
theorem firstBeyond?_eq_none_iff :
    firstBeyond? overrides = none ↔ ∀ entry ∈ overrides, entry.1 < paramCount := by
  simp [firstBeyond?, List.find?_eq_none]

/-! ## Writing overrides -/

/-- An override of a parameter sets it. -/
theorem write_of_lt (params : Params) (h : entry.1 < paramCount) :
    params.write entry = .ok (params.set entry.1 entry.2) := by
  rw [write, dif_pos h]

/-- An override of something else is refused with its index. -/
theorem write_of_le (params : Params) (h : paramCount ≤ entry.1) :
    params.write entry = .error (.invalidTemplate entry.1 paramCount) := by
  rw [write, dif_neg (Nat.not_lt.mpr h)]

/-- The parameters with the last override of each. -/
def withLast (params : Params) (overrides : List (Nat × UInt8)) : Params :=
  .ofFn fun index => (lastValue? overrides index).getD params[index]

/-- The first of several overrides is written before the others count. -/
theorem withLast_cons (params : Params) (h : entry.1 < paramCount) (later : List (Nat × UInt8)) :
    params.withLast (entry :: later) = withLast (params.set entry.1 entry.2) later := by
  ext index hindex
  simp only [withLast, Vector.getElem_ofFn, lastValue?_cons, Fin.getElem_fin, Vector.getElem_set]
  cases lastValue? later index with
  | some value => rfl
  | none => by_cases hentry : entry.1 = index <;> simp [hentry]

/-- Overrides are written in turn, up to the first one that is beyond the parameters. -/
theorem foldlM_write (params : Params) (overrides : List (Nat × UInt8)) :
    overrides.foldlM write params =
      match firstBeyond? overrides with
      | none => .ok (params.withLast overrides)
      | some entry => .error (.invalidTemplate entry.1 paramCount) := by
  -- Each override leaves other parameters to the later ones.
  induction overrides generalizing params with
  | nil =>
    have hparams : params.withLast [] = params := by
      ext index hindex
      simp [withLast, lastValue?]
    rw [hparams]
    rfl
  | cons entry later ih =>
    rw [List.foldlM_cons]
    by_cases hentry : entry.1 < paramCount
    · have hrest : firstBeyond? (entry :: later) = firstBeyond? later :=
        List.find?_cons_of_neg (by simpa using hentry)
      rw [write_of_lt params hentry, hrest, withLast_cons params hentry]
      exact ih _
    · have hbeyond := Nat.not_lt.mp hentry
      have hfirst : firstBeyond? (entry :: later) = some entry :=
        List.find?_cons_of_pos (by simpa using hbeyond)
      rw [write_of_le params hbeyond, hfirst]
      rfl

/-- The order among overrides of different parameters does not matter. -/
theorem withLast_of_reordered (params : Params) (h : Reordered overrides other) :
    params.withLast other = params.withLast overrides := by
  simp only [withLast, h.lastValue?_eq]

end Params

namespace Template

open Params

/-- What is built from the last override of each parameter, unless one is beyond them. -/
theorem build_eq (template : Template) (overrides : List (Nat × UInt8)) :
    template.build overrides =
      match firstBeyond? overrides with
      | none => .ok ⟨template.params.withLast overrides, template.opcode⟩
      | some entry => .error (.invalidTemplate entry.1 paramCount) := by
  rw [build, foldlM_write]
  cases firstBeyond? overrides <;> rfl

/-- A frame is built exactly if every override is of a parameter. It has the opcode of the template,
and each parameter has the value of its last override, or that of the template if there is none.
Overrides of different parameters may be put in another order. Otherwise the building fails at the
first index that no parameter has. -/
theorem build_overrides (template : Template) (overrides : List (Nat × UInt8)) :
    ((∃ frame, template.build overrides = .ok frame) ↔
        ∀ entry ∈ overrides, entry.1 < paramCount) ∧
      (∀ frame, template.build overrides = .ok frame →
        frame.opcode = template.opcode ∧
          (∀ index (_ : index < paramCount), frame.param? index =
            some ((lastValue? overrides index).getD template.params[index])) ∧
          ∀ other, Reordered overrides other → template.build other = .ok frame) ∧
      ∀ e, template.build overrides = .error e ↔
        ∃ entry, firstBeyond? overrides = some entry ∧
          e = .invalidTemplate entry.1 paramCount := by
  rw [← firstBeyond?_eq_none_iff, build_eq]
  cases hbeyond : firstBeyond? overrides with
  | none =>
    refine ⟨by simp, ?_, by simp⟩
    rintro frame ⟨⟩
    refine ⟨rfl, fun index hindex => by simp [Frame.param?, withLast, hindex], ?_⟩
    intro other hother
    -- The other list has the same entries, so none of them is beyond the parameters either.
    have hall := firstBeyond?_eq_none_iff.mp hbeyond
    have hnone : firstBeyond? other = none :=
      firstBeyond?_eq_none_iff.mpr fun entry hmem => hall entry (hother.perm.mem_iff.mpr hmem)
    rw [build_eq, hnone, withLast_of_reordered _ hother]
  | some entry => exact ⟨by simp, nofun, fun e => by simp [eq_comm]⟩

example :
    (incomplete 0x07).build [(0, 0x01), (3, 0xFF), (0, 0x88)] =
      .ok ⟨#v[0x88, 0x00, 0x00, 0xFF], 0x07⟩ := by
  rfl

end Template

end Transceiver
