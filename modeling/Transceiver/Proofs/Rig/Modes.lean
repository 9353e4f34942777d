import Mathlib.Data.List.Nodup
import Transceiver.Line.Scripted
import Transceiver.Models
import Transceiver.Proofs.Rig.Sending
import Transceiver.Proofs.Rig.Step

/-!
# Modes

A mode goes out as the code that the table has for it, all eight bits of it. In a mode byte that
comes back, bit 7 stands for a narrow filter, so it is put aside, the rest is looked up, and narrow
FM is told from FM by that bit. The two ways agree for tables in which the bit occurs in the code of
narrow FM alone, whose other bits are those of FM (`Descriptor.ModesReadable`).

## Main statement

* `Rig.setMode_reads_back`: in which frame a mode goes out, and which mode a mode byte stands for.
-/

namespace Transceiver

variable {σ : Type}

/-! ## Mode tables -/

namespace Descriptor

/-- The mode of a mode byte can be told by the mode table. -/
structure ModesReadable (descriptor : Descriptor) : Prop where
  /-- No mode has two codes. -/
  nodup_modes : (descriptor.modes.map Prod.fst).Nodup
  /-- No code stands for two modes. -/
  nodup_codes : (descriptor.modes.map Prod.snd).Nodup
  /-- No other code than that of narrow FM carries the narrow bit. -/
  wide_codes : ∀ entry ∈ descriptor.modes, entry.1 ≠ .fmNarrow → entry.2 &&& Rig.narrowBit = 0
  /-- Narrow FM has the code of FM with the narrow bit. -/
  narrow_code : ∀ entry ∈ descriptor.modes, entry.1 = .fmNarrow →
    ∃ wide ∈ descriptor.modes, wide.1 = .fm ∧ entry.2 = wide.2 ||| Rig.narrowBit

variable {descriptor : Descriptor} {entry : Mode × UInt8}

/-- Without a second code for it a mode has the code of its entry. -/
theorem modeCode_of_mem (h : (descriptor.modes.map Prod.fst).Nodup)
    (hmem : entry ∈ descriptor.modes) : descriptor.modeCode entry.1 = some entry.2 := by
  rw [modeCode]
  cases hlookup : descriptor.modes.lookup entry.1 with
  | none =>
    have hne := List.lookup_eq_none_iff.mp hlookup entry hmem
    simp at hne
  | some code =>
    obtain ⟨before, after, hmodes, -⟩ := List.lookup_eq_some_iff.mp hlookup
    have hfound : (entry.1, code) ∈ descriptor.modes := by simp [hmodes]
    rw [← List.inj_on_of_nodup_map h hfound hmem rfl]

/-- Without a second mode for it a code stands for the mode of its entry. -/
theorem modeOfCode_of_mem (h : (descriptor.modes.map Prod.snd).Nodup)
    (hmem : entry ∈ descriptor.modes) : descriptor.modeOfCode entry.2 = some entry.1 := by
  rw [modeOfCode]
  cases hfind : descriptor.modes.find? (fun other => other.2 == entry.2) with
  | none =>
    have hne := List.find?_eq_none.mp hfind entry hmem
    simp at hne
  | some found =>
    have hcode : found.2 = entry.2 := by simpa using List.find?_some hfind
    rw [List.inj_on_of_nodup_map h (List.mem_of_find?_eq_some hfind) hmem hcode]
    rfl

/-- A code that is not in the table stands for no mode. -/
theorem modeOfCode_eq_none {code : UInt8} (h : ∀ entry ∈ descriptor.modes, entry.2 ≠ code) :
    descriptor.modeOfCode code = none := by
  rw [modeOfCode, List.find?_eq_none.mpr fun entry hmem => by simpa using h entry hmem]
  rfl

end Descriptor

/-- The mode table of the FT-817, FT-857 and FT-897 is one of them. -/
theorem Models.modesReadable : ∀ descriptor ∈ Models.all, descriptor.ModesReadable := by
  intro descriptor hmem
  have hmodes : descriptor.modes = Models.modes := by
    simp only [Models.all, List.mem_cons, List.not_mem_nil, or_false] at hmem
    rcases hmem with rfl | rfl | rfl <;> rfl
  exact ⟨by rw [hmodes]; decide, by rw [hmodes]; decide, by rw [hmodes]; decide,
    by rw [hmodes]; decide⟩

namespace Rig

/-! ## The narrow bit -/

/-- Clearing the narrow bit of a code that does not have it changes nothing. -/
theorem and_not_narrowBit {code : UInt8} (h : code &&& narrowBit = 0) :
    code &&& ~~~narrowBit = code := by
  have hsplit : code &&& (narrowBit ||| ~~~narrowBit) =
      code &&& narrowBit ||| code &&& ~~~narrowBit :=
    UInt8.toBitVec_inj.mp BitVec.and_or_distrib_left
  rw [UInt8.or_not_self, UInt8.and_neg_one, h, UInt8.zero_or] at hsplit
  exact hsplit.symm

/-- Whether the narrow bit is set or not, clearing it comes to the same. -/
theorem or_narrowBit_and_not (code : UInt8) :
    (code ||| narrowBit) &&& ~~~narrowBit = code &&& ~~~narrowBit := by
  have hsplit : (code ||| narrowBit) &&& ~~~narrowBit =
      code &&& ~~~narrowBit ||| narrowBit &&& ~~~narrowBit :=
    UInt8.toBitVec_inj.mp BitVec.and_or_distrib_right
  rw [hsplit, UInt8.and_not_self, UInt8.or_zero]

/-- A code with the narrow bit set has it. -/
theorem or_narrowBit_and_ne (code : UInt8) : (code ||| narrowBit) &&& narrowBit ≠ 0 := by
  have hsplit : (code ||| narrowBit) &&& narrowBit =
      code &&& narrowBit ||| narrowBit &&& narrowBit :=
    UInt8.toBitVec_inj.mp BitVec.and_or_distrib_right
  rw [hsplit, UInt8.and_self]
  intro hzero
  obtain ⟨-, hbit⟩ := UInt8.or_eq_zero_iff.mp hzero
  exact absurd hbit (by decide)

/-! ## Mode bytes -/

section Decoding

variable {descriptor : Descriptor} {raw : UInt8} {mode : Mode}

/-- A byte is read as the mode of its code without the narrow bit, and FM with that bit as the
narrow one. -/
theorem decodeMode_of_some (h : descriptor.modeOfCode (raw &&& ~~~narrowBit) = some mode) :
    decodeMode descriptor raw =
      .ok (if mode = .fm ∧ raw &&& narrowBit ≠ 0 then .fmNarrow else mode) := by
  rw [decodeMode, h]
  cases mode with
  | fm => by_cases hbit : raw &&& narrowBit = 0 <;> simp [hbit]
  | _ => rfl

/-- Of the model only the mode table counts. -/
theorem decodeMode_congr {other : Descriptor} (h : other.modes = descriptor.modes) (raw : UInt8) :
    decodeMode other raw = decodeMode descriptor raw := by
  simp only [decodeMode, Descriptor.modeOfCode, h]

/-- A byte whose code without the narrow bit is unknown is a protocol error. -/
theorem decodeMode_of_none (h : descriptor.modeOfCode (raw &&& ~~~narrowBit) = none) :
    decodeMode descriptor raw = .error (.protocol s!"unknown mode code 0x{Hex.byte raw}") := by
  rw [decodeMode, h]

end Decoding

end Rig

namespace Descriptor.ModesReadable

open Rig

variable {descriptor : Descriptor} {entry : Mode × UInt8}

/-- A code without the narrow bit stands for its mode, and with it for the same one, or for narrow
FM. -/
theorem decodeMode_of_wide (h : descriptor.ModesReadable) (hmem : entry ∈ descriptor.modes)
    (hwide : entry.1 ≠ .fmNarrow) :
    decodeMode descriptor entry.2 = .ok entry.1 ∧
      decodeMode descriptor (entry.2 ||| narrowBit) =
        .ok (if entry.1 = .fm then .fmNarrow else entry.1) := by
  have hbit := h.wide_codes entry hmem hwide
  have hfound := modeOfCode_of_mem h.nodup_codes hmem
  constructor
  · rw [decodeMode_of_some (by rwa [and_not_narrowBit hbit]), if_neg (fun hboth => hboth.2 hbit)]
  · rw [← and_not_narrowBit hbit, ← or_narrowBit_and_not] at hfound
    rw [decodeMode_of_some hfound]
    simp only [or_narrowBit_and_ne, ne_eq, not_false_eq_true, and_true]

/-- The code of each mode stands for it, and with the narrow bit for the same one, except that the
code of FM then stands for narrow FM. -/
theorem decodeMode_of_mem (h : descriptor.ModesReadable) (hmem : entry ∈ descriptor.modes) :
    decodeMode descriptor entry.2 = .ok entry.1 ∧
      decodeMode descriptor (entry.2 ||| narrowBit) =
        .ok (if entry.1 = .fm then .fmNarrow else entry.1) := by
  by_cases hnarrow : entry.1 = .fmNarrow
  · -- Its code is that of FM with the narrow bit, and has the bit already.
    obtain ⟨wide, hwide, hfm, hcode⟩ := h.narrow_code entry hmem hnarrow
    obtain ⟨-, hread⟩ := h.decodeMode_of_wide hwide (by rw [hfm]; decide)
    rw [if_pos hfm, ← hcode] at hread
    have hagain : entry.2 ||| narrowBit = entry.2 := by
      rw [hcode, UInt8.or_assoc, UInt8.or_self]
    rw [hagain, hnarrow]
    exact ⟨hread, hread⟩
  · exact h.decodeMode_of_wide hmem hnarrow

end Descriptor.ModesReadable

namespace Rig

/-- The frame of a mode has its code for the first parameter. -/
theorem modeFrame_of_template {descriptor : Descriptor} {template : Template}
    (h : descriptor.template .setMode = .ok template) (code : UInt8) :
    modeFrame descriptor code = .ok ⟨template.params.set 0 code, template.opcode⟩ := by
  rw [modeFrame, h]
  rfl

variable [Line σ] {rig : Rig σ}

/-- A mode of the table goes out as the template with its code for the first parameter. -/
theorem goesOutAs_setMode {entry : Mode × UInt8} {template : Template} (vfo : VfoChoice)
    (htable : rig.descriptor.ModesReadable) (hmem : entry ∈ rig.descriptor.modes)
    (htemplate : rig.descriptor.template .setMode = .ok template) :
    rig.GoesOutAs (.setMode vfo entry.1) ⟨template.params.set 0 entry.2, template.opcode⟩ := by
  have hcode := Descriptor.modeCode_of_mem htable.nodup_modes hmem
  refine goesOutAs_of_frame rfl ?_ ?_
  · rw [Descriptor.refusal?, hcode]
  · rw [Descriptor.settingFrame, hcode]
    exact modeFrame_of_template htemplate entry.2

/-- A mode is read from the fifth byte of the status block. -/
theorem fst_getMode (choice : VfoChoice) {block : Bytes} {raw : UInt8}
    (hstatus : ((status .freqMode).apply rig).1 = .ok block)
    (hraw : block[paramCount]? = some raw) :
    ((perform (.getMode choice)).apply rig).1 = (decodeMode rig.descriptor raw).map .mode := by
  have hread := congrArg Prod.fst (apply_reading (.mode choice) rig)
  rw [Reading.operation] at hread
  rw [hread]
  simp only [Reading.source, hstatus, Except.bind, Reading.decode, List.getD_eq_getElem?_getD, hraw,
    Option.getD_some]

/-- By a table that can be read back every mode goes out in the model's frame with its code for the
first parameter. A session with the same table that finds this code in its status block reads the
mode, and with the narrow bit the same mode, or narrow FM for FM. A byte whose other bits are no
code of the table is reported as unknown. -/
theorem setMode_reads_back (rig : Rig σ) (htable : rig.descriptor.ModesReadable) :
    (∀ entry ∈ rig.descriptor.modes, ∀ (vfo : VfoChoice) (template : Template),
      rig.descriptor.template .setMode = .ok template →
        rig.GoesOutAs (.setMode vfo entry.1) ⟨template.params.set 0 entry.2, template.opcode⟩) ∧
    ∀ {τ : Type} [Line τ] (other : Rig τ) (choice : VfoChoice) (block : Bytes) (raw : UInt8),
      other.descriptor.modes = rig.descriptor.modes →
      ((status .freqMode).apply other).1 = .ok block → block[paramCount]? = some raw →
      (∀ entry ∈ rig.descriptor.modes,
        (raw = entry.2 →
          ((perform (.getMode choice)).apply other).1 = .ok (.mode entry.1)) ∧
        (raw = entry.2 ||| 0x80 →
          ((perform (.getMode choice)).apply other).1 =
            .ok (.mode (if entry.1 = .fm then .fmNarrow else entry.1)))) ∧
      ((∀ entry ∈ rig.descriptor.modes, entry.2 ≠ raw &&& 0x7F) →
        ((perform (.getMode choice)).apply other).1 =
          .error (.protocol s!"unknown mode code 0x{Hex.byte raw}")) := by
  refine ⟨fun entry hmem vfo template => goesOutAs_setMode vfo htable hmem, ?_⟩
  intro τ _ other choice block raw hmodes hstatus hraw
  have hread := fst_getMode choice hstatus hraw
  rw [decodeMode_congr hmodes] at hread
  refine ⟨fun entry hmem => ⟨?_, ?_⟩, fun hunknown => ?_⟩
  · rintro rfl
    rw [hread, (htable.decodeMode_of_mem hmem).1]
    rfl
  · rintro rfl
    have hnarrow := (htable.decodeMode_of_mem hmem).2
    rw [hread, show (0x80 : UInt8) = narrowBit from rfl, hnarrow]
    rfl
  · rw [hread, decodeMode_of_none (Descriptor.modeOfCode_eq_none hunknown)]
    rfl

/-- Narrow FM goes out as a code of its own on one radio, and is read from the same code of another
one. -/
theorem setMode_reads_back_fmNarrow :
    let rig : Rig ScriptedLine := start Models.ft897 ⟨{}, 0⟩
    let other : Rig ScriptedLine := start Models.ft857
      ⟨{ script := [⟨[0x00, 0x00, 0x00, 0x00, 0x03], [0x14, 0x52, 0x00, 0x00, 0x88]⟩] }, 0⟩
    rig.descriptor.ModesReadable ∧
      rig.GoesOutAs (.setMode (.only .b) .fmNarrow) ⟨#v[0x88, 0x00, 0x00, 0x00], 0x07⟩ ∧
      ((perform (.getMode .current)).apply other).1 = .ok (.mode .fmNarrow) := by
  intro rig other
  have htable : rig.descriptor.ModesReadable := Models.modesReadable Models.ft897 (by decide)
  have hmem : (.fmNarrow, 0x88) ∈ rig.descriptor.modes := by decide
  have hstatus : ((status .freqMode).apply other).1 = .ok [0x14, 0x52, 0x00, 0x00, 0x88] := by
    decide +kernel
  obtain ⟨hsent, hread⟩ := setMode_reads_back rig htable
  obtain ⟨hcodes, -⟩ := hread other .current _ 0x88 rfl hstatus rfl
  exact ⟨htable, hsent _ hmem (.only .b) (.incomplete 0x07) rfl, (hcodes _ hmem).1 rfl⟩

end Rig

end Transceiver
