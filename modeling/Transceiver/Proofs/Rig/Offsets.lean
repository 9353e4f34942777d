import Mathlib.Data.List.Basic
import Transceiver.Line.Recorded
import Transceiver.Line.Scripted
import Transceiver.Models
import Transceiver.Proofs.Rig.Sending

/-!
# Offsets

A clarifier offset has a sign and two bytes of digits, and a repeater offset has no sign and four
bytes of digits. Both are cut to tens of hertz, so a negative offset goes up to the next ten and a
small one vanishes, although its polarity byte still says that it is negative. `readClarifier` reads
an offset from the parameters of its frame as a radio does.

An offset with too many digits is declined before anything is put on the line, and so is a clarifier
offset beyond what the model accepts. All others go out.

## Main statement

* `Rig.offsets_sent_in_tens`: which offsets are declined, and what those which go out are read as.
-/

namespace Transceiver

variable {σ : Type}

/-- Without its sign an offset in a 64-bit word fits one. -/
theorem natAbs_toInt_lt (offset : Int64) : offset.toInt.natAbs < UInt64.size := by
  have hlow := offset.le_toInt
  have hhigh := offset.toInt_lt
  have hsize : UInt64.size = 2 ^ 64 := rfl
  omega

namespace Rig

/-! ## Frames of a clarifier offset -/

/-- The clarifier offset that parameters stand for. -/
def readClarifier (params : Params) : Except Error Int :=
  (Bcd.toFrequency [params[2], params[3]] 4 .bigEndian).map
    (Bcd.withSign (params[0] == polarity true))

/-- The sign is that of the polarity byte, and the magnitude that of the digits. -/
theorem readClarifier_of_digits (negative : Bool) {first second : UInt8} {tens : Nat}
    (h : Bcd.decode [first, second] 4 .bigEndian = .ok tens) :
    readClarifier #v[polarity negative, 0x00, first, second] =
      .ok (Bcd.withSign negative (10 * tens)) := by
  have hsign : (polarity negative == polarity true) = negative := by cases negative <;> rfl
  change ((Bcd.decode [first, second] 4 .bigEndian).map (· * 10)).map
    (Bcd.withSign (polarity negative == polarity true)) = _
  rw [hsign, h, Nat.mul_comm]
  rfl

section Frames

variable {descriptor : Descriptor} {offset : Int}

/-- An offset that is too large for four digits of tens has no frame. -/
theorem clarifierFrame_of_overflow (descriptor : Descriptor) (h : 100000 ≤ offset.natAbs) :
    clarifierFrame descriptor offset =
      .error (.invalidParameter "value does not fit in BCD field") := by
  have htens : 10 ^ 4 ≤ offset.natAbs / 10 := by omega
  rw [clarifierFrame, Bcd.ofOffset, Bcd.exact_encode_of_le htens]
  rfl

/-- Any other offset has a frame, which is read as the offset cut toward zero. -/
theorem exists_clarifierFrame {template : Template}
    (htemplate : descriptor.template .setClarifierFrequency = .ok template)
    (h : offset.natAbs < 100000) :
    ∃ first second,
      clarifierFrame descriptor offset = .ok (template.withParams
        #v[polarity (decide (offset < 0)), 0x00, first, second]) ∧
      readClarifier #v[polarity (decide (offset < 0)), 0x00, first, second] =
        .ok (10 * offset.tdiv 10) := by
  have htens : offset.natAbs / 10 < 10 ^ 4 := by omega
  have hlength : (Bcd.encode (offset.natAbs / 10) 4 .bigEndian).bytes.length = 2 :=
    Bcd.length_bytes_encode _ 4 .bigEndian
  have hdecode := Bcd.decode_bytes_encode (offset.natAbs / 10) 4 .bigEndian
  obtain ⟨first, second, hbytes⟩ := List.length_eq_two.mp hlength
  have hexact : (Bcd.ofOffset offset 4 .bigEndian).digits.exact = .ok [first, second] := by
    rw [← hbytes]
    exact Bcd.exact_encode_of_lt htens
  refine ⟨first, second, ?_, ?_⟩
  · rw [clarifierFrame, hexact, htemplate]
    rfl
  · rw [hbytes, Nat.mod_eq_of_lt htens] at hdecode
    rw [readClarifier_of_digits _ hdecode, Bcd.withSign_ten_mul_natAbs]

end Frames

/-! ## What is declined -/

section Declined

variable [Line σ] {rig : Rig (RecordedLine σ)} {operation : Operation} {command : Command}
  {frame : Frame} {reason : String}

/-- The operation fails for an invalid parameter, and nothing is put on the line. -/
def Declines (rig : Rig (RecordedLine σ)) (operation : Operation) : Prop :=
  (∃ reason, ((perform operation).apply rig).1 = .error (.invalidParameter reason)) ∧
    ((perform operation).apply rig).2.engine.calls = rig.engine.calls

/-- A setting that is refused for an invalid parameter is declined. -/
theorem declines_of_refusal (hcommand : operation.command? = some command)
    (h : rig.descriptor.refusal? operation = some (.invalidParameter reason)) :
    rig.Declines operation := by
  rw [Declines, apply_of_refusal hcommand h]
  exact ⟨⟨reason, rfl⟩, rfl⟩

/-- Without a frame for an invalid parameter the operation is declined, unless it had to select a
VFO first. -/
theorem declines_of_error_frame (hcommand : operation.command? = some command)
    (hrefusal : rig.descriptor.refusal? operation = none)
    (hframe : rig.descriptor.settingFrame command operation = .error (.invalidParameter reason))
    (hselected : operation.target = .current ∨ operation.target = .only rig.vfo) :
    rig.Declines operation := by
  rw [Declines, apply_of_error_frame hcommand hrefusal hframe,
    apply_selectVfo_of_selected hselected]
  exact ⟨⟨reason, rfl⟩, rfl⟩

/-- What goes out is not declined. -/
theorem GoesOutAs.not_declines (h : rig.GoesOutAs operation frame)
    (hselected : operation.target = .current ∨ operation.target = .only rig.vfo) :
    ¬ rig.Declines operation :=
  fun hdeclines => h.calls_ne hselected hdeclines.2

end Declined

section Operations

variable [Line σ] {rig : Rig (RecordedLine σ)} {template : Template}

/-- An offset beyond the limit of the model, or beyond four digits of tens, is declined. -/
theorem declines_setRit {offset : Int}
    (h : rig.descriptor.maxRit < offset.natAbs ∨ 100000 ≤ offset.natAbs) :
    rig.Declines (.setRit offset) := by
  by_cases hfar : rig.descriptor.maxRit < offset.natAbs
  · have hrefusal : rig.descriptor.refusal? (.setRit offset) = some (.invalidParameter
        s!"clarifier offset {offset} Hz exceeds ±{rig.descriptor.maxRit} Hz") := by
      rw [Descriptor.refusal?, if_pos hfar]
    exact declines_of_refusal rfl hrefusal
  · -- What the model accepts is declined for its digits.
    have hrefusal : rig.descriptor.refusal? (.setRit offset) = none := by
      rw [Descriptor.refusal?, if_neg hfar]
    have hframe := clarifierFrame_of_overflow rig.descriptor (h.resolve_left hfar)
    exact declines_of_error_frame rfl hrefusal hframe (.inl rfl)

/-- An offset within both limits goes out as its sign and its tens, and reads back as the tens. -/
theorem goesOutAs_setRit {offset : Int}
    (htemplate : rig.descriptor.template .setClarifierFrequency = .ok template)
    (hnear : offset.natAbs ≤ rig.descriptor.maxRit) (hfits : offset.natAbs < 100000) :
    ∃ first second,
      rig.GoesOutAs (.setRit offset) (template.withParams
        #v[polarity (decide (offset < 0)), 0x00, first, second]) ∧
      readClarifier #v[polarity (decide (offset < 0)), 0x00, first, second] =
        .ok (10 * offset.tdiv 10) := by
  obtain ⟨first, second, hframe, hread⟩ := exists_clarifierFrame htemplate hfits
  refine ⟨first, second, goesOutAs_of_frame rfl ?_ hframe, hread⟩
  rw [Descriptor.refusal?, if_neg (Nat.not_lt_of_le hnear)]

/-- Exactly these clarifier offsets are declined. -/
theorem declines_setRit_iff {offset : Int}
    (htemplate : rig.descriptor.template .setClarifierFrequency = .ok template) :
    rig.Declines (.setRit offset) ↔
      rig.descriptor.maxRit < offset.natAbs ∨ 100000 ≤ offset.natAbs := by
  refine ⟨fun hdeclines => ?_, declines_setRit⟩
  by_contra hnear
  obtain ⟨hlimit, hfits⟩ := not_or.mp hnear
  obtain ⟨first, second, hgoes, -⟩ :=
    goesOutAs_setRit htemplate (Nat.le_of_not_lt hlimit) (Nat.lt_of_not_le hfits)
  exact hgoes.not_declines (.inl rfl) hdeclines

/-- A repeater offset that is too large for eight digits of tens is declined. -/
theorem declines_setRepeaterOffset {offset : Nat} (h : 10 ^ 9 ≤ offset) :
    rig.Declines (.setRepeaterOffset offset) := by
  have htens : 10 ^ 8 ≤ Bcd.Rounding.truncate.tens offset := by
    rw [Bcd.Rounding.tens]
    omega
  have hframe := (repeaterOffsetFrame_eq_fieldFrame rig.descriptor offset).trans
    (fieldFrame_of_overflow htens)
  exact declines_of_error_frame rfl rfl hframe (.inl rfl)

/-- A repeater offset that fits goes out as its tens. -/
theorem goesOutAs_setRepeaterOffset {offset : Nat}
    (htemplate : rig.descriptor.template .setRepeaterOffset = .ok template)
    (h : offset < 10 ^ 9) :
    ∃ params, rig.GoesOutAs (.setRepeaterOffset offset) (template.withParams params) ∧
      Bcd.toFrequency params.toList 8 .bigEndian = .ok (offset - offset % 10) := by
  have htens : Bcd.Rounding.truncate.tens offset < 10 ^ 8 := by
    rw [Bcd.Rounding.tens]
    omega
  obtain ⟨params, hfield, hread⟩ := exists_fieldFrame .bigEndian htemplate htens
  have hframe := (repeaterOffsetFrame_eq_fieldFrame rig.descriptor offset).trans hfield
  rw [Bcd.Rounding.ten_mul_tens_truncate] at hread
  exact ⟨params, goesOutAs_of_frame rfl rfl hframe, hread⟩

/-- Exactly these repeater offsets are declined. -/
theorem declines_setRepeaterOffset_iff {offset : Nat}
    (htemplate : rig.descriptor.template .setRepeaterOffset = .ok template) :
    rig.Declines (.setRepeaterOffset offset) ↔ 10 ^ 9 ≤ offset := by
  refine ⟨fun hdeclines => ?_, declines_setRepeaterOffset⟩
  by_contra hfits
  obtain ⟨params, hgoes, -⟩ :=
    goesOutAs_setRepeaterOffset htemplate (Nat.lt_of_not_le hfits)
  exact hgoes.not_declines (.inl rfl) hdeclines

end Operations

/-- The digits of an offset in a 64-bit word, with its sign, are the offset cut toward zero to tens
of hertz, as long as no digit is lost. A clarifier offset is declined exactly if it is further away
than the model accepts or has too many digits, and otherwise goes out as one command, which is read
as the offset cut toward zero, within the limit of the model. A repeater offset is declined exactly
if it has too many digits, and otherwise goes out as one command, which is read as the offset cut to
tens. -/
theorem offsets_sent_in_tens [Line σ] (rig : Rig (RecordedLine σ)) :
    (∀ (offset : Int64) (count : Nat) (order : Bcd.Order),
      let written := Bcd.ofOffset offset.toInt count order
      written.digits.truncated = false → ∃ tens,
        Bcd.decode written.digits.bytes count order = .ok tens ∧
          Bcd.decodeInWord written.digits.bytes count order = some (.ok tens) ∧
          Bcd.withSign written.negative (10 * tens) = 10 * offset.toInt.tdiv 10) ∧
    (∀ (template : Template) (offset : Int),
      rig.descriptor.template .setClarifierFrequency = .ok template →
        (rig.Declines (.setRit offset) ↔
          rig.descriptor.maxRit < offset.natAbs ∨ 100000 ≤ offset.natAbs) ∧
        (¬ rig.Declines (.setRit offset) → ∃ params first second,
          params = #v[if offset < 0 then 0xFF else 0x00, 0x00, first, second] ∧
            rig.GoesOutAs (.setRit offset) (template.withParams params) ∧
            readClarifier params = .ok (10 * offset.tdiv 10) ∧
            (10 * offset.tdiv 10).natAbs ≤ rig.descriptor.maxRit)) ∧
    ∀ (template : Template) (offset : Nat),
      rig.descriptor.template .setRepeaterOffset = .ok template →
        (rig.Declines (.setRepeaterOffset offset) ↔ 10 ^ 9 ≤ offset) ∧
        (¬ rig.Declines (.setRepeaterOffset offset) → ∃ params,
          rig.GoesOutAs (.setRepeaterOffset offset) (template.withParams params) ∧
            Bcd.toFrequency params.toList 8 .bigEndian = .ok (offset - offset % 10)) := by
  refine ⟨fun offset count order => ?_, fun template offset htemplate => ?_,
    fun template offset htemplate => ?_⟩
  · -- A field that lost no digit is read as the tens, and the sign is carried beside it.
    intro written hfits
    have hlt : offset.toInt.natAbs / 10 < 10 ^ count :=
      Bcd.truncated_encode_eq_false_iff.mp hfits
    have hdecode : Bcd.decode written.digits.bytes count order =
        .ok (offset.toInt.natAbs / 10) := by
      rw [← Nat.mod_eq_of_lt hlt]
      exact Bcd.decode_bytes_encode _ count order
    have hword := natAbs_toInt_lt offset
    exact ⟨_, hdecode, Bcd.decodeInWord_of_fits hdecode (by omega),
      Bcd.withSign_ten_mul_natAbs offset.toInt⟩
  · refine ⟨declines_setRit_iff htemplate, fun hgoes => ?_⟩
    obtain ⟨hlimit, hfits⟩ := not_or.mp ((declines_setRit_iff htemplate).not.mp hgoes)
    obtain ⟨first, second, hgoes, hread⟩ :=
      goesOutAs_setRit htemplate (Nat.le_of_not_lt hlimit) (Nat.lt_of_not_le hfits)
    refine ⟨_, first, second, ?_, hgoes, hread, ?_⟩
    · simp [polarity]
    · exact (Bcd.natAbs_ten_mul_tdiv_le offset).trans (Nat.le_of_not_lt hlimit)
  · refine ⟨declines_setRepeaterOffset_iff htemplate, fun hgoes => ?_⟩
    have hfits : offset < 10 ^ 9 :=
      Nat.lt_of_not_le ((declines_setRepeaterOffset_iff htemplate).not.mp hgoes)
    exact goesOutAs_setRepeaterOffset htemplate hfits

/-- The lowest word loses its units. A clarifier offset below zero goes up to the next ten, and one
beyond the limit of an FT-897 is declined, as is a repeater offset of one gigahertz. -/
theorem offsets_sent_in_tens_extremes :
    let rig : Rig (RecordedLine ScriptedLine) := start Models.ft897 ⟨⟨{}, []⟩, 0⟩
    let lowest := Bcd.ofOffset (-9223372036854775808) 18 .littleEndian
    (∃ tens, Bcd.decode lowest.digits.bytes 18 .littleEndian = .ok tens ∧
      Bcd.withSign lowest.negative (10 * tens) = -9223372036854775800) ∧
    (∃ params, rig.GoesOutAs (.setRit (-1255)) ⟨params, 0xF5⟩ ∧
      readClarifier params = .ok (-1250)) ∧
    rig.Declines (.setRit (-12000)) ∧ rig.Declines (.setRepeaterOffset 1000000000) := by
  intro rig lowest
  obtain ⟨hwords, hclarifier, hrepeater⟩ := offsets_sent_in_tens rig
  obtain ⟨tens, hdecode, -, hsigned⟩ := hwords (.ofInt (-9223372036854775808)) 18 .littleEndian rfl
  obtain ⟨hnear, hgoes⟩ := hclarifier (.incomplete 0xF5) (-1255) rfl
  obtain ⟨params, -, -, -, hgoes, hread, -⟩ := hgoes (hnear.not.mpr (by decide))
  obtain ⟨hfar, -⟩ := hclarifier (.incomplete 0xF5) (-12000) rfl
  obtain ⟨hmany, -⟩ := hrepeater (.incomplete 0xF9) 1000000000 rfl
  exact ⟨⟨tens, hdecode, hsigned⟩, ⟨params, hgoes, hread⟩, hfar.mpr (by decide),
    hmany.mpr (by decide)⟩

end Rig

end Transceiver
