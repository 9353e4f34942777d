import Transceiver.Proofs.Bcd.Frequency
import Transceiver.Proofs.Rig.Refusal

/-!
# Settings That Are Sent

A setting that is not refused and has a frame goes out as that frame: the session selects the VFO,
hands the frame to the engine, and makes its notes if the radio took it (`Rig.GoesOutAs`). From then
on only the line can make it fail (`Rig.LeftToLine`).

Frequencies and repeater offsets fill all four parameters of a frame with the digits of one field,
in the same way (`Rig.fieldFrame`). Such a frame exists exactly if the field loses no digit.

## Main statements

* `Rig.goesOutAs_of_frame`: what becomes of a setting that has a frame;
* `Rig.leftToLine_of_frames`: a setting whose frames can all be built fails with a command only;
* `Rig.exists_fieldFrame`: the frame of a field, and what its parameters are read as.
-/

namespace Transceiver

variable {σ : Type}

/-- A field of four bytes fills the parameters. -/
theorem Params.exists_ofBytes {bytes : Bytes} (h : bytes.length = paramCount) :
    ∃ params, ofBytes bytes = .ok params ∧ params.toList = bytes := by
  refine ⟨⟨bytes.toArray, by simpa using h⟩, ?_, rfl⟩
  rw [ofBytes, ofBytes?, dif_pos h]

namespace Rig

/-! ## What becomes of a setting -/

section Settings

variable [Line σ]

/-- The operation goes out as `frame`. Once its VFO is selected, the frame is handed to the engine.
If the radio takes it, that is noted, and otherwise the operation fails as the command did. -/
def GoesOutAs (rig : Rig σ) (operation : Operation) (frame : Frame) : Prop :=
  (perform operation).apply rig =
    match (selectVfo operation.target).apply rig with
    | (.error e, after) => (.error e, after)
    | (.ok (), after) =>
      match after.engine.sendCommand frame with
      | (.error e, engine) => (.error e, { after with engine })
      | (.ok (), engine) => (.ok .done, { after with engine }.noteAll (operation.notes rig.vfo))

/-- Whether the operation succeeds is left to the line: it fails only with a command it sent. -/
def LeftToLine (rig : Rig σ) (operation : Operation) : Prop :=
  ∀ e, ((perform operation).apply rig).1 = .error e →
    ∃ sent ∈ (rig.account operation).commands, sent.result = .error e

variable {rig : Rig σ} {operation : Operation} {command : Command} {frame : Frame}

/-- A setting that has a frame goes out as it. -/
theorem goesOutAs_of_frame (hcommand : operation.command? = some command)
    (hrefusal : rig.descriptor.refusal? operation = none)
    (hframe : rig.descriptor.settingFrame command operation = .ok frame) :
    rig.GoesOutAs operation frame := by
  rw [GoesOutAs, apply_of_command hcommand hrefusal]
  rcases (selectVfo operation.target).apply rig with ⟨e | ⟨⟩, after⟩
  · rfl
  · simp only [carryOut, ownStage, hframe]
    rcases after.engine.sendCommand frame with ⟨e | ⟨⟩, engine⟩ <;> rfl

/-- Where nothing has to be selected it is the command and nothing else. -/
theorem GoesOutAs.apply_of_selected (h : rig.GoesOutAs operation frame)
    (hselected : operation.target = .current ∨ operation.target = .only rig.vfo) :
    (perform operation).apply rig =
      match rig.engine.sendCommand frame with
      | (.error e, engine) => (.error e, { rig with engine })
      | (.ok (), engine) => (.ok .done, { rig with engine }.noteAll (operation.notes rig.vfo)) := by
  rw [GoesOutAs, apply_selectVfo_of_selected hselected] at h
  exact h

/-- On the line that begins with the flush of an exchange, whatever becomes of it. -/
theorem GoesOutAs.calls_ne {rig : Rig (RecordedLine σ)} (h : rig.GoesOutAs operation frame)
    (hselected : operation.target = .current ∨ operation.target = .only rig.vfo) :
    ((perform operation).apply rig).2.engine.calls ≠ rig.engine.calls := by
  obtain ⟨own, reply, check, hsent⟩ := (rig.engine.course_sendCommand frame).commandSent
  have hcalls := hsent.calls_ne
  rw [h.apply_of_selected hselected]
  rcases hsend : rig.engine.sendCommand frame with ⟨e | ⟨⟩, engine⟩
  · rwa [hsend] at hcalls
  · rw [hsend] at hcalls
    dsimp only
    rwa [engine_noteAll]

/-- Stages whose frames can all be built fail with the command that the radio did not take. -/
theorem exists_sent_of_carryOut {stages : List Stage} {e : Error}
    (hframes : ∀ stage ∈ stages, ∃ frame, stage.frame = .ok frame)
    (h : (rig.carryOut stages).result = .error e) :
    ∃ sent ∈ (rig.carryOut stages).commands, sent.result = .error e := by
  fun_induction rig.carryOut stages with
  | case1 rig => cases h
  | case2 rig stage stages e' hframe =>
    obtain ⟨frame, hbuilt⟩ := hframes stage (by simp)
    rw [hframe] at hbuilt
    cases hbuilt
  | case3 rig stage stages frame hframe e' engine hsend => exact ⟨_, List.mem_singleton_self _, h⟩
  | case4 rig stage stages frame hframe engine hsend ih =>
    obtain ⟨sent, hmem, hresult⟩ := ih (fun later hlater => hframes later (by simp [hlater])) h
    exact ⟨sent, List.mem_cons_of_mem _ hmem, hresult⟩

/-- A setting whose frames can all be built fails with a command only. -/
theorem leftToLine_of_frames {stages : List Stage} (hcommand : operation.command? = some command)
    (hplan : rig.plan operation = .ok stages)
    (hframes : ∀ stage ∈ stages, ∃ frame, stage.frame = .ok frame) : rig.LeftToLine operation := by
  intro e he
  rw [apply_setting hcommand, account_of_plan hplan] at he
  rw [account_of_plan hplan]
  cases hresult : (rig.carryOut stages).result with
  | ok done => simp [hresult, Except.map] at he
  | error e' =>
    obtain rfl : e' = e := by simpa [hresult, Except.map] using he
    exact exists_sent_of_carryOut hframes hresult

/-- What is refused is not left to the line. -/
theorem not_leftToLine_of_refusal {e : Error} (hcommand : operation.command? = some command)
    (h : rig.descriptor.refusal? operation = some e) : ¬ rig.LeftToLine operation := by
  intro hleft
  obtain ⟨sent, hmem, -⟩ := hleft e (by rw [apply_of_refusal hcommand h])
  rw [account_of_refusal (plan_of_refusal h)] at hmem
  cases hmem

end Settings

/-! ## Frames that hold one field -/

/-- The frame of a command with the digits of one field for its parameters. -/
def fieldFrame (descriptor : Descriptor) (command : Command) (field : Bcd.Encoding) :
    Except Error Frame := do
  let digits ← field.exact
  let template ← descriptor.template command
  return template.withParams (← Params.ofBytes digits)

/-- The frame of a frequency holds its digits, rounded to the nearest ten. -/
theorem frequencyFrame_eq_fieldFrame (descriptor : Descriptor) (hz : Nat) :
    frequencyFrame descriptor hz =
      fieldFrame descriptor .setFrequency (Bcd.ofFrequency hz 8 descriptor.freqOrder .nearest) :=
  rfl

/-- The frame of a repeater offset holds its digits, cut down to tens. -/
theorem repeaterOffsetFrame_eq_fieldFrame (descriptor : Descriptor) (offset : Nat) :
    repeaterOffsetFrame descriptor offset =
      fieldFrame descriptor .setRepeaterOffset (Bcd.ofFrequency offset 8 .bigEndian .truncate) :=
  rfl

section Fields

variable {descriptor : Descriptor} {command : Command} {hz : Nat} {order : Bcd.Order}
  {rounding : Bcd.Rounding}

/-- There is no frame of a field that loses a digit. -/
theorem fieldFrame_of_overflow (h : 10 ^ 8 ≤ rounding.tens hz) :
    fieldFrame descriptor command (Bcd.ofFrequency hz 8 order rounding) =
      .error (.invalidParameter "value does not fit in BCD field") := by
  rw [fieldFrame, Bcd.ofFrequency, Bcd.exact_encode_of_le h]
  rfl

/-- Eight digits that are enough fill the parameters of a frame, and are read from them again. -/
theorem exists_fieldFrame (order : Bcd.Order) {template : Template}
    (htemplate : descriptor.template command = .ok template) (h : rounding.tens hz < 10 ^ 8) :
    ∃ params, fieldFrame descriptor command (Bcd.ofFrequency hz 8 order rounding) =
        .ok (template.withParams params) ∧
      Bcd.toFrequency params.toList 8 order = .ok (10 * rounding.tens hz) := by
  have hlength : (Bcd.ofFrequency hz 8 order rounding).bytes.length = paramCount :=
    Bcd.length_bytes_encode _ 8 order
  have hexact : (Bcd.ofFrequency hz 8 order rounding).exact =
      .ok (Bcd.ofFrequency hz 8 order rounding).bytes :=
    Bcd.exact_encode_of_lt h
  obtain ⟨params, hparams, hbytes⟩ := Params.exists_ofBytes hlength
  refine ⟨params, ?_, ?_⟩
  · rw [fieldFrame, hexact, htemplate]
    change (Params.ofBytes _).map template.withParams = _
    rw [hparams]
    rfl
  · rw [hbytes]
    exact (Bcd.toFrequency_of_exact hexact).2

end Fields

end Rig

end Transceiver
