import Transceiver.Line.Recorded
import Transceiver.Line.Scripted
import Transceiver.Models
import Transceiver.Proofs.Rig.Plan

/-!
# Settings That Cannot Be Sent

A setting fails without a frame of its own if the model cannot do what is asked, if a number does
not fit its field, or if the command table has no entry for it. What the model cannot do is refused
before anything is sent. The frame is built only once the VFO is selected, so the other two can be
found out too late.

## Main statement

* `Rig.apply_of_unbuilt`: what becomes of a session when a setting has no frame.
-/

namespace Transceiver

variable {σ : Type}

namespace Rig

section Unbuilt

variable [Line σ] {rig : Rig σ} {operation : Operation} {command : Command} {e : Error}

/-- A setting that the model refuses fails for that reason and leaves the session alone. -/
theorem apply_of_refusal (hcommand : operation.command? = some command)
    (h : rig.descriptor.refusal? operation = some e) :
    (perform operation).apply rig = (.error e, rig) := by
  rw [apply_setting hcommand, account_of_refusal (plan_of_refusal h)]
  rfl

/-- A setting that is not refused selects its VFO and then sends its own command. -/
theorem apply_of_command (hcommand : operation.command? = some command)
    (hrefusal : rig.descriptor.refusal? operation = none) :
    (perform operation).apply rig =
      match (selectVfo operation.target).apply rig with
      | (.ok (), after) =>
        ((after.carryOut [rig.ownStage operation command]).result.map fun _ => .done,
          (after.carryOut [rig.ownStage operation command]).rig)
      | (.error e, after) => (.error e, after) := by
  have hselect : (selectVfo operation.target).apply rig = _ :=
    follows_selectVfo operation.target rig
  rw [apply_setting hcommand, account_of_command hrefusal hcommand, hselect]
  cases hresult : (rig.carryOut (rig.selection operation.target)).result with
  | error e =>
    rw [Account.andThen_of_error hresult, hresult]
    rfl
  | ok done => rw [Account.andThen_of_ok hresult]

/-- Without a frame a setting selects its VFO and then fails. -/
theorem apply_of_error_frame (hcommand : operation.command? = some command)
    (hrefusal : rig.descriptor.refusal? operation = none)
    (hframe : rig.descriptor.settingFrame command operation = .error e) :
    (perform operation).apply rig =
      match (selectVfo operation.target).apply rig with
      | (.ok (), after) => (.error e, after)
      | (.error e', after) => (.error e', after) := by
  have hown (after : Rig σ) :
      after.carryOut [rig.ownStage operation command] = ⟨[], .error e, after⟩ := by
    simp only [carryOut, ownStage, hframe]
  rw [apply_of_command hcommand hrefusal]
  rcases (selectVfo operation.target).apply rig with ⟨e' | ⟨⟩, after⟩
  · rfl
  · dsimp only
    rw [hown]
    rfl

/-- Selecting the other VFO is a toggle, noted if the radio takes it. -/
theorem apply_selectVfo_of_ne {vfo : Vfo} (h : vfo ≠ rig.vfo) :
    (selectVfo (.only vfo)).apply rig =
      match rig.descriptor.frame .toggleVfo with
      | .error e => (.error e, rig)
      | .ok frame =>
        match rig.engine.sendCommand frame with
        | (.error e, engine) => (.error e, { rig with engine })
        | (.ok (), engine) =>
          (.ok (), { rig with engine, vfo, cache := rig.cache.forceExpire .freqMode }) := by
  have hselect : (selectVfo (.only vfo)).apply rig = _ := follows_selectVfo (.only vfo) rig
  rw [hselect, selection, if_neg h, carryOut, toggleStage]
  cases rig.descriptor.frame .toggleVfo with
  | error e => rfl
  | ok frame =>
    dsimp only
    rcases rig.engine.sendCommand frame with ⟨e | ⟨⟩, engine⟩ <;> rfl

/-- A VFO that is selected already, or none in particular, is selected without doing anything. -/
theorem apply_selectVfo_of_selected {choice : VfoChoice}
    (h : choice = .current ∨ choice = .only rig.vfo) :
    (selectVfo choice).apply rig = (.ok (), rig) := by
  have hselect : (selectVfo choice).apply rig = _ := follows_selectVfo choice rig
  rw [hselect]
  rcases h with rfl | rfl <;> simp [selection, carryOut]

end Unbuilt

/-- A setting without a frame leaves the session alone if the model refuses it or if its VFO is
selected already. Otherwise the toggle goes out first, and if the radio takes it, the session is
left with the other VFO. -/
theorem apply_of_unbuilt [Line σ] (rig : Rig σ) (operation : Operation) (command : Command)
    (e : Error) (hcommand : operation.command? = some command) :
    (rig.descriptor.refusal? operation = some e →
      (perform operation).apply rig = (.error e, rig)) ∧
    (rig.descriptor.refusal? operation = none →
      rig.descriptor.settingFrame command operation = .error e →
        (operation.target = .current ∨ operation.target = .only rig.vfo →
          (perform operation).apply rig = (.error e, rig)) ∧
        ∀ vfo, operation.target = .only vfo → vfo ≠ rig.vfo →
          (perform operation).apply rig =
            match rig.descriptor.frame .toggleVfo with
            | .error e' => (.error e', rig)
            | .ok frame =>
              match rig.engine.sendCommand frame with
              | (.error e', engine) => (.error e', { rig with engine })
              | (.ok (), engine) =>
                (.error e,
                  { rig with engine, vfo, cache := rig.cache.forceExpire .freqMode })) := by
  refine ⟨apply_of_refusal hcommand, fun hrefusal hframe =>
    ⟨fun hselected => ?_, fun vfo htarget hne => ?_⟩⟩
  · rw [apply_of_error_frame hcommand hrefusal hframe, apply_selectVfo_of_selected hselected]
  · rw [apply_of_error_frame hcommand hrefusal hframe, htarget, apply_selectVfo_of_ne hne]
    cases rig.descriptor.frame .toggleVfo with
    | error e' => rfl
    | ok frame =>
      dsimp only
      rcases rig.engine.sendCommand frame with ⟨e' | ⟨⟩, engine⟩ <;> rfl

/-- A radio for 23 centimetres leaves a session alone when its model refuses a mode, and when a
frequency does not fit its field for the VFO that is selected. For the other one it is found with
that selected. -/
theorem apply_of_unbuilt_b :
    let line : ScriptedLine := { script := [⟨[0x00, 0x00, 0x00, 0x00, 0x81], [0x00]⟩] }
    let channel : Channel (RecordedLine ScriptedLine) := ⟨⟨line, []⟩, 0⟩
    let rig := start
      { Models.ft897 with ackMode := .read, ranges := [.rx 1240000000 1300000000] } channel
    let refused : Error := .unsupported "mode DATA-USB on FT-897"
    let overflow : Error := .invalidParameter "value does not fit in BCD field"
    (perform (.setMode (.only .b) .dataUsb)).apply rig = (.error refused, rig) ∧
      (perform (.setFrequency .current 1296000000)).apply rig = (.error overflow, rig) ∧
      ((perform (.setFrequency (.only .b) 1296000000)).apply rig).2.vfo = .b := by
  intro line channel rig refused overflow
  obtain ⟨hrefused, -⟩ :=
    apply_of_unbuilt rig (.setMode (.only .b) .dataUsb) .setMode refused rfl
  obtain ⟨-, hselected⟩ :=
    apply_of_unbuilt rig (.setFrequency .current 1296000000) .setFrequency overflow rfl
  obtain ⟨-, hother⟩ :=
    apply_of_unbuilt rig (.setFrequency (.only .b) 1296000000) .setFrequency overflow rfl
  refine ⟨hrefused rfl, (hselected rfl rfl).1 (.inl rfl), ?_⟩
  rw [(hother rfl rfl).2 .b rfl (by decide)]
  decide +kernel

/-- So a frequency that was never sent has put three calls on the line and changed the VFO. -/
theorem apply_of_unbuilt_calls :
    let line : ScriptedLine := { script := [⟨[0x00, 0x00, 0x00, 0x00, 0x81], [0x00]⟩] }
    let channel : Channel (RecordedLine ScriptedLine) := ⟨⟨line, []⟩, 0⟩
    let rig := start
      { Models.ft897 with ackMode := .read, ranges := [.rx 1240000000 1300000000] } channel
    let after := (perform (.setFrequency (.only .b) 1296000000)).apply rig
    (frequencyFrame rig.descriptor 1296000000).toOption = none ∧ after.1.toOption = none ∧
      after.2.engine.calls.length = 3 ∧ rig.vfo = .a ∧ after.2.vfo = .b := by
  decide +kernel

end Rig

end Transceiver
