import Transceiver.Line.Scripted
import Transceiver.Models
import Transceiver.Proofs.Bcd.Frequency
import Transceiver.Proofs.Rig.Refusal
import Transceiver.Proofs.Rig.Step

/-!
# Tuning

A frequency goes out in the four parameters of a frame, and comes back in the first four bytes of a
status block. The two ways share no code but for the packed decimal fields. They agree in that a
session that is told its own parameters reads the frequency that was set, to the nearest ten hertz.

`Rig.Sends` says what a setting that succeeds puts on the line: at most a toggle, and then its own
command.

## Main statement

* `Rig.setFrequency_reads_back`: what is read from the parameters that a frequency was set with, and
  for which frequencies these are the same.
-/

namespace Transceiver

variable {σ : Type}

/-- Parameters hold the bytes that they were made of. -/
theorem Params.toList_of_ofBytes {bytes : Bytes} {params : Params}
    (h : Params.ofBytes bytes = .ok params) : params.toList = bytes := by
  by_cases hlength : bytes.length = paramCount
  · rw [ofBytes, ofBytes?, dif_pos hlength] at h
    obtain rfl := Except.ok.inj h
    rfl
  · rw [ofBytes, ofBytes?, dif_neg hlength] at h
    cases h

namespace Rig

variable [Line σ]

/-! ## Settings that succeed -/

/-- A setting succeeds with a certain command: once its VFO is selected, for which it may have
toggled, that command is sent, and the radio takes it. -/
structure Sends (rig : Rig (RecordedLine σ)) (operation : Operation) (sent : SentCommand) :
    Prop where
  /-- The command is the operation's own. -/
  command : operation.command? = some sent.command
  /-- It is sent last, after toggles. -/
  commands : ∃ toggles, (rig.account operation).commands = toggles ++ [sent] ∧
    ∀ toggle ∈ toggles, toggle.command = .toggleVfo
  /-- It goes out in the frame that the model has for it. -/
  frame : rig.descriptor.settingFrame sent.command operation = .ok sent.frame
  /-- The radio takes it. -/
  result : sent.result = .ok ()
  /-- The VFO is selected before. -/
  selects : ((selectVfo operation.target).apply rig).1 = .ok ()
  /-- From there on the command is sent, and the engine does nothing else. -/
  exchanges : ∃ command reply check,
    ((selectVfo operation.target).apply rig).2.engine.CommandSent sent.frame command reply check
      sent.result ((perform operation).apply rig).2.engine

/-- A single stage that succeeds has a frame, which the radio takes. -/
theorem carryOut_of_ok {rig : Rig σ} {stage : Stage} (h : (rig.carryOut [stage]).result = .ok ()) :
    ∃ frame, stage.frame = .ok frame ∧ (rig.engine.sendCommand frame).1 = .ok () ∧
      (rig.carryOut [stage]).commands = [⟨stage.command, frame, rig.vfo, .ok ()⟩] ∧
      (rig.carryOut [stage]).rig.engine = (rig.engine.sendCommand frame).2 := by
  rw [carryOut] at h ⊢
  cases hframe : stage.frame with
  | error e =>
    rw [hframe] at h
    cases h
  | ok frame =>
    rw [hframe] at h
    dsimp only at h ⊢
    rcases hsend : rig.engine.sendCommand frame with ⟨e | ⟨⟩, engine⟩
    · rw [hsend] at h
      cases h
    · exact ⟨frame, rfl, by rw [hsend], rfl, by rw [hsend]; exact engine_noteAll _ _⟩

/-- A setting that succeeds was not refused, and the radio took all its commands. -/
theorem ok_of_apply {rig : Rig σ} {operation : Operation} {command : Command} {answer : Answer}
    (hcommand : operation.command? = some command)
    (hok : ((perform operation).apply rig).1 = .ok answer) :
    rig.descriptor.refusal? operation = none ∧ (rig.account operation).result = .ok () := by
  rw [apply_setting hcommand] at hok
  cases hrefusal : rig.descriptor.refusal? operation with
  | some e =>
    rw [account_of_refusal (plan_of_refusal hrefusal)] at hok
    cases hok
  | none =>
    cases hresult : (rig.account operation).result with
    | error e =>
      rw [hresult] at hok
      cases hok
    | ok done => exact ⟨rfl, rfl⟩

/-- A setting that succeeds sends its command. -/
theorem exists_sends {rig : Rig (RecordedLine σ)} {operation : Operation} {command : Command}
    {answer : Answer} (hcommand : operation.command? = some command)
    (hok : ((perform operation).apply rig).1 = .ok answer) : ∃ sent, rig.Sends operation sent := by
  obtain ⟨hrefusal, hresult⟩ := ok_of_apply hcommand hok
  -- The account has two parts, the selection and the command itself, and neither of them failed.
  have hselect : (selectVfo operation.target).apply rig = _ :=
    follows_selectVfo operation.target rig
  have haccount := account_of_command hrefusal hcommand
  rw [haccount] at hresult
  obtain ⟨hselected, hown⟩ := Account.ok_of_andThen hresult
  rw [Account.andThen_of_ok hselected] at haccount
  obtain ⟨frame, hframe, hsent, hcommands, hengine⟩ := carryOut_of_ok hown
  obtain ⟨own, reply, check, houtcome⟩ :=
    ((rig.carryOut (rig.selection operation.target)).rig.engine.course_sendCommand
      frame).commandSent
  refine ⟨⟨command, frame, (rig.carryOut (rig.selection operation.target)).rig.vfo, .ok ()⟩,
    hcommand, ⟨_, by rw [haccount, hcommands]; rfl, ?_⟩, hframe, rfl, ?_, own, reply, check, ?_⟩
  · -- The commands before it are those that select the VFO.
    intro toggle hmem
    obtain ⟨stage, hstage, heq, -⟩ := exists_stage_of_mem_carryOut hmem
    obtain ⟨vfo, -, -, rfl⟩ := mem_selection hstage
    exact heq.symm
  · rw [hselect, hselected]
  · rw [hselect, apply_setting hcommand, haccount]
    dsimp only
    rw [hengine, ← hsent]
    exact houtcome

/-! ## Frequencies -/

section Frames

variable {descriptor : Descriptor} {hz : Nat} {frame : Frame}

/-- The frame that sets a frequency holds the digits of its field. -/
theorem frequencyFrame_eq_ok (h : frequencyFrame descriptor hz = .ok frame) :
    (∃ template, descriptor.template .setFrequency = .ok template ∧
      frame = template.withParams frame.params) ∧
    (Bcd.ofFrequency hz 8 descriptor.freqOrder .nearest).exact = .ok frame.params.toList := by
  rw [frequencyFrame] at h
  cases hdigits : (Bcd.ofFrequency hz 8 descriptor.freqOrder .nearest).exact with
  | error e =>
    rw [hdigits] at h
    cases h
  | ok digits =>
    cases htemplate : descriptor.template .setFrequency with
    | error e =>
      rw [hdigits, htemplate] at h
      cases h
    | ok template =>
      rw [hdigits, htemplate] at h
      change (Params.ofBytes digits).map template.withParams = .ok frame at h
      -- Whether the digits fit the frame is seen only after the template has been found.
      cases hparams : Params.ofBytes digits with
      | error e =>
        rw [hparams] at h
        cases h
      | ok params =>
        rw [hparams] at h
        obtain rfl := Except.ok.inj h
        exact ⟨⟨template, rfl, rfl⟩, congrArg Except.ok (Params.toList_of_ofBytes hparams).symm⟩

/-- The tens of a frequency that is set are those of the sum: the largest word has too many. -/
theorem tens_of_frequencyFrame (h : frequencyFrame descriptor hz = .ok frame) :
    Bcd.Rounding.nearest.tens hz = (hz + 5) / 10 := by
  have hlt := (Bcd.toFrequency_of_exact (frequencyFrame_eq_ok h).2).1
  exact Bcd.Rounding.tens_nearest_of_lt (Nat.lt_trans hlt (by decide))

/-- The parameters of the frame stand for the nearest ten hertz. -/
theorem toFrequency_frequencyFrame (h : frequencyFrame descriptor hz = .ok frame) :
    Bcd.toFrequency frame.params.toList 8 descriptor.freqOrder = .ok (10 * ((hz + 5) / 10)) := by
  rw [(Bcd.toFrequency_of_exact (frequencyFrame_eq_ok h).2).2, tens_of_frequencyFrame h]

/-- They are the same for frequencies with the same nearest ten hertz, and for no others. -/
theorem params_frequencyFrame_inj {other : Descriptor} {hz' : Nat} {frame' : Frame}
    (horder : other.freqOrder = descriptor.freqOrder)
    (h : frequencyFrame descriptor hz = .ok frame) (h' : frequencyFrame other hz' = .ok frame') :
    frame'.params = frame.params ↔ 10 * ((hz' + 5) / 10) = 10 * ((hz + 5) / 10) := by
  have hexact := (frequencyFrame_eq_ok h').2
  rw [horder] at hexact
  rw [← Vector.toList_inj, Bcd.exact_inj (frequencyFrame_eq_ok h).2 hexact,
    tens_of_frequencyFrame h, tens_of_frequencyFrame h', Nat.mul_right_inj (by decide)]

end Frames

/-- A frequency that is set goes out in the parameters of the model's frame. A session of the same
digit order whose status block begins with these parameters reads the frequency, to the nearest ten
hertz, and two frequencies that are set have the same parameters exactly if that is the same for
both. -/
theorem setFrequency_reads_back (rig : Rig (RecordedLine σ)) (vfo : VfoChoice) (hz : Nat)
    {answer : Answer} (hok : ((perform (.setFrequency vfo hz)).apply rig).1 = .ok answer) :
    ∃ sent, rig.Sends (.setFrequency vfo hz) sent ∧
      (∃ template, rig.descriptor.template .setFrequency = .ok template ∧
        sent.frame = template.withParams sent.frame.params) ∧
      (∀ {τ : Type} [Line τ] (other : Rig τ) (choice : VfoChoice) (block : Bytes),
        other.descriptor.freqOrder = rig.descriptor.freqOrder →
        ((status .freqMode).apply other).1 = .ok block →
        block.take paramCount = sent.frame.params.toList →
        ((perform (.getFrequency choice)).apply other).1 =
          .ok (.frequency (10 * ((hz + 5) / 10)))) ∧
      ∀ {τ : Type} [Line τ] (other : Rig (RecordedLine τ)) (vfo' : VfoChoice) (hz' : Nat)
        (sent' : SentCommand), other.descriptor.freqOrder = rig.descriptor.freqOrder →
        other.Sends (.setFrequency vfo' hz') sent' →
        (sent'.frame.params = sent.frame.params ↔
          10 * ((hz' + 5) / 10) = 10 * ((hz + 5) / 10)) := by
  obtain ⟨sent, hsends⟩ := exists_sends rfl hok
  have hframe : frequencyFrame rig.descriptor hz = .ok sent.frame := hsends.frame
  refine ⟨sent, hsends, (frequencyFrame_eq_ok hframe).1, ?_, ?_⟩
  · -- The session reads the block by its own descriptor, of which only the digit order counts.
    intro τ _ other choice block horder hblock hparams
    have hread := congrArg Prod.fst (apply_reading (.frequency choice) other)
    rw [Reading.operation] at hread
    rw [hread]
    simp only [Reading.source, hblock, Except.bind, Reading.decode, hparams, horder,
      toFrequency_frequencyFrame hframe]
    rfl
  · intro τ _ other vfo' hz' sent' horder hsends'
    exact params_frequencyFrame_inj horder hframe hsends'.frame

/-- A frequency in the twenty-metre band that is set on VFO B, four hertz above what is read
back. -/
theorem setFrequency_reads_back_twentyMetres :
    let rig : Rig (RecordedLine ScriptedLine) := start Models.ft897
      ⟨⟨{ script := [⟨[0x00, 0x00, 0x00, 0x00, 0x81], [0x00]⟩,
          ⟨[0x01, 0x42, 0x50, 0x00, 0x01], [0x00]⟩] }, []⟩, 0⟩
    let other : Rig ScriptedLine := start Models.ft897
      ⟨{ script := [⟨[0x00, 0x00, 0x00, 0x00, 0x03], [0x01, 0x42, 0x50, 0x00, 0x01]⟩] }, 0⟩
    ((perform (.setFrequency (.only .b) 14250004)).apply rig).1 = .ok .done ∧
      ((status .freqMode).apply other).1 = .ok [0x01, 0x42, 0x50, 0x00, 0x01] ∧
      (∃ sent, rig.Sends (.setFrequency (.only .b) 14250004) sent ∧
        sent.frame.bytes = [0x01, 0x42, 0x50, 0x00, 0x01]) ∧
      ((perform (.getFrequency .current)).apply other).1 = .ok (.frequency 14250000) := by
  intro rig other
  have hok : ((perform (.setFrequency (.only .b) 14250004)).apply rig).1 = .ok .done := by
    decide +kernel
  have hstatus : ((status .freqMode).apply other).1 = .ok [0x01, 0x42, 0x50, 0x00, 0x01] := by
    decide +kernel
  obtain ⟨sent, hsends, -, hreads, -⟩ := setFrequency_reads_back rig (.only .b) 14250004 hok
  have hframe : frequencyFrame Models.ft897 14250004 = .ok sent.frame := hsends.frame
  have hexpected : frequencyFrame Models.ft897 14250004 =
      .ok ⟨#v[0x01, 0x42, 0x50, 0x00], 0x01⟩ := by
    decide +kernel
  have hsent : sent.frame = ⟨#v[0x01, 0x42, 0x50, 0x00], 0x01⟩ :=
    Except.ok.inj (hframe.symm.trans hexpected)
  refine ⟨hok, hstatus, ⟨sent, hsends, by rw [hsent]; rfl⟩, ?_⟩
  exact hreads other .current _ rfl hstatus (by rw [hsent]; rfl)

end Rig

end Transceiver
