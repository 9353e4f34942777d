import Mathlib.Algebra.Group.Nat.Even
import Transceiver.Line.Scripted
import Transceiver.Models
import Transceiver.Proofs.Rig.Session

/-!
# The Selected VFO

A radio cannot say which VFO it has selected. It changes over whenever it takes the toggle, so a
session knows as long as it misses none and imagines none. `Vfo.after` says where the radio is after
commands; `Agrees` says that the session was right each time it sent one.

## Main statement

* `Rig.start_selection`: in every run the session's VFO is the one that the radio has selected, and
  a setting for a VFO is sent only while that VFO is selected.
-/

namespace Transceiver

variable {σ : Type}

/-! ## The radio's side -/

/-- The command makes a radio change over, and the radio took it. -/
def SentCommand.toggled (sent : SentCommand) : Bool :=
  sent.command = .toggleVfo && sent.succeeded

namespace Vfo

/-- A VFO that is not the selected one is the other one. -/
theorem eq_other {vfo selected : Vfo} (h : vfo ≠ selected) : vfo = selected.other := by
  cases vfo <;> cases selected <;> first | rfl | exact absurd rfl h

/-- The VFO that a radio has selected once it has taken a command. -/
def changed (vfo : Vfo) (command : Command) : Vfo :=
  if command = .toggleVfo then vfo.other else vfo

/-- The VFO that a radio has selected after commands, if it began with `vfo`. -/
def after (vfo : Vfo) : List SentCommand → Vfo
  | [] => vfo
  | sent :: commands => (if sent.toggled then vfo.other else vfo).after commands

/-- After a command that the radio took it goes on from the VFO to which that changed. -/
theorem after_cons_of_ok (vfo : Vfo) (commands : List SentCommand) (command : Command)
    (frame : Frame) (tracked : Vfo) :
    vfo.after (⟨command, frame, tracked, .ok ()⟩ :: commands) =
      (vfo.changed command).after commands := by
  simp [after, SentCommand.toggled, changed]

/-- After later commands a radio is where they lead it from where the earlier ones left it. -/
theorem after_append (vfo : Vfo) (commands later : List SentCommand) :
    vfo.after (commands ++ later) = (vfo.after commands).after later := by
  induction commands generalizing vfo with
  | nil => rfl
  | cons sent commands ih => exact ih _

/-- Two toggles cancel out. -/
theorem after_eq (vfo : Vfo) (commands : List SentCommand) :
    vfo.after commands =
      if Even (commands.countP SentCommand.toggled) then vfo else vfo.other := by
  induction commands generalizing vfo with
  | nil => simp [after]
  | cons sent commands ih =>
    rw [after, ih, List.countP_cons]
    by_cases htoggled : sent.toggled
    · by_cases heven : Even (commands.countP SentCommand.toggled) <;>
        simp [htoggled, heven, Nat.even_add_one]
    · simp [htoggled]

end Vfo

/-- Whenever one of the commands was sent, the session took that VFO to be selected which a radio
that began with `vfo` had selected by then. -/
def Agrees (vfo : Vfo) (commands : List SentCommand) : Prop :=
  ∀ done sent, done ++ [sent] <+: commands → sent.vfo = vfo.after done

namespace Agrees

/-- Where nothing was sent the session was never wrong. -/
theorem nil (vfo : Vfo) : Agrees vfo [] := by
  simp [Agrees]

/-- A session that was right about the first command, and about the others after it, was right about
all. -/
theorem cons {vfo : Vfo} {sent : SentCommand} {commands : List SentCommand} (h : sent.vfo = vfo)
    (h' : Agrees (vfo.after [sent]) commands) : Agrees vfo (sent :: commands) := by
  intro done last hinitial
  cases done with
  | nil =>
    obtain rfl : last = sent := by simpa using hinitial
    exact h
  | cons first done =>
    obtain ⟨rfl, hrest⟩ := List.cons_prefix_cons.mp hinitial
    exact h' done last hrest

/-- A session that was right about one stretch of commands and then about the next was right about
both. -/
theorem append {vfo : Vfo} {commands later : List SentCommand} (h : Agrees vfo commands)
    (h' : Agrees (vfo.after commands) later) : Agrees vfo (commands ++ later) := by
  induction commands generalizing vfo with
  | nil => exact h'
  | cons sent commands ih =>
    refine cons (h [] sent (by simp)) (ih (fun done last hinitial => ?_) h')
    exact h (sent :: done) last (by simpa using hinitial)

end Agrees

/-! ## The session's side -/

/-- The VFO that notes leave selected. -/
def Vfo.noted (vfo : Vfo) : List Note → Vfo
  | [] => vfo
  | .vfo noted :: notes => noted.noted notes
  | .expire _ :: notes | .transmitting _ :: notes => vfo.noted notes

/-- Of a radio that has `vfo` selected, stages note what becomes of it. -/
def Tracks (vfo : Vfo) : List Stage → Prop
  | [] => True
  | stage :: stages =>
    vfo.noted stage.notes = vfo.changed stage.command ∧ Tracks (vfo.changed stage.command) stages

namespace Rig

/-- The VFO after notes is the one that they leave selected. -/
theorem vfo_noteAll (rig : Rig σ) (notes : List Note) :
    (rig.noteAll notes).vfo = rig.vfo.noted notes := by
  induction notes generalizing rig with
  | nil => rfl
  | cons note notes ih =>
    rw [noteAll, List.foldl_cons, ← noteAll, ih]
    cases note <;> rfl

/-- Only the toggle changes over, and what it notes is the other VFO. -/
theorem noted_notes {operation : Operation} {command : Command} (vfo : Vfo)
    (h : operation.command? = some command) :
    vfo.noted (operation.notes vfo) = vfo.changed command := by
  cases operation with
  | setRepeaterShift shift => cases shift <;> cases h <;> rfl
  | setPtt on | setSplit on | setRitEnabled on | setLock on => cases on <;> cases h <;> rfl
  | _ => cases h <;> rfl

/-- Only a frequency and a mode are set on a certain VFO. -/
theorem exists_of_target {operation : Operation} {vfo : Vfo} (h : operation.target = .only vfo) :
    (∃ hz, operation = .setFrequency (.only vfo) hz) ∨
      ∃ mode, operation = .setMode (.only vfo) mode := by
  cases operation <;> simp_all [Operation.target]

/-- The plan of an operation notes what becomes of a radio that has the VFO of the session. -/
theorem tracks_plan {rig : Rig σ} {operation : Operation} {stages : List Stage}
    (h : rig.plan operation = .ok stages) : Tracks rig.vfo stages := by
  rcases plan_cases h with ⟨-, rfl⟩ | ⟨command, hcommand, rfl⟩
  · trivial
  · have hown : Tracks rig.vfo [rig.ownStage operation command] :=
      ⟨noted_notes rig.vfo hcommand, trivial⟩
    cases htarget : operation.target with
    | current => simpa [selection] using hown
    | only vfo =>
      rw [selection]
      split
      next => simpa using hown
      next hne =>
        -- The toggle notes the VFO, and the setting itself notes none.
        have htoggle : vfo = rig.vfo.changed .toggleVfo := Vfo.eq_other hne
        refine ⟨htoggle, ?_⟩
        rcases exists_of_target htarget with ⟨hz, rfl⟩ | ⟨mode, rfl⟩
        · exact ⟨by cases hcommand; rfl, trivial⟩
        · exact ⟨by cases hcommand; rfl, trivial⟩

section Accounts

variable [Line σ]

/-- Stages that track the radio keep the session and the radio together. -/
theorem agrees_carryOut {rig : Rig σ} {stages : List Stage} (h : Tracks rig.vfo stages) :
    Agrees rig.vfo (rig.carryOut stages).commands ∧
      (rig.carryOut stages).rig.vfo = rig.vfo.after (rig.carryOut stages).commands := by
  fun_induction rig.carryOut stages with
  | case1 rig => exact ⟨.nil _, rfl⟩
  | case2 rig stage stages e hframe => exact ⟨.nil _, rfl⟩
  | case3 rig stage stages frame hframe e engine hsend =>
    refine ⟨.cons rfl (.nil _), ?_⟩
    simp [Vfo.after, SentCommand.toggled]
  | case4 rig stage stages frame hframe engine hsend ih =>
    obtain ⟨hnoted, hrest⟩ := h
    -- What the notes leave selected is what the radio has changed to.
    have hvfo : ({ rig with engine }.noteAll stage.notes).vfo = rig.vfo.changed stage.command := by
      rw [vfo_noteAll]
      exact hnoted
    rw [hvfo] at ih
    obtain ⟨hagrees, hafter⟩ := ih hrest
    refine ⟨.cons rfl ?_, ?_⟩
    · rw [Vfo.after_cons_of_ok]
      exact hagrees
    · rw [Account.prepend, Vfo.after_cons_of_ok]
      exact hafter

/-- Through an operation the session and the radio stay together. -/
theorem agrees_account (rig : Rig σ) (operation : Operation) :
    Agrees rig.vfo (rig.account operation).commands ∧
      (rig.account operation).rig.vfo = rig.vfo.after (rig.account operation).commands := by
  cases hplan : rig.plan operation with
  | error e =>
    rw [account_of_refusal hplan]
    exact ⟨.nil _, rfl⟩
  | ok stages =>
    rw [account_of_plan hplan]
    exact agrees_carryOut (tracks_plan hplan)

/-- A reading sends no command and leaves the VFO alone. -/
theorem agrees_step (rig : Rig σ) (event : Event) :
    Agrees rig.vfo (rig.commands event) ∧
      (rig.step event).2.vfo = rig.vfo.after (rig.commands event) := by
  cases event with
  | sleep duration => exact ⟨.nil _, rfl⟩
  | perform operation =>
    obtain ⟨hagrees, hafter⟩ := rig.agrees_account operation
    refine ⟨hagrees, ?_⟩
    show ((perform operation).apply rig).2.vfo = rig.vfo.after (rig.account operation).commands
    cases hcommand : operation.command? with
    | some command =>
      rw [apply_setting hcommand]
      exact hafter
    | none =>
      rw [account_of_command?_eq_none hcommand]
      -- What is no setting asks for a status reply or gives the line up, and neither selects a VFO.
      cases hsource : source? operation with
      | some asked =>
        rw [rig.view_of_source operation Rig.vfo (fun _ _ => rfl) hsource]
        exact rig.view_status asked Rig.vfo (fun _ _ => rfl) (fun _ _ _ => rfl)
      | none =>
        by_cases hclose : operation = .close
        · rw [hclose, apply_close]
          rfl
        · obtain ⟨command, hsome⟩ := exists_command hsource hclose
          simp [hcommand] at hsome

/-- So a session and its radio stay together. -/
theorem agrees_run (rig : Rig σ) (events : List Event) :
    Agrees rig.vfo (rig.sent events) ∧ (rig.run events).vfo = rig.vfo.after (rig.sent events) := by
  induction events generalizing rig with
  | nil => exact ⟨.nil _, rfl⟩
  | cons event events ih =>
    obtain ⟨hagrees, hafter⟩ := rig.agrees_step event
    obtain ⟨hagrees', hafter'⟩ := ih (rig.step event).2
    rw [hafter] at hagrees' hafter'
    refine ⟨hagrees.append hagrees', ?_⟩
    rw [run, sent, Vfo.after_append]
    exact hafter'

/-! ## Settings for a VFO -/

/-- The commands that are sent are those of the first stages. -/
theorem command_carryOut (rig : Rig σ) (stages : List Stage) :
    (rig.carryOut stages).commands.map SentCommand.command <+: stages.map Stage.command := by
  fun_induction rig.carryOut stages with
  | case1 rig => exact List.prefix_refl _
  | case2 rig stage stages e hframe => exact List.nil_prefix
  | case3 rig stage stages frame hframe e engine hsend => simp
  | case4 rig stage stages frame hframe engine hsend ih =>
    exact List.cons_prefix_cons.mpr ⟨rfl, ih⟩

/-- The VFO is selected once the stages that select it were carried out. -/
theorem vfo_carryOut_selection (rig : Rig σ) (choice : VfoChoice)
    (h : (rig.carryOut (rig.selection choice)).result = .ok ()) :
    choice = .current ∨ choice = .only (rig.carryOut (rig.selection choice)).rig.vfo := by
  cases choice with
  | current => exact .inl rfl
  | only vfo =>
    refine .inr ?_
    by_cases hvfo : vfo = rig.vfo
    · simp [selection, hvfo, carryOut]
    · rw [selection, if_neg hvfo, carryOut] at h ⊢
      split at h
      next => cases h
      next frame hframe =>
        split at h
        next => cases h
        next engine hsend => rfl

/-- A single stage is carried out with the VFO that is selected. -/
theorem vfo_of_mem_carryOut {rig : Rig σ} {stage : Stage} {sent : SentCommand}
    (h : sent ∈ (rig.carryOut [stage]).commands) : sent.vfo = rig.vfo := by
  rw [carryOut] at h
  split at h
  next => cases h
  next frame hframe =>
    split at h
    next => exact List.mem_singleton.mp h ▸ rfl
    next => exact List.mem_singleton.mp h ▸ rfl

/-- A command that the radio does not take is the last one, and the VFO stays as it was then. -/
theorem vfo_carryOut_of_failed {rig : Rig σ} {stages : List Stage} {sent : SentCommand}
    (hmem : sent ∈ (rig.carryOut stages).commands) (hfailed : sent.succeeded = false) :
    (rig.carryOut stages).rig.vfo = sent.vfo := by
  fun_induction rig.carryOut stages with
  | case1 rig => simp at hmem
  | case2 rig stage stages e hframe => simp at hmem
  | case3 rig stage stages frame hframe e engine hsend =>
    obtain rfl := List.mem_singleton.mp hmem
    rfl
  | case4 rig stage stages frame hframe engine hsend ih =>
    rcases List.mem_cons.mp hmem with rfl | hrest
    · cases hfailed
    · exact ih hrest

omit [Line σ] in
/-- Only the first stage of a plan changes over. -/
theorem ne_toggle_of_mem_tail {rig : Rig σ} {operation : Operation} {stages : List Stage}
    {stage : Stage} (hplan : rig.plan operation = .ok stages) (hmem : stage ∈ stages.tail) :
    stage.command ≠ .toggleVfo := by
  rcases plan_cases hplan with ⟨-, rfl⟩ | ⟨command, hcommand, rfl⟩
  · simp at hmem
  · cases htarget : operation.target with
    | current => simp [htarget, selection] at hmem
    | only vfo =>
      rw [htarget, selection] at hmem
      split at hmem
      next => simp at hmem
      next =>
        obtain rfl : stage = rig.ownStage operation command := by simpa using hmem
        rcases exists_of_target htarget with ⟨hz, rfl⟩ | ⟨mode, rfl⟩
        · obtain rfl := Option.some.inj hcommand
          simp [ownStage]
        · obtain rfl := Option.some.inj hcommand
          simp [ownStage]

/-- So an operation toggles with its first command or not at all. -/
theorem ne_toggle_of_commands_eq_cons {rig : Rig σ} {operation : Operation} {first : SentCommand}
    {others : List SentCommand} (h : (rig.account operation).commands = first :: others) :
    ∀ sent ∈ others, sent.command ≠ .toggleVfo := by
  intro sent hmem htoggle
  -- The commands that were sent are those of the first stages, so a later one is of a later stage.
  cases hplan : rig.plan operation with
  | error e => simp [account_of_refusal hplan] at h
  | ok stages =>
    rw [account_of_plan hplan] at h
    have hprefix := command_carryOut rig stages
    rw [h] at hprefix
    cases stages with
    | nil => simp at hprefix
    | cons stage stages =>
      obtain ⟨-, hrest⟩ := List.cons_prefix_cons.mp hprefix
      obtain ⟨later, hlater, hcommand⟩ :=
        List.mem_map.mp (hrest.subset (List.mem_map_of_mem hmem))
      exact ne_toggle_of_mem_tail hplan hlater (hcommand.trans htoggle)

/-- A toggle that fails leaves the VFO as it was. -/
theorem vfo_account_of_failed_toggle {rig : Rig σ} {operation : Operation} {sent : SentCommand}
    (hmem : sent ∈ (rig.account operation).commands) (htoggle : sent.command = .toggleVfo)
    (hfailed : sent.succeeded = false) : (rig.account operation).rig.vfo = rig.vfo := by
  -- A toggle comes first or not at all, so it met the VFO of the session.
  have hbefore : sent.vfo = rig.vfo := by
    cases hcommands : (rig.account operation).commands with
    | nil => simp [hcommands] at hmem
    | cons first others =>
      have hfirst : sent = first := by
        rw [hcommands] at hmem
        exact (List.mem_cons.mp hmem).resolve_right fun hrest =>
          ne_toggle_of_commands_eq_cons hcommands sent hrest htoggle
      exact (rig.agrees_account operation).1 [] sent (by simp [hcommands, hfirst])
  cases hplan : rig.plan operation with
  | error e => rw [account_of_refusal hplan]
  | ok stages =>
    rw [account_of_plan hplan] at hmem ⊢
    rw [vfo_carryOut_of_failed hmem hfailed, hbefore]

/-- A setting other than the toggle leaves the VFO alone once its own command is due. -/
theorem vfo_carryOut_ownStage {operation : Operation} {command : Command}
    (hcommand : operation.command? = some command) (hne : command ≠ .toggleVfo)
    (rig after : Rig σ) :
    (after.carryOut [rig.ownStage operation command]).rig.vfo = after.vfo := by
  refine view_carryOut (fun _ _ => rfl) (fun stage hstage note hnote rig' => ?_) after
  obtain rfl := List.mem_singleton.mp hstage
  cases note with
  | expire query => rfl
  | transmitting on => rfl
  | vfo noted =>
    obtain rfl := Operation.toggleVfo_of_mem_notes hnote
    exact absurd (Option.some.inj hcommand).symm hne

/-- A command that an operation sends either changes over to its VFO or is its own, and then its VFO
is selected. -/
theorem mem_account {rig : Rig σ} {operation : Operation} {command : Command} {sent : SentCommand}
    (hcommand : operation.command? = some command)
    (h : sent ∈ (rig.account operation).commands) :
    (sent.command = .toggleVfo ∧ ∃ vfo, operation.target = .only vfo ∧ vfo ≠ rig.vfo) ∨
      sent.command = command ∧
        (operation.target = .current ∨ operation.target = .only sent.vfo) := by
  cases hrefusal : rig.descriptor.refusal? operation with
  | some e => simp [account_of_refusal (plan_of_refusal hrefusal)] at h
  | none =>
    rw [account_of_command hrefusal hcommand] at h
    -- It is one of the selection, or the selection succeeded and it is the operation's own.
    have hfirst (hmem : sent ∈ (rig.carryOut (rig.selection operation.target)).commands) :
        sent.command = .toggleVfo ∧ ∃ vfo, operation.target = .only vfo ∧ vfo ≠ rig.vfo := by
      obtain ⟨stage, hstage, heq⟩ := List.mem_map.mp
        ((command_carryOut rig _).subset (List.mem_map_of_mem hmem))
      obtain ⟨vfo, htarget, hother, rfl⟩ := mem_selection hstage
      exact ⟨heq.symm, vfo, htarget, hother⟩
    cases hresult : (rig.carryOut (rig.selection operation.target)).result with
    | error e =>
      rw [Account.andThen_of_error hresult] at h
      exact .inl (hfirst h)
    | ok done =>
      rw [Account.andThen_of_ok hresult] at h
      rcases List.mem_append.mp h with hmem | hmem
      · exact .inl (hfirst hmem)
      · have hown := (command_carryOut _ _).subset (List.mem_map_of_mem hmem)
        rw [vfo_of_mem_carryOut hmem]
        exact .inr ⟨List.mem_singleton.mp hown, vfo_carryOut_selection rig _ hresult⟩

section Settings

variable {operation : Operation} {command : Command}
  (hcommand : operation.command? = some command) (hne : command ≠ .toggleVfo)

include hcommand hne

/-- A setting that succeeds leaves the VFO selected that it is meant for. -/
theorem vfo_account_of_ok {rig : Rig σ} (h : (rig.account operation).result = .ok ()) :
    operation.target = .current ∨ operation.target = .only (rig.account operation).rig.vfo := by
  cases hrefusal : rig.descriptor.refusal? operation with
  | some e =>
    rw [account_of_refusal (plan_of_refusal hrefusal)] at h
    cases h
  | none =>
    rw [account_of_command hrefusal hcommand] at h ⊢
    obtain ⟨hselected, -⟩ := Account.ok_of_andThen h
    rw [Account.andThen_of_ok hselected]
    dsimp only
    rw [vfo_carryOut_ownStage hcommand hne]
    exact vfo_carryOut_selection rig operation.target hselected

/-- A setting for the selected VFO leaves it selected. -/
theorem vfo_account_of_current (rig : Rig σ) (h : operation.target = .current) :
    (rig.account operation).rig.vfo = rig.vfo := by
  cases hrefusal : rig.descriptor.refusal? operation with
  | some e => rw [account_of_refusal (plan_of_refusal hrefusal)]
  | none =>
    rw [account_of_plan (plan_of_command hrefusal hcommand), h, selection, List.nil_append]
    exact vfo_carryOut_ownStage hcommand hne rig rig

end Settings

/-- How an operation that is meant for a VFO comes by it. -/
structure Selects (rig : Rig σ) (choice : VfoChoice) (operation : Operation) : Prop where
  /-- It toggles at most once. -/
  toggles_le_one :
    (rig.account operation).commands.countP (fun sent => sent.command = .toggleVfo) ≤ 1
  /-- It toggles only to get from the selected VFO to another. -/
  of_toggle : ∀ sent ∈ (rig.account operation).commands, sent.command = .toggleVfo →
    ∃ vfo, choice = .only vfo ∧ vfo ≠ rig.vfo
  /-- Its own command is sent only while its VFO is selected. -/
  of_own : ∀ sent ∈ (rig.account operation).commands, operation.command? = some sent.command →
    choice = .current ∨ choice = .only sent.vfo
  /-- If it succeeds, its VFO is selected. -/
  vfo_of_ok : ∀ answer vfo, ((perform operation).apply rig).1 = .ok answer → choice = .only vfo →
    ((perform operation).apply rig).2.vfo = vfo
  /-- What is meant for the selected VFO does not change it. -/
  vfo_of_current : choice = .current → ((perform operation).apply rig).2.vfo = rig.vfo

/-- An operation toggles at most once. -/
theorem toggles_le_one (rig : Rig σ) (operation : Operation) :
    (rig.account operation).commands.countP (fun sent => sent.command = .toggleVfo) ≤ 1 := by
  cases hcommands : (rig.account operation).commands with
  | nil => simp
  | cons first others =>
    have hothers : others.countP (fun sent => sent.command = .toggleVfo) = 0 := by
      simpa [List.countP_eq_zero] using ne_toggle_of_commands_eq_cons hcommands
    rw [List.countP_cons, hothers]
    split <;> simp

/-- Every setting other than the toggle comes by its VFO in this way. -/
theorem selects {operation : Operation} {command : Command}
    (hcommand : operation.command? = some command) (hne : command ≠ .toggleVfo) (rig : Rig σ) :
    rig.Selects operation.target operation := by
  refine ⟨rig.toggles_le_one operation, fun sent hmem htoggle => ?_, fun sent hmem hown => ?_,
    fun answer vfo hok htarget => ?_, fun htarget => ?_⟩
  · rcases mem_account hcommand hmem with ⟨-, hselects⟩ | ⟨hown, -⟩
    · exact hselects
    · exact absurd (hown.symm.trans htoggle) hne
  · obtain rfl := Option.some.inj (hcommand.symm.trans hown)
    rcases mem_account hcommand hmem with ⟨htoggle, -⟩ | ⟨-, hselected⟩
    · exact absurd htoggle hne
    · exact hselected
  · rw [apply_setting hcommand] at hok ⊢
    cases hresult : (rig.account operation).result with
    | error e =>
      rw [hresult] at hok
      cases hok
    | ok done =>
      rcases vfo_account_of_ok hcommand hne hresult with hcurrent | honly
      · cases htarget.symm.trans hcurrent
      · exact (VfoChoice.only.inj (htarget.symm.trans honly)).symm
  · rw [apply_setting hcommand]
    exact vfo_account_of_current hcommand hne rig htarget

/-- The account of a setting keeps nothing back and makes nothing up. -/
structure Discloses (rig : Rig σ) (operation : Operation) : Prop where
  /-- Its commands are what the engine is asked for, with what the engine answers. -/
  run : rig.engine.run ((rig.account operation).commands.map SentCommand.request) =
    ((rig.account operation).commands.map SentCommand.answer,
      ((perform operation).apply rig).2.engine)
  /-- Each command is the toggle or the operation's own, and goes out in the frame that the model
  has for it. -/
  frame : ∀ sent ∈ (rig.account operation).commands,
    (sent.command = .toggleVfo ∧ rig.descriptor.frame .toggleVfo = .ok sent.frame) ∨
      operation.command? = some sent.command ∧
        rig.descriptor.settingFrame sent.command operation = .ok sent.frame

/-- The account of a setting is the engine's, and its frames are those of the model. -/
theorem discloses {operation : Operation} {command : Command}
    (h : operation.command? = some command) (rig : Rig σ) : rig.Discloses operation := by
  refine ⟨?_, fun sent hmem => frame_of_mem_account hmem⟩
  rw [apply_setting h]
  exact rig.run_account operation

end Accounts

/-- In a session from its beginning, the VFO is A after an even number of toggles that the radio
took and B after an odd number, so it is always the one that the radio has selected, also each time
a command is sent. A toggle that fails does not change it. A frequency or a mode that is meant for a
VFO toggles at most once, is sent only while that VFO is selected, and leaves it selected. -/
theorem start_selection [Line σ] (descriptor : Descriptor) (channel : Channel σ) :
    (∀ events : List Event,
      let rig := (start descriptor channel).run events
      let sent := (start descriptor channel).sent events
      rig.vfo = (if Even (sent.countP SentCommand.toggled) then .a else .b) ∧
        rig.vfo = Vfo.a.after sent ∧ Agrees .a sent) ∧
    (∀ (rig : Rig σ) (operation : Operation), ∀ sent ∈ (rig.account operation).commands,
      sent.command = .toggleVfo → sent.succeeded = false →
        ((perform operation).apply rig).2.vfo = rig.vfo) ∧
    (∀ (rig : Rig σ) (choice : VfoChoice),
      (∀ hz, rig.Selects choice (.setFrequency choice hz)) ∧
        ∀ mode, rig.Selects choice (.setMode choice mode)) ∧
    ∀ (rig : Rig σ) (operation : Operation), operation.command?.isSome →
      rig.Discloses operation := by
  -- The parity is that of the toggles the radio took, of which the session missed none.
  refine ⟨fun events => ?_, fun rig operation sent hmem htoggle hfailed => ?_,
    fun rig choice => ⟨fun hz => ?_, fun mode => ?_⟩, fun rig operation hsetting => ?_⟩
  · obtain ⟨hagrees, hvfo⟩ := (start descriptor channel).agrees_run events
    refine ⟨?_, hvfo, hagrees⟩
    rw [hvfo, Vfo.after_eq]
    rfl
  · cases hcommand : operation.command? with
    | none => simp [account_of_command?_eq_none hcommand] at hmem
    | some command =>
      rw [apply_setting hcommand]
      exact vfo_account_of_failed_toggle hmem htoggle hfailed
  · have hcommand : (Operation.setFrequency choice hz).command? = some .setFrequency := rfl
    exact selects hcommand (by decide) rig
  · have hcommand : (Operation.setMode choice mode).command? = some .setMode := rfl
    exact selects hcommand (by decide) rig
  · obtain ⟨command, hcommand⟩ := Option.isSome_iff_exists.mp hsetting
    exact discloses hcommand rig

/-- A frequency that is set on VFO B changes over to it, and a toggle that the radio then refuses
does not change back. -/
theorem start_selection_b :
    let line : ScriptedLine :=
      { script := [⟨[0x00, 0x00, 0x00, 0x00, 0x81], [0x00]⟩,
          ⟨[0x00, 0x70, 0x00, 0x00, 0x01], [0x00]⟩,
          ⟨[0x00, 0x00, 0x00, 0x00, 0x81], [0xF0]⟩] }
    let before := start Models.ft897 ⟨line, 0⟩
    let events := [Event.perform (.setFrequency (.only .b) 7000000)]
    let rig := before.run events
    (before.sent events).countP SentCommand.toggled = 1 ∧ rig.vfo = .b ∧
      rig.Discloses .toggleVfo ∧ ((perform .toggleVfo).apply rig).2.vfo = .b := by
  intro line before events rig
  obtain ⟨hrun, hfailed, hselects, hdiscloses⟩ := start_selection Models.ft897 ⟨line, 0⟩
  have hcount : (before.sent events).countP SentCommand.toggled = 1 := by decide +kernel
  have hset : rig.vfo = .b :=
    ((hselects before (.only .b)).1 7000000).vfo_of_ok .done .b (by decide +kernel) rfl
  have hrefused : ∃ sent ∈ (rig.account .toggleVfo).commands,
      sent.command = .toggleVfo ∧ sent.succeeded = false := by
    decide +kernel
  obtain ⟨sent, hmem, htoggle, hfails⟩ := hrefused
  refine ⟨hcount, hset, hdiscloses rig .toggleVfo rfl, ?_⟩
  rw [← hset]
  exact hfailed rig .toggleVfo sent hmem htoggle hfails

end Rig

end Transceiver
