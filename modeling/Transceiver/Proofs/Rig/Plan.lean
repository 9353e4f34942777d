import Transceiver.Proofs.Engine.Run
import Transceiver.Rig

/-!
# Settings as Plans

A setting either refuses what is asked of it, or has a plan: the commands that it needs, in order,
each with what the session notes once the radio has taken it. Carrying out a plan ends at the first
frame that cannot be built and at the first command that the radio does not take; what was noted
before stays noted.

`Rig.apply_setting` says that every setting is its plan carried out. What a setting does to a
session is then said once for all plans, by induction over the stages, and read off the plan of each
setting.

## Main definitions

* `Rig.plan`: the stages of a setting;
* `Rig.carryOut`: what becomes of them, with an account of the commands that were sent.
-/

namespace Transceiver

variable {σ α β γ : Type}

/-! ## Carrying out steps -/

namespace RigAction

/-- To look at the session changes nothing. -/
@[simp]
theorem apply_get (rig : Rig σ) :
    RigAction.apply (get : RigAction σ (Rig σ)) rig = (.ok rig, rig) := rfl

/-- A result that is at hand leaves the session alone. -/
@[simp]
theorem apply_liftM (result : Except Error α) (rig : Rig σ) :
    RigAction.apply (liftM result : RigAction σ α) rig = (result, rig) := by
  cases result <;> rfl

/-- A step whose answer is converted leaves the session as the step does. -/
theorem apply_map (f : α → β) (action : RigAction σ α) (rig : Rig σ) :
    RigAction.apply (f <$> action) rig =
      ((action.apply rig).1.map f, (action.apply rig).2) := by
  rw [← bind_pure_comp, apply_bind]
  rcases action.apply rig with ⟨e | value, after⟩ <;> rfl

end RigAction

/-! ## Settings -/

/-- What a session notes about the radio. -/
inductive Note where
  /-- The reply to a query is no longer good. -/
  | expire (query : StatusQuery)
  /-- Whether the radio transmits. -/
  | transmitting (on : Bool)
  /-- Which VFO is selected. -/
  | vfo (vfo : Vfo)
  deriving DecidableEq, Repr

namespace Operation

/-- The command that carries an operation out, if it changes a setting. -/
def command? : Operation → Option Command
  | setFrequency _ _ => some .setFrequency
  | setMode _ _ => some .setMode
  | setPtt on => some (if on then .pttOn else .pttOff)
  | setSplit on => some (if on then .splitOn else .splitOff)
  | toggleVfo => some .toggleVfo
  | setRit _ => some .setClarifierFrequency
  | setRitEnabled on => some (if on then .clarifierOn else .clarifierOff)
  | setRepeaterShift .simplex => some .repeaterSimplex
  | setRepeaterShift .minus => some .repeaterMinus
  | setRepeaterShift .plus => some .repeaterPlus
  | setRepeaterOffset _ => some .setRepeaterOffset
  | setLock on => some (if on then .lockOn else .lockOff)
  | getFrequency _ | getMode _ | getPtt | getSplit | getDcd | getRawStrength | getStrength => none
  | close => none

/-- The VFO that has to be selected for an operation. -/
def target : Operation → VfoChoice
  | setFrequency vfo _ | setMode vfo _ => vfo
  | _ => .current

/-- What a session that takes `vfo` to be selected notes once the radio has taken the command. -/
def notes (vfo : Vfo) : Operation → List Note
  | setFrequency _ _ | setMode _ _ => [.expire .freqMode]
  | setPtt on => [.transmitting on, .expire .txStatus]
  | setSplit _ => [.expire .txStatus]
  | toggleVfo => [.vfo vfo.other, .expire .freqMode, .expire .txStatus]
  | _ => []

/-- Only keying notes whether the radio transmits. -/
theorem setPtt_of_mem_notes {operation : Operation} {vfo : Vfo} {on : Bool}
    (h : .transmitting on ∈ operation.notes vfo) : operation = .setPtt on := by
  cases operation <;> simp_all [notes]

/-- Only the toggle notes a VFO. -/
theorem toggleVfo_of_mem_notes {operation : Operation} {vfo noted : Vfo}
    (h : .vfo noted ∈ operation.notes vfo) : operation = .toggleVfo := by
  cases operation <;> simp_all [notes]

end Operation

namespace Descriptor

/-- Why an operation is refused, if the model cannot do what is asked. -/
def refusal? (descriptor : Descriptor) : Operation → Option Error
  | .setFrequency _ hz =>
    if descriptor.canReceive hz then none
    else some (.invalidParameter s!"{hz} Hz is outside the {descriptor.modelName} coverage")
  | .setMode _ mode =>
    match descriptor.modeCode mode with
    | some _ => none
    | none => some (.unsupported s!"mode {mode.name} on {descriptor.modelName}")
  | .setRit offset =>
    if descriptor.maxRit < offset.natAbs then
      some (.invalidParameter s!"clarifier offset {offset} Hz exceeds ±{descriptor.maxRit} Hz")
    else none
  | _ => none

/-- The frame of the command that carries an operation out. Only an operation that is not refused
has one. -/
def settingFrame (descriptor : Descriptor) (command : Command) : Operation → Except Error Frame
  | .setFrequency _ hz => Rig.frequencyFrame descriptor hz
  | .setMode _ mode => Rig.modeFrame descriptor ((descriptor.modeCode mode).getD 0)
  | .setRit offset => Rig.clarifierFrame descriptor offset
  | .setRepeaterOffset offset => Rig.repeaterOffsetFrame descriptor offset
  | _ => descriptor.frame command

end Descriptor

/-! ## Stages -/

/-- A command on the way to a setting. -/
structure Stage where
  command : Command
  /-- The frame of the command, or why there is none. -/
  frame : Except Error Frame
  /-- What is noted once the radio has taken the command. -/
  notes : List Note

/-- A command that was sent. -/
structure SentCommand where
  command : Command
  frame : Frame
  /-- The VFO that the session took to be selected at that moment. -/
  vfo : Vfo
  /-- What became of it. -/
  result : Except Error Unit

namespace SentCommand

/-- The radio took the command. -/
def succeeded (sent : SentCommand) : Bool :=
  sent.result.isOk

/-- A command that was answered with success was taken. -/
@[simp]
theorem succeeded_ok (command : Command) (frame : Frame) (vfo : Vfo) :
    (⟨command, frame, vfo, .ok ()⟩ : SentCommand).succeeded = true := rfl

/-- A command that was answered with an error was not. -/
@[simp]
theorem succeeded_error (command : Command) (frame : Frame) (vfo : Vfo) (e : Error) :
    (⟨command, frame, vfo, .error e⟩ : SentCommand).succeeded = false := rfl

/-- The command as a request to the engine. -/
def request (sent : SentCommand) : Request :=
  Request.sendCommand sent.frame

/-- What the engine answered to it. -/
def answer (sent : SentCommand) : Except Error Bytes :=
  sent.result.map fun _ => []

end SentCommand

/-- How it went with a setting. -/
structure Account (σ : Type) where
  /-- The commands that were sent, the first one first. -/
  commands : List SentCommand
  result : Except Error Unit
  /-- The session afterwards. -/
  rig : Rig σ

namespace Account

/-- An account with one more command before the others. -/
def prepend (account : Account σ) (sent : SentCommand) : Account σ :=
  { account with commands := sent :: account.commands }

/-- One account after another. The second one begins in the session that the first one left, if that
succeeded. -/
def andThen (first : Account σ) (next : Rig σ → Account σ) : Account σ :=
  match first.result with
  | .ok () => { next first.rig with commands := first.commands ++ (next first.rig).commands }
  | .error _ => first

/-- After an account that succeeded comes the next one, and its commands come last. -/
theorem andThen_of_ok {first : Account σ} {next : Rig σ → Account σ} (h : first.result = .ok ()) :
    first.andThen next =
      { next first.rig with commands := first.commands ++ (next first.rig).commands } := by
  rw [andThen, h]

/-- After an account that failed nothing comes. -/
theorem andThen_of_error {first : Account σ} {next : Rig σ → Account σ} {e : Error}
    (h : first.result = .error e) : first.andThen next = first := by
  rw [andThen, h]

/-- If both together succeed, each of them does. -/
theorem ok_of_andThen {first : Account σ} {next : Rig σ → Account σ}
    (h : (first.andThen next).result = .ok ()) :
    first.result = .ok () ∧ (next first.rig).result = .ok () := by
  cases hfirst : first.result with
  | error e =>
    rw [andThen_of_error hfirst, hfirst] at h
    cases h
  | ok done =>
    rw [andThen_of_ok hfirst] at h
    exact ⟨rfl, h⟩

/-- A first command stays the first if another account follows. -/
theorem prepend_andThen (account : Account σ) (sent : SentCommand) (next : Rig σ → Account σ) :
    (account.prepend sent).andThen next = (account.andThen next).prepend sent := by
  rcases account with ⟨commands, e | ⟨⟩, rig⟩ <;> rfl

end Account

namespace Rig

open RigAction

/-! ## Plans -/

/-- Makes a note. -/
def note (rig : Rig σ) : Note → Rig σ
  | .expire query => { rig with cache := rig.cache.forceExpire query }
  | .transmitting on => { rig with cache := rig.cache.setTransmitting on }
  | .vfo vfo => { rig with vfo }

/-- Makes notes in order. -/
def noteAll (rig : Rig σ) (notes : List Note) : Rig σ :=
  notes.foldl note rig

/-- The stage that changes over to a VFO. -/
def toggleStage (rig : Rig σ) (vfo : Vfo) : Stage :=
  ⟨.toggleVfo, rig.descriptor.frame .toggleVfo, [.vfo vfo, .expire .freqMode]⟩

/-- The stages that select a VFO. -/
def selection (rig : Rig σ) : VfoChoice → List Stage
  | .current => []
  | .only vfo => if vfo = rig.vfo then [] else [rig.toggleStage vfo]

/-- The stage of a command that carries an operation out. -/
def ownStage (rig : Rig σ) (operation : Operation) (command : Command) : Stage :=
  ⟨command, rig.descriptor.settingFrame command operation, operation.notes rig.vfo⟩

/-- The stages of an operation, or why it is refused. What changes no setting has none. -/
def plan (rig : Rig σ) (operation : Operation) : Except Error (List Stage) :=
  match rig.descriptor.refusal? operation, operation.command? with
  | some e, _ => .error e
  | none, none => .ok []
  | none, some command =>
    .ok (rig.selection operation.target ++ [rig.ownStage operation command])

/-- What the model cannot do has no plan. -/
theorem plan_of_refusal {rig : Rig σ} {operation : Operation} {e : Error}
    (h : rig.descriptor.refusal? operation = some e) : rig.plan operation = .error e := by
  simp only [plan, h]

/-- What the model can do is planned as the selection of its VFO and its own command. -/
theorem plan_of_command {rig : Rig σ} {operation : Operation} {command : Command}
    (h : rig.descriptor.refusal? operation = none) (hcommand : operation.command? = some command) :
    rig.plan operation =
      .ok (rig.selection operation.target ++ [rig.ownStage operation command]) := by
  simp only [plan, h, hcommand]

/-- A plan either selects the VFO of an operation and carries it out, or is that of no setting. -/
theorem plan_cases {rig : Rig σ} {operation : Operation} {stages : List Stage}
    (h : rig.plan operation = .ok stages) :
    operation.command? = none ∧ stages = [] ∨
      ∃ command, operation.command? = some command ∧
        stages = rig.selection operation.target ++ [rig.ownStage operation command] := by
  cases hrefusal : rig.descriptor.refusal? operation with
  | some e => simp [plan_of_refusal hrefusal] at h
  | none =>
    cases hcommand : operation.command? with
    | none =>
      have hempty : rig.plan operation = .ok [] := by simp only [plan, hrefusal, hcommand]
      exact .inl ⟨rfl, (Except.ok.inj (hempty.symm.trans h)).symm⟩
    | some command =>
      have hplan := plan_of_command hrefusal hcommand
      exact .inr ⟨command, rfl, (Except.ok.inj (hplan.symm.trans h)).symm⟩

/-- The only stage that selects a VFO changes over to it. -/
theorem mem_selection {rig : Rig σ} {choice : VfoChoice} {stage : Stage}
    (h : stage ∈ rig.selection choice) :
    ∃ vfo, choice = .only vfo ∧ vfo ≠ rig.vfo ∧ stage = rig.toggleStage vfo := by
  cases choice with
  | current => simp [selection] at h
  | only vfo =>
    rw [selection] at h
    split at h
    next => simp at h
    next hne => exact ⟨vfo, rfl, hne, List.mem_singleton.mp h⟩

/-- A stage of an operation either changes over to its VFO or carries the operation out. -/
theorem mem_plan {rig : Rig σ} {operation : Operation} {stages : List Stage} {stage : Stage}
    (hplan : rig.plan operation = .ok stages) (hstage : stage ∈ stages) :
    (∃ vfo, operation.target = .only vfo ∧ vfo ≠ rig.vfo ∧ stage = rig.toggleStage vfo) ∨
      ∃ command, operation.command? = some command ∧ stage = rig.ownStage operation command := by
  rcases plan_cases hplan with ⟨-, rfl⟩ | ⟨command, hcommand, rfl⟩
  · simp at hstage
  · rcases List.mem_append.mp hstage with hselect | hown
    · exact .inl (mem_selection hselect)
    · exact .inr ⟨command, hcommand, List.mem_singleton.mp hown⟩

/-! ## Carrying out a plan -/

section CarryOut

variable [Line σ]

/-- Carries out stages in order, until a frame cannot be built or the radio does not take a command.
-/
def carryOut (rig : Rig σ) : List Stage → Account σ
  | [] => ⟨[], .ok (), rig⟩
  | stage :: stages =>
    match stage.frame with
    | .error e => ⟨[], .error e, rig⟩
    | .ok frame =>
      match rig.engine.sendCommand frame with
      | (.error e, engine) =>
        ⟨[⟨stage.command, frame, rig.vfo, .error e⟩], .error e, { rig with engine }⟩
      | (.ok (), engine) =>
        (({ rig with engine }.noteAll stage.notes).carryOut stages).prepend
          ⟨stage.command, frame, rig.vfo, .ok ()⟩

/-- What a setting does: it carries out its plan, if it has one. -/
def account (rig : Rig σ) (operation : Operation) : Account σ :=
  match rig.plan operation with
  | .ok stages => rig.carryOut stages
  | .error e => ⟨[], .error e, rig⟩

/-- An operation with a plan carries it out. -/
theorem account_of_plan {rig : Rig σ} {operation : Operation} {stages : List Stage}
    (h : rig.plan operation = .ok stages) : rig.account operation = rig.carryOut stages := by
  simp only [account, h]

/-- An operation without a plan sends nothing and leaves the session alone. -/
theorem account_of_refusal {rig : Rig σ} {operation : Operation} {e : Error}
    (h : rig.plan operation = .error e) : rig.account operation = ⟨[], .error e, rig⟩ := by
  simp only [account, h]

/-- What changes no setting sends no command. -/
theorem account_of_command?_eq_none {operation : Operation} (h : operation.command? = none)
    (rig : Rig σ) : rig.account operation = ⟨[], .ok (), rig⟩ := by
  have hplan : rig.plan operation = .ok [] := by
    cases operation with
    | setRepeaterShift shift => cases shift <;> cases h
    | _ => first | rfl | cases h
  rw [account_of_plan hplan, carryOut]

/-- Stages that follow others are carried out if those were, in the session that they left. -/
theorem carryOut_append (rig : Rig σ) (first second : List Stage) :
    rig.carryOut (first ++ second) =
      (rig.carryOut first).andThen fun rig => rig.carryOut second := by
  fun_induction rig.carryOut first with
  | case1 rig => rfl
  | case2 rig stage stages e hframe => simp [carryOut, hframe, Account.andThen]
  | case3 rig stage stages frame hframe e engine hsend =>
    simp [carryOut, hframe, hsend, Account.andThen]
  | case4 rig stage stages frame hframe engine hsend ih =>
    simp only [List.cons_append, carryOut, hframe, hsend, ih, Account.prepend_andThen]

/-- An operation selects its VFO and then sends its own command. -/
theorem account_of_command {rig : Rig σ} {operation : Operation} {command : Command}
    (h : rig.descriptor.refusal? operation = none) (hcommand : operation.command? = some command) :
    rig.account operation =
      (rig.carryOut (rig.selection operation.target)).andThen fun after =>
        after.carryOut [rig.ownStage operation command] := by
  rw [account_of_plan (plan_of_command h hcommand), carryOut_append]

/-! ## What a plan leaves alone -/

section View

variable {view : Rig σ → γ}

omit [Line σ] in
/-- Notes that leave what `view` shows alone do so together. -/
theorem view_noteAll {notes : List Note}
    (h : ∀ note ∈ notes, ∀ rig : Rig σ, view (rig.note note) = view rig) (rig : Rig σ) :
    view (rig.noteAll notes) = view rig := by
  induction notes generalizing rig with
  | nil => rfl
  | cons note notes ih =>
    rw [noteAll, List.foldl_cons, ← noteAll, ih fun note hmem => h note (by simp [hmem])]
    exact h note (by simp) rig

omit [Line σ] in
/-- Notes do not concern the engine. -/
theorem engine_noteAll (rig : Rig σ) (notes : List Note) :
    (rig.noteAll notes).engine = rig.engine :=
  view_noteAll (fun note _ rig => by cases note <;> rfl) rig

/-- Carrying out stages changes the engine and makes their notes, and does nothing else. -/
theorem view_carryOut (hengine : ∀ (rig : Rig σ) engine, view { rig with engine } = view rig)
    {stages : List Stage}
    (hnotes : ∀ stage ∈ stages, ∀ note ∈ stage.notes, ∀ rig : Rig σ,
      view (rig.note note) = view rig) (rig : Rig σ) :
    view (rig.carryOut stages).rig = view rig := by
  fun_induction rig.carryOut stages with
  | case1 rig => rfl
  | case2 rig stage stages e hframe => rfl
  | case3 rig stage stages frame hframe e engine hsend => exact hengine rig engine
  | case4 rig stage stages frame hframe engine hsend ih =>
    calc
      view (({ rig with engine }.noteAll stage.notes).carryOut stages).rig
        = view ({ rig with engine }.noteAll stage.notes) :=
          ih fun stage hmem => hnotes stage (by simp [hmem])
      _ = view { rig with engine } := view_noteAll (hnotes stage (by simp)) _
      _ = view rig := hengine rig engine

end View

/-- The engine is asked for the commands of an account, in order, and for nothing else. -/
theorem run_account (rig : Rig σ) (operation : Operation) :
    rig.engine.run ((rig.account operation).commands.map SentCommand.request) =
      ((rig.account operation).commands.map SentCommand.answer,
        (rig.account operation).rig.engine) := by
  -- The commands of stages are sent by the engine that the ones before left.
  have hcarryOut (stages : List Stage) :
      rig.engine.run ((rig.carryOut stages).commands.map SentCommand.request) =
        ((rig.carryOut stages).commands.map SentCommand.answer,
          (rig.carryOut stages).rig.engine) := by
    fun_induction rig.carryOut stages with
    | case1 rig => rfl
    | case2 rig stage stages e hframe => rfl
    | case3 rig stage stages frame hframe e engine hsend =>
      simp [Engine.run, Engine.perform, SentCommand.request, SentCommand.answer, hsend]
    | case4 rig stage stages frame hframe engine hsend ih =>
      rw [engine_noteAll] at ih
      simp [Account.prepend, Engine.run, Engine.perform, SentCommand.request, SentCommand.answer,
        hsend, ih]
  cases hplan : rig.plan operation with
  | error e =>
    rw [account_of_refusal hplan]
    rfl
  | ok stages =>
    rw [account_of_plan hplan]
    exact hcarryOut stages

/-- Every command that was sent is that of a stage and went out in its frame. -/
theorem exists_stage_of_mem_carryOut {rig : Rig σ} {stages : List Stage} {sent : SentCommand}
    (h : sent ∈ (rig.carryOut stages).commands) :
    ∃ stage ∈ stages, stage.command = sent.command ∧ stage.frame = .ok sent.frame := by
  fun_induction rig.carryOut stages with
  | case1 rig => simp at h
  | case2 rig stage stages e hframe => simp at h
  | case3 rig stage stages frame hframe e engine hsend =>
    obtain rfl := List.mem_singleton.mp h
    exact ⟨stage, by simp, rfl, hframe⟩
  | case4 rig stage stages frame hframe engine hsend ih =>
    rcases List.mem_cons.mp h with rfl | hrest
    · exact ⟨stage, by simp, rfl, hframe⟩
    · obtain ⟨later, hmem, hlater⟩ := ih hrest
      exact ⟨later, by simp [hmem], hlater⟩

/-- Each command of an account goes out in the frame that the model has for it. -/
theorem frame_of_mem_account {rig : Rig σ} {operation : Operation} {sent : SentCommand}
    (h : sent ∈ (rig.account operation).commands) :
    (sent.command = .toggleVfo ∧ rig.descriptor.frame .toggleVfo = .ok sent.frame) ∨
      operation.command? = some sent.command ∧
        rig.descriptor.settingFrame sent.command operation = .ok sent.frame := by
  cases hplan : rig.plan operation with
  | error e => simp [account_of_refusal hplan] at h
  | ok stages =>
    rw [account_of_plan hplan] at h
    obtain ⟨stage, hstage, hcommand, hframe⟩ := exists_stage_of_mem_carryOut h
    rcases mem_plan hplan hstage with ⟨vfo, -, -, rfl⟩ | ⟨command, hsome, rfl⟩
    · exact .inl ⟨hcommand.symm, hframe⟩
    · obtain rfl : command = sent.command := hcommand
      exact .inr ⟨hsome, hframe⟩

/-! ## Every setting is its plan -/

/-- The step leads to what the account says. -/
def Follows (action : RigAction σ Unit) (rig : Rig σ) (account : Account σ) : Prop :=
  action.apply rig = (account.result, account.rig)

omit [Line σ] in
/-- One step after another leads to the one account after the other. -/
theorem Follows.bind {action second : RigAction σ Unit} {rig : Rig σ} {account : Account σ}
    {next : Rig σ → Account σ} (h : Follows action rig account)
    (h' : ∀ rig, Follows second rig (next rig)) :
    Follows (do action; second) rig (account.andThen next) := by
  rw [Follows, apply_bind, h]
  rcases account with ⟨commands, e | ⟨⟩, after⟩
  · rfl
  · exact h' after

omit [Line σ] in
/-- In the session, whatever has become of its engine, the step makes the notes and does nothing
else. -/
def Makes (tell : RigAction σ Unit) (rig : Rig σ) (notes : List Note) : Prop :=
  ∀ engine, tell.apply { rig with engine } = (.ok (), { rig with engine }.noteAll notes)

/-- To send a frame and then make the notes is to carry out a stage. -/
theorem follows_stage (command : Command) (frame : Except Error Frame) {tell : RigAction σ Unit}
    {rig : Rig σ} {notes : List Note} (h : Makes tell rig notes) :
    Follows (do send (← frame); tell) rig (rig.carryOut [⟨command, frame, notes⟩]) := by
  cases frame with
  | error e => rfl
  | ok frame =>
    have hsend : (send frame).apply rig =
        ((rig.engine.sendCommand frame).1,
          { rig with engine := (rig.engine.sendCommand frame).2 }) := rfl
    simp only [Follows, apply_bind, apply_liftM, hsend, carryOut]
    rcases rig.engine.sendCommand frame with ⟨e | ⟨⟩, engine⟩
    · rfl
    · exact h engine

/-- To send a plain command and then make the notes is to carry out its stage. -/
theorem follows_sendCommand {command : Command} {tell : RigAction σ Unit} {rig : Rig σ}
    {notes : List Note} (h : Makes tell rig notes) :
    Follows (do sendCommand command; tell) rig
      (rig.carryOut [⟨command, rig.descriptor.frame command, notes⟩]) := by
  have hstage := follows_stage command (rig.descriptor.frame command) h
  rw [Follows] at hstage
  rw [Follows, ← hstage]
  simp only [apply_bind, sendCommand, apply_get]
  rcases (liftM (rig.descriptor.frame command) : RigAction σ Frame).apply rig with
    ⟨e | frame, after⟩ <;> rfl

omit [Line σ] in
/-- A step that does nothing makes no notes. -/
theorem makes_nothing (rig : Rig σ) : Makes (pure ()) rig [] :=
  fun _ => rfl

omit [Line σ] in
/-- To mark a reply expired is to make a note of it. -/
theorem makes_expire (rig : Rig σ) (query : StatusQuery) :
    Makes (expire query) rig [.expire query] :=
  fun _ => rfl

/-- A stage without notes is its command alone. -/
theorem follows_send (command : Command) (frame : Except Error Frame) (rig : Rig σ) :
    Follows (do send (← frame)) rig (rig.carryOut [⟨command, frame, []⟩]) := by
  simpa using follows_stage command frame (makes_nothing rig)

/-- To select a VFO is to carry out the stages of its selection. -/
theorem follows_selectVfo (choice : VfoChoice) (rig : Rig σ) :
    Follows (selectVfo choice) rig (rig.carryOut (rig.selection choice)) := by
  cases choice with
  | current => rfl
  | only vfo =>
    have hnotes : Makes (do setVfo vfo; expire .freqMode) rig [.vfo vfo, .expire .freqMode] :=
      fun _ => rfl
    rw [Follows, selectVfo, apply_bind, apply_get]
    dsimp only [selection]
    split
    next => rfl
    next => exact follows_sendCommand hnotes

/-- A setting that is meant for a VFO selects it first. -/
theorem follows_on (choice : VfoChoice) (command : Command) (frame : Except Error Frame)
    (rig : Rig σ) :
    Follows (do selectVfo choice; send (← frame); expire .freqMode) rig
      (rig.carryOut (rig.selection choice ++ [⟨command, frame, [.expire .freqMode]⟩])) := by
  rw [carryOut_append]
  refine (follows_selectVfo choice rig).bind fun rig => ?_
  exact follows_stage command frame (makes_expire rig .freqMode)

/-- To set a frequency is to carry out its plan. -/
theorem follows_setFrequency (choice : VfoChoice) (hz : Nat) (rig : Rig σ) :
    Follows (setFrequency choice hz) rig (rig.account (.setFrequency choice hz)) := by
  rw [Follows, setFrequency, apply_bind, apply_get]
  dsimp only
  split
  next hreceive =>
    rw [account_of_plan (plan_of_command (by simp [Descriptor.refusal?, hreceive]) rfl)]
    exact follows_on choice .setFrequency (frequencyFrame rig.descriptor hz) rig
  next hreceive =>
    rw [account_of_refusal (plan_of_refusal (by simp only [Descriptor.refusal?, hreceive]; rfl))]
    rfl

/-- To set a mode is to carry out its plan. -/
theorem follows_setMode (choice : VfoChoice) (mode : Mode) (rig : Rig σ) :
    Follows (setMode choice mode) rig (rig.account (.setMode choice mode)) := by
  rw [Follows, setMode, apply_bind, apply_get]
  dsimp only
  cases hcode : rig.descriptor.modeCode mode with
  | none =>
    rw [account_of_refusal (plan_of_refusal (by simp only [Descriptor.refusal?, hcode]; rfl))]
    rfl
  | some code =>
    have hframe : rig.descriptor.settingFrame .setMode (.setMode choice mode) =
        modeFrame rig.descriptor code := by
      rw [Descriptor.settingFrame, hcode, Option.getD_some]
    rw [account_of_plan (plan_of_command (by simp only [Descriptor.refusal?, hcode]) rfl), ownStage,
      hframe]
    exact follows_on choice .setMode (modeFrame rig.descriptor code) rig

/-- To set the clarifier is to carry out its plan. -/
theorem follows_setRit (offset : Int) (rig : Rig σ) :
    Follows (setRit offset) rig (rig.account (.setRit offset)) := by
  rw [Follows, setRit, apply_bind, apply_get]
  dsimp only
  split
  next hfar =>
    rw [account_of_refusal (plan_of_refusal (by simp only [Descriptor.refusal?, hfar]; rfl))]
    rfl
  next hnear =>
    rw [account_of_plan (plan_of_command (by simp [Descriptor.refusal?, hnear]) rfl)]
    exact follows_send .setClarifierFrequency (clarifierFrame rig.descriptor offset) rig

/-- Every setting is its plan carried out. -/
theorem apply_setting {operation : Operation} {command : Command}
    (h : operation.command? = some command) (rig : Rig σ) :
    (perform operation).apply rig =
      ((rig.account operation).result.map fun _ => .done, (rig.account operation).rig) := by
  have hacknowledge {action : RigAction σ Unit}
      (hfollows : Follows action rig (rig.account operation)) :
      (acknowledge action).apply rig =
        ((rig.account operation).result.map fun _ => .done, (rig.account operation).rig) := by
    rw [acknowledge, apply_bind, hfollows]
    cases (rig.account operation).result <;> rfl
  -- Most settings are a single command.
  have hsingle {action : RigAction σ Unit} {stage : Stage}
      (hplan : rig.plan operation = .ok [stage])
      (hstage : Follows action rig (rig.carryOut [stage])) :
      (acknowledge action).apply rig =
        ((rig.account operation).result.map fun _ => .done, (rig.account operation).rig) := by
    refine hacknowledge ?_
    rwa [account_of_plan hplan]
  have hplain {command : Command}
      (hplan : rig.plan operation = .ok [⟨command, rig.descriptor.frame command, []⟩]) :
      (acknowledge (sendCommand command)).apply rig =
        ((rig.account operation).result.map fun _ => .done, (rig.account operation).rig) :=
    hsingle hplan (by simpa using follows_sendCommand (makes_nothing rig))
  cases operation with
  | getFrequency | getMode | getPtt | getSplit | getDcd | getRawStrength | getStrength | close =>
    cases h
  | setFrequency vfo hz => exact hacknowledge (follows_setFrequency vfo hz rig)
  | setMode vfo mode => exact hacknowledge (follows_setMode vfo mode rig)
  | setRit offset => exact hacknowledge (follows_setRit offset rig)
  | setPtt on =>
    have hnotes : Makes (do setTransmitting on; expire .txStatus) rig
        [.transmitting on, .expire .txStatus] := fun _ => rfl
    exact hsingle rfl (follows_sendCommand hnotes)
  | setSplit on => exact hsingle rfl (follows_sendCommand (makes_expire rig .txStatus))
  | toggleVfo =>
    have hnotes : Makes (do setVfo (← get).vfo.other; expire .freqMode; expire .txStatus) rig
        [.vfo rig.vfo.other, .expire .freqMode, .expire .txStatus] := fun _ => rfl
    exact hsingle rfl (follows_sendCommand hnotes)
  | setRepeaterOffset offset =>
    exact hsingle rfl
      (follows_send .setRepeaterOffset (repeaterOffsetFrame rig.descriptor offset) rig)
  | setRitEnabled on => exact hplain rfl
  | setRepeaterShift shift => cases shift <;> exact hplain rfl
  | setLock on => exact hplain rfl

end CarryOut

end Rig

end Transceiver
