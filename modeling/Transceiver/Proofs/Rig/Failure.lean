import Transceiver.Proofs.Rig.Refusal
import Transceiver.Proofs.Rig.Selection

/-!
# Settings That Fail

A session notes what a setting does only once the radio has taken the command. So a setting that
fails leaves the session as it was, whichever of its exchanges failed and however. Only a toggle on
the way to a VFO stays noted, since the radio has changed over by then.

## Main statement

* `Rig.apply_of_failure`: what a session is left with when a setting fails.
-/

namespace Transceiver

variable {σ : Type}

namespace Rig

variable [Line σ]

/-- On the way to its VFO the operation changes over: it is not refused, it is meant for the VFO
that is not selected, and the radio takes the toggle. -/
def ChangesOver (rig : Rig σ) (operation : Operation) : Prop :=
  rig.descriptor.refusal? operation = none ∧ operation.target = .only rig.vfo.other ∧
    ∃ frame, rig.descriptor.frame .toggleVfo = .ok frame ∧
      (rig.engine.sendCommand frame).1 = .ok ()

section Failures

variable {rig : Rig σ} {operation : Operation} {command : Command} {e : Error}

/-- A command that the radio does not take changes the engine only, and so does a frame that cannot
be built. -/
theorem rig_carryOut_of_error {stage : Stage} (h : (rig.carryOut [stage]).result = .error e) :
    (rig.carryOut [stage]).rig = { rig with engine := (rig.carryOut [stage]).rig.engine } := by
  rw [carryOut] at h ⊢
  cases hframe : stage.frame with
  | error e' => rfl
  | ok frame =>
    rw [hframe] at h
    dsimp only at h ⊢
    rcases hsend : rig.engine.sendCommand frame with ⟨e' | ⟨⟩, engine⟩
    · rfl
    · rw [hsend] at h
      cases h

/-- Of a failing setting that is not refused: either it failed while selecting its VFO, or it failed
in the session that was left by then. -/
theorem apply_of_failed_command (hcommand : operation.command? = some command)
    (hrefusal : rig.descriptor.refusal? operation = none)
    (h : ((perform operation).apply rig).1 = .error e) :
    (∃ e', ((selectVfo operation.target).apply rig).1 = .error e' ∧
      ((perform operation).apply rig).2 = ((selectVfo operation.target).apply rig).2) ∨
    ((selectVfo operation.target).apply rig).1 = .ok () ∧
      ((perform operation).apply rig).2 =
        { ((selectVfo operation.target).apply rig).2 with
          engine := ((perform operation).apply rig).2.engine } := by
  rw [apply_of_command hcommand hrefusal] at h ⊢
  revert h
  rcases (selectVfo operation.target).apply rig with ⟨e' | ⟨⟩, after⟩
  · intro _
    exact .inl ⟨e', rfl, rfl⟩
  · intro h
    refine .inr ⟨rfl, ?_⟩
    cases hresult : (after.carryOut [rig.ownStage operation command]).result with
    | error e' => exact rig_carryOut_of_error hresult
    | ok done =>
      simp only [hresult] at h
      cases h

/-- Without a change of VFO a setting that fails changes the engine only. -/
theorem apply_of_failed_on_selected (hcommand : operation.command? = some command)
    (h : ((perform operation).apply rig).1 = .error e) (hstays : ¬ rig.ChangesOver operation) :
    ((perform operation).apply rig).2 =
      { rig with engine := ((perform operation).apply rig).2.engine } := by
  cases hrefusal : rig.descriptor.refusal? operation with
  | some refused => rw [apply_of_refusal hcommand hrefusal]
  | none =>
    by_cases hselected : operation.target = .current ∨ operation.target = .only rig.vfo
    · -- Nothing has to be selected, so the command itself failed.
      have hselect := apply_selectVfo_of_selected hselected
      rcases apply_of_failed_command hcommand hrefusal h with ⟨e', hfailed, -⟩ | ⟨-, hafter⟩
      · rw [hselect] at hfailed
        cases hfailed
      · rwa [hselect] at hafter
    · -- The toggle was due and failed, so the command did not go out.
      obtain ⟨hcurrent, hother⟩ := not_or.mp hselected
      obtain ⟨vfo, htarget⟩ : ∃ vfo, operation.target = .only vfo := by
        cases htarget : operation.target with
        | current => exact absurd htarget hcurrent
        | only vfo => exact ⟨vfo, rfl⟩
      have hne : vfo ≠ rig.vfo := by
        rintro rfl
        exact hother htarget
      obtain rfl := Vfo.eq_other hne
      have hselect := apply_selectVfo_of_ne hne
      rw [apply_of_command hcommand hrefusal, htarget, hselect]
      cases hframe : rig.descriptor.frame .toggleVfo with
      | error e' => rfl
      | ok frame =>
        rcases hsend : rig.engine.sendCommand frame with ⟨e' | ⟨⟩, engine⟩
        · simp only [hsend]
        · exact absurd ⟨hrefusal, htarget, frame, hframe, by rw [hsend]⟩ hstays

/-- After a change of VFO it leaves that noted. -/
theorem apply_of_failed_on_other (hcommand : operation.command? = some command)
    (h : ((perform operation).apply rig).1 = .error e) (hchanges : rig.ChangesOver operation) :
    ((perform operation).apply rig).2 =
      { rig with
        engine := ((perform operation).apply rig).2.engine
        vfo := rig.vfo.other
        cache := rig.cache.forceExpire .freqMode } := by
  obtain ⟨hrefusal, htarget, frame, hframe, hsend⟩ := hchanges
  have hselect := apply_selectVfo_of_ne rig.vfo.other_ne
  -- The toggle was taken, so the failure is that of the operation's own command.
  rcases htoggle : rig.engine.sendCommand frame with ⟨e' | ⟨⟩, engine⟩
  · rw [htoggle] at hsend
    cases hsend
  · simp only [hframe, htoggle] at hselect
    rcases apply_of_failed_command hcommand hrefusal h with ⟨e', hfailed, -⟩ | ⟨-, hafter⟩
    · rw [htarget, hselect] at hfailed
      cases hfailed
    · rwa [htarget, hselect] at hafter

end Failures

/-- A setting that fails leaves the note that the radio transmits, the VFO and every reply that is
kept as they were, in whatever state the session was. The exception is a frequency or a mode for the
other VFO after the radio took the toggle: then that VFO is noted and the reply that tells frequency
and mode is marked expired, and all else is as it was. -/
theorem apply_of_failure (rig : Rig σ) (operation : Operation) (e : Error)
    (hsetting : operation.command?.isSome) (h : ((perform operation).apply rig).1 = .error e) :
    let after := ((perform operation).apply rig).2
    (¬ rig.ChangesOver operation → after = { rig with engine := after.engine }) ∧
    (rig.ChangesOver operation →
      ((∃ hz, operation = .setFrequency (.only rig.vfo.other) hz) ∨
        ∃ mode, operation = .setMode (.only rig.vfo.other) mode) ∧
      after = { rig with engine := after.engine, vfo := rig.vfo.other, cache := after.cache } ∧
      after.cache.transmitting = rig.cache.transmitting ∧
      ∀ query, after.cache.find? query = (rig.cache.find? query).map fun reply =>
        if query = .freqMode then { reply with expired := true } else reply) := by
  intro after
  obtain ⟨command, hcommand⟩ := Option.isSome_iff_exists.mp hsetting
  refine ⟨apply_of_failed_on_selected hcommand h, fun hchanges => ?_⟩
  have hafter : after = { rig with
      engine := after.engine
      vfo := rig.vfo.other
      cache := rig.cache.forceExpire .freqMode } :=
    apply_of_failed_on_other hcommand h hchanges
  have hcache : after.cache = rig.cache.forceExpire .freqMode := congrArg Rig.cache hafter
  refine ⟨exists_of_target hchanges.2.1, ?_, ?_, fun query => ?_⟩
  · rwa [hcache]
  · rw [hcache]
    rfl
  · rw [hcache, ResponseCache.find?_forceExpire]
    rfl

/-- A frequency for VFO B that the radio refuses leaves VFO B selected and the frequency to be read
anew. Keying that it refuses leaves everything as it was. -/
theorem apply_of_failure_refused :
    let line : ScriptedLine :=
      { script := [⟨[0x00, 0x00, 0x00, 0x00, 0x03], [0x14, 0x25, 0x00, 0x00, 0x01]⟩,
          ⟨[0x00, 0x00, 0x00, 0x00, 0x81], [0x00]⟩,
          ⟨[0x00, 0x70, 0x00, 0x00, 0x01], [0xF0]⟩,
          ⟨[0x00, 0x00, 0x00, 0x00, 0x08], [0xF0]⟩] }
    let rig := (start Models.ft897 ⟨line, 0⟩).run [.perform (.getFrequency .current)]
    let set := ((perform (.setFrequency (.only .b) 7000000)).apply rig).2
    let keyed := ((perform (.setPtt true)).apply set).2
    set.vfo = .b ∧
      set.cache.find? .freqMode = some ⟨[0x14, 0x25, 0x00, 0x00, 0x01], 0, true⟩ ∧
      keyed = { set with engine := keyed.engine } := by
  intro line rig set keyed
  have hset : ((perform (.setFrequency (.only .b) 7000000)).apply rig).1 = .error .rejected := by
    decide +kernel
  have hkeyed : ((perform (.setPtt true)).apply set).1 = .error .rejected := by decide +kernel
  have hfind : rig.cache.find? .freqMode =
      some ⟨[0x14, 0x25, 0x00, 0x00, 0x01], 0, false⟩ := by
    decide +kernel
  have hvfo : rig.vfo.other = .b := by decide +kernel
  -- The toggle is taken, and the frequency that follows it is what the radio refuses.
  have hchanges : rig.ChangesOver (.setFrequency (.only .b) 7000000) :=
    ⟨by decide +kernel, by rw [hvfo]; rfl, ⟨Params.zero, 0x81⟩, by decide +kernel,
      by decide +kernel⟩
  obtain ⟨-, hother⟩ := apply_of_failure rig _ _ rfl hset
  obtain ⟨-, hafter, -, hentries⟩ := hother hchanges
  obtain ⟨hsame, -⟩ := apply_of_failure set _ _ rfl hkeyed
  refine ⟨?_, ?_, hsame fun hchanges => ?_⟩
  · rw [← hvfo]
    exact congrArg Rig.vfo hafter
  · have hentry := hentries .freqMode
    rw [hfind] at hentry
    exact hentry
  · cases hchanges.2.1

end Rig

end Transceiver
