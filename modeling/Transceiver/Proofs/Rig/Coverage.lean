import Transceiver.Line.Scripted
import Transceiver.Models
import Transceiver.Proofs.Rig.Sending

/-!
# Coverage

A frequency is checked against the ranges of a model as it is given, and goes out rounded to tens of
hertz. What goes out is covered as well if the ranges begin and end at tens, since rounding then
leads out of none of them (`Descriptor.RangesInTens`). Below one gigahertz the digits of the field
are always enough.

The FT-817, FT-857 and FT-897 have such ranges. They also receive wherever they transmit, and have a
frame for every command on the way to a frequency, so that a frequency is refused exactly if it is
not covered.

## Main statement

* `Rig.setFrequency_stays_covered`: which frequencies are accepted, and that those which go out are
  covered.
-/

namespace Transceiver

variable {σ : Type}

/-- Rounding to the nearest ten does not lead out of a band that begins and ends at tens. -/
theorem Band.contains_nearest {band : Band} {hz : Nat} (hlow : 10 ∣ band.low)
    (hhigh : 10 ∣ band.high) (h : band.contains hz = true) :
    band.contains (10 * ((hz + 5) / 10)) = true := by
  rw [contains_iff] at h ⊢
  omega

namespace Descriptor

variable {descriptor : Descriptor} {hz : Nat}

/-- The ranges in which the model receives begin and end at tens of hertz, below one gigahertz. -/
def RangesInTens (descriptor : Descriptor) : Prop :=
  ∀ band ∈ descriptor.ranges, band.transmit = false →
    10 ∣ band.low ∧ 10 ∣ band.high ∧ band.high < 10 ^ 9

/-- Each range in which the model transmits lies within one in which it receives. -/
def ReceivesWhereItTransmits (descriptor : Descriptor) : Prop :=
  ∀ band ∈ descriptor.ranges, band.transmit = true →
    ∃ wide ∈ descriptor.ranges, wide.transmit = false ∧ wide.low ≤ band.low ∧ band.high ≤ wide.high

/-- A frequency can be received exactly if some range for receiving holds it. -/
theorem canReceive_iff :
    descriptor.canReceive hz = true ↔
      ∃ band ∈ descriptor.ranges, band.transmit = false ∧ band.contains hz = true := by
  simp only [canReceive, List.any_eq_true, Bool.and_eq_true, Bool.not_eq_true']

/-- A frequency can be transmitted on exactly if some range for transmitting holds it. -/
theorem canTransmit_iff :
    descriptor.canTransmit hz = true ↔
      ∃ band ∈ descriptor.ranges, band.transmit = true ∧ band.contains hz = true := by
  simp only [canTransmit, List.any_eq_true, Bool.and_eq_true]

/-- A model that receives wherever it transmits can receive a frequency on which it can transmit. -/
theorem ReceivesWhereItTransmits.canReceive (h : descriptor.ReceivesWhereItTransmits)
    (htransmit : descriptor.canTransmit hz = true) : descriptor.canReceive hz = true := by
  obtain ⟨band, hmem, hsends, hcontains⟩ := canTransmit_iff.mp htransmit
  obtain ⟨wide, hwide, hreceives, hlow, hhigh⟩ := h band hmem hsends
  rw [Band.contains_iff] at hcontains
  refine canReceive_iff.mpr ⟨wide, hwide, hreceives, wide.contains_iff hz |>.mpr ?_⟩
  exact ⟨hlow.trans hcontains.1, hcontains.2.trans hhigh⟩

/-- A frequency that can be received is not refused. -/
theorem refusal?_setFrequency (vfo : VfoChoice) (hreceive : descriptor.canReceive hz = true) :
    descriptor.refusal? (.setFrequency vfo hz) = none := by
  rw [refusal?, if_pos hreceive]

namespace RangesInTens

/-- A covered frequency is covered when it is rounded. -/
theorem canReceive_nearest (h : descriptor.RangesInTens)
    (hreceive : descriptor.canReceive hz = true) :
    descriptor.canReceive (10 * ((hz + 5) / 10)) = true := by
  obtain ⟨band, hmem, hreceives, hcontains⟩ := canReceive_iff.mp hreceive
  obtain ⟨hlow, hhigh, -⟩ := h band hmem hreceives
  exact canReceive_iff.mpr ⟨band, hmem, hreceives, Band.contains_nearest hlow hhigh hcontains⟩

/-- Its tens have at most eight digits. -/
theorem tens_lt (h : descriptor.RangesInTens) (hreceive : descriptor.canReceive hz = true) :
    (hz + 5) / 10 < 10 ^ 8 := by
  obtain ⟨band, hmem, hreceives, hcontains⟩ := canReceive_iff.mp hreceive
  obtain ⟨-, hhigh, hgiga⟩ := h band hmem hreceives
  rw [Band.contains_iff] at hcontains
  omega

/-- A frequency that can be received is rounded to the nearest ten, since none of them saturates. -/
theorem tens_nearest (h : descriptor.RangesInTens) (hreceive : descriptor.canReceive hz = true) :
    Bcd.Rounding.nearest.tens hz = (hz + 5) / 10 := by
  have hlt := h.tens_lt hreceive
  have hmax := Bcd.maxHertz_eq
  rw [Bcd.Rounding.tens, Nat.min_eq_left (by omega)]

/-- So it has a frame, which is read as the rounded frequency. -/
theorem exists_settingFrame (h : descriptor.RangesInTens) (vfo : VfoChoice)
    (hreceive : descriptor.canReceive hz = true) {template : Template}
    (htemplate : descriptor.template .setFrequency = .ok template) :
    ∃ params, descriptor.settingFrame .setFrequency (.setFrequency vfo hz) =
        .ok (template.withParams params) ∧
      Bcd.toFrequency params.toList 8 descriptor.freqOrder = .ok (10 * ((hz + 5) / 10)) := by
  have htens := h.tens_nearest hreceive
  have hfits : Bcd.Rounding.nearest.tens hz < 10 ^ 8 := htens ▸ h.tens_lt hreceive
  obtain ⟨params, hframe, hreads⟩ := Rig.exists_fieldFrame descriptor.freqOrder htemplate hfits
  rw [htens] at hreads
  exact ⟨params, (Rig.frequencyFrame_eq_fieldFrame descriptor hz).trans hframe, hreads⟩

end RangesInTens

end Descriptor

namespace Models

/-- The ranges of the shipped models begin and end on multiples of ten. -/
theorem rangesInTens : ∀ descriptor ∈ all, descriptor.RangesInTens := by
  unfold Descriptor.RangesInTens
  decide

/-- The shipped models receive wherever they transmit. -/
theorem receivesWhereItTransmits : ∀ descriptor ∈ all, descriptor.ReceivesWhereItTransmits := by
  unfold Descriptor.ReceivesWhereItTransmits
  decide

/-- The models have frames for the toggle and for a frequency. -/
theorem template_setFrequency : ∀ descriptor ∈ all,
    descriptor.frame .toggleVfo = .ok ⟨Params.zero, 0x81⟩ ∧
      descriptor.template .setFrequency = .ok (.incomplete 0x01) := by
  decide

end Models

namespace Rig

variable [Line σ] {rig : Rig σ} {vfo : VfoChoice} {hz : Nat}

/-- The frequency `hz` goes out as `frame`, and the radio reads `commanded` from it: the nearest ten
hertz, which the model covers. -/
structure TunesTo (rig : Rig σ) (vfo : VfoChoice) (hz : Nat) (frame : Frame) (commanded : Nat) :
    Prop where
  /-- The setting goes out as this frame. -/
  goesOut : rig.GoesOutAs (.setFrequency vfo hz) frame
  /-- This is the frequency that the frame commands. -/
  reads : Bcd.toFrequency frame.params.toList 8 rig.descriptor.freqOrder = .ok commanded
  /-- It is the one that was given, to the nearest ten hertz. -/
  nearest : commanded = 10 * ((hz + 5) / 10)
  /-- It is at most five hertz off. -/
  near : commanded ≤ hz + 5 ∧ hz ≤ commanded + 5
  /-- It lies in a range in which the model receives. -/
  covered : rig.descriptor.canReceive commanded = true

/-- A covered frequency goes out to the nearest ten hertz, if the ranges begin and end at tens. -/
theorem exists_tunesTo (vfo : VfoChoice) {template : Template}
    (hranges : rig.descriptor.RangesInTens) (hreceive : rig.descriptor.canReceive hz = true)
    (htemplate : rig.descriptor.template .setFrequency = .ok template) :
    ∃ frame, rig.TunesTo vfo hz frame (10 * ((hz + 5) / 10)) := by
  obtain ⟨params, hframe, hreads⟩ := hranges.exists_settingFrame vfo hreceive htemplate
  exact ⟨template.withParams params,
    { goesOut := goesOutAs_of_frame rfl (Descriptor.refusal?_setFrequency vfo hreceive) hframe
      reads := hreads
      nearest := rfl
      near := by omega
      covered := hranges.canReceive_nearest hreceive }⟩

/-- The models of the library leave a covered frequency to the line. -/
theorem leftToLine_setFrequency (hmodel : rig.descriptor ∈ Models.all)
    (hreceive : rig.descriptor.canReceive hz = true) : rig.LeftToLine (.setFrequency vfo hz) := by
  obtain ⟨htoggle, htemplate⟩ := Models.template_setFrequency _ hmodel
  obtain ⟨params, hframe, -⟩ :=
    (Models.rangesInTens _ hmodel).exists_settingFrame vfo hreceive htemplate
  have hrefusal := Descriptor.refusal?_setFrequency vfo hreceive
  refine leftToLine_of_frames rfl (plan_of_command hrefusal rfl) ?_
  -- The stages are the toggle, if one is due, and the frequency itself.
  intro stage hstage
  rcases List.mem_append.mp hstage with hselect | hown
  · obtain ⟨other, -, -, rfl⟩ := mem_selection hselect
    exact ⟨_, htoggle⟩
  · obtain rfl := List.mem_singleton.mp hown
    exact ⟨_, hframe⟩

/-- The FT-817, FT-857 and FT-897 receive wherever they transmit, and leave exactly those
frequencies to the line that they receive: then no digit is lost, and what goes out is a frequency
that they receive as well, at most five hertz off. Any model refuses the other frequencies before
anything is sent, and any model with ranges in tens of hertz below one gigahertz sends a covered
frequency for a covered one. -/
theorem setFrequency_stays_covered (rig : Rig σ) (vfo : VfoChoice) (hz : Nat) :
    (rig.descriptor ∈ Models.all →
      (rig.descriptor.canTransmit hz = true → rig.descriptor.canReceive hz = true) ∧
      (rig.LeftToLine (.setFrequency vfo hz) ↔ rig.descriptor.canReceive hz = true) ∧
      (rig.descriptor.canReceive hz = true →
        (Bcd.ofFrequency hz 8 rig.descriptor.freqOrder .nearest).truncated = false ∧
          ∃ frame commanded, rig.TunesTo vfo hz frame commanded)) ∧
    (rig.descriptor.canReceive hz = false →
      (perform (.setFrequency vfo hz)).apply rig =
        (.error (.invalidParameter
          s!"{hz} Hz is outside the {rig.descriptor.modelName} coverage"), rig)) ∧
    (rig.descriptor.RangesInTens → rig.descriptor.canReceive hz = true →
      ∀ template, rig.descriptor.template .setFrequency = .ok template →
        ∃ frame commanded, rig.TunesTo vfo hz frame commanded) := by
  -- A frequency beyond the coverage is refused before there is a plan.
  have hrefused (hout : rig.descriptor.canReceive hz = false) :
      rig.descriptor.refusal? (.setFrequency vfo hz) =
        some (.invalidParameter
          s!"{hz} Hz is outside the {rig.descriptor.modelName} coverage") := by
    rw [Descriptor.refusal?, hout]
    rfl
  refine ⟨fun hmodel => ⟨(Models.receivesWhereItTransmits _ hmodel).canReceive, ?_, ?_⟩,
    fun hout => apply_of_refusal rfl (hrefused hout), ?_⟩
  · refine ⟨fun hleft => ?_, leftToLine_setFrequency hmodel⟩
    by_contra hout
    exact not_leftToLine_of_refusal rfl (hrefused (Bool.eq_false_of_not_eq_true hout)) hleft
  · intro hreceive
    have hranges := Models.rangesInTens _ hmodel
    have hfits : Bcd.Rounding.nearest.tens hz < 10 ^ 8 :=
      hranges.tens_nearest hreceive ▸ hranges.tens_lt hreceive
    obtain ⟨-, htemplate⟩ := Models.template_setFrequency _ hmodel
    obtain ⟨frame, htunes⟩ := exists_tunesTo vfo hranges hreceive htemplate
    exact ⟨Bcd.truncated_encode_eq_false_iff.mpr hfits, frame, _, htunes⟩
  · intro hranges hreceive template htemplate
    obtain ⟨frame, htunes⟩ := exists_tunesTo vfo hranges hreceive htemplate
    exact ⟨frame, _, htunes⟩

/-- At the upper end of six metres an FT-817 rounds up to the end of the range. At the lower end of
its coverage it does not round up into it. -/
theorem setFrequency_stays_covered_edges :
    let rig : Rig ScriptedLine := start Models.ft817 ⟨{}, 0⟩
    (∃ frame, rig.TunesTo (.only .b) 55999997 frame 56000000) ∧
      ¬ rig.LeftToLine (.setFrequency .current 99998) := by
  intro rig
  have hmodel : rig.descriptor ∈ Models.all := by decide
  obtain ⟨hcovered, -, -⟩ := setFrequency_stays_covered rig (.only .b) 55999997
  obtain ⟨-, -, htunes⟩ := hcovered hmodel
  obtain ⟨-, frame, commanded, htunes⟩ := htunes (by decide)
  obtain rfl : commanded = 56000000 := htunes.nearest
  obtain ⟨hbelow, -, -⟩ := setFrequency_stays_covered rig .current 99998
  obtain ⟨-, hleft, -⟩ := hbelow hmodel
  have hout : rig.descriptor.canReceive 99998 ≠ true := by decide
  exact ⟨⟨frame, htunes⟩, fun h => hout (hleft.mp h)⟩

end Rig

end Transceiver
