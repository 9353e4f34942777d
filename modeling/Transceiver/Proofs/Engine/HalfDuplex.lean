import Transceiver.Proofs.Line.View
import Mathlib.Data.List.Chain

/-!
# Half-Duplex Runs

The line is shared by both directions: while a reply may still be on its way nothing is sent, and
before anything is sent whatever came late is discarded. On the record of a run this shows as a
chain: after a receive there is another receive or a flush.

## Main statement

* `Engine.run_halfDuplex`: the calls of a run are those of half-duplex exchanges, one after the
  other, and none of them depends on the answer of a flush.
-/

namespace Transceiver

variable {σ : Type}

/-! ## What may follow a receive -/

/-- After a receive there is another one or a flush. -/
def Call.MayPrecede (call next : Call) : Prop :=
  call.IsReceive → next.IsReceive ∨ next.IsFlush

namespace Exchange

variable {pause : Nat} {exchange : Exchange}

/-- The calls that write a frame do not ask for bytes. -/
theorem HalfDuplex.not_isReceive (h : exchange.HalfDuplex pause) :
    ∀ call ∈ exchange.writes, ¬ call.IsReceive := by
  have hsent (pieces : List Bytes) : ∀ call ∈ pieces.map Call.sent, ¬ call.IsReceive := by
    intro call hmem
    obtain ⟨piece, -, rfl⟩ := List.mem_map.mp hmem
    exact Call.not_isReceive_send piece _
  rcases h.writes with hall | ⟨before, piece, rest, e, -, hcut⟩
  · rw [hall]
    exact hsent _
  · rw [hcut]
    intro call hmem
    rcases List.mem_append.mp hmem with hbefore | hfailed
    · exact hsent before call hbefore
    · obtain rfl := List.mem_singleton.mp hfailed
      exact Call.not_isReceive_send piece _

/-- Within an exchange nothing but receives follows a receive. -/
theorem HalfDuplex.isChain_calls (h : exchange.HalfDuplex pause) :
    exchange.calls.IsChain Call.MayPrecede := by
  -- There is no receive among the sends, and there are only receives after them.
  have hwrites : exchange.writes.IsChain Call.MayPrecede := by
    refine (List.pairwise_iff_forall_sublist.mpr fun hsub hreceive => ?_).isChain
    exact absurd hreceive (h.not_isReceive _ (hsub.subset (by simp)))
  have hreads : exchange.reads.IsChain Call.MayPrecede := by
    refine (List.pairwise_iff_forall_sublist.mpr fun hsub _ => .inl ?_).isChain
    exact h.reads _ (hsub.subset (by simp))
  refine List.isChain_cons.mpr ⟨fun _ _ hflush => ?_, List.isChain_append.mpr
    ⟨hwrites, hreads, fun call hlast _ _ hreceive => ?_⟩⟩
  · simp [Call.IsReceive] at hflush
  · exact absurd hreceive (h.not_isReceive call (List.mem_of_mem_getLast? hlast))

/-- Nor does one exchange after another send anything between a receive and a flush: every exchange
begins with a flush. -/
theorem isChain_flatMap_calls {exchanges : List Exchange}
    (h : ∀ exchange ∈ exchanges, exchange.HalfDuplex pause) :
    (exchanges.flatMap calls).IsChain Call.MayPrecede := by
  induction exchanges with
  | nil => exact .nil
  | cons exchange rest ih =>
    rw [List.flatMap_cons]
    refine List.isChain_append.mpr ⟨(h exchange (by simp)).isChain_calls,
      ih fun later hmem => h later (by simp [hmem]), fun _ _ next hnext _ => .inr ?_⟩
    cases rest with
    | nil => simp at hnext
    | cons later rest =>
      refine ⟨later.flushed, ?_⟩
      simpa [calls, eq_comm] using hnext

end Exchange

/-- In such a chain a flush lies between a receive and a later send. -/
theorem Call.exists_flush_between {call : Call} {bytes : Bytes} {result : Except Error Unit}
    {between later : List Call} (hcall : call.IsReceive)
    (h : (call :: between ++ send bytes result :: later).IsChain Call.MayPrecede) :
    ∃ flushed, .flush flushed ∈ between := by
  induction between generalizing call with
  | nil =>
    -- The send would follow the receive at once.
    rw [List.cons_append, List.nil_append, List.isChain_cons_cons] at h
    rcases h.1 hcall with hreceive | ⟨_, hflush⟩
    · exact absurd hreceive (not_isReceive_send bytes result)
    · cases hflush
  | cons next between ih =>
    rw [List.cons_append, List.cons_append, List.isChain_cons_cons] at h
    rcases h.1 hcall with hreceive | ⟨flushed, rfl⟩
    · obtain ⟨flushed, hmem⟩ := ih hreceive h.2
      exact ⟨flushed, List.mem_cons_of_mem next hmem⟩
    · exact ⟨flushed, List.mem_cons_self⟩

/-! ## The answers of flushes -/

/-- The line with other answers to its flushes. -/
@[reducible]
def Line.withFlushAnswers [Line σ] (answers : σ → Nat → Except Error Unit) : Line σ where
  send := Line.send
  receive := Line.receive
  flush line now := { Line.flush line now with result := answers line now }
  close := Line.close

/-- What flushes answer is no part of a view, so other answers to them are one. -/
theorem Line.isView_withFlushAnswers [Line σ] (answers : σ → Nat → Except Error Unit) :
    @Line.IsView σ σ _ (Line.withFlushAnswers answers) id :=
  @Line.IsView.mk σ σ _ (Line.withFlushAnswers answers) id
    (fun _ _ _ => rfl) (fun _ _ _ _ => rfl) (fun _ _ => rfl) (fun _ _ => rfl)

/-! ## Runs -/

namespace Engine

variable [Line σ]

/-- Where commands are not confirmed, sending one makes one exchange, which reads nothing. -/
theorem reads_sendCommand_of_skip {engine : Engine (RecordedLine σ)} (frame : Frame)
    (hmode : engine.ackMode = .skip) :
    ∃ exchange : Exchange, (engine.sendCommand frame).2.calls = engine.calls ++ exchange.calls ∧
      exchange.frame = frame ∧ exchange.HalfDuplex engine.timing.writeDelay ∧
      exchange.reads = [] := by
  obtain ⟨exchange, hframe, hnone, hconducts⟩ := engine.conducts_writeOnly frame
  rw [sendCommand_of_skip frame hmode]
  have hhalf := hconducts.ends.halfDuplex
  refine ⟨exchange, hconducts.calls, hframe, hhalf, ?_⟩
  by_contra hreads
  exact (hhalf.reads_of_ne_nil hreads).2 hnone

/-- The calls of a run are those of half-duplex exchanges, one after the other, each of a frame that
serves a request. An exchange of a command that is not confirmed reads nothing, no send lies between
a receive and the next flush, and with other answers to the flushes the run is the same. -/
theorem run_halfDuplex (engine : Engine (RecordedLine σ)) (requests : List Request) :
    (∃ exchanges : List Exchange,
      (engine.run requests).2.calls = engine.calls ++ exchanges.flatMap Exchange.calls ∧
      ∀ exchange ∈ exchanges,
        exchange.HalfDuplex engine.timing.writeDelay ∧ engine.Serves requests exchange.frame) ∧
    (∀ frame, (engine.run requests).2.ackMode = .skip →
      ∃ exchange : Exchange,
        ((engine.run requests).2.sendCommand frame).2.calls =
          (engine.run requests).2.calls ++ exchange.calls ∧
        exchange.frame = frame ∧ exchange.HalfDuplex engine.timing.writeDelay ∧
        exchange.reads = []) ∧
    (∀ before between later limit timeout answer bytes result,
      (engine.run requests).2.calls = engine.calls ++
        (before ++ (.receive limit timeout answer :: between ++ .send bytes result :: later)) →
      ∃ flushed, .flush flushed ∈ between) ∧
    ∀ answers, @Engine.run _ (Line.withFlushAnswers answers) engine requests =
      engine.run requests := by
  obtain ⟨exchanges, hadds⟩ := engine.adds_run requests
  refine ⟨⟨exchanges, hadds.calls, fun exchange hmem =>
    ⟨hadds.halfDuplex exchange hmem, hadds.origin exchange hmem⟩⟩, ?_, ?_, ?_⟩
  · intro frame hmode
    -- The pace of writing is the one from before the run.
    rw [← hadds.writeDelay]
    exact reads_sendCommand_of_skip frame hmode
  · intro before between later limit timeout answer bytes result hcalls
    have hnew := List.append_cancel_left (hadds.calls.symm.trans hcalls)
    have hchain := Exchange.isChain_flatMap_calls hadds.halfDuplex
    rw [hnew] at hchain
    exact Call.exists_flush_between ⟨limit, timeout, answer, rfl⟩
      (List.isChain_append.mp hchain).2.1
  · intro answers
    have hview := Line.isView_withFlushAnswers (σ := RecordedLine σ) answers
    exact @run_mapLine _ _ _ (Line.withFlushAnswers answers) id hview engine requests

end Engine

end Transceiver
