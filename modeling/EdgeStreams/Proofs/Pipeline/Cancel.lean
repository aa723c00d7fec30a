import EdgeStreams.Proofs.Pipeline.Crossing

/-!
# Cancelling on the way

A pipe whose destination has failed cancels its source. The host body behind the source is
abandoned; the writable half behind a readable half fails, so that the pipe into it cancels in turn.

## Main definitions

- `Supply.afterCancel`, `Intake.afterCancel`: what cancelling leaves

## Main statements

- `Passage.Upto.cancel`: the last readable stream is cancelled
-/

namespace EdgeStreams

variable {E : Type}

/-- What a stream has to give once it has been cancelled. -/
def Supply.afterCancel : Supply → Supply
  | flowing _ | draining _ => canceled
  | supply => supply

namespace Supply

variable {supply : Supply} {taken incoming : Bytes} {controller : ReadableController}

theorem isTerminal_afterCancel (supply : Supply) : supply.afterCancel.IsTerminal := by
  cases supply <;> trivial

theorem afterCancel_of_terminal (ht : supply.IsTerminal) : supply.afterCancel = supply := by
  cases supply with
  | flowing queue | draining queue => exact ht.elim
  | ended | canceled | failed error => rfl

theorem afterCancel_of_not_terminal (ho : ¬ supply.IsTerminal) : supply.afterCancel = canceled := by
  cases supply with
  | flowing queue | draining queue => rfl
  | ended | canceled | failed error => exact absurd trivial ho

theorem Shows.readable (h : supply.Shows controller) (ho : ¬ supply.IsTerminal) :
    controller.state = .readable := by
  cases supply with
  | flowing queue | draining queue => exact h.1
  | ended | canceled | failed error => exact absurd trivial ho

theorem Shows.not_readable (h : supply.Shows controller) (ht : supply.IsTerminal) :
    controller.state ≠ .readable := by
  cases supply with
  | flowing queue | draining queue => exact ht.elim
  | ended | canceled | failed error => rw [h.1]; simp

/-- No more is taken than came in. -/
theorem Accounts.prefix' (h : supply.Accounts taken incoming) : taken <+: incoming := by
  cases supply with
  | flowing queue | draining queue => exact ⟨_, h.symm⟩
  | ended => exact (show incoming = taken from h) ▸ List.prefix_rfl
  | canceled | failed error => exact h

end Supply

/-- A writable half whose readable half has been cancelled. -/
def Intake.afterCancel (intake : Intake) : Intake :=
  if intake.state.isTerminal then intake else { intake with state := .errored .canceled }

theorem Intake.octets_afterCancel (intake : Intake) :
    intake.afterCancel.octets = intake.octets := by
  unfold Intake.afterCancel
  split <;> rfl

theorem Sink.Rests.afterCancel {sink : Sink E} {intake : Intake} {lock : Option WriterToken}
    (h : sink.Rests intake.state lock) :
    (sink.failing .canceled).Rests intake.afterCancel.state lock := by
  unfold Intake.afterCancel
  by_cases ht : intake.state.isTerminal = true
  · rw [if_pos ht, h.failing_of_terminal ht]
    exact h
  · rw [if_neg ht]
    exact h.failing (Bool.eq_false_iff.mpr ht) .canceled

theorem Source.Stands.not_canceled {source : Source E} {cell : Cell} (h : source.Stands cell)
    (ho : ¬ cell.supply.IsTerminal) : source.canceled = false := by
  cases hsupply : cell.supply with
  | flowing queue => exact h.uncanceled queue (.inl hsupply)
  | draining queue => exact h.uncanceled queue (.inr hsupply)
  | ended | canceled | failed error => rw [hsupply] at ho; exact absurd trivial ho

theorem Source.Stands.canceled {source : Source E} {cell : Cell} (h : source.Stands cell)
    (hs : source.controller.state = .readable) :
    (Session.canceledSource source).Stands { cell with supply := .canceled } := by
  refine ⟨h.started, h.kept, h.pulling, h.unasked, h.lock, by simp, ?_, by simp [Supply.queue]⟩
  simp [Session.canceledSource, ReadableController.cancel, hs, Supply.Shows,
    ReadableController.clear]

/-- A host body that is abandoned keeps its octets. -/
theorem MemoryHost.unread_bodyAbandon {host : MemoryHost} {handle : BodyHandle} {body : MemoryBody}
    (h : host.bodies.find? handle.raw = some body) :
    ∃ body', (exec (Host.bodyAbandon handle) host).2.bodies.find? handle.raw = some body' ∧
      body'.unread = body.unread ∧ body'.position = body.position := by
  rw [MemoryHost.exec_bodyAbandon]
  cases (host.faults.take .bodyAbandon).1 with
  | some error => exact ⟨body, h, rfl, rfl⟩
  | none =>
    by_cases hstate : body.state = .abandoned
    · simp [h, hstate]
    · simp [h, hstate, MemoryHost.find?_putBody, MemoryBody.unread]

namespace Passage

variable {p : Passage} {s : Session MemoryHost E} {below : List Cell} {cell : Cell}
variable {intake : Intake} {i : Nat}

/-- A pipe that is still under way is not finished by a failure of its destination. -/
theorem Joins.afterCancel (h : p.Joins cell intake) : p.Joins cell intake.afterCancel := by
  unfold Intake.afterCancel
  split
  · exact h
  · next ht =>
    refine ⟨h.settled, h.released, h.calm, ?_⟩
    have hcarried := h.carried
    cases hstate : intake.state with
    | writable =>
      simp only [hstate] at hcarried
      refine ⟨hcarried.1 ▸ List.prefix_rfl, fun hl => hcarried.2 ?_⟩
      rw [hl]
      trivial
    | closing =>
      rw [hstate] at hcarried
      exact hcarried.elim
    | closed | errored error => rw [hstate] at ht; exact absurd rfl ht

/-- Cancelling the source abandons the host body. -/
theorem Spring.cancel (hc : ¬ p.calm) (h : p.Spring cell s) {source : Source E}
    (hs : s.streams.source? (p.readable 0) = some source) (hstands : source.Stands cell)
    (hstate : source.controller.state = .readable) (reason : Option String) :
    ∃ s', exec (Session.noting (.canceled (p.readable 0))
        (Session.cancelAlgorithm (p.readable 0) reason))
          (Session.setSource (p.readable 0) (Session.canceledSource source) s) = s' ∧
      p.Spring { cell with supply := .canceled } s'.2 ∧ Frame (p.upstream 0) s s'.2 := by
  obtain ⟨size, hadmits, same, hsame, hback, -⟩ := h.source
  obtain rfl : same = source := Option.some_inj.mp (hsame.symm.trans hs)
  obtain ⟨body, entered, hfound, ⟨hcontent, hlength⟩, haccounts, -⟩ := h.origin
  obtain ⟨body', hfound', hunread, hposition⟩ := MemoryHost.unread_bodyAbandon hfound
  have hs' : (Session.setSource (p.readable 0) (Session.canceledSource same) s).streams.source?
      (p.readable 0) = some (Session.canceledSource same) := by
    simp [Registry.source?_setSource, hs]
  have hframe := ((Frame.setSource s (p.readable 0) (Session.canceledSource same)).mono
    (p.readable_within (i := 0))).trans
      ((Frame.bodyAbandon _ p.origin).mono Pipeline.origin_within)
  rw [Session.exec_noting, Session.exec_cancelAlgorithm_body hs' hback, Session.exec_streamCall]
  refine ⟨_, rfl, ⟨⟨size, hadmits.congr hframe.chunkSize, _, hs', hback, hstands.canceled hstate⟩,
    ⟨body', entered, hfound', ⟨hunread ▸ hcontent, by rwa [hunread, hposition]⟩, ?_,
      fun hn => hn.elim, fun hn => hn.elim⟩,
    fun hn => absurd hn hc, hframe.chunkSize ▸ h.chunkSize, hframe.faultless ∘ h.faultless, ?_⟩,
    hframe.congr rfl rfl⟩
  · exact haccounts.prefix'
  · exact fun hm handle hin => by
      change (exec (Host.bodyAbandon p.origin) s.host).2.overrun ≠ _
      rw [MemoryHost.overrun_bodyAbandon]
      exact h.intact hm handle hin

/-- Cancelling a readable half fails its writable half. -/
theorem Upto.cancel_half {last : Cell} (hp : p.Distinct) (hi : below.length < p.length)
    (hc : ¬ p.calm) (h : p.Upto (last :: below) cell s) {source : Source E}
    (hs : s.streams.source? (p.readable (below.length + 1)) = some source)
    (hstands : source.Stands cell) (hstate : source.controller.state = .readable)
    (reason : Option String) :
    ∃ s', exec (Session.noting (.canceled (p.readable (below.length + 1)))
        (Session.cancelAlgorithm (p.readable (below.length + 1)) reason))
          (Session.setSource (p.readable (below.length + 1)) (Session.canceledSource source) s) =
            s' ∧
      p.Upto (last :: below) { cell with supply := .canceled } s'.2 ∧
      Frame (p.upstream (below.length + 1)) s s'.2 := by
  obtain ⟨hlast, hrest, hpipe, intake, hcross, hjoin⟩ := h
  obtain ⟨same, hsame, hback, -⟩ := hcross.source
  obtain rfl : same = source := Option.some_inj.mp (hsame.symm.trans hs)
  obtain ⟨bridge, hb, hr, hbw, ht⟩ := hcross.bridge
  obtain ⟨sink, hw, hk, hsink⟩ := hcross.sink
  have hs' : (Session.setSource (p.readable (below.length + 1)) (Session.canceledSource same)
      s).streams.source? (p.readable (below.length + 1)) =
        some (Session.canceledSource same) := by
    simp [Registry.source?_setSource, hs]
  rw [Session.exec_noting, Session.exec_cancelAlgorithm_transform hs' hback hb]
  have hframe := ((Frame.setSource s (p.readable (below.length + 1))
    (Session.canceledSource same)).mono
      (Pipeline.readable_within_crossing (i := below.length))).trans
      (((Frame.setBridge _ (p.bridge below.length) { bridge with errored := true }).mono
        Pipeline.bridge_within_crossing).trans
      ((Frame.modifySink _ bridge.writable fun sink => sink.failing .canceled).mono
        (hbw ▸ Pipeline.writable_within_crossing)))
  have hapart := (hp.upstream_apart_crossing hi).symm
  refine ⟨_, rfl, ⟨(hlast.of_frame hframe hapart).congr rfl rfl, hrest, ?_, intake.afterCancel,
    ⟨⟨Session.canceledSource same, ?_, hback, hstands.canceled hstate⟩,
      ⟨sink.failing .canceled, ?_, hk, hsink.afterCancel⟩,
      ⟨{ bridge with errored := true }, ?_, hr, hbw, ht⟩, ?_, ?_, fun hn => absurd hn hc⟩,
    hjoin.afterCancel⟩, (hframe.mono (Pipeline.crossing_within (Nat.lt_succ_self _))).congr rfl rfl⟩
  · exact PipeAt.of_frame (hframe.congr rfl rfl) (Set.notMem_empty _) hpipe
  · simp [Registry.source?_setSource, hs]
  · simp [Registry.sink?_modifySink, hbw, hw]
  · simp [Registry.bridge?_setBridge, hb]
  · unfold Intake.afterCancel
    split
    · next h => exact h
    · rfl
  · rw [Intake.octets_afterCancel]
    exact hcross.accounts.prefix'

/-- A pipe cancels its source. -/
theorem Upto.cancel (hp : p.Distinct) (hi : i ≤ p.length) (hlen : below.length = i)
    (hc : ¬ p.calm) (h : p.Upto below cell s) {lock : Option ReaderToken}
    (hl : cell.link.reader? = lock) (reason : Option String) :
    ∃ s', (exec (Session.cancel (p.readable i) reason lock) s).2 = s' ∧
      p.Upto below { cell with supply := cell.supply.afterCancel } s' ∧
      Frame (p.upstream i) s s' := by
  obtain ⟨source, hs, hstands⟩ := h.source
  rw [hlen] at hs
  have hlock : source.readerLock = lock := hstands.lock.trans hl
  by_cases ht : cell.supply.IsTerminal
  · -- the source has ended in one way or another, and is only marked as disturbed
    have htouch := h.touch hp hi hlen hs { source with disturbed := true } cell rfl
      ⟨hstands.started, hstands.kept, hstands.pulling, hstands.unasked, hstands.lock,
        hstands.uncanceled, hstands.shows, hstands.nonempty⟩ rfl rfl rfl
    rw [Session.exec_cancel_of_terminal hs hlock (hstands.shows.not_readable ht),
      Supply.afterCancel_of_terminal ht]
    exact ⟨_, rfl, htouch.upto, hlen ▸ htouch.frame⟩
  · have hstate := hstands.shows.readable ht
    rw [Session.exec_cancel_of_readable hs hlock hstate (hstands.not_canceled ht),
      Supply.afterCancel_of_not_terminal ht]
    cases below with
    | nil =>
      obtain rfl : i = 0 := hlen.symm
      obtain ⟨s', hs', hupto, hframe⟩ := Spring.cancel hc h hs hstands hstate reason
      exact ⟨_, rfl, hs' ▸ hupto, hs' ▸ hframe⟩
    | cons last below =>
      obtain rfl : i = below.length + 1 := hlen.symm
      obtain ⟨s', hs', hupto, hframe⟩ := Upto.cancel_half hp hi hc h hs hstands hstate reason
      exact ⟨_, rfl, hs' ▸ hupto, hs' ▸ hframe⟩

end Passage

end EdgeStreams
