import EdgeStreams.Proofs.Pipeline.Reading

/-!
# The source of a pipeline

Where a pipeline begins, pulling is reading the host body.

## Main statements

- `Passage.pulls_zero`: a pull of the source does what it should
-/

namespace EdgeStreams

variable {E : Type}

/-- The cell of an open stream once one more chunk is queued. -/
def Cell.queued (cell : Cell) (chunk : Bytes) : Cell :=
  { cell with supply := .flowing (cell.supply.queue ++ [chunk]) }

/-- The cell of an open stream once its source has ended. -/
def Cell.finished (cell : Cell) : Cell :=
  { cell with
    supply := if cell.supply.queue = [] then .ended else .draining cell.supply.queue }

theorem Cell.queue_finished (cell : Cell) : cell.finished.supply.queue = cell.supply.queue := by
  unfold Cell.finished
  split
  · next h => exact h.symm
  · rfl

theorem Supply.IsOpen.eq {supply : Supply} (h : supply.IsOpen) :
    supply = .flowing supply.queue := by
  cases supply with
  | flowing chunks => rfl
  | draining chunks | ended | canceled | failed error => exact h.elim

theorem Cell.finished_cases (cell : Cell) :
    cell.supply.queue = [] ∧ cell.finished.supply = .ended ∨
      cell.supply.queue ≠ [] ∧ cell.finished.supply = .draining cell.supply.queue := by
  by_cases h : cell.supply.queue = []
  · exact .inl ⟨h, by simp [Cell.finished, h]⟩
  · exact .inr ⟨h, by simp [Cell.finished, h]⟩

theorem Cell.finished_healthy (cell : Cell) : cell.finished.supply.IsHealthy := by
  rcases cell.finished_cases with ⟨-, h⟩ | ⟨-, h⟩ <;> rw [h] <;> trivial

/-- More has come in. -/
theorem Cell.queued_accounts (cell : Cell) (ho : cell.supply.IsOpen) {incoming : Bytes}
    (h : cell.supply.Accounts cell.taken incoming) (chunk : Bytes) :
    (cell.queued chunk).supply.Accounts cell.taken (incoming ++ chunk) := by
  rw [ho.eq] at h
  simp only [Supply.Accounts] at h
  simp [Cell.queued, Supply.Accounts, h]

/-- No more comes in. -/
theorem Cell.finished_accounts (cell : Cell) (ho : cell.supply.IsOpen) {incoming : Bytes}
    (h : cell.supply.Accounts cell.taken incoming) :
    cell.finished.supply.Accounts cell.taken incoming := by
  rw [ho.eq] at h
  simp only [Supply.Accounts] at h
  rcases cell.finished_cases with ⟨hq, hs⟩ | ⟨hq, hs⟩
  · simp [hs, Supply.Accounts, h, hq]
  · simp [hs, Supply.Accounts, h]

section Stands

variable {source : Source E} {cell : Cell} (h : source.Stands cell) (ho : cell.supply.IsOpen)
include h ho

theorem Source.Stands.open_shows :
    source.controller.state = .readable ∧ source.controller.closeRequested = false ∧
      source.controller.queue = cell.supply.queue := by
  have hshows := h.shows
  rw [ho.eq] at hshows
  exact hshows

theorem Source.Stands.queued {chunk : Bytes} (hchunk : chunk ≠ []) :
    ({ source with controller := source.controller.queued chunk } : Source E).Stands
      (cell.queued chunk) := by
  obtain ⟨hs, hc, hq⟩ := h.open_shows ho
  refine ⟨h.started, h.kept, h.pulling, h.unasked, h.lock, fun _ _ => h.uncanceled _ (.inl ho.eq),
    ⟨hs, hc, by rw [← hq]; rfl⟩, fun x hx => ?_⟩
  rcases List.mem_append.mp hx with hx | hx
  · exact h.nonempty x hx
  · rw [List.mem_singleton.mp hx]
    exact hchunk

theorem Source.Stands.finished :
    ({ source with controller := source.controller.finish } : Source E).Stands cell.finished := by
  obtain ⟨hs, hc, hq⟩ := h.open_shows ho
  have hfinish : source.controller.finish =
      { source.controller with
        closeRequested := true
        state := if source.controller.queue.isEmpty then .closed else .readable } := by
    rw [ReadableController.finish, ReadableController.close_of_open hs hc]
  rw [hfinish]
  refine ⟨h.started, h.kept, h.pulling, h.unasked, h.lock, fun _ _ => h.uncanceled _ (.inl ho.eq),
    ?_, fun x hx => h.nonempty x (cell.queue_finished ▸ hx)⟩
  by_cases hempty : cell.supply.queue = []
  · simp [Cell.finished, hempty, Supply.Shows, hq]
  · simp [Cell.finished, hempty, Supply.Shows, hq]

theorem Source.Stands.failed (error : StreamError) :
    ({ source with controller := source.controller.error error } : Source E).Stands
      { cell with supply := .failed error } := by
  have hcontroller : source.controller.error error =
      { source.controller.clear with state := .errored error } := by
    simp [ReadableController.error, (h.open_shows ho).1]
  rw [hcontroller]
  exact ⟨h.started, h.kept, h.pulling, h.unasked, h.lock, by simp, ⟨rfl, rfl⟩,
    by simp [Supply.queue]⟩

end Stands

namespace Passage

variable {p : Passage} {s : Session MemoryHost E} {cell cell' : Cell}

/-- A read of the host body moves octets from the body into the queue. -/
theorem Spring.answer (h : p.Spring cell s) {source : Source E} {body : MemoryBody} {size : UInt64}
    (hs : s.streams.source? (p.readable 0) = some source)
    (hback : source.backing = .body p.origin size)
    (hfound : s.host.bodies.find? p.origin.raw = some body) (hopen : body.state ≠ .abandoned)
    (source' : Source E) (hb : source'.backing = source.backing) (hstands : source'.Stands cell')
    (haccounts : ∀ entered, cell.supply.Accounts cell.taken entered →
      cell'.supply.Accounts cell'.taken (entered ++ body.peek (s.host.readLimit size)))
    (hend : ¬ cell'.supply.IsOpen → (body.advance (s.host.readLimit size)).unread = [])
    (hhealthy : cell'.supply.IsHealthy) :
    p.Spring cell' (Session.setSource (p.readable 0) source'
      { s with
        host := ((s.host.received .bodyRead p.origin.erase).putBody p.origin
          (body.advance (s.host.readLimit size))).reaching p.origin
            (body.position + s.host.readLimit size) }) := by
  obtain ⟨other, hadmits, old, hold, hother, -⟩ := h.source
  obtain ⟨same, entered, hsame, ⟨hcontent, hlength⟩, hentered, -⟩ := h.origin
  obtain rfl : old = source := Option.some_inj.mp (hold.symm.trans hs)
  obtain rfl : same = body := Option.some_inj.mp (hsame.symm.trans hfound)
  obtain rfl : other = size := (SourceBacking.body.inj (hother.symm.trans hback)).2
  have hplace : p.modest → same.position + s.host.readLimit other < UInt64.size := fun hm => by
    have := hadmits.within hm
    omega
  refine ⟨⟨other, hadmits.congr rfl, source', ?_, hb.trans hback, hstands⟩,
    ⟨same.advance _, entered ++ same.peek _, ?_, ⟨?_, ?_⟩, haccounts _ hentered, fun _ => hopen,
      fun _ => hend⟩,
    fun _ => hhealthy, h.chunkSize, fun hc => ?_, fun hm => ?_⟩
  · simp [Registry.source?_setSource, hold]
  · simp [MemoryHost.find?_putBody]
  · rw [hcontent, List.append_assoc, MemoryBody.peek_append_unread]
  · exact (same.position_add_length_unread_advance _).trans hlength
  · simp [h.faultless hc]
  · change ∀ handle ∈ p.unwritten, (MemoryHost.reaching _ _ _).overrun ≠ some handle
    rw [MemoryHost.reaching_of_lt _ _ _ (hplace hm)]
    exact h.intact hm

/-- A call that meets a fault leaves the body as it is. -/
theorem Spring.received (h : p.Spring cell s) (operation : HostOperation)
    (about : Option AnyHandle) :
    p.Spring cell { s with host := s.host.received operation about } := by
  obtain ⟨size, hadmits, hs⟩ := h.source
  exact ⟨⟨size, hadmits.congr rfl, hs⟩, h.origin, h.healthy, h.chunkSize,
    fun hc => by simp [h.faultless hc], h.intact⟩

/-- A pull of the source reads the host body. -/
theorem pulls_zero : p.Pulls E 0 := by
  intro below cell s hlen h ho
  obtain rfl : below = [] := List.length_eq_zero_iff.mp hlen
  obtain ⟨size, hadmits, source, hs, hback, hstands⟩ := Spring.source h
  obtain ⟨body, entered, hfound, -, -, habandoned, -⟩ := Spring.origin h
  obtain ⟨hstate, hclose, -⟩ := hstands.open_shows ho
  have hpull : ∀ fuel, attempt (Session.pull (fuel + 1) (p.readable 0)) s =
      some (exec (Session.pullBody (p.readable 0) p.origin size) s) := fun fuel => by
    simp only [Session.attempt_pull, hs, hback]
  have hread := MemoryHost.exec_bodyRead s.host p.origin size
  cases hfault : (s.host.faults.take .bodyRead).1 with
  | some error =>
    simp only [hfault] at hread
    refine ⟨.error (.host .bodyRead error), [], cell, _, .now fun fuel => ?_,
      .here (Spring.received h .bodyRead (some p.origin.erase)) ?_ rfl fun hc => hc,
        ⟨rfl, fun hc => ?_, ho⟩, rfl, rfl,
      fun _ => Nat.le_succ _⟩
    · rw [hpull, Session.exec_pullBody_error hread]
    · exact (Frame.received s _ _ _).mono Pipeline.origin_within
    · rw [Spring.faultless h (p.faultless_of_calm hc), FaultPlan.take_empty] at hfault
      cases hfault
  | none =>
    simp only [hfault, hfound, habandoned ho, if_false] at hread
    have hframe : ∀ source' : Source E, Frame (p.upstream 0) s
        (Session.setSource (p.readable 0) source'
          { s with
            host := ((s.host.received .bodyRead p.origin.erase).putBody p.origin
              (body.advance (s.host.readLimit size))).reaching p.origin
                (body.position + s.host.readLimit size) }) := fun source' =>
      (((Frame.putBody s _ _ _ _).trans (Frame.reaching s _ _ _)).mono Pipeline.origin_within).trans
        ((Frame.setSource _ _ _).mono Pipeline.readable_within)
    -- an empty answer is the end of the body, any other one a chunk for the queue
    by_cases hchunk : body.peek (s.host.readLimit size) = []
    · have hlimit := s.host.readLimit_pos hadmits.pos (Spring.chunkSize h)
      have hunread := body.unread_eq_nil_of_peek _ hlimit hchunk
      have hleft := body.peek_append_unread (s.host.readLimit size)
      rw [hchunk, hunread, List.nil_append] at hleft
      rw [hchunk] at hread
      have hspring : p.Upto [] cell.finished _ :=
        Spring.answer h hs hback hfound (habandoned ho)
          { source with controller := source.controller.finish } rfl
          (hstands.finished ho)
          (fun entered he => by rw [hchunk, List.append_nil]; exact cell.finished_accounts ho he)
          (fun _ => hleft) cell.finished_healthy
      refine ⟨.ok (), [], cell.finished, _, .now fun fuel => ?_,
        .here hspring (hframe _) rfl ?_, ?_, rfl, rfl, fun _ => ?_⟩
      · rw [hpull, Session.exec_pullBody_end hs hstate hclose hread]
      · rcases cell.finished_cases with ⟨-, hf⟩ | ⟨-, hf⟩ <;> simp [hf]
      · rcases cell.finished_cases with ⟨-, hf⟩ | ⟨-, hf⟩ <;> simp [Pulled, hf]
      · rw [cell.queue_finished]
        exact Nat.le_succ _
    · have hspring : p.Upto [] (cell.queued (body.peek (s.host.readLimit size))) _ :=
        Spring.answer h hs hback hfound (habandoned ho)
          { source with
            controller := source.controller.queued (body.peek (s.host.readLimit size)) } rfl
          (hstands.queued ho hchunk) (fun entered he => cell.queued_accounts ho he _)
          (fun hn => absurd trivial hn) trivial
      have hadv : p.AdvancesTo [] cell s [] _ _ :=
        AdvancesTo.here hspring (hframe _) rfl fun hc => by cases hc
      refine ⟨.ok (), [], cell.queued (body.peek (s.host.readLimit size)), _,
        .now fun fuel => ?_,
        hadv.noteEnqueued (p.readable 0) [body.peek (s.host.readLimit size)], ?_, rfl, rfl,
        fun _ => ?_⟩
      · rw [hpull, Session.exec_pullBody_chunk hs hstate hclose hchunk hread]
      · simp [Pulled, Cell.queued]
      · simp [Cell.queued, Supply.queue]

end Passage

end EdgeStreams
