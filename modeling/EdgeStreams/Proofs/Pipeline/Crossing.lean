import EdgeStreams.Proofs.Pipeline.Outlet

/-!
# Transform streams on the way

Behind the writable half of a transform stream is its readable half: what is written is queued
there, closing ends it, and aborting fails it. Cancelling the readable half fails the writable half.

## Main definitions

- `Passage.Far`: the readable half, seen from the pipe into the writable half
- `Passage.crossingOutlet`: a transform stream as the destination of a pipe

## Main statements

- `Passage.Upto.cancel`: cancelling one of the readable streams
-/

namespace EdgeStreams

variable {E : Type}

theorem Supply.Answers.open_of_writable {supply : Supply} (h : supply.Answers .writable) :
    supply.IsOpen := by
  cases supply with
  | flowing queue => trivial
  | draining queue | ended => cases h
  | canceled => simp [Supply.Answers, WritableState.isTerminal] at h
  | failed error => obtain ⟨error, h⟩ := h; cases h

theorem Supply.IsOpen.not_terminal {supply : Supply} (h : supply.IsOpen) : ¬ supply.IsTerminal := by
  cases supply with
  | flowing queue => exact fun h => h
  | draining queue | ended | canceled | failed error => exact h.elim

namespace Passage

/-- What is behind the writable half of a transform stream, whose readable half had the cell `cell`
at first. Only its supply may be another by now, and it ends in the state that it has ended in. -/
def Far (p : Passage) (i : Nat) (cell : Cell) (intake : Intake) (s : Session MemoryHost E) : Prop :=
  ∃ supply, p.SourceAt (i + 1) (.transform (p.bridge i)) { cell with supply } s ∧
    (∃ bridge, s.streams.bridge? (p.bridge i) = some bridge ∧
      bridge.readable = p.readable (i + 1) ∧ bridge.writable = p.writable i ∧
      bridge.transformer = .identity) ∧
    supply.Answers intake.state ∧ supply.Accounts cell.taken intake.octets ∧
    (p.calm → supply.IsHealthy) ∧ (supply = .canceled → cell.supply = .canceled) ∧
    (cell.supply.IsTerminal → supply = cell.supply)

variable {p : Passage} {i : Nat} {s s' : Session MemoryHost E} {cell : Cell} {intake : Intake}
variable {lock : Option WriterToken} {f : Footprint}

theorem Far.of_frame (hf : Frame f s s') (hr : p.readable (i + 1) ∉ f.readables)
    (hb : p.bridge i ∉ f.bridges) (h : p.Far i cell intake s) : p.Far i cell intake s' := by
  obtain ⟨supply, hsource, ⟨bridge, hbridge, hparts⟩, hrest⟩ := h
  exact ⟨supply, hsource.of_frame hf hr, ⟨bridge, (hf.bridge _ hb).trans hbridge, hparts⟩, hrest⟩

theorem readable_within_far :
    ({ readables := {p.readable (i + 1)} } : Footprint).Within (p.far i) :=
  ⟨subset_rfl, subset_rfl, Set.empty_subset _, subset_rfl, subset_rfl⟩

theorem bridge_within_far : ({ bridges := {p.bridge i} } : Footprint).Within (p.far i) :=
  ⟨Set.empty_subset _, subset_rfl, subset_rfl, subset_rfl, subset_rfl⟩

/-- What is written to a transform stream is queued. -/
theorem Far.write {sink : Sink E} {chunk : Bytes}
    (hw : s.streams.sink? (p.writable i) = some sink)
    (hk : sink.backing = .transform (p.bridge i)) (h : p.Far i cell intake s)
    (hstate : intake.state = .writable) (hchunk : chunk ≠ []) :
    ∃ outcome s', exec (Session.writeAlgorithm (p.writable i) chunk) s = (outcome, s') ∧
      Frame (p.far i) s s' ∧ p.Far i cell (intake.afterWrite chunk outcome) s' := by
  obtain ⟨supply, ⟨source, hs, hback, hstands⟩, ⟨bridge, hb, hr, hbw, ht⟩, hanswers,
    haccounts, -, -, hterminal⟩ := h
  have hopen : supply.IsOpen := by
    rw [hstate] at hanswers
    exact Supply.Answers.open_of_writable hanswers
  obtain ⟨hreadable, hclose, -⟩ := hstands.open_shows hopen
  have hwork := Session.exec_writeAlgorithm_identity hw hk hb ht (hr ▸ hs) hreadable hclose hchunk
  refine ⟨_, _, hwork, ?_, (Cell.queued { cell with supply } chunk).supply,
    ⟨{ source with controller := source.controller.queued chunk }, ?_, hback,
      hstands.queued hopen hchunk⟩, ⟨{ bridge with pullRequested := false }, ?_, hr, hbw, ht⟩,
    hstate, Cell.queued_accounts { cell with supply } hopen haccounts chunk, fun _ => trivial,
    nofun, fun hterm => ?_⟩
  · rw [hr]
    exact (((Frame.setBridge s (p.bridge i) _).mono bridge_within_far).trans
      ((Frame.noteEnqueued _ _ _).mono Footprint.empty_within)).trans
      ((Frame.setSource _ (p.readable (i + 1)) _).mono readable_within_far)
  · rw [hr]
    simp [Registry.source?_setSource, hs]
  · simp [Registry.bridge?_setBridge, hb]
  · exact absurd hterm (Supply.IsOpen.not_terminal (hterminal hterm ▸ hopen))

/-- Closing a transform stream ends its readable half. -/
theorem Far.close {sink : Sink E} (hw : s.streams.sink? (p.writable i) = some sink)
    (hk : sink.backing = .transform (p.bridge i)) (h : p.Far i cell intake s)
    (hstate : intake.state = .writable) :
    ∃ outcome s', exec (Session.closeAlgorithm (p.writable i)) s = (outcome, s') ∧
      Frame (p.far i) s s' ∧ p.Far i cell (intake.afterClose outcome) s' := by
  obtain ⟨supply, ⟨source, hs, hback, hstands⟩, ⟨bridge, hb, hr, hbw, ht⟩, hanswers,
    haccounts, -, -, hterminal⟩ := h
  have hopen : supply.IsOpen := by
    rw [hstate] at hanswers
    exact Supply.Answers.open_of_writable hanswers
  have hwork := Session.exec_closeAlgorithm_identity hw hk hb ht (hr ▸ hs)
    (hstands.open_shows hopen).1
  refine ⟨_, _, hwork, ?_, (Cell.finished { cell with supply }).supply,
    ⟨{ source with controller := source.controller.finish }, ?_, hback, hstands.finished hopen⟩,
    ⟨bridge, hb, hr, hbw, ht⟩, ?_,
    Cell.finished_accounts { cell with supply } hopen haccounts,
    fun _ => Cell.finished_healthy _, ?_, fun hterm => ?_⟩
  · rw [hr]
    exact (Frame.setSource _ (p.readable (i + 1)) _).mono readable_within_far
  · rw [hr]
    simp [Registry.source?_setSource, hs]
  · rcases Cell.finished_cases { cell with supply } with ⟨-, hf⟩ | ⟨-, hf⟩ <;> rw [hf] <;> rfl
  · rcases Cell.finished_cases { cell with supply } with ⟨-, hf⟩ | ⟨-, hf⟩ <;> rw [hf] <;> nofun
  · exact absurd hterm (Supply.IsOpen.not_terminal (hterminal hterm ▸ hopen))

/-- Aborting a transform stream fails its readable half. -/
theorem Far.abort {sink : Sink E} (hw : s.streams.sink? (p.writable i) = some sink)
    (hk : sink.backing = .transform (p.bridge i)) (h : p.Far i cell intake s)
    (hstate : intake.state = .writable) (hc : ¬ p.calm) (reason : Option String) :
    ∃ outcome s', exec (Session.abortAlgorithm (p.writable i) reason) s = (outcome, s') ∧
      Frame (p.far i) s s' ∧ p.Far i cell intake.afterAbort s' := by
  obtain ⟨supply, ⟨source, hs, hback, hstands⟩, ⟨bridge, hb, hr, hbw, ht⟩, hanswers,
    haccounts, -, -, hterminal⟩ := h
  have hopen : supply.IsOpen := by
    rw [hstate] at hanswers
    exact Supply.Answers.open_of_writable hanswers
  have hwork := Session.exec_abortAlgorithm_transform reason hw hk hb
  rw [hr] at hwork
  refine ⟨_, _, hwork, ?_, .failed .aborted,
    ⟨{ source with controller := source.controller.error .aborted }, ?_, hback,
      hstands.failed hopen .aborted⟩, ⟨{ bridge with errored := true }, ?_, hr, hbw, ht⟩, ⟨_, rfl⟩,
    ?_, fun hn => absurd hn hc, nofun, fun hterm => ?_⟩
  · exact ((Frame.setBridge s (p.bridge i) _).mono bridge_within_far).trans
      (((Frame.modifySource _ (p.readable (i + 1)) _)).mono readable_within_far)
  · simp [Registry.source?_modifySource, hs]
  · simp [Registry.bridge?_setBridge, hb, hr]
  · rw [hopen.eq] at haccounts
    exact ⟨_, haccounts.symm⟩
  · exact absurd hterm (Supply.IsOpen.not_terminal (hterminal hterm ▸ hopen))

/-- A transform stream as the destination of a pipe. -/
def crossingOutlet (E : Type) (p : Passage) (hp : p.Distinct) (i : Nat) (hi : i < p.length)
    (cell : Cell) : p.Outlet E i where
  backing := .transform (p.bridge i)
  footprint := p.far i
  Behind := p.Far i cell
  unwritten := rfl
  unpiped := rfl
  apart :=
    { readables := by
        rintro _ rfl
        exact hp.readable_notMem hi (Nat.lt_succ_self i)
      writables := fun _ h => h.elim
      bridges := by
        rintro _ rfl ⟨j, hj, he⟩
        have := hp.bridge _ _ hi (by omega) he
        omega
      pipes := fun _ h => h.elim
      bodies := fun _ h => h.elim }
  frame hf ha h := h.of_frame hf (fun hm => ha.readables _ hm rfl) (fun hm => ha.bridges _ hm rfl)
  unbroken h hc error he := by
    obtain ⟨supply, -, -, hanswers, -, hhealthy, -, -⟩ := h
    rw [he] at hanswers
    have hh := hhealthy hc
    cases supply with
    | flowing queue | draining queue | ended => cases hanswers
    | canceled | failed error => exact hh
  write := Far.write
  close := Far.close
  abort := Far.abort

end Passage

end EdgeStreams
