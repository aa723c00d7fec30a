import EdgeStreams.Proofs.Session.Regions

/-!
# What a run does to a session

Reading, pulling and driving pipes call each other to any depth. Whatever they come to, all that
they have done to the session is a sequence of moves: work on some streams, an entry in the journal,
a mark on a pipe that is being driven, and the end of a pipe. Where the streams are does not matter
here: these are the moves within the region of everything.

## Main definitions

- `Session.MovesTo`: one move after another

## Main statements

- `Session.flowMoves`: reading, pulling and driving a pipe
- `Session.movesTo_pump`, `Session.movesTo_pipeTo`, `Session.movesTo_abortCorrelated`: operations on
  pipes

## Design notes

A move may work on any streams, whoever holds their locks. That is more than a run ever does, so
that what every move preserves is preserved by every run and holds in all its states on the way.
-/

namespace EdgeStreams

variable {H E : Type}

namespace Session

variable [Host H]

/-- One move after another. -/
inductive MovesTo (s : Session H E) : Session H E → Prop
  | refl : MovesTo s s
  | touch {t u : Session H E} {f : Footprint} : MovesTo s t → ChangesWithin f t u → MovesTo s u
  | note {t : Session H E} (event : StreamEvent) : MovesTo s t → MovesTo s (note event t)
  /-- A pipe starts or stops being driven. -/
  | drive {t : Session H E} {id : PipeId} {pipe : Pipe} (pumping : Bool) :
    MovesTo s t → t.streams.pipe? id = some pipe →
      MovesTo s (mapStreams (fun streams => streams.setPipe id { pipe with pumping }) t)
  | finish {t : Session H E} (id : PipeId) {state : PipeState} :
    MovesTo s t → state ≠ .running → MovesTo s (pipeFinished id state t)

namespace MovesTo

variable {s t u : Session H E}

theorem trans (h : MovesTo s t) (h' : MovesTo t u) : MovesTo s u := by
  induction h' with
  | refl => exact h
  | touch _ ht ih => exact ih.touch ht
  | note event _ ih => exact ih.note event
  | drive pumping _ hp ih => exact ih.drive pumping hp
  | finish id _ hs ih => exact ih.finish id hs

theorem of_changesWithin {f : Footprint} (h : ChangesWithin f s t) : MovesTo s t := refl.touch h

/-- Moves anywhere are moves in the region of everything. -/
theorem movesWithin (h : MovesTo s t) : MovesWithin .all s t := by
  induction h with
  | refl => exact .refl
  | touch _ ht ih => exact ih.touch (ht.mono (Region.within_all _))
  | note event _ ih => exact ih.note event
  | drive pumping _ hp ih => exact ih.drive pumping trivial hp
  | finish id _ hs ih => exact ih.finish trivial hs

theorem of_movesWithin {region : Region} (h : MovesWithin region s t) : MovesTo s t := by
  induction h with
  | refl => exact .refl
  | touch _ ht ih => exact ih.touch ht
  | note event _ ih => exact ih.note event
  | drive pumping _ _ hp ih => exact ih.drive pumping hp
  | finish _ _ hs ih => exact ih.finish _ hs

/-- A source that counts as disturbed does so for ever. -/
theorem disturbed (h : MovesTo s t) {id : ReadableId} (hd : s.streams.isDisturbed id = true) :
    t.streams.isDisturbed id = true := h.movesWithin.disturbed hd

/-- A sink that lives stays. -/
theorem containsWritable (h : MovesTo s t) {id : WritableId}
    (hs : s.streams.containsWritable id = true) : t.streams.containsWritable id = true := by
  simp only [Registry.containsWritable, Option.isSome_iff_exists] at hs ⊢
  induction h with
  | refl => exact hs
  | touch _ ht ih =>
    obtain ⟨sink, hsink⟩ := ih
    obtain ⟨sink', hsink', -⟩ := ht.sink_after hsink
    exact ⟨sink', hsink'⟩
  | note _ _ ih | drive _ _ _ ih => exact ih
  | @finish t pid state _ _ ih =>
    by_cases hrun : ∃ pipe, t.streams.pipe? pid = some pipe ∧ pipe.isRunning
    · obtain ⟨pipe, hp, hr⟩ := hrun
      obtain ⟨sink, hsink⟩ := ih
      simp only [pipeFinished, streams_mapStreams, Registry.sink?_finishPipe state hp hr]
      by_cases hid : id = pipe.destination
      · rw [if_pos hid, ← hid, hsink]
        exact ⟨_, rfl⟩
      · rw [if_neg hid]
        exact ⟨sink, hsink⟩
    · rw [pipeFinished, streams_mapStreams, Registry.finishPipe_of_not_running]
      · exact ih
      · exact fun pipe hp hr => hrun ⟨pipe, hp, hr⟩

/-- A source is marked as disturbed. -/
theorem disturb (h : MovesTo s t) {id : ReadableId} {source : Source E}
    (hs : t.streams.source? id = some source) : MovesTo s (disturb id source t) :=
  of_movesWithin (h.movesWithin.disturb trivial hs)

/-- A source that counts as disturbed changes. -/
theorem setSource (h : MovesTo s t) {id : ReadableId} {source source' : Source E}
    (hd : s.streams.isDisturbed id = true) (hs : t.streams.source? id = some source)
    (hk : source.Keeps source') : MovesTo s (setSource id source' t) :=
  of_movesWithin (h.movesWithin.setSource trivial hd hs hk)

end MovesTo

variable {s t : Session H E}

/-! ### The parts of a run -/

theorem movesTo_cancelSource (pipe : Pipe) (s : Session H E) : MovesTo s (cancelSource pipe s).2 :=
  .of_changesWithin (changesWithin_cancelSource pipe s)

theorem movesTo_abortDestination (pipe : Pipe) (s : Session H E) :
    MovesTo s (abortDestination pipe s).2 :=
      .of_changesWithin (changesWithin_abortDestination pipe s)

theorem movesTo_closeDestination (pipe : Pipe) (s : Session H E) :
    MovesTo s (closeDestination pipe s).2 ∧ (closeDestination pipe s).1 ≠ .running :=
  ⟨.of_changesWithin (changesWithin_closeDestination pipe s).1,
    (changesWithin_closeDestination pipe s).2⟩

theorem movesTo_takeReady {id : ReadableId} (hd : s.streams.isDisturbed id = true) :
    MovesTo s (exec (takeReady id) s).2 :=
  .of_movesWithin (movesWithin_takeReady (show id ∈ Region.all.reach.readables from trivial) hd)

/-- What leads to every outcome that there is with some fuel. -/
structure FlowMoves (H E : Type) [Host H] (fuel : Nat) : Prop where
  readUnchecked {s : Session H E} {id : ReadableId}
    {r : Except StreamError ReadOutcome × Session H E} :
    attempt (Session.readUnchecked fuel id) s = some r → MovesTo s r.2
  pullIfNeeded {s : Session H E} {id : ReadableId} {readerWaits : Bool} {r : Unit × Session H E} :
    s.streams.isDisturbed id = true →
      EdgeStreams.drive (Session.pullIfNeeded fuel id readerWaits) s = some r → MovesTo s r.2
  pull {s : Session H E} {id : ReadableId} {r : Except StreamError Unit × Session H E} :
    s.streams.isDisturbed id = true →
      attempt (Session.pull fuel id) s = some r → MovesTo s r.2
  pumpPipe {s : Session H E} {id : PipeId} {r : Nat × Session H E} :
    EdgeStreams.drive (Session.pumpPipe fuel id) s = some r → MovesTo s r.2
  pumpSteps {s : Session H E} {id : PipeId} {pipe : Pipe} {steps : Nat} {r : Nat × Session H E} :
    EdgeStreams.drive (Session.pumpSteps fuel id pipe steps) s = some r → MovesTo s r.2

/-- Nothing leaves the region of everything. -/
theorem flowMoves (fuel : Nat) : FlowMoves H E fuel := by
  have hflow : FlowMovesWithin H E .all fuel := flowMovesWithin .all fuel
  refine ⟨fun h => ?_, fun hd h => ?_, fun hd h => ?_, fun h => ?_, fun h => ?_⟩
  · exact .of_movesWithin (hflow.readUnchecked (Region.closed_all _).toSealed trivial h)
  · exact .of_movesWithin (hflow.pullIfNeeded (Region.closed_all _).toSealed trivial hd h)
  · exact .of_movesWithin (hflow.pull (Region.closed_all _).toSealed trivial hd h)
  · exact .of_movesWithin (hflow.pumpPipe (Region.closed_all _).toSealed trivial h)
  · exact .of_movesWithin (hflow.pumpSteps (Region.closed_all _).toSealed trivial
      (Region.joins_all _) h)

/-! ### Operations -/

variable {fuel : Nat}

theorem movesTo_read {id : ReadableId} {token : Option ReaderToken}
    {r : Except StreamError ReadOutcome × Session H E}
    (h : attempt (read fuel id token) s = some r) : MovesTo s r.2 :=
  .of_movesWithin (movesWithin_read (Region.closed_all _).toSealed trivial h)

theorem movesTo_pumpPipe {id : PipeId} {r : Nat × Session H E}
    (h : drive (pumpPipe fuel id) s = some r) : MovesTo s r.2 := (flowMoves fuel).pumpPipe h

theorem movesTo_pumpEach {pipes : List PipeId} {r : Nat × Session H E}
    (h : drive (pumpEach fuel pipes) s = some r) : MovesTo s r.2 := by
  induction pipes generalizing s r with
  | nil =>
    simp only [drive_pumpEach_nil, Option.some.injEq] at h
    exact h ▸ .refl
  | cons id rest ih =>
    rw [drive_pumpEach_cons] at h
    obtain ⟨first, hfirst, h⟩ := Option.bind_eq_some_iff.mp h
    obtain ⟨others, hothers, rfl⟩ := Option.map_eq_some_iff.mp h
    exact (movesTo_pumpPipe hfirst).trans (ih (r := others) hothers)

/-- By induction on the rounds. -/
theorem movesTo_pump {r : Nat × Session H E} (h : drive (pump fuel) s = some r) :
    MovesTo s r.2 := by
  induction fuel generalizing s r with
  | zero => cases h
  | succ fuel ih =>
    rw [drive_pump] at h
    obtain ⟨round, hround, h⟩ := Option.bind_eq_some_iff.mp h
    split at h
    · simp only [Option.some.injEq] at h
      exact h ▸ movesTo_pumpEach (r := round) hround
    · obtain ⟨others, hothers, rfl⟩ := Option.map_eq_some_iff.mp h
      exact (movesTo_pumpEach hround).trans (ih (r := others) hothers)

/-- A pipe has been opened or refused, and then driven as far as it goes. -/
theorem movesTo_pipeTo {source : ReadableId} {destination : WritableId} {options : PipeOptions}
    {r : Except StreamError PipeId × Session H E}
    (h : attempt (pipeTo fuel source destination options) s = some r) :
    MovesTo { s with streams := (exec (Registry.openPipe source destination options) s.streams).2 }
      r.2 :=
  .of_movesWithin (movesWithin_pipeTo (Region.closed_all _).toSealed (fun _ => trivial) h)

theorem movesTo_abortCorrelated (source : ReadableId) (reason : Option String) (s : Session H E) :
    MovesTo s (exec (abortCorrelated source reason) s).2 :=
  .of_movesWithin (movesWithin_abortCorrelated (Region.closed_all _)
    trivial (fun _ _ _ => trivial) reason)

end Session

end EdgeStreams
