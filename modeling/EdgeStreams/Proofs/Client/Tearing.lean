import EdgeStreams.Proofs.Client.Showing
import EdgeStreams.Proofs.Session.Delivering

/-!
# Tearing down a pipe

Whoever aborts what a readable stream is piped into tears down the pipe: its destination is aborted,
its source is cancelled, both are unlocked, and the pipe has failed. This succeeds whatever the host
and the guests make of it. Doing it again does nothing.

## Main definitions

- `Session.TornDown`: what has become of a pipe, of its ends and of the other pipes

## Main statements

- `Session.exec_abortCorrelated_of_pipe`: what is done to a running pipe
- `Session.tornDown_abortCorrelated`: what becomes of it
- `Session.TornDown.abortCorrelated_again`: nothing reaches the host or a guest any more
-/

namespace EdgeStreams

variable {H E : Type}

namespace Session

variable [Host H] {s t : Session H E}

/-- What has become of a pipe that was torn down. The pipe has failed and the others are as they
were. Its source has ended or failed and has nothing left; its destination has failed, as has the
readable half behind it. -/
structure TornDown (s t : Session H E) (id : PipeId) (pipe : Pipe) : Prop where
  failed : t.streams.pipe? id = some { pipe with state := .failed .aborted }
  others : ∀ other, other ≠ id → t.streams.pipe? other = s.streams.pipe? other
  source : ∃ source, t.streams.source? pipe.source = some source ∧ source.readerLock = none ∧
    source.controller.state ≠ .readable ∧ source.controller.queue = []
  unpiped : t.streams.pipedTo? pipe.source = none
  destination : ∃ sink error, t.streams.sink? pipe.destination = some sink ∧
    sink.writerLock = none ∧
    sink.controller.state = .errored error ∧ (s.streams.Accepts pipe.destination → error = .aborted)
  half : ∀ sink name bridge source, s.streams.sink? pipe.destination = some sink →
    sink.controller.state = .writable → sink.backing = .transform name →
      s.streams.bridge? name = some bridge → s.streams.source? bridge.readable = some source →
        source.controller.state = .readable → ∃ source',
          t.streams.source? bridge.readable = some source' ∧
            source'.controller.state = .errored .aborted

theorem exec_abortCorrelated_of_pipe {source : ReadableId} {id : PipeId} {pipe : Pipe}
    (hfrom : s.streams.pipeFrom? source = some (id, pipe)) (reason : Option String) :
    exec (abortCorrelated source reason) s =
      (.ok (), pipeFinished id (.failed .aborted)
        (exec (cancel source reason (some pipe.reader))
          (exec (abort pipe.destination reason (some pipe.writer)) s).2).2) := by
  simp only [abortCorrelated, exec_bind, exec_get, hfrom, exec_caught, exec_modify, pipeFinished]

/-! ### Aborting the destination -/

section Abort

variable (hc : s.streams.Composed) {id : WritableId} {sink : Sink E}
variable (hk : s.streams.sink? id = some sink)
include hc hk

/-- A stream that has not been closed has failed once it is aborted. -/
theorem errored_abortUnchecked (hopen : sink.controller.state ≠ .closed) (reason : Option String) :
    ∃ sink' error, (exec (abortUnchecked id reason) s).2.streams.sink? id = some sink' ∧
      sink'.controller.state = .errored error ∧
        (sink.controller.state = .writable → error = .aborted) := by
  cases hstate : sink.controller.state with
  | closed => exact absurd hstate hopen
  | closing => exact absurd hstate (hc.idle hk).unending
  | errored error =>
    rw [exec_abortUnchecked_of_terminal hk (by simp [hstate, WritableState.isTerminal])]
    exact ⟨sink, error, hk, hstate, fun hwritable => absurd hwritable (by simp)⟩
  | writable =>
    rw [exec_abortUnchecked_of_idle hk (hc.idle hk) hstate, exec_noting]
    have hduring : (setSink id (sink.failing .aborted) s).streams.sink? id =
        some (sink.failing .aborted) := by simp [Registry.sink?_setSink, hk]
    have hsilent := asksNothing_abortAlgorithm id reason (setSink id (sink.failing .aborted) s)
    obtain ⟨sink', hk', hripples⟩ := SlotMap.rel_some_left (hduring ▸ hsilent.sink id)
    have hfailed : (sink.failing .aborted).controller.state = .errored .aborted := by
      rw [Sink.failing_of_writable hstate]
    refine ⟨sink', .aborted, hk', ?_, fun _ => rfl⟩
    rcases hripples with rfl | ⟨hwritable, -⟩
    · exact hfailed
    · cases hfailed.symm.trans hwritable

/-- The readable half behind an aborted stream fails, too. -/
theorem half_abortUnchecked (hw : sink.controller.state = .writable) {name : BridgeId}
    {bridge : Bridge E} {source : Source E} (hback : sink.backing = .transform name)
    (hb : s.streams.bridge? name = some bridge)
    (hs : s.streams.source? bridge.readable = some source)
    (hreadable : source.controller.state = .readable) (reason : Option String) :
    ∃ source', (exec (abortUnchecked id reason) s).2.streams.source? bridge.readable =
      some source' ∧ source'.controller.state = .errored .aborted := by
  rw [exec_abortUnchecked_of_idle hk (hc.idle hk) hw, exec_noting]
  have hduring : (setSink id (sink.failing .aborted) s).streams.sink? id =
      some (sink.failing .aborted) := by simp [Registry.sink?_setSink, hk]
  have hfound : (setSink id (sink.failing .aborted) s).streams.bridge? name = some bridge := hb
  rw [exec_abortAlgorithm_transform reason hduring hback hfound]
  refine ⟨{ source with controller := source.controller.error .aborted }, ?_, ?_⟩
  · simp [setBridge, Registry.source?_modifySource, hs]
  · simp [ReadableController.error, hreadable]

end Abort

/-- Once what it is piped into has been aborted, and it has been cancelled, a stream is over and has
nothing left. -/
theorem over_of_parts (hc : s.streams.Composed) {id : ReadableId} {first between last : Session H E}
    (hinOrder : PassedInOrder id first s) {destination : WritableId} {reason : Option String}
    (hbetween : between = (exec (abortUnchecked destination reason) s).2)
    (hlast : last = (exec (cancelUnchecked id reason) between).2) {source : Source E}
    (hs : last.streams.source? id = some source) :
    source.controller.state ≠ .readable ∧ source.controller.queue = [] := by
  have haborts := flowsTo_abortUnchecked hc destination reason
  rw [← hbetween] at haborts
  have hcBetween := haborts.composed hc
  have hcancels := flowsTo_cancelUnchecked hcBetween id reason
  have hover : (exec (cancelUnchecked id reason) between).2.streams.IsOver id := by
    refine isOver_cancelUnchecked hcBetween (fun hfound hcanceled => ?_) reason
    -- one that has been cancelled before is over
    obtain ⟨put, taken, -, -, hpassed⟩ := haborts.passedInOrder hc hinOrder
    rw [hfound] at hpassed
    cases hpassed with
    | lives hq => exact hq.shut hcanceled
  rw [← hlast] at hcancels hover
  have hstate := hover _ hs
  obtain ⟨put, taken, -, -, hpassed⟩ := (haborts.trans hcancels).passedInOrder hc hinOrder
  rw [hs] at hpassed
  cases hpassed with
  | lives hq => exact ⟨hstate, hq.emptied hstate⟩

/-! ### The whole of it -/

section Tearing

variable {held spent : Set Nat} (hc : s.streams.Composed) (ho : s.streams.Orderly held spent)
variable {id : PipeId} {pipe : Pipe} (hp : s.streams.pipe? id = some pipe) (hr : pipe.isRunning)
include hc ho hp hr

omit hc in
/-- A running pipe is torn down in three parts, none of which is refused. -/
theorem abortCorrelated_parts (reason : Option String) : ∃ between last,
    between = (exec (abortUnchecked pipe.destination reason) s).2 ∧
      last = (exec (cancelUnchecked pipe.source reason) between).2 ∧
        exec (abortCorrelated pipe.source reason) s =
          (.ok (), pipeFinished id (.failed .aborted) last) := by
  obtain ⟨⟨source, hs, hlock, -⟩, sink, hk, hwlock⟩ := ho.holds id pipe hp hr
  refine ⟨_, _, rfl, rfl, ?_⟩
  have haborts : exec (abort pipe.destination reason (some pipe.writer)) s =
      exec (abortUnchecked pipe.destination reason) s := hwlock ▸ exec_abort_of_lock hk reason
  have hfrom := s.streams.pipeFrom?_eq_some hp hr fun other pipe' hp' hr' hsame =>
    ho.source_inj hp' hr' hp hr hsame
  rw [exec_abortCorrelated_of_pipe hfrom, haborts]
  have htouches : ChangesWithin (s.streams.sinkReach pipe.destination) s
      (exec (abortUnchecked pipe.destination reason) s).2 :=
        changesWithin_abortUnchecked .refl reason s .refl
  obtain ⟨source', hs', hkeeps⟩ := htouches.source_after hs
  have hlock' : source'.readerLock = some pipe.reader := hkeeps.readerLock.trans hlock
  have hcancels : exec (cancel pipe.source reason (some pipe.reader))
      (exec (abortUnchecked pipe.destination reason) s).2 =
        exec (cancelUnchecked pipe.source reason)
          (exec (abortUnchecked pipe.destination reason) s).2 := by
    simp [cancel, exec_bind, hs', hlock', Except.bind]
  rw [hcancels]

/-- A running pipe is torn down, whatever the host and the guests answer. -/
theorem tornDown_abortCorrelated (hu : s.streams.Unshut)
    (hwhole : ∀ {id source}, s.streams.source? id = some source → ∃ first, PassedInOrder id first s)
    (reason : Option String) :
    ∃ t, exec (abortCorrelated pipe.source reason) s = (.ok (), t) ∧ s.TornDown t id pipe := by
  obtain ⟨between, last, hbetween, hlast, hrun⟩ := abortCorrelated_parts ho hp hr reason
  refine ⟨_, hrun, ?_⟩
  obtain ⟨⟨source, hs, -⟩, sink, hk, -⟩ := ho.holds id pipe hp hr
  have hopen : sink.controller.state ≠ .closed := fun hshut => hu id pipe hp hr ⟨sink, hk, hshut⟩
  have haborts : ChangesWithin (s.streams.sinkReach pipe.destination) s
      (exec (abortUnchecked pipe.destination reason) s).2 :=
        changesWithin_abortUnchecked .refl reason s .refl
  have hcancels : ChangesWithin (between.streams.sourceReach pipe.source) between
      (exec (cancelUnchecked pipe.source reason) between).2 :=
    changesWithin_cancelUnchecked .refl reason between .refl
  rw [← hbetween] at haborts
  rw [← hlast] at hcancels
  -- the locks are as they were until the end of the pipe
  have hpipes : ∀ other, last.streams.pipe? other = s.streams.pipe? other := fun other =>
    (Registry.pipe?_congr hcancels.pipes_eq other).trans
      (Registry.pipe?_congr haborts.pipes_eq other)
  have hpLast := (hpipes id).trans hp
  have hoLast := (ho.of_sameLocks haborts.sameLocks).of_sameLocks hcancels.sameLocks
  obtain ⟨⟨source', hs', hlock, -⟩, sink', hk', hwlock⟩ := hoLast.holds id pipe hpLast hr
  have hafter : (pipeFinished id (.failed .aborted) last).streams.source? pipe.source =
      some { Registry.unlockReader pipe.reader source' with pipedTo := none } := by
    rw [pipeFinished, streams_mapStreams, Registry.source?_finishPipe _ hpLast hr, if_pos rfl, hs']
    rfl
  -- what the abort has failed stays failed
  have hcBetween : between.streams.Composed := by
    rw [hbetween]
    exact (flowsTo_abortUnchecked hc pipe.destination reason).composed hc
  have hlate : ∃ made, Course between made (pipeFinished id (.failed .aborted) last) := by
    obtain ⟨made, hcourse⟩ := (flowsTo_cancelUnchecked hcBetween pipe.source reason).course
    rw [← hlast] at hcourse
    exact ⟨_, hcourse.step (.finish id _)⟩
  obtain ⟨made, hlate⟩ := hlate
  constructor
  case failed =>
    rw [pipeFinished, streams_mapStreams, Registry.pipe?_finishPipe _ hpLast hr, if_pos rfl]
  case others =>
    intro other hne
    rw [pipeFinished, streams_mapStreams, Registry.pipe?_finishPipe _ hpLast hr, if_neg hne, hpipes]
  case source =>
    obtain ⟨first, hinOrder⟩ := hwhole hs
    obtain ⟨hstate, hqueue⟩ := over_of_parts hc hinOrder hbetween hlast hs'
    refine ⟨_, hafter, by simp [Registry.unlockReader, hlock], ?_, ?_⟩
    · exact Registry.controller_unlockReader pipe.reader source' ▸ hstate
    · exact Registry.controller_unlockReader pipe.reader source' ▸ hqueue
  case unpiped =>
    simp [Registry.pipedTo?, hafter]
  case destination =>
    obtain ⟨failing, error, hfailing, herror, haborted⟩ := errored_abortUnchecked hc hk hopen reason
    rw [← hbetween] at hfailing
    obtain ⟨final, hfinal, hsame⟩ := hlate.stuck hcBetween hfailing (by simp [herror])
    refine ⟨final, error, hfinal, ?_, hsame ▸ herror, fun haccepts => ?_⟩
    · rw [pipeFinished, streams_mapStreams, Registry.sink?_finishPipe _ hpLast hr,
        if_pos rfl, hk'] at hfinal
      cases hfinal
      simp [Registry.unlockWriter, hwlock]
    · exact haborted ((Registry.accepts_iff hk).mp haccepts)
  case half =>
    intro found name bridge half hfound hwritable hback hb hhalf hreadable
    cases hk.symm.trans hfound
    obtain ⟨half', hhalf', herror⟩ :=
      half_abortUnchecked hc hk hwritable hback hb hhalf hreadable reason
    rw [← hbetween] at hhalf'
    obtain ⟨half'', hhalf'', hstays⟩ := hlate.stays hcBetween hhalf'
    exact ⟨half'', hhalf'', (hstays.controller.state (by simp [herror])).trans herror⟩

omit [Host H] hc in
/-- No other pipe runs out of the source of a pipe that has been torn down. -/
theorem TornDown.pipeFrom?_eq (ht : s.TornDown t id pipe) :
    t.streams.pipeFrom? pipe.source = none := by
  cases hfrom : t.streams.pipeFrom? pipe.source with
  | none => rfl
  | some found =>
    obtain ⟨hfound, hrunning, hsource⟩ := Registry.of_pipeFrom?_eq_some t.streams hfrom
    obtain ⟨other, pipe'⟩ := found
    by_cases he : other = id
    · rw [he, ht.failed] at hfound
      cases hfound
      simp [Pipe.isRunning] at hrunning
    · rw [ht.others other he] at hfound
      exact absurd (ho.source_inj hfound hrunning hp hr hsource) he

omit hc in
/-- A pipe that has been torn down is not torn down again: neither the host nor a guest is called,
whatever it would answer. -/
theorem TornDown.abortCorrelated_again (ht : s.TornDown t id pipe) (reason : Option String) :
    ∃ (result : Except StreamError Unit) (streams : Registry E), ∀ (host : H) (env : E),
      exec (abortCorrelated pipe.source reason) { t with host, env } =
        (result, { t with host, env, streams }) := by
  obtain ⟨source, hs, hlock, hstate, -⟩ := ht.source
  have hfrom := ht.pipeFrom?_eq ho hp hr
  have hlocked : t.streams.isLocked pipe.source = false := by simp [Registry.isLocked, hs, hlock]
  have hquiet : ∀ (host : H) (env : E), exec (abortCorrelated pipe.source reason)
    { t with host, env } =
      exec (cancelUnchecked pipe.source reason) { t with host, env } := fun host env => by
    simp [abortCorrelated, exec_bind, hfrom, ht.unpiped, hlocked]
  simp only [hquiet, cancelUnchecked, exec_bind, exec_source, hs, Registry.need_some]
  cases hcontroller : source.controller.state with
  | readable => exact absurd hcontroller hstate
  | closed => exact ⟨.ok (), t.streams.setSource pipe.source { source with disturbed := true },
      fun _ _ => rfl⟩
  | errored error =>
    exact ⟨.error error, t.streams.setSource pipe.source { source with disturbed := true },
      fun _ _ => rfl⟩

end Tearing

end Session

end EdgeStreams
