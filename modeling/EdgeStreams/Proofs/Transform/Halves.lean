import EdgeStreams.Proofs.Registry.Locks
import EdgeStreams.Proofs.Session.Delivering
import EdgeStreams.Proofs.Session.Draining
import EdgeStreams.Proofs.Session.Ending
import EdgeStreams.Proofs.Transform.Output

/-!
# The halves of a transform stream at work

As long as nobody but its writer and its reader has to do with a transform stream, all that there is
to know of it is which chunks wait in its readable half and whether its writable half has been
ended.

## Main definitions

- `Session.Relays`: a transform stream in which some chunks wait

## Main statements

- `Session.relays_createTransform`: a transform stream that has just been made
- `Session.Relays.write`, `Session.Relays.close`, `Session.Relays.read`: what is done to the halves
-/

namespace EdgeStreams

variable {H E : Type}

/-- What a reader comes to where some chunks wait, to which none is added once the stream is
ended. -/
def firstOf (waiting : List Bytes) (ended : Bool) : ReadOutcome :=
  match waiting with
  | chunk :: _ => .chunk chunk
  | [] => if ended then .done else .pending

/-- Some chunks wait in a queue that is open, or has been ended. -/
structure ReadableController.Holds (waiting : List Bytes) (ended : Bool)
    (controller : ReadableController) : Prop where
  queue : controller.queue = waiting
  outlook : if ended then controller.HasEnded else controller.IsOpen

/-- The readable half of a transform stream, unlocked, in which some chunks wait. -/
structure Source.Relays (bridge : BridgeId) (waiting : List Bytes) (ended : Bool)
    (source : Source E) : Prop where
  backing : source.backing = .transform bridge
  start : source.start = .resolved
  lock : source.readerLock = none
  pulling : source.pulling = false
  pullAgain : source.pullAgain = false
  controller : source.controller.Holds waiting ended

/-- The writable half of a transform stream, unlocked and with nothing to do. -/
structure Sink.Relays (bridge : BridgeId) (ended : Bool) (sink : Sink E) : Prop where
  backing : sink.backing = .transform bridge
  lock : sink.writerLock = none
  idle : sink.Idle
  state : sink.controller.state = if ended then .closed else .writable

namespace ReadableController.Holds

variable {controller : ReadableController} {waiting : List Bytes} {ended : Bool}

/-- A reader takes the first chunk. If none waits, it finds the end, or has to wait. -/
theorem takeReady (h : controller.Holds waiting ended) :
    controller.takeReady.1.map Session.orPending = .ok (firstOf waiting ended) ∧
      (controller.takeReady.1 = .ok none → waiting = [] ∧ ended = false) ∧
        controller.takeReady.2.Holds waiting.tail ended := by
  obtain ⟨hqueue, houtlook⟩ := h
  cases waiting with
  | nil =>
    cases ended with
    | false =>
      simp only [Bool.false_eq_true, if_false] at houtlook
      rw [houtlook.takeReady hqueue]
      exact ⟨rfl, fun _ => ⟨rfl, rfl⟩, hqueue, houtlook⟩
    | true =>
      simp only [if_true] at houtlook
      rw [houtlook.takeReady hqueue]
      exact ⟨rfl, (fun h => by cases h), hqueue, houtlook⟩
  | cons chunk rest =>
    have hstate : controller.state = .readable := by
      cases ended with
      | false => exact houtlook.state
      | true =>
        have hs := houtlook.state
        rwa [hqueue] at hs
    simp only [ReadableController.takeReady, hstate, dequeue, hqueue]
    refine ⟨rfl, (fun h => by cases h), rfl, ?_⟩
    cases ended with
    | false => exact ⟨by simp [houtlook.close], houtlook.close⟩
    | true => exact ⟨houtlook.close, by simp [houtlook.close]⟩

end ReadableController.Holds

/-- The work of a sink that has gone well leaves it as it was. -/
theorem Sink.Idle.rested_working {sink : Sink E} (h : sink.Idle) :
    sink.working.rested (.ok ()) = sink := by
  obtain ⟨backing, ⟨mark, pending, size, inFlight, aborting, state⟩, start, owner,
      lock, released⟩ :=
    sink
  obtain ⟨rfl, rfl, rfl, -, -⟩ := h
  rfl

namespace Session

variable {s t : Session H E} {stream : TransformStream} {transformer : Transformer E}
variable {waiting new : List Bytes} {ended : Bool} {env : E}

/-- A transform stream that nobody else has to do with, and in which some chunks wait. -/
structure Relays (stream : TransformStream) (transformer : Transformer E) (waiting : List Bytes)
    (ended : Bool) (s : Session H E) : Prop where
  bridge : ∃ bridge, s.streams.bridge? stream.bridge = some bridge ∧
    bridge.readable = stream.readable ∧ bridge.writable = stream.writable ∧
      bridge.transformer = transformer
  source : ∃ source, s.streams.source? stream.readable = some source ∧
    source.Relays stream.bridge waiting ended
  sink : ∃ sink, s.streams.sink? stream.writable = some sink ∧ sink.Relays stream.bridge ended
  unpiped : ∀ name pipe, s.streams.pipe? name = some pipe → pipe.isRunning →
    pipe.destination ≠ stream.writable

/-! ### The writable half -/

/-- Work that neither fails nor ends the stream only adds chunks. -/
theorem transformed_of_fine {bridge : Bridge E} {worked : GuestResult E × TransformDesk}
    (hresult : worked.1 = (.ok (), env)) (hterminated : worked.2.terminated = false)
    (s : Session H E) (name : BridgeId) (source : Source E) :
    transformed bridge worked s name source =
      setSource bridge.readable { source with controller := worked.2.controller }
        (noteEnqueued bridge.readable worked.2.accepted { s with env }) := by
  obtain ⟨result, desk⟩ := worked
  dsimp only at hresult hterminated
  subst hresult
  have hfails : bridgeFails (.ok ()) desk = false := by
    unfold bridgeFails
    cases desk.controller.state <;> simp [hterminated]
  simp [transformed, spread, marked, fed, leftBy, writableFault?, hfails, hterminated]

theorem exec_withTransformer_of_fine {name : BridgeId} {bridge : Bridge E} {source : Source E}
    (work : TransformWork E) {worked : GuestResult E × TransformDesk}
    (hb : s.streams.bridge? name = some bridge)
    (hs : s.streams.source? bridge.readable = some source)
    (hstate : source.controller.state = .readable)
    (hwork : work bridge.transformer s.env { controller := source.controller } = worked)
    (hresult : worked.1 = (.ok (), env)) (hterminated : worked.2.terminated = false) :
    ∃ t, exec (withTransformer name work) s = (.ok (), t) ∧ t.env = env ∧
      t.streams = s.streams.setSource bridge.readable
        { source with controller := worked.2.controller } := by
  have hexec : exec (withTransformer name work) s =
      (.ok (), transformed bridge worked s name source) := by
    simp only [exec_withTransformer, hb, hs, hstate, hwork, hresult]
  rw [transformed_of_fine hresult hterminated] at hexec
  exact ⟨_, hexec, rfl, rfl⟩

/-- Once the transformer has worked and its sink is done with the call, the chunks wait. -/
theorem Relays.after {left : List Bytes} {bridge : Bridge E} {source : Source E}
    {controller : ReadableController} {during sink : Sink E}
    (hb : s.streams.bridge? stream.bridge = some bridge)
    (hreadable : bridge.readable = stream.readable) (hwritable : bridge.writable = stream.writable)
    (hs : s.streams.source? stream.readable = some source)
    (hsource : source.Relays stream.bridge waiting false)
    (hunpiped : ∀ name pipe, s.streams.pipe? name = some pipe → pipe.isRunning →
      pipe.destination ≠ stream.writable)
    (ht : t.streams = s.streams.setSource bridge.readable { source with controller })
    (hcontroller : controller.Holds left ended) (hk : t.streams.sink? stream.writable = some during)
    (hsink : sink.Relays stream.bridge ended) (event : StreamEvent) :
    Relays stream bridge.transformer left ended (setSink stream.writable sink (note event t)) where
  bridge := ⟨bridge, by simpa [ht] using hb, hreadable, hwritable, rfl⟩
  source := by
    refine ⟨{ source with controller }, ?_, hsource.backing, hsource.start, hsource.lock,
      hsource.pulling, hsource.pullAgain, hcontroller⟩
    simp [ht, Registry.source?_setSource, hreadable, hs]
  sink := ⟨sink, by simp [Registry.sink?_setSink, hk], hsink⟩
  unpiped name pipe hp := by
    refine hunpiped name pipe ?_
    rw [← hp]
    exact Registry.pipe?_congr (by simp [ht]) name

section Writing

variable [Host H]

/-- A chunk is handed to the transformer, and what that queues waits. -/
theorem Relays.write (h : Relays stream transformer waiting false s) {chunk : Bytes}
    (hout : TransformProgram.output (transformer.transform chunk s.env) = some (new, env)) :
    ∃ t, exec (Session.write stream.writable chunk none) s = (.ok (), t) ∧
      Relays stream transformer (waiting ++ new) false t ∧ t.env = env := by
  obtain ⟨⟨bridge, hb, hreadable, hwritable, rfl⟩, ⟨source, hs, hsource⟩, ⟨sink, hk, hsink⟩,
    hunpiped⟩ := h
  have hopen : source.controller.IsOpen := hsource.controller.outlook
  have hstate : sink.controller.state = .writable := hsink.state
  obtain ⟨worked, hw⟩ : ∃ worked, TransformWork.transform chunk bridge.transformer s.env
      { controller := source.controller } = worked := ⟨_, rfl⟩
  have hrun := TransformProgram.run_of_output { controller := source.controller } hopen hout
  obtain ⟨hresult, hgains⟩ : worked.1 = (.ok (), env) ∧
      TransformDesk.Gains { controller := source.controller } new worked.2 := hw ▸ hrun
  have hduring : (setSink stream.writable sink.working s).streams.sink? stream.writable =
      some sink.working := by simp [Registry.sink?_setSink, hk]
  obtain ⟨asked, hasked⟩ :
      ∃ asked, asked = setBridge stream.bridge { bridge with pullRequested := false }
      (setSink stream.writable sink.working s) := ⟨_, rfl⟩
  have hb' : asked.streams.bridge? stream.bridge = some { bridge with pullRequested := false } := by
    simp [hasked, Registry.bridge?_setBridge, hb]
  have hs' : asked.streams.source? stream.readable = some source := by simpa [hasked] using hs
  have henv' : asked.env = s.env := hasked ▸ rfl
  obtain ⟨t, hwork, henv, hstreams⟩ := exec_withTransformer_of_fine (.transform chunk) hb'
    (hreadable ▸ hs') hopen.state (henv' ▸ hw) hresult hgains.terminated
  rw [hasked, ← exec_writeAlgorithm_transform hduring hsink.backing hb chunk] at hwork
  have hworked : t.streams.sink? stream.writable = some sink.working := by
    simpa [hstreams, hasked] using hduring
  have hwrite : exec (Session.write stream.writable chunk none) s = _ :=
    hsink.lock ▸ exec_write_of_lock hk
  have hverdict : sink.working.verdict (.ok ()) = .ok () := by
    simp [Sink.verdict, Sink.working, hstate]
  rw [hwrite, exec_writeUnchecked_of_idle hk hsink.idle hstate hwork hworked (.refl _),
    hsink.idle.rested_working, hverdict]
  have hleft : worked.2.controller.Holds (waiting ++ new) false :=
    ⟨hgains.queue.trans (by rw [hsource.controller.queue]), hgains.isOpen⟩
  refine ⟨_, rfl, .after hb' hreadable hwritable hs' hsource (fun name pipe hp => ?_) hstreams hleft
    hworked hsink _, henv⟩
  refine hunpiped name pipe ?_
  rw [← hp]
  exact Registry.pipe?_congr (by simp [hasked]) name

/-- The transformer is told of the end, and no more comes after what that queues. -/
theorem Relays.close (h : Relays stream transformer waiting false s)
    (hout : TransformProgram.output (transformer.flush s.env) = some (new, env)) :
    ∃ t, exec (Session.close stream.writable none) s = (.ok (), t) ∧
      Relays stream transformer (waiting ++ new) true t ∧ t.env = env := by
  obtain ⟨⟨bridge, hb, hreadable, hwritable, rfl⟩, ⟨source, hs, hsource⟩, ⟨sink, hk, hsink⟩,
    hunpiped⟩ := h
  have hopen : source.controller.IsOpen := hsource.controller.outlook
  have hstate : sink.controller.state = .writable := hsink.state
  obtain ⟨worked, hw⟩ : ∃ worked, TransformWork.flush bridge.transformer s.env
      { controller := source.controller } = worked := ⟨_, rfl⟩
  have hflush := TransformWork.flush_of_output { controller := source.controller } hopen rfl hout
  obtain ⟨hresult, hended, hqueue, hterminated⟩ : worked.1 = (.ok (), env) ∧
      worked.2.controller.HasEnded ∧ worked.2.controller.queue = source.controller.queue ++ new ∧
        worked.2.terminated = false := hw ▸ hflush
  obtain ⟨closing, hclosing⟩ : ∃ closing, closing =
      setSink stream.writable (sink.inState .closing).working s := ⟨_, rfl⟩
  have hduring : closing.streams.sink? stream.writable = some (sink.inState .closing).working := by
    simp [hclosing, Registry.sink?_setSink, hk]
  have hb' : closing.streams.bridge? stream.bridge = some bridge := by simpa [hclosing] using hb
  have hs' : closing.streams.source? stream.readable = some source := by simpa [hclosing] using hs
  have henv' : closing.env = s.env := hclosing ▸ rfl
  obtain ⟨t, hwork, henv, hstreams⟩ := exec_withTransformer_of_fine .flush hb' (hreadable ▸ hs')
    hopen.state (henv' ▸ hw) hresult hterminated
  rw [← exec_closeAlgorithm_transform hduring hsink.backing, hclosing] at hwork
  have hworked : t.streams.sink? stream.writable = some (sink.inState .closing).working := by
    simpa [hstreams] using hduring
  have hclose : exec (Session.close stream.writable none) s = _ :=
    hsink.lock ▸ exec_close_of_lock hk
  have hclosed : Sink.Relays stream.bridge true (sink.closedBy (.ok ())) :=
    ⟨hsink.backing, hsink.lock,
      ⟨hsink.idle.pending, hsink.idle.inFlight, hsink.idle.abortRequested, (fun h => by cases h),
        fun h => by cases h⟩, rfl⟩
  rw [hclose, exec_closeUnchecked_of_idle hk hsink.idle hstate hwork hworked]
  have hleft : worked.2.controller.Holds (waiting ++ new) true :=
    ⟨hqueue.trans (by rw [hsource.controller.queue]), hended⟩
  refine ⟨_, rfl, .after hb' hreadable hwritable hs' hsource (fun name pipe hp => ?_) hstreams hleft
    hworked hclosed _, henv⟩
  refine hunpiped name pipe ?_
  rw [← hp]
  exact Registry.pipe?_congr (by simp [hclosing]) name

end Writing

/-! ### The readable half -/

theorem Relays.setSource {left : List Bytes} (h : Relays stream transformer waiting ended s)
    {source : Source E} (hsource : source.Relays stream.bridge left ended) :
    Relays stream transformer left ended (setSource stream.readable source s) := by
  obtain ⟨hbridge, ⟨found, hs, -⟩, hsink, hunpiped⟩ := h
  exact ⟨hbridge, ⟨source, by simp [Registry.source?_setSource, hs], hsource⟩, hsink, hunpiped⟩

theorem Relays.takeReady (h : Relays stream transformer waiting ended s) :
    ∃ found t, exec (Session.takeReady stream.readable) s = (found, t) ∧
      found.map orPending = .ok (firstOf waiting ended) ∧
      (found = .ok none → waiting = [] ∧ ended = false) ∧
      Relays stream transformer waiting.tail ended t ∧ t.env = s.env := by
  obtain ⟨source, hs, hsource⟩ := h.source
  obtain ⟨hfound, hnone, hholds⟩ := hsource.controller.takeReady
  refine ⟨_, _, exec_takeReady hs, hfound, hnone, ?_, ?_⟩
  · have hleft : Source.Relays stream.bridge waiting.tail ended
        { source with controller := source.controller.takeReady.2 } :=
      ⟨hsource.backing, hsource.start, hsource.lock, hsource.pulling, hsource.pullAgain, hholds⟩
    have hset := h.setSource hleft
    unfold noteDelivered
    split <;> exact ⟨hset.bridge, hset.source, hset.sink, hset.unpiped⟩
  · unfold noteDelivered
    split <;> rfl

section Reading

variable [Host H]

/-- A pull of the readable half asks the writer for more. -/
theorem Relays.pullIfNeeded (h : Relays stream transformer waiting ended s) (fuel : Nat)
    (waits : Bool) :
    ∃ t, drive (Session.pullIfNeeded (fuel + 2) stream.readable waits) s = some ((), t) ∧
      Relays stream transformer waiting ended t ∧ t.env = s.env := by
  obtain ⟨source, hs, hsource⟩ := h.source
  by_cases hwants : source.wantsPull waits
  · obtain ⟨⟨bridge, hb, hreadable, hwritable, htransformer⟩, -, hsink, hunpiped⟩ := h
    obtain ⟨began, hbegan⟩ : ∃ began, began = note (.pullBegan stream.readable)
        (Session.setSource stream.readable { source with pulling := true } s) := ⟨_, rfl⟩
    have hs' : began.streams.source? stream.readable = some { source with pulling := true } := by
      simp [hbegan, Registry.source?_setSource, hs]
    have hb' : began.streams.bridge? stream.bridge = some bridge := by simpa [hbegan] using hb
    have hinto : began.streams.pipeInto? bridge.writable = none := by
      rw [hwritable]
      refine Registry.pipeInto?_eq_none _ fun name pipe hp => hunpiped name pipe ?_
      rw [← hp]
      exact Registry.pipe?_congr (by simp [hbegan]) name
    have hpull : attempt (pull (fuel + 1) stream.readable) began =
        some (.ok (), setBridge stream.bridge { bridge with pullRequested := true } began) := by
      rw [attempt_pull, hs']
      simp only [hsource.backing, hb', hinto]
    have hdrive : drive (Session.pullIfNeeded (fuel + 2) stream.readable waits) s =
        some ((), Session.setSource stream.readable { source with pulling := false }
          (note (.pullEnded stream.readable (.ok ()))
            (setBridge stream.bridge { bridge with pullRequested := true } began))) := by
      rw [drive_pullIfNeeded, hs]
      simp only [hwants, hsource.pulling, Bool.not_true, Bool.false_eq_true, if_false]
      rw [← hbegan, hpull]
      simp [hs', hsource.pullAgain, afterPull]
    refine ⟨_, hdrive, ⟨?_, ?_, ?_, fun name pipe hp => hunpiped name pipe ?_⟩, hbegan ▸ rfl⟩
    · exact ⟨{ bridge with pullRequested := true }, by simp [Registry.bridge?_setBridge, hb'],
        hreadable, hwritable, htransformer⟩
    · refine ⟨{ source with pulling := false }, by simp [Registry.source?_setSource, hs'],
        hsource.backing, hsource.start, hsource.lock, rfl, hsource.pullAgain, hsource.controller⟩
    · simpa [hbegan] using hsink
    · rw [← hp]
      exact Registry.pipe?_congr (by simp [hbegan]) name
  · refine ⟨s, ?_, h, rfl⟩
    rw [drive_pullIfNeeded, hs]
    simp [hwants]

/-- A read that passes the lock. -/
theorem attempt_read_of_lock {id : ReadableId} {source : Source E}
    (h : s.streams.source? id = some source) (fuel : Nat) :
    attempt (Session.read fuel id source.readerLock) s = attempt (readUnchecked fuel id) s := by
  simp [Session.read, attempt_bind, h, Except.bind]

/-- A reader comes to the first chunk that waits, and else to the end once there is one. -/
theorem Relays.read (h : Relays stream transformer waiting ended s) (fuel : Nat) :
    ∃ t, attempt (Session.read (fuel + 3) stream.readable none) s =
        some (.ok (firstOf waiting ended), t) ∧
      Relays stream transformer waiting.tail ended t ∧ t.env = s.env := by
  obtain ⟨source, hs, hsource⟩ := h.source
  have hdisturbed : Relays stream transformer waiting ended (disturb stream.readable source s) :=
    h.setSource ⟨hsource.backing, hsource.start, hsource.lock, hsource.pulling, hsource.pullAgain,
      hsource.controller⟩
  obtain ⟨found, u, htake, hfound, hnone, hu, henv⟩ := hdisturbed.takeReady
  have hread : attempt (Session.read (fuel + 3) stream.readable none) s = _ :=
    hsource.lock ▸ attempt_read_of_lock hs (fuel + 3)
  rw [hread, attempt_readUnchecked, hs]
  simp only [hsource.start, htake]
  rcases found with error | (_ | (chunk | _ | _))
  · cases waiting <;> cases ended <;> simp [firstOf, Except.map] at hfound
  · obtain ⟨rfl, rfl⟩ := hnone rfl
    obtain ⟨v, hpull, hv, hvenv⟩ := hu.pullIfNeeded fuel true
    obtain ⟨again, w, htake', hfound', -, hw, hwenv⟩ := hv.takeReady
    refine ⟨w, ?_, hw, hwenv.trans (hvenv.trans henv)⟩
    simp [hpull, htake', hfound']
  · obtain ⟨v, hpull, hv, hvenv⟩ := hu.pullIfNeeded fuel false
    exact ⟨v, by simpa [hpull, Except.map, orPending] using hfound, hv, hvenv.trans henv⟩
  · exact ⟨u, by simpa [Except.map, orPending] using hfound, hu, henv⟩
  · exact ⟨u, by simpa [Except.map, orPending] using hfound, hu, henv⟩

end Reading

/-! ### Transform streams that have just been made -/

/-- What the transformer has queued at its start waits, and nobody else knows of the stream yet. -/
theorem relays_createTransform {held spent : Set Nat} (ho : s.streams.Orderly held spent)
    (hout : TransformProgram.output (transformer.start s.env) = some (new, env)) :
    Relays (createTransform transformer s).1 transformer new false
      (createTransform transformer s).2 ∧
      (createTransform transformer s).2.env = env := by
  have wf := ho.wellFormed
  obtain ⟨worked, hw⟩ : ∃ worked, startWork transformer s = worked := ⟨_, rfl⟩
  obtain ⟨hresult, hgains⟩ : worked.1 = (.ok (), env) ∧ TransformDesk.Gains
      { controller := { highWaterMark := s.streams.config.transformHighWaterMark } } new worked.2 :=
    hw ▸ TransformProgram.run_of_output _ ⟨rfl, rfl⟩ hout
  obtain ⟨entered, hentered⟩ :
      ∃ entered, entered = (enterTransform transformer s.streams).2 := ⟨_, rfl⟩
  have hstarted : startedTransform transformer s =
      Session.setSource (nextStream transformer s).readable
        { s.streams.newReadable (nextStream transformer s).bridge .pending with
          controller := worked.2.controller }
        (noteEnqueued (nextStream transformer s).readable worked.2.accepted
          { s with env, streams := entered }) := by
    rw [startedTransform, hw, transformed_of_fine hresult hgains.terminated, hentered]
    rfl
  rw [createTransform_eq wf transformer, hstarted, hw, hresult]
  refine ⟨⟨⟨newBridge transformer s, ?_, rfl, rfl, rfl⟩, ?_, ?_, fun name pipe hp hr heq => ?_⟩,
    rfl⟩
  · simp [bridge?_settleTransform, hentered, Registry.bridge?_enterTransform wf, newBridge]
  · refine ⟨{ s.streams.newReadable (nextStream transformer s).bridge .resolved with
      controller := worked.2.controller }, ?_, rfl, rfl, rfl, rfl, rfl, hgains.queue, hgains.isOpen⟩
    simp [source?_settleTransform, hentered, Registry.source?_setSource,
      Registry.source?_enterTransform wf, Registry.newReadable, settledBy, StartState.resolve,
      StartState.settle]
  · refine ⟨Registry.newWritable (nextStream transformer s).bridge .resolved, ?_, rfl, rfl,
      ⟨rfl, rfl, rfl, (fun h => by cases h), fun h => by cases h; rfl⟩, rfl⟩
    simp [sink?_settleTransform, hentered, Registry.sink?_enterTransform wf, Registry.newWritable,
      startedHalf, StartState.resolve, StartState.settle]
  · -- A pipe of before has a destination of before, and the name of the new one was not in use.
    have hold : s.streams.pipe? name = some pipe := by
      rw [← hp]
      refine (Registry.pipe?_congr ?_ name).symm
      simp [pipes_settleTransform, hentered, Registry.pipes_enterTransform]
    obtain ⟨sink, hsink, -⟩ := (ho.holds name pipe hold hr).sink
    rw [heq, (Registry.none_enterTransform wf transformer).2.1] at hsink
    cases hsink

end Session

end EdgeStreams
