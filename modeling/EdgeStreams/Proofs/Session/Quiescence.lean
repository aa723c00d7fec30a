import EdgeStreams.Proofs.Session.Locking

/-!
# When driving the pipes has come to an end

Driving the pipes ends with a round in which none of them makes a step. If all pipes read host
bodies, such a round has not even changed anything: each pipe that is still running has to wait for
something other than a pipe, and driving the pipes again does nothing at all.

## Main definitions

- `Source.IsStuck`: a reader finds nothing and may not ask for more
- `Pipe.Waits`: a pipe has to wait
- `Registry.ReadsBodies`: the running pipes read host bodies

## Main statements

- `Session.waits_of_pumpPipe`: a pipe that makes no step has to wait, and has changed nothing
- `Session.waits_of_pump`: when the pipes have been driven, those that still run have to wait
- `Session.pump_again`: driving them again does nothing

## Design notes

A pipe that reads the readable half of a transform stream is another matter. What it asks for is
asked of the pipe into the writable half, and the steps which that pipe makes are not counted.
-/

namespace EdgeStreams

variable {H E : Type}

namespace ReadableController

/-- Nothing is ready for a reader, not even an end or an error. -/
def IsDry (controller : ReadableController) : Prop :=
  controller.state = .readable ∧ controller.queue = []

variable {controller : ReadableController}

theorem takeReady_of_dry (h : controller.IsDry) :
    controller.takeReady = (.ok none, controller) := by
  simp [takeReady, dequeue, h.1, h.2]

theorem isDry_of_takeReady (h : controller.takeReady.1.map Session.orPending = .ok .pending) :
    controller.IsDry := by
  cases hstate : controller.state with
  | errored error =>
    simp only [takeReady, hstate] at h
    cases h
  | closed =>
    simp only [takeReady, hstate] at h
    cases h
  | readable =>
    cases hqueue : controller.queue with
    | nil => exact ⟨hstate, hqueue⟩
    | cons chunk rest =>
      simp only [takeReady, hstate, dequeue, hqueue] at h
      cases h

theorem isDry_of_none (h : controller.takeReady.1 = .ok none) : controller.IsDry :=
  isDry_of_takeReady (by rw [h]; rfl)

theorem not_isDry_error (controller : ReadableController) (error : StreamError) :
    ¬ (controller.error error).IsDry := by
  rintro ⟨hstate, -⟩
  unfold ReadableController.error at hstate
  split at hstate
  · cases hstate
  · next hne => exact hne hstate

theorem not_isDry_queued (controller : ReadableController) (chunk : Bytes) :
    ¬ (controller.queued chunk).IsDry := fun h => by simp [queued, IsDry] at h

theorem not_isDry_finish (hs : controller.state = .readable)
    (hc : controller.closeRequested = false) : ¬ controller.finish.IsDry := by
  rintro ⟨hstate, hqueue⟩
  simp only [finish, close_of_open hs hc] at hstate hqueue
  simp [hqueue] at hstate

end ReadableController

/-- A reader finds nothing, and may not ask for more: the stream has not been started, or what it
asked for would be of no use. -/
def Source.IsStuck (source : Source E) : Prop :=
  source.start = .pending ∨
    source.start = .resolved ∧ source.controller.IsDry ∧ source.wantsPull true = false

/-- A pipe has to wait until its destination takes more, or its source may be asked for more. -/
structure Pipe.Waits (pipe : Pipe) (streams : Registry E) : Prop where
  unfailed : Session.destinationFault? streams pipe.destination = none
  stopped : streams.sinkReady pipe.destination = false ∨
    ∃ source, streams.source? pipe.source = some source ∧ source.IsStuck

namespace Registry

/-- The running pipes read host bodies. -/
def ReadsBodies (streams : Registry E) : Prop :=
  ∀ id pipe source, streams.pipe? id = some pipe → pipe.isRunning →
    streams.source? pipe.source = some source → ∃ handle size, source.backing = .body handle size

/-- No source is being pulled. -/
def Unpulled (streams : Registry E) : Prop :=
  ∀ id source, streams.source? id = some source → source.pulling = false

/-- No source is being pulled and no pipe is being driven, as it is between two operations. -/
structure IsResting (streams : Registry E) : Prop where
  unpulled : streams.Unpulled
  undriven : ∀ id pipe, streams.pipe? id = some pipe → pipe.pumping = false

/-- All running pipes have to wait. -/
def Waits (streams : Registry E) : Prop :=
  ∀ id pipe, streams.pipe? id = some pipe → pipe.isRunning → pipe.Waits streams

variable {streams : Registry E} {id : PipeId} {pipe : Pipe}

/-- A pipe is driven for a while, and nothing else happens. -/
theorem parked_setPipe (hp : streams.pipe? id = some pipe) (hu : pipe.pumping = false) :
    Session.parked id (streams.setPipe id { pipe with pumping := true }) = streams := by
  have hfound : (streams.setPipe id { pipe with pumping := true }).pipe? id =
      some { pipe with pumping := true } := by simp [pipe?_setPipe, hp]
  have hsame : ({ pipe with pumping := false } : Pipe) = pipe := by rw [← hu]
  simp only [Session.parked, hfound, hsame]
  simp only [setPipe, SlotMap.set_set,
    SlotMap.set_of_get? (show streams.pipes.get? id.key = _ from hp)]

/-- The end of a pipe changes no source but in who holds it. -/
theorem ReadsBodies.finishPipe (h : streams.ReadsBodies) (id : PipeId) {state : PipeState}
    (hstate : state ≠ .running) : (streams.finishPipe id state).ReadsBodies := by
  by_cases hrun : ∃ pipe, streams.pipe? id = some pipe ∧ pipe.isRunning
  · obtain ⟨pipe, hp, hr⟩ := hrun
    intro other found source hfound hrunning hs
    rw [pipe?_finishPipe state hp hr] at hfound
    split at hfound
    · cases hfound
      exact absurd (by simpa [Pipe.isRunning] using hrunning) hstate
    · rw [source?_finishPipe state hp hr] at hs
      split at hs
      · next he =>
        obtain ⟨before, hbefore, rfl⟩ := Option.map_eq_some_iff.mp hs
        rw [← he] at hbefore
        obtain ⟨handle, size, hback⟩ := h other found before hfound hrunning hbefore
        refine ⟨handle, size, ?_⟩
        unfold unlockReader
        split <;> exact hback
      · exact h other found source hfound hrunning hs
  · rw [finishPipe_of_not_running state fun pipe hp hr => hrun ⟨pipe, hp, hr⟩]
    exact h

end Registry

namespace Session

variable {s t : Session H E} {id : ReadableId} {source : Source E}
  {handle : BodyHandle} {size : UInt64}

theorem setSource_self (h : s.streams.source? id = some source) : setSource id source s = s := by
  simp only [setSource, mapStreams, Registry.setSource, SlotMap.set_of_get? h]

variable [Host H]

/-! ### Reading a host body -/

/-- A pull of a host body leaves something for the reader. -/
theorem supplied_pullBody {result : Except StreamError Unit}
    (hs : s.streams.source? id = some source) (hopen : source.controller.state = .readable)
    (hclose : source.controller.closeRequested = false)
    (h : exec (pullBody id handle size) s = (result, t)) :
    ∃ source', t.streams.source? id = some source' ∧ source'.backing = source.backing ∧
      (result = .ok () → ¬ source'.controller.IsDry) := by
  rcases hread : exec (Host.bodyRead handle size) s.host with ⟨error | chunk, host⟩
  · rw [exec_pullBody_error hread] at h
    cases h
    exact ⟨source, hs, rfl, fun hok => by cases hok⟩
  · by_cases hchunk : chunk = []
    · subst hchunk
      rw [exec_pullBody_end hs hopen hclose hread] at h
      cases h
      exact ⟨{ source with controller := source.controller.finish },
        by simp [Registry.source?_setSource, hs], rfl,
        fun _ => ReadableController.not_isDry_finish hopen hclose⟩
    · rw [exec_pullBody_chunk hs hopen hclose hchunk hread] at h
      cases h
      exact ⟨{ source with controller := source.controller.queued chunk },
        by simp [Registry.source?_setSource, hs], rfl,
        fun _ => ReadableController.not_isDry_queued _ chunk⟩

theorem attempt_pull_body {fuel : Nat} (hs : s.streams.source? id = some source)
    (hback : source.backing = .body handle size) :
    attempt (pull (fuel + 1) id) s = some (exec (pullBody id handle size) s) := by
  rw [attempt_pull, hs]
  simp only [hback]

/-- If a pull of a host body is wanted and none is under way, there is something for the reader
afterwards. By induction on the fuel: what is there once stays there. -/
theorem supplied_pullIfNeeded {fuel : Nat} {readerWaits : Bool}
    (hs : s.streams.source? id = some source) (hback : source.backing = .body handle size)
    (hneed : ¬ source.controller.IsDry ∨
      source.wantsPull readerWaits = true ∧ source.pulling = false)
    (h : drive (pullIfNeeded fuel id readerWaits) s = some ((), t)) :
    ∃ source', t.streams.source? id = some source' ∧ ¬ source'.controller.IsDry := by
  induction fuel generalizing s source readerWaits with
  | zero => cases h
  | succ fuel ih =>
    rcases pullIfNeeded_cases hs h with
      ⟨huseless, he⟩ | ⟨hwants, ⟨hpulling, he⟩ | ⟨-, result, u, hpull, hafter⟩⟩
    · cases he
      exact ⟨source, hs, hneed.resolve_right fun hwanted => by simp [huseless] at hwanted⟩
    · cases he
      exact ⟨{ source with pullAgain := true }, by simp [Registry.source?_setSource, hs],
        hneed.resolve_right fun hwanted => by simp [hpulling] at hwanted⟩
    simp only [Source.wantsPull, Bool.and_eq_true, Bool.not_eq_true', beq_iff_eq] at hwants
    obtain ⟨⟨⟨-, hclose⟩, hopen⟩, -⟩ := hwants
    have hbegan : (note (.pullBegan id)
        (setSource id { source with pulling := true } s)).streams.source? id =
          some { source with pulling := true } := by simp [Registry.source?_setSource, hs]
    -- a pull of a host body ends with a chunk, the end of the stream or an error
    obtain ⟨found, hfound, hback', hstocked⟩ : ∃ found, u.streams.source? id = some found ∧
        found.backing = source.backing ∧ (result = .ok () → ¬ found.controller.IsDry) := by
      cases fuel with
      | zero => cases hpull
      | succ fuel =>
        rw [attempt_pull_body hbegan hback, Option.some.injEq] at hpull
        have hpulled := supplied_pullBody hbegan hopen hclose hpull
        exact hpulled
    generalize hr : ((), t) = r at hafter
    cases hafter with
    | gone _ hgone => cases hfound.symm.trans hgone
    | failed error last hlast =>
      cases hr
      exact ⟨{ last with pulling := false, controller := last.controller.error error },
        by simp [Registry.source?_setSource, hlast], ReadableController.not_isDry_error _ error⟩
    | settled last hlast =>
      cases hr
      cases hfound.symm.trans hlast
      exact ⟨{ found with pulling := false, pullAgain := false },
        by simp [Registry.source?_setSource, hlast], hstocked rfl⟩
    | again last hlast _ hrest =>
      cases hr
      cases hfound.symm.trans hlast
      have hasked : (setSource id { found with pulling := false, pullAgain := false }
          (note (.pullEnded id (.ok ())) u)).streams.source? id =
            some { found with pulling := false, pullAgain := false } := by
        simp [Registry.source?_setSource, hlast]
      -- what the first pull has brought is still there
      exact ih hasked (hback'.trans hback) (.inl (hstocked rfl)) hrest

/-- A reader that found nothing at once waits for a pull. By cases on whether a pull is of use, and
whether one is under way. -/
theorem stuck_of_pullIfNeeded {fuel : Nat} (hs : s.streams.source? id = some source)
    (hback : source.backing = .body handle size) (hdry : source.controller.IsDry)
    (hstart : source.start = .resolved)
    (h : drive (pullIfNeeded fuel id true) s = some ((), t))
    (hfound : (exec (takeReady id) t).1.map orPending = .ok .pending)
    (hrest : (exec (takeReady id) t).2.streams.Unpulled) :
    (exec (takeReady id) t).2 = s ∧ source.IsStuck := by
  by_cases hneed : source.wantsPull true = true ∧ source.pulling = false
  · obtain ⟨source', hs', hstocked⟩ := supplied_pullIfNeeded hs hback (.inr hneed) h
    rw [exec_takeReady hs'] at hfound
    exact absurd (ReadableController.isDry_of_takeReady hfound) hstocked
  · cases fuel with
    | zero => cases h
    | succ fuel =>
      rcases pullIfNeeded_cases hs h with ⟨huseless, he⟩ | ⟨hwants, ⟨hpulling, he⟩ | ⟨hparked, -⟩⟩
      · cases he
        refine ⟨?_, .inr ⟨hstart, hdry, huseless⟩⟩
        rw [exec_takeReady hs, ReadableController.takeReady_of_dry hdry]
        exact setSource_self hs
      · cases he
        have hasked : (setSource id { source with pullAgain := true } s).streams.source? id =
            some { source with pullAgain := true } := by simp [Registry.source?_setSource, hs]
        have hstill := hrest id { source with pullAgain := true } (by
          rw [exec_takeReady hasked]
          simp [ReadableController.takeReady_of_dry hdry, Registry.source?_setSource, hs])
        simp [hpulling] at hstill
      · exact absurd ⟨hwants, hparked⟩ hneed

/-- A reader of a host body has to wait only if the stream is stuck. -/
theorem stuck_of_readUnchecked {fuel : Nat} (hs : s.streams.source? id = some source)
    (hback : source.backing = .body handle size) (hd : source.disturbed = true)
    (h : attempt (readUnchecked fuel id) s = some (.ok .pending, t))
    (hrest : t.streams.Unpulled) : t = s ∧ source.IsStuck := by
  cases fuel with
  | zero => cases h
  | succ fuel =>
    have hdisturb : disturb id source s = s := setSource_self (by rw [hs, ← hd])
    rcases readUnchecked_cases hs h with ⟨hstart, he⟩ | ⟨error, -, he⟩ |
      ⟨hstart, found, u, htake, hfound⟩
    · exact ⟨congrArg Prod.snd he, .inl hstart⟩
    · cases he
    rw [hdisturb, exec_takeReady hs] at htake
    obtain ⟨htaken, hleft⟩ := Prod.mk.inj htake
    generalize hr : (Except.ok ReadOutcome.pending, t) = r at hfound
    cases hfound with
    | settled found hready hempty =>
      obtain ⟨hp, -⟩ := Prod.mk.inj hr
      have hdry := ReadableController.isDry_of_takeReady (htaken ▸ hp.symm)
      rw [ReadableController.takeReady_of_dry hdry] at htaken
      exact absurd htaken.symm hready
    | full data v hpull => cases hr
    | empty v hpull =>
      obtain ⟨hp, rfl⟩ := Prod.mk.inj hr
      have hdry := ReadableController.isDry_of_none htaken
      rw [htaken, ReadableController.takeReady_of_dry hdry] at hleft
      have hsame : u = s := hleft.symm.trans (setSource_self hs)
      exact stuck_of_pullIfNeeded hs hback hdry hstart (hsame ▸ hpull) hp.symm hrest

/-- A reader of a stuck stream has to wait, and changes nothing. -/
theorem readUnchecked_of_stuck (fuel : Nat) (hs : s.streams.source? id = some source)
    (hd : source.disturbed = true) (h : source.IsStuck) :
    attempt (readUnchecked (fuel + 2) id) s = some (.ok .pending, s) := by
  rw [attempt_readUnchecked]
  simp only [hs]
  rcases h with hstart | ⟨hstart, hdry, hwants⟩
  · simp only [hstart]
  · have hdisturb : disturb id source s = s := setSource_self (by rw [hs, ← hd])
    have htaken : exec (takeReady id) s = (.ok none, s) := by
      rw [exec_takeReady hs, ReadableController.takeReady_of_dry hdry]
      exact congrArg _ (setSource_self hs)
    have hpull : drive (pullIfNeeded (fuel + 1) id true) s = some ((), s) := by
      rw [drive_pullIfNeeded]
      simp [hs, hwants]
    simp only [hstart, hdisturb, htaken, hpull, Option.map_some, Except.map, orPending,
      Option.getD_none]

/-! ### Driving one pipe -/

variable {pipeId : PipeId} {pipe : Pipe}

/-- The steps already made count. By induction on the fuel. -/
theorem le_pumpSteps {fuel steps : Nat} {r : Nat × Session H E}
    (h : drive (pumpSteps fuel pipeId pipe steps) s = some r) : steps ≤ r.1 := by
  induction fuel generalizing s steps with
  | zero => cases h
  | succ fuel ih =>
    rcases pumpSteps_cases h with ⟨error, -, rfl⟩ | ⟨-, ⟨-, rfl⟩ | ⟨-, found, t, -, hfound⟩⟩
    · exact Nat.le_succ steps
    · exact Nat.le_refl steps
    · cases hfound with
      | starved => exact Nat.le_refl steps
      | failed | drained | refused => exact Nat.le_succ steps
      | carried data u hwrite hrest => exact (Nat.le_succ steps).trans (ih hrest)

/-- A pipe that reads a host body and makes no step has to wait. -/
theorem waits_of_pumpSteps {fuel : Nat} (hk : pipe.Holds s.streams)
    (hbody : ∀ source, s.streams.source? pipe.source = some source →
      ∃ handle size, source.backing = .body handle size)
    (h : drive (pumpSteps fuel pipeId pipe 0) s = some (0, t)) (hrest : t.streams.Unpulled) :
    t = s ∧ pipe.Waits s.streams := by
  obtain ⟨source, hs, hlock, -, hd⟩ := hk.source
  obtain ⟨handle, size, hback⟩ := hbody source hs
  cases fuel with
  | zero => cases h
  | succ fuel =>
    rcases pumpSteps_cases h with ⟨error, -, h⟩ |
      ⟨hfault, ⟨hready, h⟩ | ⟨-, found, u, hread, hfound⟩⟩
    · cases h
    · cases h
      exact ⟨rfl, hfault, .inl hready⟩
    · rw [attempt_readByPipe fuel s pipe hs hlock] at hread
      cases hfound with
      | starved =>
        obtain ⟨rfl, hstuck⟩ := stuck_of_readUnchecked hs hback hd hread hrest
        exact ⟨rfl, hfault, .inr ⟨source, hs, hstuck⟩⟩
      | carried data v hwrite hlater => exact absurd (le_pumpSteps hlater) (by simp)

/-- A pipe that has to wait makes no step, and changes nothing. -/
theorem pumpSteps_of_waits (fuel : Nat) (hk : pipe.Holds s.streams) (h : pipe.Waits s.streams) :
    drive (pumpSteps (fuel + 3) pipeId pipe 0) s = some (0, s) := by
  obtain ⟨source, hs, hlock, -, hd⟩ := hk.source
  rw [drive_pumpSteps, h.unfailed]
  rcases h.stopped with hready | ⟨source', hs', hstuck⟩
  · simp [hready]
  · obtain rfl : source' = source := Option.some_inj.mp (hs'.symm.trans hs)
    simp only [attempt_readByPipe _ s pipe hs hlock, readUnchecked_of_stuck fuel hs hd hstuck]
    split <;> rfl

variable {held spent : Set Nat}

omit [Host H] in
theorem unpulled_parked {streams : Registry E} (h : (parked pipeId streams).Unpulled) :
    streams.Unpulled := by
  have hsources : (parked pipeId streams).sources = streams.sources := by
    unfold parked
    split <;> rfl
  intro id source hs
  rw [Registry.source?, ← hsources] at hs
  exact h id source hs

/-- A pipe is marked as driven. -/
def driven (id : PipeId) (pipe : Pipe) (s : Session H E) : Session H E :=
  mapStreams (fun streams => streams.setPipe id { pipe with pumping := true }) s

omit [Host H] in
theorem parked_driven (hp : s.streams.pipe? pipeId = some pipe) (hu : pipe.pumping = false) :
    mapStreams (parked pipeId) (driven pipeId pipe s) = s := by
  simp only [driven, mapStreams, Registry.parked_setPipe hp hu]

/-- A pipe that reads a host body and makes no step has changed nothing, and has to wait if it is
still running. -/
theorem waits_of_pumpPipe {fuel : Nat} (ho : s.streams.Orderly held spent)
    (hbodies : s.streams.ReadsBodies) (h : drive (pumpPipe fuel pipeId) s = some (0, t))
    (hrest : t.streams.IsResting) :
    t = s ∧ ∀ pipe, s.streams.pipe? pipeId = some pipe → pipe.isRunning → pipe.Waits s.streams := by
  cases fuel with
  | zero => cases h
  | succ fuel =>
    rcases pumpPipe_cases h with ⟨hidle, he⟩ | ⟨pipe, steps, u, hp, hr, hu, hsteps, he⟩
    · cases he
      refine ⟨rfl, fun pipe hp hr => ?_⟩
      cases (hrest.undriven pipeId pipe hp).symm.trans (hidle pipe hp hr)
    · obtain ⟨rfl, rfl⟩ := Prod.mk.inj he
      have hk := ho.holds pipeId pipe hp hr
      obtain ⟨rfl, hfault, hstopped⟩ := waits_of_pumpSteps (s := driven pipeId pipe s)
        ⟨hk.source, hk.sink⟩ (fun source hs => hbodies pipeId pipe source hp hr hs) hsteps
        (unpulled_parked hrest.unpulled)
      refine ⟨parked_driven hp hu, fun _ he _ => ?_⟩
      cases hp.symm.trans he
      exact ⟨hfault, hstopped⟩

/-- A pipe that has to wait is left as it is. -/
theorem pumpPipe_of_waits (fuel : Nat) (ho : s.streams.Orderly held spent)
    (hp : s.streams.pipe? pipeId = some pipe) (hr : pipe.isRunning) (hw : pipe.Waits s.streams) :
    drive (pumpPipe (fuel + 4) pipeId) s = some (0, s) := by
  rw [drive_pumpPipe]
  simp only [hp, hr, Bool.not_true, Bool.false_or]
  cases hu : pipe.pumping with
  | true => rfl
  | false =>
    have hk := ho.holds pipeId pipe hp hr
    have hsteps : EdgeStreams.drive (pumpSteps (fuel + 3) pipeId pipe 0) (driven pipeId pipe s) =
        some (0, driven pipeId pipe s) :=
      pumpSteps_of_waits fuel ⟨hk.source, hk.sink⟩ ⟨hw.unfailed, hw.stopped⟩
    rw [if_neg (by simp)]
    exact (congrArg (Option.map _) hsteps).trans
      (congrArg (fun t => some (0, t)) (parked_driven hp hu))

/-! ### Driving all pipes -/

/-- Running pipes come to read nothing else. By induction on the moves. -/
theorem MovesTo.readsBodies (h : MovesTo s t) (hbodies : s.streams.ReadsBodies) :
    t.streams.ReadsBodies := by
  induction h with
  | refl => exact hbodies
  | touch _ ht ih =>
    intro id pipe source hp hr hs
    obtain ⟨before, hbefore, hk⟩ := ht.source_before hs
    rw [Registry.pipe?_congr ht.pipes_eq] at hp
    rw [hk.backing]
    exact ih id pipe before hp hr hbefore
  | note _ _ ih => exact ih
  | @drive u id pipe pumping _ hp ih =>
    intro other found source hfound hr hs
    simp only [streams_mapStreams, Registry.pipe?_setPipe, hp, Option.map_some] at hfound
    split at hfound
    · cases hfound
      exact ih id pipe source hp hr hs
    · exact ih other found source hfound hr hs
  | finish id _ hstate ih => exact ih.finishPipe id hstate

/-- A round without steps. By induction on the pipes, the last one first. -/
theorem waits_of_pumpEach {fuel : Nat} {pipes : List PipeId} (ho : s.streams.Orderly held spent)
    (hbodies : s.streams.ReadsBodies) (h : drive (pumpEach fuel pipes) s = some (0, t))
    (hrest : t.streams.IsResting) :
    t = s ∧ ∀ id ∈ pipes, ∀ pipe, s.streams.pipe? id = some pipe → pipe.isRunning →
      pipe.Waits s.streams := by
  induction pipes generalizing s with
  | nil =>
    cases h
    exact ⟨rfl, fun _ hm => absurd hm List.not_mem_nil⟩
  | cons id rest ih =>
    rw [drive_pumpEach_cons] at h
    obtain ⟨⟨first, u⟩, hfirst, h⟩ := Option.bind_eq_some_iff.mp h
    obtain ⟨⟨others, v⟩, hothers, he⟩ := Option.map_eq_some_iff.mp h
    obtain ⟨hzero, rfl⟩ := Prod.mk.inj he
    obtain ⟨rfl, rfl⟩ := Nat.add_eq_zero_iff.mp hzero
    have hmoves := movesTo_pumpPipe hfirst
    obtain ⟨rfl, hrest'⟩ := ih (hmoves.orderly ho) (hmoves.readsBodies hbodies) hothers
    obtain ⟨rfl, hwaits⟩ := waits_of_pumpPipe ho hbodies hfirst hrest
    refine ⟨rfl, fun other hm => ?_⟩
    rcases List.mem_cons.mp hm with rfl | hm
    · exact hwaits
    · exact hrest' other hm

/-- When pipes that read host bodies have been driven, those that are still running have to wait. By
induction on the rounds. -/
theorem waits_of_pump {fuel steps : Nat} (ho : s.streams.Orderly held spent)
    (hbodies : s.streams.ReadsBodies) (h : drive (pump fuel) s = some (steps, t))
    (hrest : t.streams.IsResting) : t.streams.Waits := by
  induction fuel generalizing s steps with
  | zero => cases h
  | succ fuel ih =>
    rw [drive_pump] at h
    obtain ⟨⟨round, u⟩, hround, h⟩ := Option.bind_eq_some_iff.mp h
    have hmoves := movesTo_pumpEach hround
    split at h
    · next hzero =>
      simp only at hzero
      subst hzero
      cases h
      obtain ⟨rfl, hwaits⟩ := waits_of_pumpEach ho hbodies hround hrest
      intro id pipe hp hr
      have hm : (id, pipe) ∈ u.streams.runningPipes := u.streams.mem_runningPipes.mpr ⟨hp, hr⟩
      exact hwaits id (List.mem_map.mpr ⟨_, hm, rfl⟩) pipe hp hr
    · obtain ⟨⟨others, v⟩, hothers, he⟩ := Option.map_eq_some_iff.mp h
      obtain ⟨-, rfl⟩ := Prod.mk.inj he
      exact ih (hmoves.orderly ho) (hmoves.readsBodies hbodies) hothers

/-- Where all pipes have to wait, driving them does nothing. -/
theorem pump_of_waits (fuel : Nat) (ho : s.streams.Orderly held spent) (hw : s.streams.Waits) :
    drive (pump (fuel + 5)) s = some (0, s) := by
  have hround : ∀ pipes : List PipeId, (∀ id ∈ pipes, ∃ pipe,
      s.streams.pipe? id = some pipe ∧ pipe.isRunning) →
        drive (pumpEach (fuel + 4) pipes) s = some (0, s) := by
    intro pipes hpipes
    induction pipes with
    | nil => rfl
    | cons id rest ih =>
      obtain ⟨pipe, hp, hr⟩ := hpipes id List.mem_cons_self
      rw [drive_pumpEach_cons, pumpPipe_of_waits fuel ho hp hr (hw id pipe hp hr), Option.bind_some,
        ih fun other hm => hpipes other (List.mem_cons_of_mem id hm)]
      rfl
  rw [drive_pump, hround]
  · rfl
  · intro id hm
    obtain ⟨found, hfound, rfl⟩ := List.mem_map.mp hm
    exact ⟨found.2, s.streams.mem_runningPipes.mp hfound⟩

/-- Once pipes that read host bodies have been driven, driving them again does nothing: it asks
nothing of the host, hands nothing to a guest and finishes no pipe. -/
theorem pump_again {fuel steps : Nat} (ho : s.streams.Orderly held spent)
    (hbodies : s.streams.ReadsBodies) (h : drive (pump fuel) s = some (steps, t))
    (hrest : t.streams.IsResting) (more : Nat) : drive (pump (more + 5)) t = some (0, t) :=
  pump_of_waits more ((movesTo_pump h).orderly ho) (waits_of_pump ho hbodies h hrest)

end Session

end EdgeStreams
