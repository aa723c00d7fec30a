import EdgeStreams.Proofs.Session.Algorithms

/-!
# One step of the flow functions

Each of the functions that make data flow, opened once: what it comes to with some fuel, in terms
of what the functions that it calls come to with less.

## Main statements

- `Session.attempt_readUnchecked`, `Session.drive_pullIfNeeded`, `Session.attempt_pull`,
  `Session.drive_pumpPipe`, `Session.drive_pumpSteps`: the five functions that call each other
- `Session.readUnchecked_cases`, `Session.pullIfNeeded_cases`, `Session.pull_cases`,
  `Session.pumpPipe_cases`, `Session.pumpSteps_cases`: what an outcome of one of them comes from
- `Session.drive_pumpEach_cons`, `Session.drive_pump`, `Session.attempt_pipeTo`: operations on pipes
- `Session.flowExtends`, `Session.extends_read`, `Session.extends_pipeTo`, `Session.extends_pump`:
  more fuel never changes an outcome
-/

namespace EdgeStreams

variable {H E : Type}

namespace Session

variable [Host H] (fuel : Nat) (s : Session H E)

theorem attempt_readUnchecked (id : ReadableId) :
    attempt (readUnchecked (fuel + 1) id) s =
      match s.streams.source? id with
      | none => some (.error .released, s)
      | some source =>
        match source.start with
        | .pending => some (.ok .pending, s)
        | .rejected error => some (.error error, s)
        | .resolved =>
          match exec (takeReady id) (disturb id source s) with
          | (.error error, s) => some (.error error, s)
          | (.ok (some (.chunk data)), s) =>
            (drive (pullIfNeeded fuel id false) s).map fun r => (.ok (.chunk data), r.2)
          | (.ok (some found), s) => some (.ok found, s)
          | (.ok none, s) =>
            (drive (pullIfNeeded fuel id true) s).map fun r =>
              ((exec (takeReady id) r.2).1.map orPending, (exec (takeReady id) r.2).2) := by
  simp only [readUnchecked, attempt_bind, attempt_finite, exec_source, Option.bind_some]
  cases s.streams.source? id with
  | none => rfl
  | some source =>
    simp only [Registry.need_some]
    cases source.start with
    | pending => rfl
    | rejected error => rfl
    | resolved =>
      simp only [attempt_bind, attempt_modify, attempt_finite, Option.bind_some]
      obtain ⟨found, s⟩ := exec (takeReady id) (disturb id source s)
      cases found with
      | error error => rfl
      | ok found =>
        cases found with
        | none =>
          simp only [attempt_bind, attempt_finite, attempt_sure]
          cases drive (pullIfNeeded fuel id true) s with
          | none => rfl
          | some r =>
            simp only [Option.map_some, Option.bind_some]
            cases (exec (takeReady id) r.2).1 <;> rfl
        | some outcome =>
          cases outcome with
          | chunk data =>
            simp only [attempt_bind, attempt_sure]
            cases drive (pullIfNeeded fuel id false) s <;> rfl
          | done => rfl
          | pending => rfl

section Reading

/-! ### One read -/

omit [Host H] in
theorem source?_disturb {s : Session H E} {id : ReadableId} {source : Source E}
    (hs : s.streams.source? id = some source) :
    (disturb id source s).streams.source? id = some { source with disturbed := true } := by
  simp [disturb, Registry.source?_setSource, hs]

theorem ready_of_orPending {found : Except StreamError (Option ReadOutcome)} {outcome : ReadOutcome}
    (h : found.map orPending = .ok outcome) (hp : outcome ≠ .pending) :
    found = .ok (some outcome) := by
  cases found with
  | error error => cases h
  | ok found =>
    cases found with
    | none => exact absurd (Except.ok.inj h).symm hp
    | some outcome => exact congrArg _ (congrArg some (Except.ok.inj h))

theorem error_of_orPending {found : Except StreamError (Option ReadOutcome)} {error : StreamError}
    (h : found.map orPending = .error error) : found = .error error := by
  cases found with
  | error _ => exact congrArg _ (Except.error.inj h)
  | ok found => cases h

/-- What a read does after it has taken what was ready: it is over at an end or a failure, or it
pulls the source, and takes again where nothing was ready. -/
inductive AfterTake (fuel : Nat) (id : ReadableId) (s : Session H E) :
    Except StreamError (Option ReadOutcome) → Except StreamError ReadOutcome × Session H E → Prop
  | settled (found : Except StreamError (Option ReadOutcome)) (hready : found ≠ .ok none)
      (hempty : ∀ data, found ≠ .ok (some (.chunk data))) :
      AfterTake fuel id s found (found.map orPending, s)
  | full (data : Bytes) (t : Session H E)
      (hpull : drive (pullIfNeeded fuel id false) s = some ((), t)) :
      AfterTake fuel id s (.ok (some (.chunk data))) (.ok (.chunk data), t)
  | empty (t : Session H E) (hpull : drive (pullIfNeeded fuel id true) s = some ((), t)) :
      AfterTake fuel id s (.ok none)
        ((exec (takeReady id) t).1.map orPending, (exec (takeReady id) t).2)

variable {fuel s} {id : ReadableId} {source : Source E}
  {r : Except StreamError ReadOutcome × Session H E}

/-- A read of a source whose start has been settled takes what is ready. Any other says so at
once. -/
theorem readUnchecked_cases (hs : s.streams.source? id = some source)
    (h : attempt (readUnchecked (fuel + 1) id) s = some r) :
    source.start = .pending ∧ r = (.ok .pending, s) ∨
    (∃ error, source.start = .rejected error ∧ r = (.error error, s)) ∨
    source.start = .resolved ∧ ∃ found t, exec (takeReady id) (disturb id source s) = (found, t) ∧
      AfterTake fuel id t found r := by
  rw [attempt_readUnchecked, hs] at h
  cases hstart : source.start with
  | pending =>
    simp only [hstart, Option.some.injEq] at h
    exact .inl ⟨rfl, h.symm⟩
  | rejected error =>
    simp only [hstart, Option.some.injEq] at h
    exact .inr (.inl ⟨error, rfl, h.symm⟩)
  | resolved =>
    simp only [hstart] at h
    refine .inr (.inr ⟨rfl, ?_⟩)
    generalize exec (takeReady id) (disturb id source s) = taken at h
    obtain ⟨found, t⟩ := taken
    refine ⟨found, t, rfl, ?_⟩
    cases found with
    | error error => exact Option.some.inj h ▸ .settled (.error error) nofun nofun
    | ok found =>
      cases found with
      | none =>
        obtain ⟨⟨⟨⟩, u⟩, hpull, rfl⟩ := Option.map_eq_some_iff.mp h
        exact .empty u hpull
      | some outcome =>
        cases outcome with
        | chunk data =>
          obtain ⟨⟨⟨⟩, u⟩, hpull, rfl⟩ := Option.map_eq_some_iff.mp h
          exact .full data u hpull
        | done => exact Option.some.inj h ▸ .settled (.ok (some .done)) nofun nofun
        | pending => exact Option.some.inj h ▸ .settled (.ok (some .pending)) nofun nofun

theorem readUnchecked_of_gone (hs : s.streams.source? id = none)
    (h : attempt (readUnchecked (fuel + 1) id) s = some r) : r = (.error .released, s) := by
  rw [attempt_readUnchecked, hs] at h
  exact (Option.some.inj h).symm

/-- A read leaves everything as it was, or it leads to what holds once the source has been marked,
and is kept by what takes a chunk and pulls the source. -/
theorem readUnchecked_keeps (holds : Session H E → Prop) (hs : s.streams.source? id = some source)
    (h : attempt (readUnchecked (fuel + 1) id) s = some r) (hmarked : holds (disturb id source s))
    (htake : ∀ t, holds t → holds (exec (takeReady id) t).2)
    (hpull : ∀ waits t,
      (waits = true → (exec (takeReady id) (disturb id source s)).1 = .ok none) →
        drive (pullIfNeeded fuel id waits) (exec (takeReady id) (disturb id source s)).2 =
          some ((), t) → holds t) : r.2 = s ∨ holds r.2 := by
  rcases readUnchecked_cases hs h with ⟨-, rfl⟩ | ⟨error, -, rfl⟩ | ⟨-, found, t, htaken, hfound⟩
  · exact .inl rfl
  · exact .inl rfl
  · have htook := htake _ hmarked
    rw [htaken] at htook hpull
    cases hfound with
    | settled => exact .inr htook
    | full data u hpulled => exact .inr (hpull false u nofun hpulled)
    | empty u hpulled => exact .inr (htake u (hpull true u (fun _ => rfl) hpulled))

end Reading

/-! ### Pulling a source -/

/-- What a pull that has come to an outcome leaves for its source. -/
def afterPull (id : ReadableId) (source : Source E) (result : Except StreamError Unit) :
    Session H E → Session H E :=
  match result with
  | .error error => setSource id
      { source with pulling := false, controller := source.controller.error error }
  | .ok () => setSource id { source with pulling := false }

theorem drive_pullIfNeeded (id : ReadableId) (readerWaits : Bool) :
    drive (pullIfNeeded (fuel + 1) id readerWaits) s =
      match s.streams.source? id with
      | none => some ((), s)
      | some source =>
        if !source.wantsPull readerWaits then some ((), s)
        else if source.pulling then some ((), setSource id { source with pullAgain := true } s)
        else
          (attempt (pull fuel id)
            (note (.pullBegan id) (setSource id { source with pulling := true } s))).bind fun r =>
            match r.2.streams.source? id with
            | none => some ((), note (.pullEnded id r.1) r.2)
            | some source =>
              match r.1 with
              | .error error =>
                some ((), afterPull id source (.error error) (note (.pullEnded id r.1) r.2))
              | .ok () =>
                if source.pullAgain then
                  drive (pullIfNeeded fuel id false)
                    (setSource id { source with pulling := false, pullAgain := false }
                      (note (.pullEnded id r.1) r.2))
                else some ((), afterPull id source (.ok ()) (note (.pullEnded id r.1) r.2)) := by
  simp only [pullIfNeeded, drive_bind, drive_get, Option.bind_some]
  cases s.streams.source? id with
  | none => rfl
  | some source =>
    by_cases hw : source.wantsPull readerWaits
    · by_cases hp : source.pulling
      · simp [hw, hp]
      · simp only [hw, hp, Bool.not_true, Bool.false_eq_true, if_false, drive_bind, drive_modify,
          Option.bind_some, drive_run]
        congr 1
        funext r
        obtain ⟨result, s'⟩ := r
        simp only [drive_get, Option.bind_some, streams_note]
        cases s'.streams.source? id with
        | none => rfl
        | some source =>
          cases result with
          | error error => rfl
          | ok =>
            by_cases ha : source.pullAgain
            · simp [ha, drive_bind]
            · simp [ha, afterPull]
    · simp [hw]

theorem attempt_pull (id : ReadableId) :
    attempt (pull (fuel + 1) id) s =
      match s.streams.source? id with
      | none => some (.error .released, s)
      | some source =>
        match source.backing with
        | .body handle chunkSize => some (exec (pullBody id handle chunkSize) s)
        | .script guest => some (exec (pullScript id guest) s)
        | .transform bridgeId =>
          match s.streams.bridge? bridgeId with
          | none => some (.error .released, s)
          | some bridge =>
            match s.streams.pipeInto? bridge.writable with
            | some pipe =>
              (drive (pumpPipe fuel pipe)
                (setBridge bridgeId { bridge with pullRequested := true } s)).map
                  fun r => (.ok (), r.2)
            | none =>
              some (.ok (), setBridge bridgeId { bridge with pullRequested := true } s) := by
  simp only [pull, attempt_bind, attempt_finite, exec_source, Option.bind_some]
  cases s.streams.source? id with
  | none => rfl
  | some source =>
    simp only [Registry.need_some]
    cases source.backing with
    | body handle chunkSize => rfl
    | script guest => rfl
    | transform bridgeId =>
      simp only [attempt_bind, attempt_finite, exec_bridge, Option.bind_some]
      cases s.streams.bridge? bridgeId with
      | none => rfl
      | some bridge =>
        have hsame : (setBridge bridgeId { bridge with pullRequested := true } s).streams.pipeInto?
            bridge.writable = s.streams.pipeInto? bridge.writable := rfl
        simp only [Registry.need_some, attempt_modify, attempt_get, Option.bind_some, hsame]
        cases s.streams.pipeInto? bridge.writable with
        | none => rfl
        | some pipe =>
          simp only [attempt_bind, attempt_sure]
          cases drive (pumpPipe fuel pipe)
            (setBridge bridgeId { bridge with pullRequested := true } s) <;> rfl

section Pulling

/-! ### One pull -/

/-- What is done after a pull has come to an outcome. The source may be gone, or the pull has failed
it; a pull that was wanted meanwhile comes next. -/
inductive AfterPulling (fuel : Nat) (id : ReadableId) (s : Session H E) :
    Except StreamError Unit → Unit × Session H E → Prop
  | gone (result : Except StreamError Unit) (hs : s.streams.source? id = none) :
      AfterPulling fuel id s result ((), note (.pullEnded id result) s)
  | failed (error : StreamError) (last : Source E) (hs : s.streams.source? id = some last) :
      AfterPulling fuel id s (.error error) ((), setSource id
        { last with pulling := false, controller := last.controller.error error }
          (note (.pullEnded id (.error error)) s))
  | settled (last : Source E) (hs : s.streams.source? id = some last)
      (hagain : last.pullAgain = false) :
      AfterPulling fuel id s (.ok ()) ((), setSource id
        { last with pulling := false, pullAgain := false } (note (.pullEnded id (.ok ())) s))
  | again (last : Source E) {r : Unit × Session H E} (hs : s.streams.source? id = some last)
      (hagain : last.pullAgain = true)
      (hrest : drive (pullIfNeeded fuel id false) (setSource id
        { last with pulling := false, pullAgain := false } (note (.pullEnded id (.ok ())) s)) =
          some r) :
      AfterPulling fuel id s (.ok ()) r

variable {fuel s} {id : ReadableId} {source : Source E} {waits : Bool}

/-- A source is pulled if that is of use, and if it is being pulled already, it is pulled again
later. -/
theorem pullIfNeeded_cases {r : Unit × Session H E} (hs : s.streams.source? id = some source)
    (h : drive (pullIfNeeded (fuel + 1) id waits) s = some r) :
    source.wantsPull waits = false ∧ r = ((), s) ∨
    source.wantsPull waits = true ∧
      (source.pulling = true ∧ r = ((), setSource id { source with pullAgain := true } s) ∨
        source.pulling = false ∧ ∃ result t, attempt (pull fuel id)
          (note (.pullBegan id) (setSource id { source with pulling := true } s)) =
            some (result, t) ∧ AfterPulling fuel id t result r) := by
  rw [drive_pullIfNeeded, hs] at h
  cases hwants : source.wantsPull waits with
  | false =>
    simp only [hwants, Bool.not_false, if_true, Option.some.injEq] at h
    exact .inl ⟨rfl, h.symm⟩
  | true =>
    refine .inr ⟨rfl, ?_⟩
    cases hpulling : source.pulling with
    | true =>
      simp only [hwants, hpulling, Bool.not_true, Bool.false_eq_true, if_false, if_true,
        Option.some.injEq] at h
      exact .inl ⟨rfl, by rw [← h, ← hpulling]⟩
    | false =>
      simp only [hwants, hpulling, Bool.not_true, Bool.false_eq_true, if_false] at h
      obtain ⟨⟨result, t⟩, hpull, h⟩ := Option.bind_eq_some_iff.mp h
      refine .inr ⟨rfl, result, t, hpull, ?_⟩
      cases ht : t.streams.source? id with
      | none =>
        simp only [ht, Option.some.injEq] at h
        exact h ▸ .gone result ht
      | some last =>
        simp only [ht] at h
        cases result with
        | error error => exact Option.some.inj h ▸ .failed error last ht
        | ok =>
          cases hagain : last.pullAgain with
          | true =>
            simp only [hagain, if_true] at h
            exact .again last ht hagain h
          | false =>
            have hsame : ({ last with pulling := false, pullAgain := false } : Source E) =
                { last with pulling := false } := by rw [← hagain]
            have hover : AfterPulling fuel id t (.ok ()) _ := .settled last ht hagain
            rw [hsame] at hover
            simp only [hagain, Bool.false_eq_true, if_false, Option.some.injEq] at h
            exact h ▸ hover

theorem pullIfNeeded_of_gone {r : Unit × Session H E} (hs : s.streams.source? id = none)
    (h : drive (pullIfNeeded (fuel + 1) id waits) s = some r) : r = ((), s) := by
  rw [drive_pullIfNeeded, hs] at h
  exact (Option.some.inj h).symm

/-- A pull of a transform stream asks its writable half for a chunk, and drives the pipe that runs
into it. -/
theorem pull_cases {name : BridgeId} {bridge : Bridge E} {r : Except StreamError Unit × Session H E}
    (hs : s.streams.source? id = some source) (hback : source.backing = .transform name)
    (hb : s.streams.bridge? name = some bridge) (h : attempt (pull (fuel + 1) id) s = some r) :
    s.streams.pipeInto? bridge.writable = none ∧
      r = (.ok (), setBridge name { bridge with pullRequested := true } s) ∨
    ∃ pipe steps t, s.streams.pipeInto? bridge.writable = some pipe ∧
      drive (pumpPipe fuel pipe) (setBridge name { bridge with pullRequested := true } s) =
        some (steps, t) ∧ r = (.ok (), t) := by
  rw [attempt_pull, hs] at h
  simp only [hback, hb] at h
  cases hinto : s.streams.pipeInto? bridge.writable with
  | none =>
    simp only [hinto, Option.some.injEq] at h
    exact .inl ⟨rfl, h.symm⟩
  | some pipe =>
    simp only [hinto] at h
    obtain ⟨⟨steps, t⟩, hpump, rfl⟩ := Option.map_eq_some_iff.mp h
    exact .inr ⟨pipe, steps, t, rfl, hpump, rfl⟩

end Pulling

/-- The registry once a pipe is no longer driven. -/
def parked (id : PipeId) (streams : Registry E) : Registry E :=
  match streams.pipe? id with
  | some pipe => streams.setPipe id { pipe with pumping := false }
  | none => streams

theorem drive_pumpPipe (id : PipeId) :
    drive (pumpPipe (fuel + 1) id) s =
      match s.streams.pipe? id with
      | none => some (0, s)
      | some pipe =>
        if !pipe.isRunning || pipe.pumping then some (0, s)
        else
          (drive (pumpSteps fuel id pipe 0)
            (mapStreams (fun streams => streams.setPipe id { pipe with pumping := true }) s)).map
              fun r => (r.1, mapStreams (parked id) r.2) := by
  simp only [pumpPipe, drive_bind, drive_get, Option.bind_some]
  cases s.streams.pipe? id with
  | none => rfl
  | some pipe =>
    dsimp only
    by_cases h : (!pipe.isRunning || pipe.pumping) = true
    · rw [if_pos h, if_pos h, drive_pure]
    · rw [if_neg h, if_neg h]
      simp only [drive_bind, drive_modify, Option.bind_some]
      cases drive (pumpSteps fuel id pipe 0)
        (mapStreams (fun streams => streams.setPipe id { pipe with pumping := true }) s) <;> rfl

/-- A pipe that runs and is not being driven makes its steps, and is parked again. Any other is left
alone. -/
theorem pumpPipe_cases {fuel : Nat} {s : Session H E} {id : PipeId} {r : Nat × Session H E}
    (h : drive (pumpPipe (fuel + 1) id) s = some r) :
    (∀ pipe, s.streams.pipe? id = some pipe → pipe.isRunning → pipe.pumping = true) ∧ r = (0, s) ∨
    ∃ pipe steps t, s.streams.pipe? id = some pipe ∧ pipe.isRunning ∧ pipe.pumping = false ∧
      drive (pumpSteps fuel id pipe 0)
        (mapStreams (fun streams => streams.setPipe id { pipe with pumping := true }) s) =
          some (steps, t) ∧ r = (steps, mapStreams (parked id) t) := by
  rw [drive_pumpPipe] at h
  cases hp : s.streams.pipe? id with
  | none =>
    simp only [hp, Option.some.injEq] at h
    exact .inl ⟨nofun, h.symm⟩
  | some pipe =>
    simp only [hp] at h
    by_cases hidle : (!pipe.isRunning || pipe.pumping) = true
    · rw [if_pos hidle, Option.some.injEq] at h
      refine .inl ⟨fun found hfound hrunning => ?_, h.symm⟩
      obtain rfl := Option.some.inj hfound
      simpa [hrunning] using hidle
    · rw [if_neg hidle] at h
      obtain ⟨⟨steps, t⟩, hsteps, rfl⟩ := Option.map_eq_some_iff.mp h
      have hparked : pipe.isRunning = true ∧ pipe.pumping = false := by simpa using hidle
      exact .inr ⟨pipe, steps, t, rfl, hparked.1, hparked.2, hsteps, rfl⟩

/-- The same for a pipe that is known to run and not to be driven. -/
theorem pumpPipe_of_parked {fuel : Nat} {s : Session H E} {id : PipeId} {pipe : Pipe}
    {r : Nat × Session H E} (hp : s.streams.pipe? id = some pipe) (hr : pipe.isRunning)
    (hparked : pipe.pumping = false) (h : drive (pumpPipe (fuel + 1) id) s = some r) :
    ∃ steps t, drive (pumpSteps fuel id pipe 0)
        (mapStreams (fun streams => streams.setPipe id { pipe with pumping := true }) s) =
          some (steps, t) ∧ r = (steps, mapStreams (parked id) t) := by
  rcases pumpPipe_cases h with ⟨hidle, -⟩ | ⟨found, steps, t, hfound, -, -, hsteps, hlast⟩
  · cases hparked.symm.trans (hidle pipe hp hr)
  · cases hp.symm.trans hfound
    exact ⟨steps, t, hsteps, hlast⟩

/-! ### What a pipe does to its ends -/

section Ends

variable {s} {pipe : Pipe}

theorem cancelSource_snd (h : pipe.options.preventCancel = false) :
    (cancelSource pipe s).2 = (exec (cancel pipe.source none (some pipe.reader)) s).2 := by
  simp only [cancelSource, h]
  rfl

theorem cancelSource_of_prevented (h : pipe.options.preventCancel = true) :
    (cancelSource pipe : Step H E Unit) s = ((), s) := by
  simp only [cancelSource, h]
  rfl

theorem abortDestination_snd (h : pipe.options.preventAbort = false) :
    (abortDestination pipe s).2 = (exec (abort pipe.destination none (some pipe.writer)) s).2 := by
  simp only [abortDestination, h]
  rfl

theorem abortDestination_of_prevented (h : pipe.options.preventAbort = true) :
    (abortDestination pipe : Step H E Unit) s = ((), s) := by
  simp only [abortDestination, h]
  rfl

/-- The state of a pipe whose destination has been closed, or not. -/
def closedState : Except StreamError Unit → PipeState
  | .ok () => .done
  | .error error => .failed error

theorem closeDestination_eq (h : pipe.options.preventClose = false) :
    closeDestination pipe s =
      (closedState (exec (close pipe.destination (some pipe.writer)) s).1,
        (exec (close pipe.destination (some pipe.writer)) s).2) := by
  change StateT.run (closeDestination pipe) s = _
  simp only [closeDestination, h, Bool.false_eq_true, if_false, StateT.run_bind]
  change StateT.run (match (exec (close pipe.destination (some pipe.writer)) s).1 with
    | .ok () => pure PipeState.done
    | .error error => pure (.failed error))
      (exec (close pipe.destination (some pipe.writer)) s).2 = _
  cases (exec (close pipe.destination (some pipe.writer)) s).1 <;> rfl

theorem closeDestination_of_prevented (h : pipe.options.preventClose = true) :
    (closeDestination pipe : Step H E PipeState) s = (.done, s) := by
  simp only [closeDestination, h]
  rfl

theorem failPipe_snd {id : PipeId} {error : StreamError}
    (h : s.streams.containsWritable pipe.destination = true) :
    (failPipe id pipe error s).2 =
      mapStreams (fun streams => streams.finishPipe id (.failed error))
      (cancelSource pipe s).2 := by
  change (StateT.run (failPipe id pipe error) s).2 = _
  simp only [failPipe, StateT.run_bind, StateT.run_get, pure_bind, h, if_true, StateT.run_modify]
  rfl

theorem failPipe_snd_of_gone {id : PipeId} {error : StreamError}
    (h : s.streams.containsWritable pipe.destination = false) :
    (failPipe id pipe error s).2 =
      mapStreams (fun streams => streams.finishPipe id (.failed error)) s := by
  change (StateT.run (failPipe id pipe error) s).2 = _
  simp only [failPipe, StateT.run_bind, StateT.run_get, pure_bind, h, Bool.false_eq_true, if_false,
    StateT.run_modify]
  rfl

end Ends

/-- A read by a pipe, which holds the lock. -/
def readByPipe (fuel : Nat) (pipe : Pipe) : Attempt H E StreamError ReadOutcome := do
  finite (onStreams (Registry.checkReader pipe.source (some pipe.reader)))
  readUnchecked fuel pipe.source

/-- The registry once a pipe has come to an end. -/
def pipeFinished (id : PipeId) (state : PipeState) : Session H E → Session H E :=
  mapStreams fun streams => streams.finishPipe id state

/-- What a pipe does with the outcome of its read, unless it goes on. -/
def pumpFound (id : PipeId) (pipe : Pipe) (steps : Nat)
    (next : Session H E → Option (Nat × Session H E)) :
    Except StreamError ReadOutcome × Session H E → Option (Nat × Session H E)
  | (.ok (.chunk data), s) =>
    match exec (write pipe.destination data (some pipe.writer)) s with
    | (.ok (), s) => next s
    | (.error error, s) =>
      some (steps + 1, pipeFinished id (.failed error) (cancelSource pipe s).2)
  | (.ok .done, s) =>
    some (steps + 1, pipeFinished id (closeDestination pipe s).1 (closeDestination pipe s).2)
  | (.ok .pending, s) => some (steps, s)
  | (.error error, s) =>
    some (steps + 1, pipeFinished id (.failed error) (abortDestination pipe s).2)

theorem drive_pumpSteps (id : PipeId) (pipe : Pipe) (steps : Nat) :
    drive (pumpSteps (fuel + 1) id pipe steps) s =
      match destinationFault? s.streams pipe.destination with
      | some error => some (steps + 1, (failPipe id pipe error s).2)
      | none =>
        if !s.streams.sinkReady pipe.destination then some (steps, s)
        else
          (attempt (readByPipe fuel pipe) s).bind
            (pumpFound id pipe steps fun s => drive (pumpSteps fuel id pipe (steps + 1)) s) := by
  simp only [pumpSteps, drive_bind, drive_get, Option.bind_some]
  cases destinationFault? s.streams pipe.destination with
  | some error => rfl
  | none =>
    dsimp only
    by_cases h : (!s.streams.sinkReady pipe.destination) = true
    · rw [if_pos h, if_pos h, drive_pure]
    · rw [if_neg h, if_neg h, drive_bind, drive_run]
      have hread : attempt (do
          finite (onStreams (Registry.checkReader pipe.source (some pipe.reader)))
          readUnchecked fuel pipe.source : Attempt H E StreamError ReadOutcome) s =
            attempt (readByPipe fuel pipe) s := rfl
      rw [hread]
      refine congrArg _ (funext fun r => ?_)
      obtain ⟨found, s⟩ := r
      cases found with
      | error error => rfl
      | ok outcome =>
        cases outcome with
        | done => rfl
        | pending => rfl
        | chunk data =>
          simp only [drive_bind, drive_modifyGet, Option.bind_some, outcome_apply, pumpFound]
          obtain ⟨result, s⟩ := exec (write pipe.destination data (some pipe.writer)) s
          cases result <;> rfl

theorem attempt_readByPipe (pipe : Pipe) {source : Source E}
    (h : s.streams.source? pipe.source = some source)
    (hl : source.readerLock = some pipe.reader) :
    attempt (readByPipe fuel pipe) s = attempt (readUnchecked fuel pipe.source) s := by
  simp [readByPipe, attempt_bind, h, hl, Except.bind]

section Rounds

/-- A pipe reads unless it does not hold the lock. -/
theorem readByPipe_cases {fuel : Nat} {s t : Session H E} {pipe : Pipe}
    {found : Except StreamError ReadOutcome}
    (h : attempt (readByPipe fuel pipe) s = some (found, t)) :
    attempt (readUnchecked fuel pipe.source) s = some (found, t) ∨
      t = s ∧ ∃ error, found = .error error := by
  simp only [readByPipe, attempt_bind, attempt_finite, exec_onStreams, Registry.exec_checkReader,
    Option.bind_some] at h
  split at h
  · exact .inl h
  · next error _ =>
    simp only [Option.some.injEq, Prod.mk.injEq] at h
    exact .inr ⟨h.2.symm, error, h.1.symm⟩

/-! ### One round of driving a pipe -/

/-- What a pipe does after its read: it leaves off, ends, or carries a chunk and goes on. -/
inductive AfterRead (fuel : Nat) (id : PipeId) (pipe : Pipe) (steps : Nat) (s : Session H E) :
    Except StreamError ReadOutcome → Nat × Session H E → Prop
  | starved : AfterRead fuel id pipe steps s (.ok .pending) (steps, s)
  | failed (error : StreamError) : AfterRead fuel id pipe steps s (.error error)
      (steps + 1, pipeFinished id (.failed error) (abortDestination pipe s).2)
  | drained : AfterRead fuel id pipe steps s (.ok .done)
      (steps + 1, pipeFinished id (closeDestination pipe s).1 (closeDestination pipe s).2)
  | refused (data : Bytes) (error : StreamError) (t : Session H E)
      (hwrite : exec (write pipe.destination data (some pipe.writer)) s = (.error error, t)) :
      AfterRead fuel id pipe steps s (.ok (.chunk data))
        (steps + 1, pipeFinished id (.failed error) (cancelSource pipe t).2)
  | carried (data : Bytes) (t : Session H E) {r : Nat × Session H E}
      (hwrite : exec (write pipe.destination data (some pipe.writer)) s = (.ok (), t))
      (hrest : drive (pumpSteps fuel id pipe (steps + 1)) t = some r) :
      AfterRead fuel id pipe steps s (.ok (.chunk data)) r

variable {fuel s} {id : PipeId} {pipe : Pipe} {steps : Nat} {r : Nat × Session H E}

theorem afterRead_of_pumpFound {found : Except StreamError ReadOutcome}
    (h : pumpFound id pipe steps (fun s => drive (pumpSteps fuel id pipe (steps + 1)) s)
      (found, s) = some r) : AfterRead fuel id pipe steps s found r := by
  cases found with
  | error error => exact Option.some.inj h ▸ .failed error
  | ok outcome =>
    cases outcome with
    | pending => exact Option.some.inj h ▸ .starved
    | done => exact Option.some.inj h ▸ .drained
    | chunk data =>
      simp only [pumpFound] at h
      cases hwrite : exec (write pipe.destination data (some pipe.writer)) s with
      | mk outcome t =>
        rw [hwrite] at h
        cases outcome with
        | ok => exact .carried data t hwrite h
        | error error => exact Option.some.inj h ▸ .refused data error t hwrite

/-- A pipe finds its destination closed, or without room, or it reads. -/
theorem pumpSteps_cases (h : drive (pumpSteps (fuel + 1) id pipe steps) s = some r) :
    (∃ error, destinationFault? s.streams pipe.destination = some error ∧
      r = (steps + 1, (failPipe id pipe error s).2)) ∨
    destinationFault? s.streams pipe.destination = none ∧
      (s.streams.sinkReady pipe.destination = false ∧ r = (steps, s) ∨
        s.streams.sinkReady pipe.destination = true ∧
          ∃ found t, attempt (readByPipe fuel pipe) s = some (found, t) ∧
            AfterRead fuel id pipe steps t found r) := by
  rw [drive_pumpSteps] at h
  cases hfault : destinationFault? s.streams pipe.destination with
  | some error =>
    simp only [hfault, Option.some.injEq] at h
    exact .inl ⟨error, rfl, h.symm⟩
  | none =>
    refine .inr ⟨rfl, ?_⟩
    cases hready : s.streams.sinkReady pipe.destination with
    | false =>
      simp only [hfault, hready, Bool.not_false, if_true, Option.some.injEq] at h
      exact .inl ⟨rfl, h.symm⟩
    | true =>
      simp only [hfault, hready, Bool.not_true, Bool.false_eq_true, if_false] at h
      obtain ⟨⟨found, t⟩, hread, hfound⟩ := Option.bind_eq_some_iff.mp h
      exact .inr ⟨rfl, found, t, hread, afterRead_of_pumpFound hfound⟩

end Rounds

/-! ### Operations on pipes -/

theorem drive_pumpEach_cons (id : PipeId) (rest : List PipeId) :
    drive (pumpEach fuel (id :: rest)) s =
      (drive (pumpPipe fuel id) s).bind fun r =>
        (drive (pumpEach fuel rest) r.2).map fun others => (r.1 + others.1, others.2) := by
  simp only [pumpEach, drive_bind, drive_pure]
  cases drive (pumpPipe fuel id) s with
  | none => rfl
  | some r => cases h : drive (pumpEach fuel rest) r.2 <;> simp [h]

@[simp] theorem drive_pumpEach_nil : drive (pumpEach fuel []) s = some (0, s) := rfl

theorem drive_pump :
    drive (pump (fuel + 1)) s =
      (drive (pumpEach fuel (s.streams.runningPipes.map Prod.fst)) s).bind fun r =>
        if r.1 = 0 then some (0, r.2)
        else (drive (pump fuel) r.2).map fun others => (r.1 + others.1, others.2) := by
  simp only [pump, drive_bind, drive_get, Option.bind_some]
  congr 1
  funext r
  by_cases h : r.1 = 0
  · simp [h]
  · simp only [h, if_false, drive_bind, drive_pure]
    cases drive (pump fuel) r.2 <;> rfl

theorem attempt_pipeTo (source : ReadableId) (destination : WritableId) (options : PipeOptions) :
    attempt (pipeTo fuel source destination options) s =
      match exec (Registry.openPipe source destination options) s.streams with
      | (.error error, streams) => some (.error error, { s with streams })
      | (.ok id, streams) =>
        (drive (pumpPipe fuel id) { s with streams }).map fun r => (.ok id, r.2) := by
  simp only [pipeTo, attempt_bind, attempt_finite, exec_onStreams, Option.bind_some]
  obtain ⟨opened, streams⟩ := exec (Registry.openPipe source destination options) s.streams
  cases opened with
  | error error => rfl
  | ok id =>
    simp only [attempt_sure, attempt_pure]
    cases drive (pumpPipe fuel id) { s with streams } <;> rfl

theorem attempt_pipeThrough (source : ReadableId) (stream : TransformStream)
    (options : PipeOptions) :
    attempt (pipeThrough fuel source stream options) s =
      (attempt (pipeTo fuel source stream.writable options) s).map fun r =>
        (r.1.map fun _ => stream.readable, r.2) := by
  simp only [pipeThrough, attempt_bind, attempt_pure]
  cases attempt (pipeTo fuel source stream.writable options) s with
  | none => rfl
  | some r =>
    obtain ⟨result, s⟩ := r
    cases result <;> rfl

/-! ### More fuel -/

section Fuel

omit s

variable (H E) in
/-- One unit of fuel more leaves every outcome as it is. -/
structure FlowExtends : Prop where
  readUnchecked (id : ReadableId) :
    Extends (readUnchecked fuel id : Attempt H E StreamError ReadOutcome).run
      (readUnchecked (fuel + 1) id).run
  pullIfNeeded (id : ReadableId) (readerWaits : Bool) :
    Extends (pullIfNeeded fuel id readerWaits : Run H E Unit)
      (pullIfNeeded (fuel + 1) id readerWaits)
  pull (id : ReadableId) :
    Extends (pull fuel id : Attempt H E StreamError Unit).run (pull (fuel + 1) id).run
  pumpPipe (id : PipeId) : Extends (pumpPipe fuel id : Run H E Nat) (pumpPipe (fuel + 1) id)
  pumpSteps (id : PipeId) (pipe : Pipe) (steps : Nat) :
    Extends (pumpSteps fuel id pipe steps : Run H E Nat) (pumpSteps (fuel + 1) id pipe steps)

namespace FlowExtends

variable {fuel} (h : FlowExtends H E fuel)
include h

theorem readUnchecked_succ (id : ReadableId) :
    Extends (Session.readUnchecked (fuel + 1) id : Attempt H E StreamError ReadOutcome).run
      (Session.readUnchecked (fuel + 1 + 1) id).run := by
  rw [Session.readUnchecked, Session.readUnchecked]
  refine .bind_run (.refl _) fun source => ?_
  cases source.start with
  | pending => exact .refl _
  | rejected error => exact .refl _
  | resolved =>
    refine .bind_run (.refl _) fun _ => .bind_run (.refl _) fun found => ?_
    split
    · exact .bind_run (.sure (h.pullIfNeeded id false)) fun _ => .refl _
    · exact .refl _
    · exact .bind_run (.sure (h.pullIfNeeded id true)) fun _ => .refl _

theorem pullIfNeeded_succ (id : ReadableId) (readerWaits : Bool) :
    Extends (Session.pullIfNeeded (fuel + 1) id readerWaits : Run H E Unit)
      (Session.pullIfNeeded (fuel + 1 + 1) id readerWaits) := by
  rw [Session.pullIfNeeded, Session.pullIfNeeded]
  refine .bind (.refl _) fun s => ?_
  split
  · exact .refl _
  · split
    · exact .refl _
    · split
      · exact .refl _
      · refine .bind (.refl _) fun _ => .bind (.refl _) fun _ => .bind (h.pull id) fun result =>
          .bind (.refl _) fun _ => .bind (.refl _) fun t => ?_
        split
        · exact .refl _
        · cases result with
          | error error => exact .refl _
          | ok =>
            dsimp only
            split
            · exact .bind (.refl _) fun _ => h.pullIfNeeded id false
            · exact .refl _

theorem pull_succ (id : ReadableId) :
    Extends (Session.pull (fuel + 1) id : Attempt H E StreamError Unit).run
      (Session.pull (fuel + 1 + 1) id).run := by
  rw [Session.pull, Session.pull]
  refine .bind_run (.refl _) fun source => ?_
  cases source.backing with
  | body handle chunkSize => exact .refl _
  | script guest => exact .refl _
  | transform bridgeId =>
    refine .bind_run (.refl _) fun bridge => .bind_run (.refl _) fun _ =>
      .bind_run (.refl _) fun s => ?_
    split
    · exact .bind_run (.sure (h.pumpPipe _)) fun _ => .refl _
    · exact .refl _

theorem pumpPipe_succ (id : PipeId) :
    Extends (Session.pumpPipe (fuel + 1) id : Run H E Nat)
      (Session.pumpPipe (fuel + 1 + 1) id) := by
  rw [Session.pumpPipe, Session.pumpPipe]
  refine .bind (.refl _) fun s => ?_
  split
  · exact .refl _
  · split
    · exact .refl _
    · exact .bind (.refl _) fun _ => .bind (h.pumpSteps id _ 0) fun _ => .refl _

theorem pumpSteps_succ (id : PipeId) (pipe : Pipe) (steps : Nat) :
    Extends (Session.pumpSteps (fuel + 1) id pipe steps : Run H E Nat)
      (Session.pumpSteps (fuel + 1 + 1) id pipe steps) := by
  rw [Session.pumpSteps, Session.pumpSteps]
  refine .bind (.refl _) fun s => ?_
  dsimp only
  split
  · exact .refl _
  · split
    · exact .refl _
    · refine .bind (.bind_run (.refl _) fun _ => h.readUnchecked pipe.source) fun found => ?_
      split
      · refine .bind (.refl _) fun written => ?_
        split
        · exact .refl _
        · exact h.pumpSteps id pipe (steps + 1)
      · exact .refl _
      · exact .refl _
      · exact .refl _

end FlowExtends

variable (H E) in
/-- By induction on the fuel: each of the five calls the others with one unit less. -/
theorem flowExtends : FlowExtends H E fuel := by
  induction fuel with
  | zero =>
    exact ⟨fun _ => .outOfFuel, fun _ _ => .outOfFuel, fun _ => .outOfFuel, fun _ => .outOfFuel,
      fun _ _ _ => .outOfFuel⟩
  | succ fuel ih =>
    exact ⟨ih.readUnchecked_succ, ih.pullIfNeeded_succ, ih.pull_succ, ih.pumpPipe_succ,
      ih.pumpSteps_succ⟩

theorem extends_read (id : ReadableId) (token : Option ReaderToken) :
    Extends (read fuel id token : Attempt H E StreamError ReadOutcome).run
      (read (fuel + 1) id token).run :=
  .bind_run (.refl _) fun _ => (flowExtends H E fuel).readUnchecked id

theorem extends_pipeTo (source : ReadableId) (destination : WritableId) (options : PipeOptions) :
    Extends (pipeTo fuel source destination options : Attempt H E StreamError PipeId).run
      (pipeTo (fuel + 1) source destination options).run :=
  .bind_run (.refl _) fun id => .bind_run (.sure ((flowExtends H E fuel).pumpPipe id))
    fun _ => .refl _

theorem extends_pipeThrough (source : ReadableId) (stream : TransformStream)
    (options : PipeOptions) :
    Extends (pipeThrough fuel source stream options : Attempt H E StreamError ReadableId).run
      (pipeThrough (fuel + 1) source stream options).run :=
  .bind_run (extends_pipeTo fuel source stream.writable options) fun _ => .refl _

theorem extends_pumpEach (ids : List PipeId) :
    Extends (pumpEach fuel ids : Run H E Nat) (pumpEach (fuel + 1) ids) := by
  induction ids with
  | nil => exact .refl _
  | cons id ids ih =>
    exact .bind ((flowExtends H E fuel).pumpPipe id) fun _ => .bind ih fun _ => .refl _

theorem extends_pump : Extends (pump fuel : Run H E Nat) (pump (fuel + 1)) := by
  induction fuel with
  | zero => exact .outOfFuel
  | succ fuel ih =>
    refine .bind (.refl _) fun s => .bind (extends_pumpEach fuel _) fun steps => ?_
    split
    · exact .refl _
    · exact .bind ih fun _ => .refl _

end Fuel

end Session

end EdgeStreams
