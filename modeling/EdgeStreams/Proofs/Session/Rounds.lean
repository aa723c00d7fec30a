import EdgeStreams.Proofs.Session.Flow

/-!
# Rounds of driving pipes

A read pulls its source once, if at all, and a pipe reads as long as it can write what it finds.
What a pull does, or a read, and what adds up, says what a read does, or a whole pipe; and a pipe
comes to rest if each step lowers a burden.

All pipes are driven, one after the other, and again as long as any of them has made a step. What
holds of driving one pipe, and goes on from one to the next, holds of the whole; and there is an end
to it if there is an end to the rounds in which steps are made.

## Main definitions

- `Returns`: with enough fuel there is an outcome, of which something holds
- `Session.taken`: what a read takes
- `Session.ReadLeads`: what becomes of a pipe's read
- `Session.Pumping`: what driving one pipe does, and what goes on from one to the next

## Main statements

- `Session.returns_readUnchecked_of`: a read returns if the pull does that it makes
- `Session.returns_pumpSteps_of`: a pipe makes only finitely many steps where each lowers a burden
- `Session.Pumping.pumpEach`: some pipes are driven
- `Session.Pumping.pump`: all pipes are driven as far as they go
-/

namespace EdgeStreams

variable {H E α β : Type}

/-- With enough fuel there is an outcome, of which something holds. -/
def Returns (run : ℕ → Option α) (holds : α → Prop) : Prop :=
  ∃ result, Settles run result ∧ holds result

namespace Returns

variable {run : ℕ → Option α} {other : ℕ → Option β} {holds : α → Prop} {held : β → Prop}

theorem now (result : α) (h : holds result) (hrun : ∀ fuel, run (fuel + 1) = some result) :
    Returns run holds := ⟨result, .now hrun, h⟩

theorem mono {weaker : α → Prop} (h : Returns run holds)
    (hw : ∀ fuel result, run fuel = some result → holds result → weaker result) :
    Returns run weaker := by
  obtain ⟨result, ⟨bound, hsettles⟩, hholds⟩ := h
  exact ⟨result, ⟨bound, hsettles⟩, hw bound result (hsettles bound (Nat.le_refl _)) hholds⟩

theorem settles (h : Returns run holds) : ∃ result, Settles run result := by
  obtain ⟨result, hsettles, -⟩ := h
  exact ⟨result, hsettles⟩

/-- One unit of fuel may go first. -/
theorem later (h : Returns (fun fuel => run (fuel + 1)) holds) : Returns run holds := by
  obtain ⟨result, hsettles, hholds⟩ := h
  exact ⟨result, .later hsettles, hholds⟩

/-- What goes on with the outcome of something that returns. -/
theorem andThen (next : ℕ → β → Option α) (h : Returns other held)
    (hrun : ∀ fuel, run fuel = (other fuel).bind (next fuel))
    (hnext : ∀ fuel result, other fuel = some result → held result →
      Returns (fun fuel => next fuel result) holds) : Returns run holds := by
  obtain ⟨result, ⟨bound, hsettles⟩, hheld⟩ := h
  obtain ⟨final, ⟨bound', hfinal⟩, hholds⟩ :=
    hnext bound result (hsettles bound (Nat.le_refl _)) hheld
  refine ⟨final, ⟨max bound bound', fun fuel hfuel => ?_⟩, hholds⟩
  rw [hrun, hsettles fuel (by omega), Option.bind_some]
  exact hfinal fuel (by omega)

/-- What is made of the outcome of something that returns. -/
theorem image (f : β → α) (h : Returns other held) (hrun : ∀ fuel, run fuel = (other fuel).map f)
    (hf : ∀ fuel result, other fuel = some result → held result → holds (f result)) :
    Returns run holds :=
  h.andThen (fun _ result => some (f result))
    (fun fuel => (hrun fuel).trans (Option.map_eq_bind ..))
    fun fuel result hsettles hheld => .now _ (hf fuel result hsettles hheld) fun _ => rfl

/-- One unit of fuel goes first, and something goes on with the outcome. -/
theorem bind (next : ℕ → β → Option α) (h : Returns other held)
    (hrun : ∀ fuel, run (fuel + 1) = (other fuel).bind (next fuel))
    (hnext : ∀ fuel result, other fuel = some result → held result →
      Returns (fun fuel => next fuel result) holds) : Returns run holds :=
  .later (h.andThen next hrun hnext)

/-- One unit of fuel goes first, and something is made of the outcome. -/
theorem map (f : β → α) (h : Returns other held)
    (hrun : ∀ fuel, run (fuel + 1) = (other fuel).map f)
    (hf : ∀ fuel result, other fuel = some result → held result → holds (f result)) :
    Returns run holds := .later (h.image f hrun hf)

end Returns

namespace Session

/-! ### Reading -/

/-- What a read takes: a chunk, or nothing. -/
def taken : Except StreamError ReadOutcome → ℕ
  | .ok (.chunk chunk) => chunk.length + 1
  | _ => 0

section Reading

variable [Host H] {id : ReadableId} {source : Source E} {s : Session H E}

/-- A source that is not being pulled is pulled once, if at all, where nobody asks for another
pull. -/
theorem returns_pullIfNeeded_once {holds : Session H E → Prop} (waits : Bool)
    (hs : s.streams.source? id = some source) (hidle : source.pulling = false)
    (hpull : source.wantsPull waits = true → Returns (fun fuel => attempt (pull fuel id)
      (note (.pullBegan id) (setSource id { source with pulling := true } s))) fun r =>
        match r.2.streams.source? id with
        | none => holds (note (.pullEnded id r.1) r.2)
        | some last => last.pullAgain = false ∧
            holds (afterPull id last r.1 (note (.pullEnded id r.1) r.2)))
    (hstays : holds s) :
    Returns (fun fuel => drive (pullIfNeeded fuel id waits) s) fun r => holds r.2 := by
  by_cases hwants : source.wantsPull waits = true
  · have hrun : ∀ fuel, drive (pullIfNeeded (fuel + 1) id waits) s = _ := fun fuel =>
      drive_pullIfNeeded fuel s id waits
    simp only [hs, hwants, hidle, Bool.not_true, Bool.false_eq_true, if_false] at hrun
    refine (hpull hwants).bind _ hrun ?_
    rintro fuel ⟨result, t⟩ - hdone
    cases ht : t.streams.source? id with
    | none =>
      simp only [ht] at hdone
      exact .now ((), note (.pullEnded id result) t) hdone fun _ => rfl
    | some last =>
      simp only [ht] at hdone
      obtain ⟨hagain, hdone⟩ := hdone
      refine .now ((), afterPull id last result (note (.pullEnded id result) t))
        hdone fun fuel => ?_
      cases result with
      | error error => rfl
      | ok => simp [hagain]
  · exact .now ((), s) hstays fun fuel => by simp [drive_pullIfNeeded, hs, hwants]

/-- A read takes what is ready and pulls the source, or pulls it first. What both do adds up, where
what is relied on when something is taken holds again after a pull. -/
theorem returns_readUnchecked_of (ready : Session H E → Prop)
    (movesTo : ℕ → Session H E → Session H E → Prop) (hrefl : ∀ s, movesTo 0 s s)
    (htrans : ∀ {m n : ℕ} {s t u : Session H E}, movesTo m s t → movesTo n t u →
      movesTo (m + n) s u)
    (hs : s.streams.source? id = some source) (hmarked : ready (disturb id source s))
    (hdisturb : movesTo 0 s (disturb id source s))
    (htake : ∀ {t : Session H E} {last : Source E}, ready t → t.streams.source? id = some last →
      movesTo (taken ((exec (takeReady id) t).1.map orPending)) t (exec (takeReady id) t).2)
    (hpull : ∀ waits, Returns (fun fuel => drive (pullIfNeeded fuel id waits)
      (exec (takeReady id) (disturb id source s)).2) fun r =>
        movesTo 0 (exec (takeReady id) (disturb id source s)).2 r.2 ∧ ready r.2) :
    Returns (fun fuel => attempt (readUnchecked fuel id) s) fun r => movesTo (taken r.1) s r.2 := by
  have hrun : ∀ fuel, attempt (readUnchecked (fuel + 1) id) s = _ := fun fuel =>
    attempt_readUnchecked fuel s id
  simp only [hs] at hrun
  cases hstart : source.start with
  | pending =>
    simp only [hstart] at hrun
    exact .now (.ok .pending, s) (hrefl s) hrun
  | rejected error =>
    simp only [hstart] at hrun
    exact .now (.error error, s) (hrefl s) hrun
  | resolved =>
    simp only [hstart] at hrun
    have htook := htrans hdisturb (htake hmarked (source?_disturb hs))
    rw [Nat.zero_add] at htook
    generalize exec (takeReady id) (disturb id source s) = first at hrun hpull htook
    obtain ⟨found, t⟩ := first
    cases found with
    | error error => exact .now (.error error, t) htook hrun
    | ok found =>
      cases found with
      | some outcome =>
        cases outcome with
        | chunk data =>
          refine (hpull false).map (fun r => (.ok (.chunk data), r.2)) hrun fun _ r _ hpulled => ?_
          -- a chunk counts when it is taken, and the pull that follows adds nothing to the count
          have hboth : movesTo (taken (.ok (.chunk data)) + 0) s r.2 := htrans htook hpulled.1
          exact hboth
        | done => exact .now (.ok .done, t) htook hrun
        | pending => exact .now (.ok .pending, t) htook hrun
      | none =>
        -- nothing was there: the source is pulled for the reader, and what that brought is taken
        have hnothing : movesTo 0 s t := htook
        have hnext : ∀ fuel, attempt (readUnchecked (fuel + 1) id) s =
            (drive (pullIfNeeded fuel id true) t).map fun r =>
              ((exec (takeReady id) r.2).1.map orPending, (exec (takeReady id) r.2).2) := hrun
        refine (hpull true).map _ hnext fun _ r _ hpulled => ?_
        have hlater := htrans hnothing hpulled.1
        rw [Nat.add_zero] at hlater
        cases hlast : r.2.streams.source? id with
        | some last =>
          have hall := htrans hlater (htake hpulled.2 hlast)
          rwa [Nat.zero_add] at hall
        | none =>
          -- the stream is gone after the pull
          have hgone : exec (takeReady id) r.2 = (.error .released, r.2) := by
            simp [takeReady, exec_bind, hlast]
          rw [hgone]
          exact hlater

end Reading

/-! ### Driving pipes -/

/-- What becomes of a pipe's read. Where it goes on, a write has made a step, and what holds between
the steps holds again. -/
def ReadLeads [Host H] (id : PipeId) (pipe : Pipe) (ready : Session H E → Prop)
    (movesTo : ℕ → Session H E → Session H E → Prop) (s : Session H E) :
    Except StreamError ReadOutcome × Session H E → Prop
  | (.error error, t) => movesTo 1 s (pipeFinished id (.failed error) (abortDestination pipe t).2)
  | (.ok .pending, t) => movesTo 0 s t
  | (.ok .done, t) =>
    movesTo 1 s (pipeFinished id (closeDestination pipe t).1 (closeDestination pipe t).2)
  | (.ok (.chunk data), t) =>
    match exec (write pipe.destination data (some pipe.writer)) t with
    | (.ok (), u) => movesTo 1 s u ∧ ready u
    | (.error error, u) => movesTo 1 s (pipeFinished id (.failed error) (cancelSource pipe u).2)

/-- A pipe makes only finitely many steps where each of them lowers a burden. By induction on the
burden. -/
theorem returns_pumpSteps_of [Host H] {id : PipeId} {pipe : Pipe} {s : Session H E}
    (ready : Session H E → Prop) (movesTo : ℕ → Session H E → Session H E → Prop)
    (burden : Session H E → ℕ) (hrefl : ∀ s, movesTo 0 s s)
    (htrans : ∀ {m n : ℕ} {s t u : Session H E}, movesTo m s t → movesTo n t u →
      movesTo (m + n) s u)
    (hless : ∀ {n : ℕ} {s t : Session H E}, movesTo n s t → burden t + n ≤ burden s)
    (hfail : ∀ {t : Session H E} (error : StreamError), ready t →
      movesTo 1 t (failPipe id pipe error t).2)
    (hread : ∀ {t : Session H E}, ready t →
      Returns (fun fuel => attempt (readByPipe fuel pipe) t) (ReadLeads id pipe ready movesTo t))
    (hs : ready s) (steps : ℕ) :
    Returns (fun fuel => drive (pumpSteps fuel id pipe steps) s) fun r =>
      ∃ more, r.1 = steps + more ∧ movesTo more s r.2 := by
  induction hburden : burden s using Nat.strongRecOn generalizing s steps with
  | _ _ ih =>
  subst hburden
  cases hfault : destinationFault? s.streams pipe.destination with
  | some error =>
    refine .now (steps + 1, (failPipe id pipe error s).2) ⟨1, rfl, hfail error hs⟩ fun fuel => ?_
    rw [drive_pumpSteps, hfault]
  | none =>
    by_cases hready : s.streams.sinkReady pipe.destination = true
    · refine (hread hs).bind (fun fuel => pumpFound id pipe steps fun s =>
        drive (pumpSteps fuel id pipe (steps + 1)) s) (fun fuel => ?_) ?_
      · rw [drive_pumpSteps, hfault]
        simp [hready]
      · rintro - ⟨found, t⟩ - hleads
        cases found with
        | error error =>
          exact .now (steps + 1, pipeFinished id (.failed error) (abortDestination pipe t).2)
            ⟨1, rfl, hleads⟩ fun _ => rfl
        | ok outcome =>
          cases outcome with
          | pending => exact .now (steps, t) ⟨0, rfl, hleads⟩ fun _ => rfl
          | done =>
            exact .now (steps + 1, pipeFinished id (closeDestination pipe t).1
              (closeDestination pipe t).2) ⟨1, rfl, hleads⟩ fun _ => rfl
          | chunk data =>
            simp only [ReadLeads] at hleads
            simp only [pumpFound]
            generalize exec (write pipe.destination data (some pipe.writer)) t = wrote at hleads
            obtain ⟨outcome, u⟩ := wrote
            cases outcome with
            | ok =>
              obtain ⟨hmoves, hu⟩ := hleads
              -- the write has lowered the burden, so the rest of the way is shorter
              have hlighter := hless hmoves
              refine (ih (burden u) (by omega) hu (steps + 1) rfl).mono ?_
              rintro - r - ⟨more, hmore, hrest⟩
              exact ⟨1 + more, by omega, htrans hmoves hrest⟩
            | error error =>
              exact .now (steps + 1, pipeFinished id (.failed error) (cancelSource pipe u).2)
                ⟨1, rfl, hleads⟩ fun _ => rfl
    · refine .now (steps, s) ⟨0, rfl, hrefl s⟩ fun fuel => ?_
      rw [drive_pumpSteps, hfault]
      simp [hready]

/-- A pipe that runs and is not being driven makes its steps. Any other is left alone. -/
theorem returns_pumpPipe_of [Host H] (holds : ℕ → Session H E → Prop)
    {s : Session H E} {id : PipeId} (hstays : holds 0 s)
    (hsteps : ∀ pipe, s.streams.pipe? id = some pipe → pipe.isRunning = true →
      pipe.pumping = false → Returns (fun fuel => drive (pumpSteps fuel id pipe 0)
        (mapStreams (fun streams => streams.setPipe id { pipe with pumping := true }) s)) fun r =>
          holds r.1 (mapStreams (parked id) r.2)) :
    Returns (fun fuel => drive (pumpPipe fuel id) s) fun r => holds r.1 r.2 := by
  cases hp : s.streams.pipe? id with
  | none => exact .now (0, s) hstays fun fuel => by rw [drive_pumpPipe, hp]
  | some pipe =>
    by_cases hidle : (!pipe.isRunning || pipe.pumping) = true
    · refine .now (0, s) hstays fun fuel => ?_
      simp only [drive_pumpPipe, hp, hidle, if_true]
    · have hpipe : pipe.isRunning = true ∧ pipe.pumping = false := by simpa using hidle
      refine (hsteps pipe hp hpipe.1 hpipe.2).map (fun r => (r.1, mapStreams (parked id) r.2))
        (fun fuel => ?_) fun fuel r _ hdone => hdone
      simp only [drive_pumpPipe, hp, hidle]
      rfl

variable [Host H] {keeps : Session H E → Prop} {movesTo : ℕ → Session H E → Session H E → Prop}
variable {s : Session H E}

/-- Driving any pipe keeps what holds, and moves the session by so many steps. -/
structure Pumping (keeps : Session H E → Prop) (movesTo : ℕ → Session H E → Session H E → Prop) :
    Prop where
  refl (s : Session H E) : movesTo 0 s s
  trans {m n : ℕ} {s t u : Session H E} : movesTo m s t → movesTo n t u → movesTo (m + n) s u
  drives {s : Session H E} (id : PipeId) : keeps s →
    Returns (fun fuel => drive (pumpPipe fuel id) s) fun r => movesTo r.1 s r.2 ∧ keeps r.2

namespace Pumping

/-- Some pipes are driven. By induction on the pipes. -/
theorem pumpEach (h : Pumping keeps movesTo) (pipes : List PipeId) (hs : keeps s) :
    Returns (fun fuel => drive (pumpEach fuel pipes) s) fun r => movesTo r.1 s r.2 ∧ keeps r.2 := by
  induction pipes generalizing s with
  | nil => exact .now (0, s) ⟨h.refl s, hs⟩ fun _ => rfl
  | cons id rest ih =>
    refine (h.drives id hs).andThen (fun fuel r =>
      (drive (Session.pumpEach fuel rest) r.2).map fun others => (r.1 + others.1, others.2))
        (fun fuel => drive_pumpEach_cons fuel s id rest) ?_
    rintro - ⟨steps, t⟩ - ⟨hmoves, ht⟩
    refine (ih ht).image _ (fun _ => rfl) fun _ others _ hothers => ⟨?_, hothers.2⟩
    exact h.trans hmoves hothers.1

/-- All pipes are driven as far as they go. By induction on the rounds: every one but the last makes
steps. -/
theorem pump (h : Pumping keeps movesTo) (hs : keeps s)
    (hacc : Acc (fun t s => ∃ steps, steps ≠ 0 ∧ movesTo steps s t) s) :
    Returns (fun fuel => drive (pump fuel) s) fun r => movesTo r.1 s r.2 ∧ keeps r.2 := by
  induction hacc with
  | intro s _ ih =>
  refine (h.pumpEach (s.streams.runningPipes.map Prod.fst) hs).bind (fun fuel r =>
    if r.1 = 0 then some (0, r.2)
    else (drive (Session.pump fuel) r.2).map fun others => (r.1 + others.1, others.2))
      (fun fuel => drive_pump fuel s) ?_
  rintro - ⟨steps, t⟩ - ⟨hmoves, ht⟩
  by_cases hsteps : steps = 0
  · subst hsteps
    exact .now (0, t) ⟨hmoves, ht⟩ fun _ => rfl
  · refine (ih t ⟨steps, hsteps, hmoves⟩ ht).image (fun others => (steps + others.1, others.2))
      (fun _ => if_neg hsteps) fun _ others _ hothers => ⟨?_, hothers.2⟩
    exact h.trans hmoves hothers.1

end Pumping

end Session

end EdgeStreams
