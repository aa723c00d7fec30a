import EdgeStreams.Proofs.Piping.Attributing

/-!
# Clients that show their own tokens

A token cannot be made up: whoever shows one has been handed it. So nobody but a pipe closes the
destination of that pipe, and a pipe whose destination has been closed has come to its end.

## Main definitions

- `StreamOp.Shows`: an operation shows only tokens that have been handed out
- `Client.Honest`: so does a step

## Main statements

- `Client.Step.honest`: a step that is no operation on streams is honest
- `Client.LeadsTo.unshut`: no running pipe has a closed destination
- `Client.LeadsTo.whole`: every stream hands on its chunks from its beginning

## Design notes

Elsewhere an operation may show any token, since what is said there holds all the same.
-/

namespace EdgeStreams

variable {H E : Type}

namespace Registry

variable {streams streams' : Registry E} {held spent : Set Nat}

/-- Pipes keep running, if they do, between the same ends, and nothing else is done but by
turnover. -/
theorem Unshut.turnover (hu : streams.Unshut) (ho : streams.Orderly held spent)
    (hs : streams.Turnover streams') (hp : ∀ {id pipe}, streams'.pipe? id = some pipe →
      pipe.isRunning → ∃ pumping, streams.pipe? id = some { pipe with pumping }) :
      streams'.Unshut := by
  rintro id pipe hpipe hr ⟨sink', hk', hshut⟩
  obtain ⟨pumping, hbefore⟩ := hp hpipe hr
  obtain ⟨sink, hk, -⟩ := (ho.holds id _ hbefore hr).sink
  have hshift := hs.sink pipe.destination
  rw [hk', show streams.sink? pipe.destination = some sink from hk] at hshift
  cases hshift with
  | kept hsame => exact hu id _ hbefore hr ⟨sink, hk, hsame.controller ▸ hshut⟩

theorem SameLocks.running_before (h : streams.SameLocks streams') {id : PipeId} {pipe : Pipe}
    (hp : streams'.pipe? id = some pipe) :
    ∃ pumping, streams.pipe? id = some { pipe with pumping } := by
  obtain ⟨before, hbefore, he⟩ := h.pipe id pipe hp
  exact ⟨before.pumping, by rw [hbefore, he]⟩

theorem running_of_eq (h : streams'.pipes = streams.pipes) {id : PipeId} {pipe : Pipe}
    (hp : streams'.pipe? id = some pipe) :
    ∃ pumping, streams.pipe? id = some { pipe with pumping } :=
  ⟨pipe.pumping, (pipe?_congr h id).symm.trans hp⟩

/-- The registry changes, but all pipes are as they were. -/
theorem Unshut.turnover_of_eq (hu : streams.Unshut) (ho : streams.Orderly held spent)
    (hs : streams.Turnover streams') (hp : streams'.pipes = streams.pipes) : streams'.Unshut :=
  hu.turnover ho hs fun h _ => running_of_eq hp h

end Registry

namespace Session

variable [Host H] {s t : Session H E} {held spent : Set Nat}

/-! ### Operations that close nothing -/

/-- What closes nothing leaves no running pipe with a closed destination. -/
theorem ShutsNone.unshut (h : s.ShutsNone t) (hm : MovesTo s t) (hu : s.streams.Unshut) :
    t.streams.Unshut := by
  intro id pipe hp hr hshut
  obtain ⟨pumping, hbefore⟩ := hm.running_before hp hr
  exact hu id _ hbefore hr (h.before _ hshut)

theorem shutsNone_cancel (id : ReadableId) (reason : Option String) (token : Option ReaderToken)
    (s : Session H E) : s.ShutsNone (exec (cancel id reason token) s).2 := by
  rcases cancel_cases id reason token s with heq | ⟨-, -, -, heq⟩
  · rw [heq]
    exact .refl s
  · rw [heq]
    exact shutsNone_cancelUnchecked id reason s

theorem shutsNone_abort (hc : s.streams.Composed) (id : WritableId) (reason : Option String)
    (token : Option WriterToken) : s.ShutsNone (exec (abort id reason token) s).2 := by
  simp only [abort, exec_bind, exec_onStreams, Registry.exec_checkWriter]
  split
  · exact shutsNone_abortUnchecked hc id reason
  · exact .refl s

theorem shutsNone_abortCorrelated (hc : s.streams.Composed) (source : ReadableId)
    (reason : Option String) : s.ShutsNone (exec (abortCorrelated source reason) s).2 := by
  simp only [abortCorrelated, exec_bind, exec_get]
  cases s.streams.pipeFrom? source with
  | some found =>
    obtain ⟨id, pipe⟩ := found
    simp only [exec_bind, exec_caught, exec_modify]
    have haborted := shutsNone_abort hc pipe.destination reason (some pipe.writer)
    exact (haborted.trans (shutsNone_cancel source reason (some pipe.reader) _)).trans
      (shutsNone_pipeFinished id _ _)
  | none =>
    -- an unlocked stream is cancelled once what it is piped to has been aborted
    have hcancel : ∀ t : Session H E, t.ShutsNone (exec (do
        if (← get).streams.isLocked source then pure ()
        else cancelUnchecked source reason : Action H E StreamError Unit) t).2 := by
      intro t
      simp only [exec_bind, exec_get]
      split
      · exact .refl t
      · exact shutsNone_cancelUnchecked source reason t
    dsimp only
    rw [exec_bind, exec_get]
    dsimp only
    cases s.streams.pipedTo? source with
    | none => exact hcancel s
    | some destination =>
      have haborted := shutsNone_abortUnchecked hc destination reason
      rw [exec_bind]
      generalize exec (abortUnchecked destination reason) s = aborted at haborted
      obtain ⟨result, t⟩ := aborted
      cases result with
      | error error => exact haborted
      | ok => exact haborted.trans (hcancel t)

/-! ### Operations on pipes -/

omit [Host H] in
theorem ordered_of_orderly (hr : s.Resting) (ho : s.streams.Orderly held spent) : s.Ordered :=
  ⟨hr.composed, held, spent, ho⟩

/-- A client that does not have the token of a pipe does not close its destination. -/
theorem unshut_close (hc : s.streams.Composed) (ho : s.streams.Orderly held spent)
    (hu : s.streams.Unshut) (id : WritableId) {token : Option WriterToken}
    (hshows : ∀ own, token = some own → own.number ∈ held) :
    (exec (close id token) s).2.streams.Unshut := by
  rcases close_cases id token s with heq | ⟨sink, hk, hlock, heq⟩
  · rwa [heq]
  · rw [heq]
    have htouches := changesWithin_closeUnchecked .refl s (f := s.streams.sinkReach id) .refl
    intro name pipe hp hr hshut
    have hbefore := (Registry.pipe?_congr htouches.pipes_eq name).symm.trans hp
    rcases shut_closeUnchecked hc hshut with hold | rfl
    · exact hu name pipe hbefore hr hold
    · obtain ⟨found, hfound, hheld⟩ := (ho.holds name pipe hbefore hr).sink
      cases hk.symm.trans hfound
      exact (ho.used_old name pipe _ hbefore (.inr rfl)).2 (hshows _ (hlock.symm.trans hheld))

/-- A pipe into a stream that takes no writes fails as soon as it is driven. -/
theorem stopped_of_not_accepts {fuel : Nat} {id : PipeId} {pipe : Pipe} {r : Nat × Session H E}
    (hp : s.streams.pipe? id = some pipe) (hr : pipe.isRunning) (hpumping : pipe.pumping = false)
    (hdead : ¬ s.streams.Accepts pipe.destination)
    (h : EdgeStreams.drive (pumpPipe fuel id) s = some r) :
    ∃ pipe', r.2.streams.pipe? id = some pipe' ∧ ¬ pipe'.isRunning := by
  cases fuel with
  | zero => cases h
  | succ fuel =>
    obtain ⟨steps, t, hsteps, rfl⟩ := pumpPipe_of_parked hp hr hpumping h
    have hdriven : (mapStreams (fun streams => streams.setPipe id { pipe with pumping := true })
        s).streams.pipe? id = some { pipe with pumping := true } := by
          simp [Registry.pipe?_setPipe, hp]
    cases fuel with
    | zero => cases hsteps
    | succ fuel =>
      rcases pumpSteps_cases hsteps with ⟨error, -, h⟩ | ⟨hfault, -⟩
      · cases h
        obtain ⟨u, htouches, hfails⟩ := failPipe_eq id pipe error
          (mapStreams (fun streams => streams.setPipe id { pipe with pumping := true }) s)
        have hthere := (Registry.pipe?_congr htouches.pipes_eq id).trans hdriven
        have hfailed : (pipeFinished id (.failed error) u).streams.pipe? id =
            some { pipe with state := .failed error, pumping := true } := by
          rw [pipeFinished, streams_mapStreams, Registry.pipe?_finishPipe _ hthere hr, if_pos rfl]
        refine ⟨{ pipe with state := .failed error, pumping := false },
          ?_, by simp [Pipe.isRunning]⟩
        dsimp only
        rw [hfails, streams_mapStreams, parked, hfailed]
        simp [Registry.pipe?_setPipe, hfailed]
      · exact absurd (Registry.destinationFault?_eq_none_iff.mp hfault) hdead

/-- A new pipe into a closed stream comes to its end at once, and the others are not touched by
it. -/
theorem unshut_pipeTo (hr : s.Resting) (ho : s.streams.Orderly held spent) (hu : s.streams.Unshut)
    {fuel : Nat} {source : ReadableId} {destination : WritableId} {options : PipeOptions}
    {r : Except StreamError PipeId × Session H E}
    (h : attempt (pipeTo fuel source destination options) s = some r) : r.2.streams.Unshut := by
  have hturnover := Registry.Turnover.openPipe hr.wellFormed source destination options
  have hordered := ordered_of_orderly (hr.openPipe source destination options)
    (ho.openPipe source destination options)
  rw [attempt_pipeTo] at h
  rcases Registry.exec_openPipe_cases s.streams source destination options with
    ⟨entry, sink, hs, hl, hk, hkl, hopen⟩ | ⟨error, streams', hopen, hgives⟩
  · rw [hopen] at h hturnover hordered
    obtain ⟨pumped, hpump, rfl⟩ := Option.map_eq_some_iff.mp h
    have hpumps := byPipes_pumpPipe hordered hpump
    have hpipe := Registry.pipe?_withPipe ho.wellFormed source destination entry sink options
    intro name pipe hp hrunning
    obtain ⟨pumping, hbefore⟩ := hpumps.movesTo.running_before hp hrunning
    refine hpumps.not_isShut hordered hp hrunning ?_
    rintro ⟨sink', hk', hshut⟩
    have hfound := (hpipe name).symm.trans hbefore
    split at hfound
    · next he =>
      -- the new pipe would have failed
      obtain rfl : pipe.destination = destination :=
        (congrArg Pipe.destination (Option.some.inj hfound)).symm
      have hdead : ¬ Registry.Accepts
          (s.streams.withPipe source pipe.destination entry sink options) pipe.destination := by
        rw [Registry.accepts_iff hk', hshut]
        simp
      have hnew := hpipe ⟨s.streams.pipes.nextKey⟩
      rw [if_pos rfl] at hnew
      obtain ⟨last, hlast, hstopped⟩ := stopped_of_not_accepts
        (s := { s with streams := s.streams.withPipe source pipe.destination entry sink options })
        hnew rfl rfl hdead hpump
      rw [he] at hp
      cases hp.symm.trans hlast
      exact hstopped hrunning
    · obtain ⟨old, hold, -⟩ := (ho.holds name _ hfound hrunning).sink
      have hshift := hturnover.sink pipe.destination
      rw [hk', show s.streams.sink? pipe.destination = some old from hold] at hshift
      cases hshift with
      | kept hsame => exact hu name _ hfound hrunning ⟨old, hold, hsame.controller ▸ hshut⟩
  · rw [hopen] at h hturnover
    simp only [Option.some.injEq] at h
    exact h ▸ hu.turnover ho hturnover fun hp _ => hgives.sameLocks.running_before hp

theorem pipes_createTransform (transformer : Transformer E) (s : Session H E) :
    ((createTransform transformer : Step H E TransformStream) s).2.streams.pipes =
      s.streams.pipes := by
  obtain ⟨f, result, started, hstarted, hrun⟩ := createTransform_run transformer s
  rw [hrun, streams_mapStreams, pipes_settleTransform, streams_note, hstarted.pipes_eq]
  exact Registry.pipes_enterTransform transformer

end Session

/-! ### Operations -/

namespace StreamOp

/-- An operation shows only tokens that have been handed out. -/
def Shows (client : Client H E) : StreamOp E → Prop
  | .read _ (some token) | .cancel _ _ (some token) => token ∈ client.readers
  | .write _ _ (some token) | .close _ (some token) | .abort _ _ (some token) =>
    token ∈ client.writers
  | _ => True

variable [Host H] {client : Client H E} {t : Session H E} {spent : Set Nat}

theorem unshut (hr : client.session.Resting)
    (ho : client.session.streams.Orderly client.held spent) (hu : client.session.streams.Unshut)
    {op : StreamOp E} {fuel : Nat} (hshows : op.Shows client)
    (h : op.after fuel client.session = some t) : t.streams.Unshut := by
  have wf := hr.wellFormed
  have hc := hr.composed
  have hordered := Session.ordered_of_orderly hr ho
  cases op with
  -- what makes, marks and frees streams leaves the pipes as they are
  | bodySource handle =>
    cases h
    exact hu.turnover_of_eq ho
      (.addSource wf ⟨nofun, rfl, rfl, rfl, fun _ => rfl⟩ (by rintro ⟨name, h⟩; cases h)) rfl
  | scriptSource guest highWaterMark =>
    cases h
    refine hu.turnover_of_eq ho (Session.turnover_scriptSource wf guest highWaterMark).streams ?_
    rw [Session.streams_scriptSource]
    rfl
  | bodySink handle =>
    cases h
    exact hu.turnover_of_eq ho
      (.addSink wf ⟨rfl, rfl, rfl, nofun, fun _ => rfl⟩ nofun) rfl
  | scriptSink guest =>
    cases h
    exact hu.turnover_of_eq ho (Session.turnover_scriptSink wf guest).streams rfl
  | createTransform transformer =>
    cases h
    exact hu.turnover_of_eq ho (Session.turnover_createTransform wf transformer).streams
      (Session.pipes_createTransform transformer _)
  | setReadableOwner id owner =>
    cases h
    simp only [Session.exec_onStreams, Registry.exec_setReadableOwner_snd]
    exact hu.turnover_of_eq ho (.modifySource id fun _ => ⟨rfl, rfl, rfl, rfl, rfl, rfl⟩)
      (Registry.pipes_modifySource _ _ _)
  | setWritableOwner id owner =>
    cases h
    simp only [Session.exec_onStreams, Registry.exec_setWritableOwner_snd]
    exact hu.turnover_of_eq ho (.modifySink id fun _ => ⟨rfl, rfl, rfl⟩)
      (Registry.pipes_modifySink _ _ _)
  | releaseReadable id =>
    cases h
    exact hu.turnover_of_eq ho (.releaseReadable id) (Registry.pipes_modifySource _ _ _)
  | releaseWritable id =>
    cases h
    exact hu.turnover_of_eq ho (.releaseWritable id) (Registry.pipes_modifySink _ _ _)
  | releaseTransform stream =>
    cases h
    exact hu.turnover_of_eq ho (.releaseTransform stream)
      ((Registry.pipes_modifySink _ _ _).trans (Registry.pipes_modifySource _ _ _))
  -- what moves data: whatever is shut, a pipe has shut it
  | read id token =>
    obtain ⟨r, hread, rfl⟩ := Option.map_eq_some_iff.mp h
    exact (Session.byPipes_read hordered hread).unshut hordered hu
  | cancel id reason token =>
    cases h
    exact (Session.shutsNone_cancel id reason token _).unshut
      (.of_changesWithin (Session.changesWithin_cancel _ id reason token)) hu
  | write id chunk token =>
    cases h
    exact (Session.ByPipes.write hc id chunk token).unshut hordered hu
  -- a close is the one call that may shut a destination under a pipe: a token that has been handed
  -- out is not the token of a running pipe
  | close id token =>
    cases h
    refine Session.unshut_close hc ho hu id ?_
    rintro ⟨number⟩ rfl
    exact .inr hshows
  | abort id reason token =>
    cases h
    exact (Session.ByPipes.abort hc id reason token).unshut hordered hu
  | pipeTo source destination options =>
    obtain ⟨r, hpipe, rfl⟩ := Option.map_eq_some_iff.mp h
    exact Session.unshut_pipeTo hr ho hu hpipe
  | pipeThrough source stream options =>
    obtain ⟨r, hpipe, rfl⟩ := Option.map_eq_some_iff.mp h
    rw [Session.attempt_pipeThrough] at hpipe
    obtain ⟨piped, hpiped, rfl⟩ := Option.map_eq_some_iff.mp hpipe
    exact Session.unshut_pipeTo hr ho hu hpiped
  | pump =>
    obtain ⟨r, hpump, rfl⟩ := Option.map_eq_some_iff.mp h
    exact (Session.byPipes_pump hordered hpump).unshut hordered hu
  | abortCorrelated source reason =>
    cases h
    exact (Session.shutsNone_abortCorrelated hc source reason).unshut
      (Session.movesTo_abortCorrelated source reason _) hu
  | sweep =>
    cases h
    exact hu.turnover ho .sweep fun hp _ => Registry.SameLocks.sweep.running_before hp
  | clear =>
    cases h
    refine hu.turnover ho .clear fun {id pipe} hp _ => ?_
    cases (SlotMap.get?_clear _ _).symm.trans hp

end StreamOp

namespace Client

variable [Host H]

/-- An operation shows only tokens that have been handed out. What is no operation on streams leaves
the streams alone, but for their locks and their owners. -/
inductive Honest (before : Client H E) : Client H E → Prop
  | operate (op : StreamOp E) (fuel : Nat) {session : Session H E} : op.Shows before →
    op.after fuel before.session = some session → Honest before (before.withSession session)
  | aside {later : Client H E} : later.session.streams.pipes = before.session.streams.pipes →
    before.session.streams.Turnover later.session.streams → Honest before later

variable {uses : H → List UInt32 → H → Prop} {client later : Client H E} {spent : Set Nat}

/-- Only operations on streams can be dishonest. -/
theorem Step.honest (h : Step uses client later) : client.Honest later ∨
    ∃ op fuel session, StreamOp.after fuel client.session op = some session ∧
      later = client.withSession session := by
  cases h with
  | operate op fuel hop => exact .inr ⟨op, fuel, _, hop, rfl⟩
  | @getReader id token streams hget =>
    have hturnover : client.session.streams.Turnover _ := .getReader id
    obtain ⟨-, source, hs, hl⟩ := Registry.of_exec_getReader hget
    rw [hget] at hturnover
    rw [Registry.exec_getReader _ hs hl] at hget
    obtain ⟨-, rfl⟩ := Prod.mk.inj hget
    exact .inl (.aside rfl hturnover)
  | @getWriter id token streams hget =>
    have hturnover : client.session.streams.Turnover _ := .getWriter id
    obtain ⟨-, sink, hk, hl⟩ := Registry.of_exec_getWriter hget
    rw [hget] at hturnover
    rw [Registry.exec_getWriter _ hk hl] at hget
    obtain ⟨-, rfl⟩ := Prod.mk.inj hget
    exact .inl (.aside rfl hturnover)
  | releaseReader id =>
    exact .inl (.aside (Registry.pipes_releaseReader _ _ _) (.releaseReader id _))
  | releaseWriter id =>
    exact .inl (.aside (Registry.pipes_releaseWriter _ _ _) (.releaseWriter id _))
  | callHost | visitGuest | nextOwner => exact .inl (.aside rfl (.refl _))

/-! ### What holds of all that honest clients can reach -/

/-- No running pipe has a closed destination. By induction on the steps. -/
theorem LeadsTo.unshut (h : LeadsTo uses Honest client later) (hr : client.session.Resting)
    (ho : client.session.streams.Orderly client.held spent) (hu : client.session.streams.Unshut) :
    later.session.streams.Unshut := by
  induction h with
  | refl => exact hu
  | step hbefore _ hhonest ih =>
    cases hhonest with
    | operate op fuel hshows hop =>
      exact StreamOp.unshut (hbefore.resting hr) (hbefore.orderly ho) ih hshows hop
    | aside hp hs => exact ih.turnover_of_eq (hbefore.orderly ho) hs hp

/-- Every stream hands on its chunks from its beginning. By induction on the steps. -/
theorem LeadsTo.whole {allowed : Client H E → Client H E → Prop}
    (h : LeadsTo uses allowed client later) (hr : client.session.Resting)
    (hw : ∀ {id source}, client.session.streams.source? id = some source →
      ∃ first, Session.PassedInOrder id first client.session) {id : ReadableId} {source : Source E}
    (hs : later.session.streams.source? id = some source) :
    ∃ first, Session.PassedInOrder id first later.session := by
  induction h generalizing source with
  | refl => exact hw hs
  | @step between later hbefore hstep _ ih =>
    have hresting := hbefore.resting hr
    cases hold : between.session.streams.source? id with
    | none => exact ⟨_, hstep.operationStep.passedInOrder_made hresting hold hs⟩
    | some old =>
      obtain ⟨first, hinOrder⟩ := ih hold
      refine ⟨first, hstep.operationStep.passedInOrder hresting (fun hnone => ?_) hinOrder⟩
      cases hold.symm.trans hnone

omit [Host H] in
theorem unshut_new (host : H) (env : E) (config : StreamConfig) :
    (new host env config).session.streams.Unshut := by
  intro id pipe hp
  cases (SlotMap.get?_empty _).symm.trans hp

omit [Host H] in
theorem whole_new (host : H) (env : E) (config : StreamConfig) {id : ReadableId} {source : Source E}
    (hs : (new host env config).session.streams.source? id = some source) :
    ∃ first, Session.PassedInOrder id first (new host env config).session := by
  cases (SlotMap.get?_empty _).symm.trans hs

end Client

end EdgeStreams
