import EdgeStreams.Proofs.Client.Locks
import EdgeStreams.Proofs.Session.Leftovers
import EdgeStreams.Worker.Basic

/-!
# What a request leaves behind

A worker lets go of every stream that it has made for a response, whatever comes of the response. So
all that a sweep leaves of them belongs to pipes that still run. There may be some: a response that
stalls is torn down at its end only, and the pipe into its transform stream runs on.

## Main definitions

- `Body.lent`: the stream that a body has not let go of

## Main statements

- `Body.since_pipeThroughIdentity`, `Worker.since_send`: the parts of sending a response
- `Worker.handle_leaves_running`: a sweep after a request leaves running pipes and their ends
-/

namespace EdgeStreams

variable {H E : Type} [Host H] {s : Session H E} {fuel : Nat}
variable {held spent : Set Nat} {old : Registry E} {rs : Set ReadableId} {ws : Set WritableId}

namespace Body

/-- The stream that a body has not let go of. -/
def lent (body : Body) : Set ReadableId :=
  {id | body.released = false ∧ body.readable = some id}

omit [Host H] in
/-- A body lets go of its stream. -/
theorem since_release {body : Body} (h : old.Since held spent body.lent ws s.streams) :
    old.Since held spent ∅ ws (body.release s).2.streams := by
  obtain ⟨owner, handle, readable, released, used⟩ := body
  cases released with
  | true => exact h.mono (fun id hid => by cases hid.1) subset_rfl
  | false =>
    cases readable with
    | none => exact h.mono (fun id hid => by cases hid.2) subset_rfl
    | some id =>
      have hlent : old.Since held spent (insert id ∅) ws s.streams :=
        h.mono (fun other hother => .inl (Option.some.inj hother.2).symm) subset_rfl
      exact hlent.releaseReadable

omit [Host H] in
/-- A stream that lives gets an owner. -/
theorem since_setReadableOwner {id : ReadableId} (owner : OwnerKey)
    (h : old.Since held spent rs ws s.streams) (hlive : s.streams.containsReadable id = true) :
    ∃ t, exec (Session.onStreams (Registry.setReadableOwner id owner)) s = (.ok (), t) ∧
      old.Since held spent rs ws t.streams := by
  obtain ⟨source, hs⟩ := Option.isSome_iff_exists.mp hlive
  have hok : (exec (Registry.setReadableOwner id owner) s.streams).1 = .ok () := by
    rw [Registry.exec_setReadableOwner hs]
  refine ⟨_, Prod.ext hok rfl, ?_⟩
  simp only [Session.exec_onStreams, Registry.exec_setReadableOwner_snd]
  exact h.continuesAs (.modifySource id fun _ => ⟨fun h => h, fun _ => .inl⟩)
    (h.orderly.of_sameLocks (.modifySource id fun _ => ⟨rfl, rfl, fun h => h⟩))

omit [Host H] in
/-- A body that has its stream has not let go of it. -/
theorem since_stream {body : Body} {result : Except BodyError (ReadableId × Body)}
    {opened : Session H E} (h : old.Since held spent body.lent ws s.streams)
    (hrun : exec (body.stream : Action H E BodyError _) s = (result, opened)) :
    (∃ error, result = .error error ∧ old.Since held spent body.lent ws opened.streams) ∨
      ∃ id streamed, result = .ok (id, streamed) ∧ streamed.released = false ∧
        streamed.readable = some id ∧ old.Since held spent {id} ws opened.streams := by
  obtain ⟨owner, handle, readable, released, used⟩ := body
  cases released with
  | true =>
    cases hrun
    exact .inl ⟨_, rfl, h⟩
  | false =>
    cases readable with
    | some id =>
      simp only [Body.stream, exec_bind, exec_get, Bool.false_eq_true, if_false] at hrun
      split at hrun
      · cases hrun
        exact .inr ⟨id, _, rfl, rfl, rfl, h.mono (fun other hother =>
          (Option.some.inj hother.2).symm) subset_rfl⟩
      · cases hrun
        exact .inl ⟨_, rfl, h⟩
    | none =>
      cases handle with
      | none =>
        cases hrun
        exact .inl ⟨_, rfl, h⟩
      | some handle =>
        have wf := h.orderly.wellFormed
        -- the stream is made only now, over the host body, and belongs to the owner of the body
        let made := Session.mapStreams (fun streams => (streams.bodySource handle).2) s
        have hadded : old.Since held spent {(s.streams.bodySource handle).1} ws made.streams :=
          (h.addSource ⟨rfl, rfl⟩).mono (fun other hother => hother.resolve_right fun hlent => by
            cases hlent.2) subset_rfl
        have hlive : made.streams.containsReadable (s.streams.bodySource handle).1 = true := by
          have hfound := Registry.source?_addSource wf
            { backing := .body handle s.streams.config.bodyChunkSize
              controller := { highWaterMark := s.streams.config.bodyHighWaterMark } }
            (s.streams.bodySource handle).1
          exact Option.isSome_iff_exists.mpr ⟨_, hfound.trans (if_pos rfl)⟩
        obtain ⟨owned, howner, hsince⟩ := since_setReadableOwner owner hadded hlive
        have hopen : exec (Body.stream ⟨owner, some handle, none, false, used⟩ :
            Action H E BodyError _) s = (.ok ((s.streams.bodySource handle).1,
              ⟨owner, some handle, some (s.streams.bodySource handle).1, false, used⟩), owned) := by
          simp only [Body.stream, exec_bind, exec_get, Bool.false_eq_true, if_false,
            exec_modifyGet, Session.exec_adapt]
          rw [show (Session.changeStreams (fun streams => streams.bodySource handle) s).2 = made
            from rfl, show (Session.changeStreams (fun streams => streams.bodySource handle) s).1 =
              (s.streams.bodySource handle).1 from rfl, howner]
          rfl
        rw [hopen] at hrun
        cases hrun
        exact .inr ⟨_, _, rfl, rfl, rfl, hsince⟩

/-- Whatever comes of it, all streams that have been made are let go of, save the one that the body
keeps. -/
theorem since_pipeThroughIdentity {body : Body}
    {r : (Except BodyError ReadableId × Body) × Session H E}
    (h : old.Since held spent body.lent ws s.streams)
    (hrun : drive (body.pipeThroughIdentity fuel) s = some r) :
    old.Since held spent r.1.2.lent ws r.2.streams := by
  simp only [pipeThroughIdentity, drive_bind, drive_modifyGet, Session.outcome_apply,
    Option.bind_some] at hrun
  generalize hopen : exec (body.stream : Action H E BodyError _) s = opened at hrun
  obtain ⟨result, opened⟩ := opened
  rcases since_stream h hopen with ⟨error, rfl, hsince⟩ |
    ⟨source, streamed, rfl, hkept, hid, hsince⟩
  · cases hrun
    exact hsince
  · have hmade := hsince.createTransform Transformer.identity
    have hlive := Session.containsReadable_createTransform hsince.orderly.wellFormed
      Transformer.identity
    simp only [drive_bind, drive_modifyGet, Option.bind_some, Session.createIdentity] at hrun
    generalize (Session.createTransform Transformer.identity : Step H E TransformStream) opened =
      made
      at hrun hmade hlive
    obtain ⟨transform, made⟩ := made
    obtain ⟨⟨outcome, piped⟩, hpipe, hrun⟩ := Option.bind_eq_some_iff.mp hrun
    rw [drive_run, Session.attempt_pipeThrough] at hpipe
    obtain ⟨⟨opening, _⟩, hopening, he⟩ := Option.map_eq_some_iff.mp hpipe
    cases he
    have hpiped := hmade.pipeTo hopening
    have hlive := (Session.continuesAs_pipeTo hopening).containsReadable hlive
    cases opening with
    | error error =>
      cases hrun
      have hlent : ({source} : Set ReadableId) ⊆ streamed.lent := fun _ he => he ▸ ⟨hkept, hid⟩
      exact hpiped.releaseReadable.releaseWritable.mono hlent subset_rfl
    | ok pipe =>
      obtain ⟨owned, howner, howned⟩ := since_setReadableOwner streamed.owner hpiped hlive
      simp only [Except.map, drive_bind, drive_modifyGet, Session.outcome_apply, howner,
        Option.bind_some, drive_modify, drive_pure, Option.some.injEq] at hrun
      subst hrun
      -- the body keeps the readable half, and its stream before that is let go of
      have hboth : old.Since held spent
          (insert source { streamed with readable := some transform.readable : Body}.lent)
          (insert transform.writable ws) owned.streams := by
        refine howned.mono ?_ subset_rfl
        rintro id (rfl | rfl)
        · exact .inr ⟨hkept, rfl⟩
        · exact .inl rfl
      exact hboth.releaseReadable.releaseWritable

end Body

namespace Worker

/-- A pipe that is still running is torn down. -/
theorem movesTo_finish (pipe : PipeId) (readable : ReadableId) (s : Session H E) :
    Session.MovesTo s (exec (finish pipe readable) s).2 := by
  simp only [finish, exec_bind, exec_get]
  split
  · exact .refl
  · exact .refl
  all_goals exact Session.movesTo_abortCorrelated readable _ s

theorem since_pipeResponse {response : Body} {sink : WritableId}
    {r : (Except WorkerError Unit × Body) × Session H E}
    (h : old.Since held spent response.lent ws s.streams)
    (hrun : drive (pipeResponse fuel response sink) s = some r) :
    old.Since held spent r.1.2.lent ws r.2.streams := by
  simp only [pipeResponse, drive_bind] at hrun
  obtain ⟨⟨⟨piped, streamed⟩, through⟩, hthrough, hrun⟩ := Option.bind_eq_some_iff.mp hrun
  have hsince := Body.since_pipeThroughIdentity h hthrough
  cases piped with
  | error error =>
    cases hrun
    exact hsince
  | ok readable =>
    simp only [drive_bind, drive_run] at hrun
    obtain ⟨⟨opening, onward⟩, hpipe, hrun⟩ := Option.bind_eq_some_iff.mp hrun
    have honward := hsince.pipeTo hpipe
    cases opening with
    | error error =>
      cases hrun
      exact honward
    | ok pipe =>
      simp only [drive_bind] at hrun
      obtain ⟨⟨steps, pumped⟩, hpump, hrun⟩ := Option.bind_eq_some_iff.mp hrun
      cases hrun
      exact (honward.movesTo (Session.movesTo_pump hpump)).movesTo
        (movesTo_finish pipe readable pumped)

/-- Whatever comes of it, the sink over the new host body is let go of. -/
theorem since_send {response : Body} {r : (Except WorkerError BodyHandle × Body) × Session H E}
    (h : old.Since held spent response.lent ∅ s.streams)
    (hrun : drive (send fuel response) s = some r) :
    old.Since held spent r.1.2.lent ∅ r.2.streams := by
  by_cases hused : response.used
  · simp only [send, hused, if_true, drive_pure, Option.some.injEq] at hrun
    subst hrun
    exact h
  · simp only [send, hused, Bool.false_eq_true, if_false, drive_bind, drive_modifyGet,
      Session.outcome_apply, Option.bind_some, Session.exec_onHost] at hrun
    generalize exec (Host.bodyNew : HostCall H BodyHandle) s.host = answer at hrun
    obtain ⟨called, host⟩ := answer
    cases called with
    | error error =>
      cases hrun
      exact h
    | ok destination =>
      simp only [drive_bind, drive_modifyGet, Option.bind_some] at hrun
      obtain ⟨⟨⟨outcome, streamed⟩, piped⟩, hpiped, hrun⟩ := Option.bind_eq_some_iff.mp hrun
      have hadded : old.Since held spent response.lent
          (insert (s.streams.bodySink destination).1 ∅) (s.streams.bodySink destination).2 :=
        h.addSink rfl
      have hsince := since_pipeResponse hadded hpiped
      cases outcome with
      | error error =>
        cases hrun
        exact (hsince.movesTo
          (.of_changesWithin (Session.changesWithin_abort piped _ _ _))).releaseWritable
      | ok =>
        cases hrun
        exact hsince.releaseWritable

/-- Whatever comes of a response, every stream that has been made for it is let go of. -/
theorem since_respond {made : Except ScriptError Body} {result : Except WorkerError BodyHandle}
    {sent : Session H E} (h : old.Since held spent ∅ ∅ s.streams)
    (hrun : respond fuel made s = some (result, sent)) :
    old.Since held spent ∅ ∅ sent.streams := by
  cases made with
  | error error =>
    cases hrun
    exact h
  | ok response =>
    have hdrive : drive (respond fuel (.ok response)) s = some (result, sent) := hrun
    simp only [respond, drive_bind, drive_modifyGet, Option.bind_some, drive_pure] at hdrive
    obtain ⟨⟨⟨outcome, streamed⟩, piped⟩, hsend, hdrive⟩ := Option.bind_eq_some_iff.mp hdrive
    cases hdrive
    exact Body.since_release (since_send (h.mono (Set.empty_subset _) subset_rfl) hsend)

variable {σ : Type} {worker worker' : Worker H E} {request : BodyHandle} {handler : Handler H E σ}
variable {state state' later : σ} {context : RequestContext H E} {made : Except ScriptError Body}
variable {result : Except WorkerError BodyHandle}

/-- Whatever the host, the guests and the handler do, a request that is over has left nothing behind
but what its handler had left already, and pipes that still run. -/
theorem handle_leaves_running
    (hmade : handler (⟨((Body.ofHandle request).run worker.session).2,
      some ((Body.ofHandle request).run worker.session).1⟩, state) = some (made, context, state'))
    (ho : context.session.streams.Orderly held spent)
    (hsweep : worker.config.sweepAfterRequest = true)
    (h : handle fuel worker request handler state = some (result, worker', later)) :
    context.session.streams.LeavesRunning worker'.session.streams := by
  have hleftover : context.session.streams.Since held spent ∅ ∅
      (releaseLeftover context.request context.session).streams := by
    cases context.request with
    | none => exact .refl ho
    | some body => exact Body.since_release (.refl ho)
  change (handler _).bind _ = _ at h
  obtain ⟨⟨made', context', state''⟩, hmade', h⟩ := Option.bind_eq_some_iff.mp h
  cases hmade.symm.trans hmade'
  change Option.bind _ _ = _ at h
  obtain ⟨⟨outcome, sent⟩, hrespond, h⟩ := Option.bind_eq_some_iff.mp h
  cases h
  have hswept := (since_respond hleftover hrespond).sweep
  simpa only [tidy, hsweep, if_true, Session.streams_mapStreams] using hswept

end Worker

end EdgeStreams
