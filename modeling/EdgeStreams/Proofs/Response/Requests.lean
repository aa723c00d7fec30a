import EdgeStreams.Proofs.Client.Lasting
import EdgeStreams.Proofs.Client.Sources
import EdgeStreams.Proofs.Response.Delivery

/-!
# Requests are operations

All that a worker does for a request it does by operations on streams and calls on the host, which a
client might do just as well. So whatever holds in every state that clients can reach holds of
workers after any number of requests.

## Main definitions

- `Session.StreamWork`: operations that take out no entry lead from one session to another
- `RunStreamWork`: operations on streams lead to whatever a computation comes to

## Main statements

- `Body.streamWork_pipeThroughIdentity`, `Worker.streamWork_pipeResponse`, `Worker.runsTo_send`: the
  parts of a request
- `Worker.reachedBy_handle`: a request leads from a worker that operations lead to to another one
-/

namespace EdgeStreams

variable {E : Type}

/-! ### Sequences of operations -/

/-- Operations on streams lead from one session to the other, and take out no entry. -/
def Session.StreamWork (s s' : Session MemoryHost E) : Prop :=
  ∀ client : Client MemoryHost E, client.session = s →
    client.session.streams.Orderly client.held ∅ → client.RunsTo (client.withSession s')

namespace Session.StreamWork

variable {s s' s'' : Session MemoryHost E}

theorem refl (s : Session MemoryHost E) : s.StreamWork s := by
  rintro client rfl -
  exact .refl

theorem trans (h : s.StreamWork s') (h' : s'.StreamWork s'') : s.StreamWork s'' := by
  intro client hc ho
  have hfirst := h client hc ho
  exact hfirst.trans (h' (client.withSession s') rfl (Client.LeadsTo.orderly hfirst ho))

/-- A single operation. -/
theorem operate (op : StreamOp E) (fuel : Nat) (h : op.after fuel s = some s') (hr : op.Retains) :
    s.StreamWork s' := by
  rintro client rfl ho
  exact .step .refl (.operate op fuel h)
    ⟨(StreamOp.growsTo h hr).sources.ages ho.wellFormed.sources,
      (StreamOp.quiet h).nextHandle ▸ UInt32.le_refl _⟩

end Session.StreamWork

/-! ### Computations -/

/-- Whatever a computation comes to, operations on streams lead there. -/
def RunStreamWork {α : Type} (run : Run MemoryHost E α) : Prop :=
  ∀ s r, drive run s = some r → s.StreamWork r.2

namespace RunStreamWork

variable {α β : Type}

theorem pure (a : α) : RunStreamWork (Pure.pure a : Run MemoryHost E α) := by
  intro s r h
  cases h
  exact .refl s

theorem bind {run : Run MemoryHost E α} {next : α → Run MemoryHost E β} (h : RunStreamWork run)
    (h' : ∀ a, RunStreamWork (next a)) : RunStreamWork (run >>= next) := by
  intro s r hr
  rw [drive_bind] at hr
  obtain ⟨first, hfirst, hnext⟩ := Option.bind_eq_some_iff.mp hr
  exact (h s first hfirst).trans (h' first.1 first.2 r hnext)

/-- A computation that has an outcome in any case. -/
theorem modifyGet {f : Session MemoryHost E → α × Session MemoryHost E}
    (h : ∀ s : Session MemoryHost E, s.StreamWork (f s).2) :
    RunStreamWork (MonadState.modifyGet f : Run MemoryHost E α) := by
  intro s r hr
  cases hr
  exact h s

/-- A computation that may fail. -/
theorem attempted {ε : Type} {work : Attempt MemoryHost E ε α}
    (h : ∀ s r, attempt work s = some r → s.StreamWork r.2) : RunStreamWork work.run := h

end RunStreamWork

theorem Session.streamWork_setReadableOwner (id : ReadableId) (owner : OwnerKey)
    (s : Session MemoryHost E) :
    s.StreamWork (exec (Session.onStreams (Registry.setReadableOwner id owner)) s).2 :=
  .operate (.setReadableOwner id owner) 0 rfl trivial

namespace Body

theorem streamWork_stream (body : Body) (s : Session MemoryHost E) :
    s.StreamWork (exec (body.stream : Action MemoryHost E BodyError _) s).2 := by
  have hget : Session.Preserves s.StreamWork (get : Action MemoryHost E BodyError _) := fun _ h => h
  have hwork : Session.Preserves s.StreamWork (body.stream : Action MemoryHost E BodyError _) := by
    unfold Body.stream
    refine .bind hget fun before => ?_
    split
    · exact .throw _
    · split
      · dsimp only
        split
        · exact .pure _
        · exact .throw _
      · exact .throw _
      · refine .bind (fun t ht => ?_) fun id => .bind (fun t ht => ?_) fun _ => .pure _
        · exact ht.trans (.operate (.bodySource _) 0 rfl trivial)
        · exact ht.trans (Session.streamWork_setReadableOwner id _ t)
  exact hwork s (.refl s)

theorem streamWork_release (body : Body) (s : Session MemoryHost E) :
    s.StreamWork (body.release s).2 := by
  obtain ⟨owner, handle, _ | id, _ | _⟩ := body
  case some.false => exact .operate (.releaseReadable id) 0 rfl trivial
  all_goals exact .refl s

theorem streamWork_pipeThroughIdentity (fuel : Nat) (body : Body) :
    RunStreamWork (body.pipeThroughIdentity fuel : Run MemoryHost E _) := by
  unfold Body.pipeThroughIdentity
  refine .bind (.modifyGet body.streamWork_stream) fun opened => ?_
  cases opened with
  | error error => exact .pure _
  | ok opened =>
    obtain ⟨source, body⟩ := opened
    refine .bind (.modifyGet fun s => .operate (.createTransform .identity) 0 rfl trivial)
      fun transform => .bind (.attempted fun s r h => ?_) fun piped => ?_
    · exact .operate (.pipeThrough source transform {})
        fuel (congrArg (Option.map Prod.snd) h) trivial
    · cases piped with
      | error error =>
        exact .bind (.modifyGet fun s => .operate (.releaseTransform transform) 0 rfl trivial)
          fun _ => .pure _
      | ok readable =>
        refine .bind (.modifyGet fun s => Session.streamWork_setReadableOwner readable _ s)
          fun owned => ?_
        cases owned with
        | error error => exact .pure _
        | ok =>
          refine .bind (.modifyGet fun s => ?_) fun _ => .pure _
          exact (Session.StreamWork.operate (.releaseReadable source) 0 rfl trivial).trans
            (.operate (.releaseWritable transform.writable) 0 rfl trivial)

end Body

namespace Worker

theorem streamWork_finish (pipe : PipeId) (readable : ReadableId) (s : Session MemoryHost E) :
    s.StreamWork (exec (finish pipe readable) s).2 := by
  have hget : Session.Preserves s.StreamWork (get : Action MemoryHost E WorkerError _) :=
    fun _ h => h
  have hwork : Session.Preserves s.StreamWork
      (finish pipe readable : Action MemoryHost E WorkerError _) := by
    unfold finish
    refine .bind hget fun before => ?_
    split
    · exact .pure _
    · exact .throw _
    all_goals
      refine .bind (fun t ht => ht.trans ?_) fun _ => .throw _
      exact .operate (.abortCorrelated readable (some "response stalled")) 0 rfl trivial
  exact hwork s (.refl s)

theorem streamWork_pipeResponse (fuel : Nat) (response : Body) (sink : WritableId) :
    RunStreamWork (pipeResponse fuel response sink : Run MemoryHost E _) := by
  unfold pipeResponse
  refine .bind (response.streamWork_pipeThroughIdentity fuel) fun (piped, response) => ?_
  cases piped with
  | error error => exact .pure _
  | ok readable =>
    refine .bind (.attempted fun s r h => ?_) fun piped => ?_
    · exact .operate (.pipeTo readable sink {}) fuel (congrArg (Option.map Prod.snd) h) trivial
    · cases piped with
      | error error => exact .pure _
      | ok pipe =>
        refine .bind (fun s r h => ?_) fun _ =>
          .bind (.modifyGet (streamWork_finish pipe readable)) fun _ =>
          .pure _
        exact .operate .pump fuel (congrArg (Option.map Prod.snd) h) trivial

variable {fuel : Nat} {client : Client MemoryHost E} {response : Body}

/-- The host is asked for a body. -/
theorem runsTo_bodyNew (client : Client MemoryHost E)
    (hroom : client.session.host.nextHandle ≤ client.session.host.nextHandle + 1) :
    let answer := exec (Host.bodyNew : HostCall MemoryHost BodyHandle) client.session.host
    client.RunsTo { client with
      session := { client.session with host := answer.2 }
      handles := MemoryHost.answered answer.1 ++ client.handles } := by
  refine .step .refl (.callHost .bodyNew) ⟨.refl _, ?_⟩
  rcases client.session.host.countsHandles_bodyNew with ⟨hquiet, -⟩ | ⟨hallocates, -⟩
  · exact hquiet.nextHandle ▸ UInt32.le_refl _
  · exact hallocates.nextHandle ▸ hroom

/-- Sending a response is one call for a new body, with operations on streams after it. -/
theorem runsTo_send {r : (Except WorkerError BodyHandle × Body) × Session MemoryHost E}
    (ho : client.session.streams.Orderly client.held ∅)
    (hroom : client.session.host.nextHandle ≤ client.session.host.nextHandle + 1)
    (h : drive (send fuel response) client.session = some r) :
    ∃ later, client.RunsTo later ∧ later.session = r.2 ∧
      ∀ handle, r.1.1 = .ok handle → handle.raw ∈ later.handles := by
  by_cases hused : response.used
  · simp only [send, hused, if_true, drive_pure, Option.some.injEq] at h
    subst h
    exact ⟨client, .refl, rfl, fun handle hok => by cases hok⟩
  · have hcalled := runsTo_bodyNew client hroom
    simp only [send, hused, Bool.false_eq_true, if_false, drive_bind, drive_modifyGet,
      Session.outcome_apply, Option.bind_some, Session.exec_onHost] at h
    generalize exec (Host.bodyNew : HostCall MemoryHost BodyHandle) client.session.host = answer
      at h hcalled
    obtain ⟨result, host⟩ := answer
    cases result with
    | error error =>
      simp only [drive_pure, Option.some.injEq] at h
      subst h
      exact ⟨_, hcalled, rfl, fun handle hok => by cases hok⟩
    | ok destination =>
      have hsink : Session.StreamWork { client.session with host }
          (Session.changeStreams (fun streams => streams.bodySink destination)
            { client.session with host }).2 := .operate (.bodySink destination) 0 rfl trivial
      simp only [drive_bind, drive_modifyGet, Option.bind_some] at h
      generalize Session.changeStreams (fun streams => streams.bodySink destination)
        { client.session with host } = made at h hsink
      obtain ⟨sink, made⟩ := made
      obtain ⟨⟨⟨outcome, streamed⟩, piped⟩, hpiped, h⟩ := Option.bind_eq_some_iff.mp h
      have hpipe := streamWork_pipeResponse fuel response sink _ _ hpiped
      -- what follows depends on the outcome of the pipe
      have hrest : piped.StreamWork r.2 ∧ r.1.1 = outcome.map fun _ => destination := by
        cases outcome with
        | error error =>
          cases h
          exact ⟨(Session.StreamWork.operate (.abort sink (some "response failed") none)
            0 rfl trivial).trans (.operate (.releaseWritable sink) 0 rfl trivial), rfl⟩
        | ok =>
          cases h
          exact ⟨.operate (.releaseWritable sink) 0 rfl trivial, rfl⟩
      refine ⟨_, hcalled.trans ((hsink.trans (hpipe.trans hrest.1)) _ rfl ho), rfl, ?_⟩
      rw [hrest.2]
      intro handle hhandle
      cases outcome with
      | error error => cases hhandle
      | ok =>
        cases hhandle
        exact List.mem_cons_self

/-- Answering a request, once its handler has made a response. -/
theorem runsTo_respond {made : Except ScriptError Body} {result : Except WorkerError BodyHandle}
    {sent : Session MemoryHost E} (ho : client.session.streams.Orderly client.held ∅)
    (hroom : client.session.host.nextHandle ≤ client.session.host.nextHandle + 1)
    (h : respond fuel made client.session = some (result, sent)) :
    ∃ later, client.RunsTo later ∧ later.session = sent ∧
      ∀ handle, result = .ok handle → handle.raw ∈ later.handles := by
  cases made with
  | error error =>
    cases h
    exact ⟨client, .refl, rfl, nofun⟩
  | ok response =>
    have hdrive : drive (respond fuel (.ok response)) client.session = some (result, sent) := h
    simp only [respond, drive_bind, drive_modifyGet, Option.bind_some, drive_pure] at hdrive
    obtain ⟨⟨⟨outcome, streamed⟩, piped⟩, hsend, hdrive⟩ := Option.bind_eq_some_iff.mp hdrive
    cases hdrive
    obtain ⟨later, hruns, hlater, hhandle⟩ := runsTo_send ho hroom hsend
    have hrelease := streamed.streamWork_release piped later hlater (hruns.orderly ho)
    exact ⟨_, hruns.trans hrelease, rfl, hhandle⟩

theorem streamWork_releaseLeftover (request : Option Body) (s : Session MemoryHost E) :
    s.StreamWork (releaseLeftover request s) := by
  cases request with
  | none => exact .refl s
  | some body => exact body.streamWork_release s

variable {σ : Type} {worker : Worker MemoryHost E} {later : Client MemoryHost E}
variable {request : BodyHandle} {handler : Handler MemoryHost E σ} {state state' : σ}
variable {context : RequestContext MemoryHost E} {made : Except ScriptError Body}
variable {result : Except WorkerError BodyHandle} {sent : Session MemoryHost E}

/-- After a request, whatever its outcome is, the worker is again one that operations lead to, as
long as no number runs over while the response is sent and the registry swept. A body that has been
answered counts as given out. -/
theorem reachedBy_handle (hworker : worker.ReachedBy client)
    (hmade : handler (⟨((Body.ofHandle request).run worker.session).2,
      some ((Body.ofHandle request).run worker.session).1⟩, state) = some (made, context, state'))
    (hhandler : (entered client request).RunsTo later) (hcontext : later.session = context.session)
    (hroom : context.session.host.nextHandle ≤ context.session.host.nextHandle + 1)
    (hrespond : respond fuel made (releaseLeftover context.request context.session) =
      some (result, sent))
    (hages : sent.streams.sources.Ages (tidy worker.config sent).streams.sources) :
    ∃ worker', handle fuel worker request handler state = some (result, worker', state') ∧
      ∃ after, worker'.ReachedBy after ∧ ∀ handle, result = .ok handle →
      handle.raw ∈ after.handles := by
  obtain ⟨size, env, hruns⟩ := hworker.runsTo
  have hmet := (hruns.trans (runsTo_entered client request)).trans hhandler
  have ho := Client.LeadsTo.orderly hmet (Client.orderly_new _ _ _)
  have hleft := streamWork_releaseLeftover context.request context.session later hcontext ho
  have hhost : (releaseLeftover context.request context.session).host = context.session.host := by
    rcases releaseLeftover_cases context.request context.session with heq | ⟨id, heq⟩ <;> rw [heq]
    rfl
  obtain ⟨after, hsent, hafter, hhandle⟩ :=
    runsTo_respond (Client.LeadsTo.orderly hleft ho) (hhost ▸ hroom) hrespond
  have htidy : after.RunsTo (after.withSession (tidy worker.config sent)) := by
    subst hafter
    unfold tidy at hages ⊢
    split at hages
    · next hsweep =>
      rw [if_pos hsweep]
      exact .step .refl (.operate .sweep 0 rfl) ⟨hages, UInt32.le_refl _⟩
    · next hsweep =>
      rw [if_neg hsweep]
      exact .refl
  exact ⟨_, handle_of_respond hmade hrespond, after.withSession (tidy worker.config sent),
    ⟨rfl, size, env, ((hmet.trans hleft).trans hsent).trans htidy⟩, hhandle⟩

end Worker

end EdgeStreams
