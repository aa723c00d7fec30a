import EdgeStreams.Builtin.Logger
import EdgeStreams.Builtin.ObjectStore
import EdgeStreams.Proofs.Session.Operating
import EdgeStreams.Worker.Basic

/-!
# Operations of all kinds

Bodies, object stores and workers are built on streams: all that they do to a session is a sequence
of operations on streams and calls on the host. What holds of these, and goes on from one to the
next, holds of all operations. So nothing is under way after any of them.

## Main definitions

- `PublicAction`, `PublicRun`: the operations of bodies, object stores, look-ups and loggers
- `Retentive`, `Operative`: what holds of operations on streams and goes on from one to the next
- `Session.Operates`: operations of all kinds, one after the other
- `Registry.Quiescent`: nothing is under way, and nothing waits

## Main statements

- `PublicAction.leads`, `PublicRun.leads`: what holds of operations on streams holds of all
  operations
- `Session.Operates.leads`: operations of all kinds are operations on streams
- `Session.quiescent_of_operates`: nothing is under way after any operation
-/

namespace EdgeStreams

variable {H E σ ε φ α β : Type} [Host H]

/-- An operation that may fail. -/
inductive PublicAction : {ε α : Type} → Action H E ε α → Prop
  | ofStream (id : ReadableId) : PublicAction (Body.ofStream id)
  | ofBytes (data : Bytes) : PublicAction (Body.ofBytes data)
  | ofText (text : String) : PublicAction (Body.ofText text)
  | stream (body : Body) : PublicAction body.stream
  | openStore (name : String) : PublicAction (ObjectStore.openNamed name)
  | lookup (store : ObjectStore) (key : String) : PublicAction (store.lookup key)
  | openLookup (kind : LookupKind) (name : String) : PublicAction (Lookup.openNamed kind name)
  | get {kind : LookupKind} (lookup : Lookup kind) (key : String) : PublicAction (lookup.get key)
  | openLogger (name : String) : PublicAction (Logger.openNamed name)
  | log (logger : Logger) (message : String) : PublicAction (logger.log message)

/-- An operation that reads streams. -/
inductive PublicRun : {α : Type} → Run H E α → Prop
  | pipeThroughIdentity (fuel : Nat) (body : Body) : PublicRun (body.pipeThroughIdentity fuel)
  | drain (fuel : Nat) (body : Body) (target : TargetType) : PublicRun (body.drain fuel target)
  | bytes (fuel : Nat) (body : Body) : PublicRun (body.bytes fuel)
  | text (fuel : Nat) (body : Body) : PublicRun (body.text fuel)
  | json {α : Type} (fuel : Nat) (body : Body) (read? : Json.Document → Option α) :
    PublicRun (body.jsonWith fuel read?)
  | form (fuel : Nat) (body : Body) : PublicRun (body.form fuel)
  | put (fuel : Nat) (store : ObjectStore) (key : String) (value : ObjectValue) :
    PublicRun (store.put fuel key value)

namespace Session

/-- Operations of all kinds, one after the other. A reader that works under a lock and the handler
of a worker do such operations, too. -/
inductive Operates : Session H E → Session H E → Prop
  | refl (s : Session H E) : Operates s s
  | operationStep {s t u : Session H E} : Operates s t → OperationStep t u → Operates s u
  | action {s t : Session H E} {ε α : Type} {action : Action H E ε α} : Operates s t →
    PublicAction action → Operates s (exec action t).2
  | run {s t : Session H E} {α : Type} {run : Run H E α} {r : α × Session H E} : Operates s t →
    PublicRun run → drive run t = some r → Operates s r.2
  | ofHandle {s t : Session H E} (handle : BodyHandle) : Operates s t →
    Operates s ((Body.ofHandle handle : Step H E Body).run t).2
  | release {s t : Session H E} (body : Body) : Operates s t → Operates s (body.release t).2
  | withReader {s t : Session H E} {α : Type} {id : ReadableId}
    {work : ReaderToken → Attempt H E StreamError α} {r : Except StreamError α × Session H E} :
      Operates s t → (∀ token u v, attempt (work token) u = some v → Operates u v.2) →
        attempt (withReader id work) t = some r → Operates s r.2
  | handle {s : Session H E} {σ : Type} {fuel : Nat} {worker worker' : Worker H E}
    {request : BodyHandle} {handler : Handler H E σ} {state state' : σ}
    {result : Except WorkerError BodyHandle} : Operates s worker.session →
      (∀ context before made context' after,
        handler (context, before) = some (made, context', after) →
          Operates context.session context'.session) →
        worker.handle fuel request handler state = some (result, worker', state') →
          Operates s worker'.session

end Session

/-! ### What computations come to -/

section Computations

omit [Host H]

variable {R : Session H E → Session H E → Prop}

/-- Whatever an action comes to is related to where it has started. -/
def ActionLeads (R : Session H E → Session H E → Prop) (action : Action H E ε α) : Prop :=
  ∀ s, R s (exec action s).2

namespace ActionLeads

theorem adapt {action : Action H E ε α} (f : ε → φ) (h : ActionLeads R action) :
    ActionLeads R (action.adapt f) := fun s => by
  rw [Session.exec_adapt]
  exact h s

theorem caught {action : Action H E ε α} (h : ActionLeads R action) :
    ActionLeads R (Session.caught action : Action H E φ (Except ε α)) := h

theorem modifyGet {f : Session H E → α × Session H E} (h : ∀ s : Session H E, R s (f s).2) :
    ActionLeads R (MonadState.modifyGet f : Action H E ε α) := h

end ActionLeads

/-- Whatever a run comes to is related to where it has started. -/
def RunLeads (R : Session H E → Session H E → Prop) (run : Run H E α) : Prop :=
  ∀ s r, drive run s = some r → R s r.2

namespace RunLeads

theorem modifyGet {f : Session H E → α × Session H E} (h : ∀ s : Session H E, R s (f s).2) :
    RunLeads R (MonadState.modifyGet f : Run H E α) := by
  intro s r hr
  cases hr
  exact h s

theorem outcome {action : Action H E ε α} (h : ActionLeads R action) :
    RunLeads R (MonadState.modifyGet (Session.outcome action) : Run H E (Except ε α)) := modifyGet h

theorem outOfFuel : RunLeads R (Session.outOfFuel : Run H E α) := by
  intro s r h
  cases h

theorem sure {run : Run H E α} (h : RunLeads R run) :
    RunLeads R (Session.sure run : Attempt H E ε α).run := by
  intro s r hr
  change attempt (Session.sure run) s = some r at hr
  rw [Session.attempt_sure] at hr
  obtain ⟨worked, hworked, rfl⟩ := Option.map_eq_some_iff.mp hr
  exact h s worked hworked

end RunLeads

end Computations

/-! ### What holds of every operation -/

/-- A relation between what was before and what is after that holds of operations on streams that
take out no entry, of work done elsewhere, and of work under a new lock, given back at the end. -/
class Retentive (R : Session H E → Session H E → Prop) : Prop where
  refl : ∀ s, R s s
  trans : ∀ {s t u}, R s t → R t u → R s u
  operate : ∀ (op : StreamOp E) (fuel : Nat) {s t : Session H E}, op.after fuel s = some t →
    op.Retains → R s t
  elsewhere : ∀ (s : Session H E) host env nextOwner, R s { s with host, env, nextOwner }
  underLock : ∀ {s t : Session H E} {id : ReadableId} {token : ReaderToken} {streams : Registry E},
    exec (Registry.getReader id) s.streams = (.ok token, streams) → R { s with streams } t →
      R s (t.mapStreams (Registry.quietly (Registry.releaseReader id token)))

/-- Such a relation that holds of sweeping, too. -/
class Operative (R : Session H E → Session H E → Prop) : Prop extends Retentive R where
  sweep : ∀ s, R s (s.mapStreams fun streams => streams.sweep.2)

namespace Retentive

variable {R : Session H E → Session H E → Prop} [Retentive R]

theorem releaseReadable (s : Session H E) (id : ReadableId) :
    R s (s.mapStreams fun streams => streams.releaseReadable id) :=
  operate (.releaseReadable id) 0 rfl trivial

theorem releaseWritable (s : Session H E) (id : WritableId) :
    R s (s.mapStreams fun streams => streams.releaseWritable id) :=
  operate (.releaseWritable id) 0 rfl trivial

end Retentive

variable {R : Session H E → Session H E → Prop} [Retentive R]

namespace ActionLeads

theorem pure (a : α) : ActionLeads R (Pure.pure a : Action H E ε α) := fun s => Retentive.refl s

theorem throw (e : ε) : ActionLeads R (MonadExcept.throw e : Action H E ε α) :=
  fun s => Retentive.refl s

theorem settled (result : Except ε α) : ActionLeads R (Session.settled result : Action H E ε α) :=
  fun s => Retentive.refl s

theorem get : ActionLeads R (MonadState.get : Action H E ε (Session H E)) :=
  fun s => Retentive.refl s

theorem bind {action : Action H E ε α} {next : α → Action H E ε β} (h : ActionLeads R action)
    (h' : ∀ a, ActionLeads R (next a)) : ActionLeads R (action >>= next) := fun s =>
  Session.Preserves.after (P := R s) (fun a t ht => Retentive.trans ht (h' a t)) (h s)

theorem onHost (call : HostCall H α) :
    ActionLeads R (Session.onHost call : Action H E HostError α) :=
  fun s => Retentive.elsewhere s _ s.env s.nextOwner

theorem setReadableOwner (id : ReadableId) (owner : OwnerKey) :
    ActionLeads R (Session.onStreams (Registry.setReadableOwner id owner) :
      Action H E StreamError Unit) := fun _ =>
    Retentive.operate (.setReadableOwner id owner) 0 rfl trivial

end ActionLeads

namespace RunLeads

theorem pure (a : α) : RunLeads R (Pure.pure a : Run H E α) := by
  intro s r h
  cases h
  exact Retentive.refl s

theorem get : RunLeads R (MonadState.get : Run H E (Session H E)) := by
  intro s r h
  cases h
  exact Retentive.refl s

theorem bind {run : Run H E α} {next : α → Run H E β} (h : RunLeads R run)
    (h' : ∀ a, RunLeads R (next a)) : RunLeads R (run >>= next) := by
  intro s r hr
  rw [drive_bind] at hr
  obtain ⟨first, hfirst, hnext⟩ := Option.bind_eq_some_iff.mp hr
  exact Retentive.trans (h s first hfirst) (h' first.1 first.2 r hnext)

theorem read (fuel : Nat) (id : ReadableId) (token : Option ReaderToken) :
    RunLeads R (Session.read fuel id token : Attempt H E StreamError ReadOutcome).run :=
      fun _ _ h =>
  Retentive.operate (.read id token) fuel (congrArg (Option.map Prod.snd) h) trivial

theorem pump (fuel : Nat) : RunLeads R (Session.pump fuel : Run H E Nat) := fun _ _ h =>
  Retentive.operate .pump fuel (congrArg (Option.map Prod.snd) h) trivial

theorem pipeTo (fuel : Nat) (source : ReadableId) (destination : WritableId)
    (options : PipeOptions) :
    RunLeads R (Session.pipeTo fuel source destination options : Attempt H E
      StreamError PipeId).run :=
  fun _ _ h => Retentive.operate (.pipeTo source destination options) fuel
    (congrArg (Option.map Prod.snd) h) trivial

theorem pipeThrough (fuel : Nat) (source : ReadableId) (stream : TransformStream)
    (options : PipeOptions) :
    RunLeads R (Session.pipeThrough fuel source stream options :
      Attempt H E StreamError ReadableId).run := fun _ _ h =>
  Retentive.operate (.pipeThrough source stream options) fuel
    (congrArg (Option.map Prod.snd) h) trivial

/-- Work under a reader's lock. -/
theorem withReader (id : ReadableId) {work : ReaderToken → Attempt H E StreamError α}
    (h : ∀ token, RunLeads R (work token).run) :
    RunLeads R (Session.withReader id work : Attempt H E StreamError α).run := by
  intro s r hr
  change attempt (Session.withReader id work) s = some r at hr
  simp only [Session.withReader, attempt_bind, Session.attempt_finite, Session.exec_onStreams,
    Option.bind_some] at hr
  generalize hlock : exec (Registry.getReader id) s.streams = locked at hr
  obtain ⟨result, streams⟩ := locked
  cases result with
  | error error =>
    obtain rfl := Registry.eq_of_exec_getReader_error hlock
    cases hr
    exact Retentive.refl s
  | ok token =>
    simp only [Session.attempt_sure, attempt_modify] at hr
    obtain ⟨worked, hwork, hr⟩ := Option.bind_eq_some_iff.mp hr
    obtain ⟨worked', hwork', rfl⟩ := Option.map_eq_some_iff.mp hwork
    cases hr
    exact Retentive.underLock hlock (h token _ worked' hwork')

end RunLeads

/-! ### Bodies -/

namespace Body

theorem leads_make (handle : Option BodyHandle) (readable : Option ReadableId) (s : Session H E) :
    R s ((make handle readable : Step H E Body).run s).2 :=
  Retentive.elsewhere s s.host s.env (s.nextOwner + 1)

theorem leads_ofStream (id : ReadableId) :
    ActionLeads R (ofStream id : Action H E BodyError Body) :=
  .bind (.modifyGet (leads_make none (some id))) fun _ =>
    .bind (.adapt _ (.setReadableOwner id _)) fun _ => .pure _

theorem leads_hostCall (operation : HostOperation) (call : HostCall H α) :
    ActionLeads R (hostCall operation call : Action H E BodyError α) := .adapt _ (.onHost call)

theorem leads_ofBytes (data : Bytes) :
    ActionLeads R (ofBytes data : Action H E BodyError Body) := by
  unfold ofBytes
  refine .bind (leads_hostCall _ _) fun handle => ?_
  split
  · exact .bind (leads_hostCall _ _) fun _ => .modifyGet (leads_make (some handle) none)
  · exact .modifyGet (leads_make (some handle) none)

theorem leads_stream (body : Body) : ActionLeads R (body.stream : Action H E BodyError _) := by
  unfold Body.stream
  refine .bind .get fun before => ?_
  split
  · exact .throw _
  · split
    · dsimp only
      split
      · exact .pure _
      · exact .throw _
    · exact .throw _
    · exact .bind (.modifyGet fun s => Retentive.operate (.bodySource _) 0 rfl trivial) fun id =>
        .bind (.adapt _ (.setReadableOwner id _)) fun _ => .pure _

theorem leads_release (body : Body) (s : Session H E) : R s (body.release s).2 := by
  obtain ⟨owner, handle, _ | id, _ | _⟩ := body
  case some.false => exact Retentive.releaseReadable s id
  all_goals exact Retentive.refl s

theorem leads_pipeThroughIdentity (fuel : Nat) (body : Body) :
    RunLeads R (body.pipeThroughIdentity fuel : Run H E _) := by
  unfold Body.pipeThroughIdentity
  refine .bind (.outcome body.leads_stream) fun opened => ?_
  cases opened with
  | error error => exact .pure _
  | ok opened =>
    obtain ⟨source, body⟩ := opened
    refine .bind (.modifyGet fun s => Retentive.operate (.createTransform .identity) 0 rfl trivial)
      fun transform => .bind (.pipeThrough fuel source transform {}) fun piped => ?_
    cases piped with
    | error error =>
      exact .bind (.modifyGet fun s =>
        Retentive.operate (.releaseTransform transform) 0 rfl trivial) fun _ => .pure _
    | ok readable =>
      refine .bind (.outcome (.setReadableOwner readable _)) fun owned => ?_
      cases owned with
      | error error => exact .pure _
      | ok =>
        refine .bind (.modifyGet fun s => ?_) fun _ => .pure _
        exact Retentive.trans (Retentive.releaseReadable s source)
          (Retentive.releaseWritable (s.mapStreams fun streams => streams.releaseReadable source)
            transform.writable)

/-- By induction on the fuel. -/
theorem leads_readAll (fuel : Nat) (id : ReadableId) (token : ReaderToken) (chunks : List Bytes)
    (idle : Bool) : RunLeads R (readAll fuel id token chunks idle : Run H E _) := by
  induction fuel generalizing chunks idle with
  | zero => exact .outOfFuel
  | succ fuel ih =>
    refine .bind (.read fuel id (some token)) fun found => ?_
    cases found with
    | error error => exact .pure _
    | ok found =>
      cases found with
      | chunk data => exact ih _ _
      | done => exact .pure _
      | pending =>
        refine .bind (.pump fuel) fun steps => ?_
        split
        · split
          · exact .pure _
          · exact ih _ _
        · exact ih _ _

theorem leads_drain (fuel : Nat) (body : Body) (target : TargetType) :
    RunLeads R (body.drain fuel target : Run H E _) := by
  unfold Body.drain Body.drainWith
  split
  · exact .pure _
  · refine .bind (.outcome body.leads_stream) fun opened => ?_
    cases opened with
    | error error => exact .pure _
    | ok opened =>
      obtain ⟨id, body⟩ := opened
      refine .bind .get fun before => ?_
      dsimp only
      split
      · exact .pure _
      · split
        · exact .pure _
        · refine .bind (.withReader id fun token => .sure (leads_readAll fuel id token [] false))
            fun read => ?_
          rcases read with error | ⟨error | data⟩ <;> exact .pure _

theorem leads_drainTo (fuel : Nat) (body : Body) (target : TargetType)
    (value : Representation → Except BodyError α) :
    RunLeads R (body.drainTo fuel target value : Run H E _) :=
  .bind (body.leads_drain fuel target) fun _ => .pure _

end Body

/-! ### Look-ups, loggers and object stores -/

theorem leads_hostCall (operation : HostOperation) (call : HostCall H α) :
    ActionLeads R (ScriptError.hostCall operation call : Action H E ScriptError α) :=
  .adapt _ (.onHost call)

theorem leads_hostQuery (operation : HostOperation) (call : HostCall H α) :
    ActionLeads R (ScriptError.hostQuery operation call : Action H E ScriptError (Option α)) :=
  .bind (.caught (.onHost call)) fun _ => .adapt _ (.settled _)

theorem leads_require (kind : NameKind) (text : String) :
    ActionLeads R (kind.require text : Action H E ScriptError Unit) := .adapt _ (.settled _)

namespace ObjectStore

theorem leads_openNamed (name : String) :
    ActionLeads R (openNamed name : Action H E ScriptError ObjectStore) := by
  refine .bind (leads_require _ _) fun _ => .bind (leads_hostQuery _ _) fun found => ?_
  cases found with
  | none => exact .throw _
  | some handle => exact .pure _

theorem leads_lookup (store : ObjectStore) (key : String) :
    ActionLeads R (store.lookup key : Action H E ScriptError (Option Body)) := by
  refine .bind (leads_require _ _) fun _ => .bind (leads_hostQuery _ _) fun found => ?_
  cases found with
  | none => exact .pure _
  | some handle => exact .bind (.modifyGet (Body.leads_make (some handle) none)) fun _ => .pure _

theorem leads_newBody (data : Bytes) :
    ActionLeads R (newBody data : Action H E ScriptError BodyHandle) := by
  unfold newBody
  refine .bind (leads_hostCall _ _) fun handle => ?_
  split
  · exact .bind (leads_hostCall _ _) fun _ => .pure _
  · exact .pure _

theorem leads_consume (fuel : Nat) (body : Body) : RunLeads R (consume fuel body : Run H E _) := by
  unfold consume
  split
  · exact .pure _
  · refine .bind .get fun before => ?_
    split
    · refine .bind (.outcome (.bind (leads_newBody []) fun _ =>
        .bind (leads_hostCall _ _) fun _ => .pure _)) fun moved => ?_
      cases moved with
      | error error => exact .pure _
      | ok handle => exact .bind (.modifyGet body.markUsed.leads_release) fun _ => .pure _
    · refine .bind (body.leads_drainTo fuel _ _) fun (read, body) => ?_
      cases read with
      | error error => exact .pure _
      | ok data => exact .bind (.outcome (leads_newBody data)) fun _ => .pure _

theorem leads_put (fuel : Nat) (store : ObjectStore) (key : String) (value : ObjectValue) :
    RunLeads R (store.put fuel key value : Run H E _) := by
  have hvalue : RunLeads R (hostBody fuel value : Run H E _) := by
    cases value with
    | bytes data => exact .bind (.outcome (leads_newBody data)) fun _ => .pure _
    | text text => exact .bind (.outcome (leads_newBody _)) fun _ => .pure _
    | body body => exact .bind (leads_consume fuel body) fun _ => .pure _
  unfold put
  split
  · exact .pure _
  · refine .bind hvalue fun (result, value) => ?_
    cases result with
    | error error => exact .pure _
    | ok handle => exact .bind (.outcome (leads_hostCall _ _)) fun _ => .pure _

end ObjectStore

theorem PublicAction.leads {action : Action H E ε α} (h : PublicAction action) :
    ActionLeads R action := by
  cases h with
  | ofStream id => exact Body.leads_ofStream id
  | ofBytes data => exact Body.leads_ofBytes data
  | ofText text => exact Body.leads_ofBytes _
  | stream body => exact body.leads_stream
  | openStore name => exact ObjectStore.leads_openNamed name
  | lookup store key => exact store.leads_lookup key
  | openLookup kind name =>
    refine .bind (leads_require _ _) fun _ => .bind (leads_hostQuery _ _) fun found => ?_
    cases found with
    | none => exact .throw _
    | some handle => exact .pure _
  | get lookup key => exact .bind (leads_require _ _) fun _ => leads_hostQuery _ _
  | openLogger name =>
    exact .bind (leads_require _ _) fun _ => .bind (leads_hostCall _ _) fun _ => .pure _
  | log logger message => exact leads_hostCall _ _

theorem PublicRun.leads {run : Run H E α} (h : PublicRun run) : RunLeads R run := by
  cases h with
  | pipeThroughIdentity fuel body => exact body.leads_pipeThroughIdentity fuel
  | drain fuel body target => exact body.leads_drain fuel target
  | bytes fuel body => exact body.leads_drainTo fuel _ _
  | text fuel body => exact body.leads_drainTo fuel _ _
  | json fuel body read? => exact body.leads_drainTo fuel _ _
  | form fuel body => exact body.leads_drainTo fuel _ _
  | put fuel store key value => exact store.leads_put fuel key value

/-! ### Workers -/

namespace Worker

theorem leads_finish (pipe : PipeId) (readable : ReadableId) :
    ActionLeads R (finish pipe readable : Action H E WorkerError Unit) := by
  unfold finish
  refine .bind .get fun before => ?_
  split
  · exact .pure _
  · exact .throw _
  all_goals
    refine .bind (.caught fun s => ?_) fun _ => .throw _
    exact Retentive.operate (.abortCorrelated readable (some "response stalled")) 0 rfl trivial

theorem leads_pipeResponse (fuel : Nat) (response : Body) (sink : WritableId) :
    RunLeads R (pipeResponse fuel response sink : Run H E _) := by
  unfold pipeResponse
  refine .bind (response.leads_pipeThroughIdentity fuel) fun (piped, response) => ?_
  cases piped with
  | error error => exact .pure _
  | ok readable =>
    refine .bind (.pipeTo fuel readable sink {}) fun piped => ?_
    cases piped with
    | error error => exact .pure _
    | ok pipe =>
      exact .bind (.pump fuel) fun _ => .bind (.outcome (leads_finish pipe readable))
        fun _ => .pure _

theorem leads_send (fuel : Nat) (response : Body) :
    RunLeads R (send fuel response : Run H E _) := by
  unfold send
  split
  · exact .pure _
  · refine .bind (.outcome (.onHost _)) fun called => ?_
    cases called with
    | error error => exact .pure _
    | ok destination =>
      refine .bind (.modifyGet fun s => Retentive.operate (.bodySink destination) 0 rfl trivial)
        fun sink => .bind (leads_pipeResponse fuel response sink) fun (result, response) => ?_
      have hrelease : RunLeads R (do
          modify (Session.mapStreams fun streams => streams.releaseWritable sink)
          return (result.map fun () => destination, response) : Run H E _) :=
        .bind (.modifyGet fun s => Retentive.releaseWritable s sink) fun _ => .pure _
      cases result with
      | error error =>
        exact .bind (.outcome fun s =>
          Retentive.operate (.abort sink (some "response failed") none) 0 rfl trivial)
            fun _ => hrelease
      | ok => exact hrelease

theorem leads_respond (fuel : Nat) (made : Except ScriptError Body) :
    RunLeads R (respond fuel made : Run H E _) := by
  cases made with
  | error error => exact .pure _
  | ok response =>
    exact .bind (leads_send fuel response) fun (_, response) =>
      .bind (.modifyGet response.leads_release) fun _ => .pure _

theorem leads_releaseLeftover (request : Option Body) (s : Session H E) :
    R s (releaseLeftover request s) := by
  cases request with
  | none => exact Retentive.refl s
  | some body => exact body.leads_release s

theorem leads_tidy {R : Session H E → Session H E → Prop} [Operative R] (config : WorkerConfig)
    (s : Session H E) : R s (tidy config s) := by
  unfold tidy
  split
  · exact Operative.sweep s
  · exact Retentive.refl s

/-- A request is covered if all that its handler does is. -/
theorem leads_handle {R : Session H E → Session H E → Prop} [Operative R] {fuel : Nat}
    {worker worker' : Worker H E} {request : BodyHandle}
    {handler : Handler H E σ} {state state' : σ} {result : Except WorkerError BodyHandle}
    (hhandler : ∀ context before made context' after,
      handler (context, before) = some (made, context', after) →
        R context.session context'.session)
    (h : worker.handle fuel request handler state = some (result, worker', state')) :
    R worker.session worker'.session := by
  have hentered := Body.leads_make (R := R) (some request) none worker.session
  unfold handle at h
  obtain ⟨⟨made, context, after⟩, hmade, h⟩ := Option.bind_eq_some_iff.mp h
  obtain ⟨⟨answer, sent⟩, hrespond, h⟩ := Option.bind_eq_some_iff.mp h
  cases h
  have hmade := Retentive.trans hentered (hhandler _ _ _ _ _ hmade)
  have hleft := Retentive.trans hmade (leads_releaseLeftover context.request context.session)
  have hsent := Retentive.trans hleft (leads_respond fuel made _ _ hrespond)
  exact Retentive.trans hsent (leads_tidy worker.config sent)

end Worker

/-! ### Operations -/

namespace Session

variable {s t : Session H E}

instance : Operative (LeadsTo (H := H) (E := E)) where
  refl _ := .refl
  trans := Reaches.trans
  operate op fuel _ _ h _ := .operate op fuel h
  sweep s := .operate .sweep 0 rfl
  elsewhere s host env nextOwner := .operationStep (.elsewhere host env nextOwner)
  underLock {s t id token streams} hget h := by
    have hlock : s.LeadsTo { s with streams } := by
      have hoperation := LeadsTo.operationStep (.getReader (s := s) id)
      rwa [hget] at hoperation
    exact (hlock.trans h).trans (LeadsTo.operationStep (.releaseReader id token))

/-- Operations of all kinds are operations on streams, calls on the host and work of guests. -/
theorem Operates.leads (h : Operates s t) : s.LeadsTo t := by
  induction h with
  | refl s => exact .refl
  | operationStep _ hoperation ih => exact ih.step hoperation trivial
  | action _ hpublic ih => exact ih.trans (hpublic.leads _)
  | run _ hpublic hrun ih => exact ih.trans (hpublic.leads _ _ hrun)
  | ofHandle handle _ ih => exact ih.trans (Body.leads_make (some handle) none _)
  | release body _ ih => exact ih.trans (body.leads_release _)
  | withReader _ _ hreader ih hwork =>
    exact ih.trans (RunLeads.withReader
      (R := LeadsTo) _ (fun token u v => hwork token u v) _ _ hreader)
  | handle _ _ hhandle ih hhandler => exact ih.trans (Worker.leads_handle hhandler hhandle)

end Session

/-- Nothing is under way, and nothing waits. -/
structure Registry.Quiescent (streams : Registry E) : Prop where
  /-- No source is being pulled, and no pull is to follow. -/
  sources : ∀ id source, streams.source? id = some source →
    source.pulling = false ∧ source.pullAgain = false
  /-- No sink is at work, none has an abort or an end still to come, and no write waits. -/
  sinks : ∀ id sink, streams.sink? id = some sink →
    sink.controller.inFlight = false ∧ sink.controller.abortRequested = false ∧
      sink.controller.state ≠ .closing ∧ sink.controller.pending = []
  /-- No pipe is being driven. -/
  pipes : ∀ id pipe, streams.pipe? id = some pipe → pipe.pumping = false
  /-- A sink that takes writes has been started. -/
  started : ∀ id sink, streams.sink? id = some sink → sink.controller.state = .writable →
    sink.start = .resolved

namespace Session

variable {s : Session H E}

omit [Host H] in
theorem Resting.quiescent (h : s.Resting) : s.streams.Quiescent where
  sources _ _ hs := ⟨h.unpulled hs, h.composed.notAsked hs (h.unpulled hs)⟩
  sinks _ _ hs :=
    have hidle := h.composed.idle hs
    ⟨hidle.inFlight, hidle.abortRequested, hidle.unending, hidle.pending⟩
  pipes _ _ hp := h.undriven hp
  started _ _ hs := (h.composed.idle hs).started

/-- After any operation, in any run over any host and with any guests, nothing is under way and
nothing waits. So no write is ever left in a queue, and no end is left to come. -/
theorem quiescent_of_operates {host : H} {env : E} {config : StreamConfig}
    (h : Operates { host, env, streams := .new config } s) : s.streams.Quiescent :=
  (h.leads.resting (resting_new host env config)).quiescent

/-- A pipe from a host body into a transform stream that has no room waits, and is not being
driven. -/
theorem quiescent_of_operates_parked :
    ∃ s : Session MemoryHost Unit,
      Operates { host := {}, env := (), streams := .new { transformHighWaterMark := 0 } } s ∧
      (∃ pipe, s.streams.pipe? ⟨0, 0⟩ = some pipe ∧ pipe.state = .running) ∧
      (∃ sink, s.streams.sink? ⟨0, 0⟩ = some sink ∧ sink.controller.state = .writable) ∧
      s.streams.Quiescent := by
  have hmade : Operates (H := MemoryHost) (E := Unit)
      { host := {}, env := (), streams := .new { transformHighWaterMark := 0 } } _ :=
    .operationStep (.operationStep (.refl _) (.operate (.createTransform .identity) 0 rfl))
      (.operate (.bodySource ⟨1⟩) 0 rfl)
  have hpiped := hmade.operationStep (.operate (.pipeTo ⟨1, 0⟩ ⟨0, 0⟩ {}) 3 rfl)
  exact ⟨_, hpiped, ⟨_, rfl, rfl⟩, ⟨_, rfl, rfl⟩, quiescent_of_operates hpiped⟩

end Session

end EdgeStreams
