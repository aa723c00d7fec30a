import EdgeStreams.Proofs.Session.Locking

/-!
# Clients

A client does one operation on a session after the other, in any order and on any streams. It holds
the tokens of the locks that it has taken. Between its operations it may call the host, and guests
may change their environment.

## Main definitions

- `StreamOp`: an operation on streams that takes no lock and gives none back
- `StreamOp.Retains`: the operation takes out no entry
- `StreamOp.Effect`: what an operation comes to
- `Client`: a session with the tokens and handles that have been handed out
- `Client.Step`: one operation
- `Client.LeadsTo`: one operation after another

## Main statements

- `StreamOp.effect_of_after`: every operation comes to one of its effects

## Design notes

A token is had only from taking a lock, and is kept after the lock has been given back. Operations
that only show a token to a lock may be given any token. How the host may change and which steps are
allowed is left open: what holds of every step holds under all such rules.
-/

namespace EdgeStreams

variable {H E : Type}

/-- An operation on streams that takes no lock and gives none back. -/
inductive StreamOp (E : Type) where
  | bodySource (handle : BodyHandle)
  | scriptSource (guest : UnderlyingSource E) (highWaterMark : UInt64)
  | bodySink (handle : BodyHandle)
  | scriptSink (guest : UnderlyingSink E)
  | createTransform (transformer : Transformer E)
  | setReadableOwner (id : ReadableId) (owner : OwnerKey)
  | setWritableOwner (id : WritableId) (owner : OwnerKey)
  | releaseReadable (id : ReadableId)
  | releaseWritable (id : WritableId)
  | releaseTransform (stream : TransformStream)
  | read (id : ReadableId) (token : Option ReaderToken)
  | cancel (id : ReadableId) (reason : Option String) (token : Option ReaderToken)
  | write (id : WritableId) (chunk : Bytes) (token : Option WriterToken)
  | close (id : WritableId) (token : Option WriterToken)
  | abort (id : WritableId) (reason : Option String) (token : Option WriterToken)
  | pipeTo (source : ReadableId) (destination : WritableId) (options : PipeOptions)
  | pipeThrough (source : ReadableId) (stream : TransformStream) (options : PipeOptions)
  | pump
  | abortCorrelated (source : ReadableId) (reason : Option String)
  | sweep
  | clear

/-- The session after an operation, whatever its outcome is. -/
def StreamOp.after [Host H] (fuel : Nat) (s : Session H E) : StreamOp E → Option (Session H E)
  | .bodySource handle => some (s.mapStreams fun streams => (streams.bodySource handle).2)
  | .scriptSource guest highWaterMark => some (Session.scriptSource guest highWaterMark s).2
  | .bodySink handle => some (s.mapStreams fun streams => (streams.bodySink handle).2)
  | .scriptSink guest => some (Session.scriptSink guest s).2
  | .createTransform transformer => some (Session.createTransform transformer s).2
  | .setReadableOwner id owner =>
    some (exec (Session.onStreams (Registry.setReadableOwner id owner)) s).2
  | .setWritableOwner id owner =>
    some (exec (Session.onStreams (Registry.setWritableOwner id owner)) s).2
  | .releaseReadable id => some (s.mapStreams fun streams => streams.releaseReadable id)
  | .releaseWritable id => some (s.mapStreams fun streams => streams.releaseWritable id)
  | .releaseTransform stream => some (s.mapStreams fun streams => streams.releaseTransform stream)
  | .read id token => (attempt (Session.read fuel id token) s).map Prod.snd
  | .cancel id reason token => some (exec (Session.cancel id reason token) s).2
  | .write id chunk token => some (exec (Session.write id chunk token) s).2
  | .close id token => some (exec (Session.close id token) s).2
  | .abort id reason token => some (exec (Session.abort id reason token) s).2
  | .pipeTo source destination options =>
    (attempt (Session.pipeTo fuel source destination options) s).map Prod.snd
  | .pipeThrough source stream options =>
    (attempt (Session.pipeThrough fuel source stream options) s).map Prod.snd
  | .pump => (drive (Session.pump fuel) s).map Prod.snd
  | .abortCorrelated source reason => some (exec (Session.abortCorrelated source reason) s).2
  | .sweep => some (s.mapStreams fun streams => streams.sweep.2)
  | .clear => some (s.mapStreams Registry.clear)

/-- The operation takes out no entry. -/
def StreamOp.Retains : StreamOp E → Prop
  | .sweep | .clear => False
  | _ => True

/-! ### What operations come to -/

namespace Registry

theorem exec_setReadableOwner_snd (streams : Registry E) (id : ReadableId) (owner : OwnerKey) :
    (exec (setReadableOwner id owner) streams).2 =
      streams.modifySource id fun source => { source with owner := some owner } := by
  simp only [setReadableOwner, exec_bind, exec_source, modifySource]
  cases streams.source? id <;> rfl

theorem exec_setWritableOwner_snd (streams : Registry E) (id : WritableId) (owner : OwnerKey) :
    (exec (setWritableOwner id owner) streams).2 =
      streams.modifySink id fun sink => { sink with owner := some owner } := by
  simp only [setWritableOwner, exec_bind, exec_sink, modifySink]
  cases streams.sink? id <;> rfl

end Registry

/-- What an operation comes to. All that moves data is one kind, and a pipe through a transform
stream is the pipe into its writable half. -/
inductive StreamOp.Effect [Host H] (s : Session H E) : StreamOp E → Session H E → Prop
  | bodySource (handle : BodyHandle) :
    Effect s (.bodySource handle) (s.mapStreams fun streams => (streams.bodySource handle).2)
  | scriptSource (guest : UnderlyingSource E) (highWaterMark : UInt64) :
    Effect s (.scriptSource guest highWaterMark) (Session.scriptSource guest highWaterMark s).2
  | bodySink (handle : BodyHandle) :
    Effect s (.bodySink handle) (s.mapStreams fun streams => (streams.bodySink handle).2)
  | scriptSink (guest : UnderlyingSink E) :
      Effect s (.scriptSink guest) (Session.scriptSink guest s).2
  | createTransform (transformer : Transformer E) :
    Effect s (.createTransform transformer) (Session.createTransform transformer s).2
  | setReadableOwner (id : ReadableId) (owner : OwnerKey) :
    Effect s (.setReadableOwner id owner) (s.mapStreams fun streams =>
      streams.modifySource id fun source => { source with owner := some owner })
  | setWritableOwner (id : WritableId) (owner : OwnerKey) :
    Effect s (.setWritableOwner id owner) (s.mapStreams fun streams =>
      streams.modifySink id fun sink => { sink with owner := some owner })
  | releaseReadable (id : ReadableId) :
    Effect s (.releaseReadable id) (s.mapStreams fun streams => streams.releaseReadable id)
  | releaseWritable (id : WritableId) :
    Effect s (.releaseWritable id) (s.mapStreams fun streams => streams.releaseWritable id)
  | releaseTransform (stream : TransformStream) :
    Effect s (.releaseTransform stream) (s.mapStreams fun streams =>
      streams.releaseTransform stream)
  | movesTo {op : StreamOp E} {t : Session H E} : Session.MovesTo s t → Effect s op t
  | pipeTo {op : StreamOp E} {fuel : Nat} {source : ReadableId} {destination : WritableId}
    {options : PipeOptions} {r : Except StreamError PipeId × Session H E} :
    attempt (Session.pipeTo fuel source destination options) s = some r → Effect s op r.2
  | sweep : Effect s .sweep (s.mapStreams fun streams => streams.sweep.2)
  | clear : Effect s .clear (s.mapStreams Registry.clear)

theorem StreamOp.effect_of_after [Host H] {s t : Session H E} {op : StreamOp E} {fuel : Nat}
    (h : op.after fuel s = some t) : op.Effect s t := by
  cases op with
  | bodySource handle => cases h; exact .bodySource handle
  | scriptSource guest highWaterMark => cases h; exact .scriptSource guest highWaterMark
  | bodySink handle => cases h; exact .bodySink handle
  | scriptSink guest => cases h; exact .scriptSink guest
  | createTransform transformer => cases h; exact .createTransform transformer
  | setReadableOwner id owner =>
    cases h
    simp only [Session.exec_onStreams, Registry.exec_setReadableOwner_snd]
    exact .setReadableOwner id owner
  | setWritableOwner id owner =>
    cases h
    simp only [Session.exec_onStreams, Registry.exec_setWritableOwner_snd]
    exact .setWritableOwner id owner
  | releaseReadable id => cases h; exact .releaseReadable id
  | releaseWritable id => cases h; exact .releaseWritable id
  | releaseTransform stream => cases h; exact .releaseTransform stream
  | read id token =>
    obtain ⟨r, hread, rfl⟩ := Option.map_eq_some_iff.mp h
    exact .movesTo (Session.movesTo_read hread)
  | cancel id reason token =>
    cases h
    exact .movesTo (.of_changesWithin (Session.changesWithin_cancel s id reason token))
  | write id chunk token =>
    cases h
    exact .movesTo (.of_changesWithin (Session.changesWithin_write s id chunk token))
  | close id token =>
    cases h
    exact .movesTo (.of_changesWithin (Session.changesWithin_close s id token))
  | abort id reason token =>
    cases h
    exact .movesTo (.of_changesWithin (Session.changesWithin_abort s id reason token))
  | pipeTo source destination options =>
    obtain ⟨r, hpipe, rfl⟩ := Option.map_eq_some_iff.mp h
    exact .pipeTo hpipe
  | pipeThrough source stream options =>
    obtain ⟨r, hpipe, rfl⟩ := Option.map_eq_some_iff.mp h
    rw [Session.attempt_pipeThrough] at hpipe
    obtain ⟨piped, hpiped, rfl⟩ := Option.map_eq_some_iff.mp hpipe
    exact .pipeTo hpiped
  | pump =>
    obtain ⟨r, hpump, rfl⟩ := Option.map_eq_some_iff.mp h
    exact .movesTo (Session.movesTo_pump hpump)
  | abortCorrelated source reason =>
    cases h
    exact .movesTo (Session.movesTo_abortCorrelated source reason s)
  | sweep => cases h; exact .sweep
  | clear => cases h; exact .clear

/-! ### Clients -/

/-- A session with what has been handed out to those who work on it. -/
structure Client (H E : Type) where
  session : Session H E
  /-- The reader tokens handed out. -/
  readers : List ReaderToken := []
  /-- The writer tokens handed out. -/
  writers : List WriterToken := []
  /-- The numbers of the host handles handed out. -/
  handles : List UInt32 := []

namespace Client

/-- A client of an empty registry. -/
def new (host : H) (env : E) (config : StreamConfig) : Client H E where
  session := { host, env, streams := .new config }

/-- The numbers of the tokens handed out. -/
def held (client : Client H E) : Set Nat :=
  {number | ⟨number⟩ ∈ client.readers ∨ ⟨number⟩ ∈ client.writers}

/-- The client with its session changed. -/
def withSession (client : Client H E) (session : Session H E) : Client H E :=
  { client with session }

section Steps

variable [Host H] (uses : H → List UInt32 → H → Prop) (allowed : Client H E → Client H E → Prop)

/-- One operation. The host may change as `uses` has it, handing out some handles. -/
inductive Step (client : Client H E) : Client H E → Prop
  | operate (op : StreamOp E) (fuel : Nat) {session : Session H E} :
    op.after fuel client.session = some session → Step client (client.withSession session)
  | getReader (id : ReadableId) {token : ReaderToken} {streams : Registry E} :
    exec (Registry.getReader id) client.session.streams = (.ok token, streams) →
      Step client { client with
        session := { client.session with streams }
        readers := token :: client.readers }
  | getWriter (id : WritableId) {token : WriterToken} {streams : Registry E} :
    exec (Registry.getWriter id) client.session.streams = (.ok token, streams) →
      Step client { client with
        session := { client.session with streams }
        writers := token :: client.writers }
  | releaseReader (id : ReadableId) {token : ReaderToken} : token ∈ client.readers →
    Step client (client.withSession
      (client.session.mapStreams (Registry.quietly (Registry.releaseReader id token))))
  | releaseWriter (id : WritableId) {token : WriterToken} : token ∈ client.writers →
    Step client (client.withSession
      (client.session.mapStreams (Registry.quietly (Registry.releaseWriter id token))))
  | callHost {handles : List UInt32} {host : H} : uses client.session.host handles host →
    Step client { client with
      session := { client.session with host }
      handles := handles ++ client.handles }
  | visitGuest (env : E) : Step client (client.withSession { client.session with env })
  | nextOwner (number : Nat) :
    Step client (client.withSession { client.session with nextOwner := number })

/-- One allowed operation after another. -/
inductive LeadsTo (client : Client H E) : Client H E → Prop
  | refl : LeadsTo client client
  | step {between later : Client H E} : LeadsTo client between → Step uses between later →
    allowed between later → LeadsTo client later

variable {uses allowed}

theorem LeadsTo.trans {client between later : Client H E} (h : LeadsTo uses allowed client between)
    (h' : LeadsTo uses allowed between later) : LeadsTo uses allowed client later := by
  induction h' with
  | refl => exact h
  | step _ hstep hallowed ih => exact ih.step hstep hallowed

end Steps

end Client

end EdgeStreams
