import EdgeStreams.Body.Drain
import EdgeStreams.Proofs.Registry.Holding
import EdgeStreams.Proofs.Session.Flow

/-!
# Callers that a lock refuses

A caller who does not show the token that locks a stream is refused before anything has been done.

## Main definitions

- `Session.RefusesReaders`, `Session.RefusesWriters`: only those who show a token are let in
- `Session.RejectsReader`, `Session.RejectsWriter`: a token is refused everywhere

## Main statements

- `Session.refusesReaders`, `Session.refusesWriters`: what a locked stream refuses
- `Session.rejectsReader`, `Session.rejectsWriter`: what is refused if a token locks no stream
-/

namespace EdgeStreams

variable {H E : Type}

/-- The error of callers who show a wrong token to a lock, or none. -/
def lockRefusal {τ : Type} : Option τ → StreamError
  | none => .locked
  | some _ => .notLockHolder

namespace Registry

theorem admits_of_ne {τ : Type} [DecidableEq τ] {held : τ} {token : Option τ}
    (h : token ≠ some held) : admits (some held) token = .error (lockRefusal token) := by
  cases token with
  | none => rfl
  | some other => simp_all [admits, lockRefusal, eq_comm]

variable {streams : Registry E}

theorem containsReadable_of_isLocked {id : ReadableId} (h : streams.isLocked id = true) :
    streams.containsReadable id = true := by
  obtain ⟨token, htoken⟩ := Option.isSome_iff_exists.mp h
  obtain ⟨source, hs, -⟩ := Option.bind_eq_some_iff.mp htoken
  exact Option.isSome_iff_exists.mpr ⟨source, hs⟩

/-- An attempt to pipe into a stream that cannot be locked changes nothing but the number of the
next token. The source is locked first, and unlocked again. -/
theorem exec_openPipe_of_unlockable {w : WritableId} {error : StreamError}
    (hwriter : ∀ locked : Registry E, locked.sinks = streams.sinks →
      exec (getWriter w) locked = (.error error, locked)) (r : ReadableId) (options : PipeOptions) :
    ∃ number, streams.nextToken ≤ number ∧
      exec (openPipe r w options) streams =
        (.error (if streams.isLocked r then .locked
            else if streams.containsReadable r then error else .released),
          { streams with nextToken := number }) := by
  cases hs : streams.source? r with
  | none =>
    refine ⟨streams.nextToken, le_rfl, ?_⟩
    simp [openPipe, exec_bind, getReader, hs, containsReadable, isLocked]
  | some source =>
    cases hrl : source.readerLock with
    | some other =>
      refine ⟨streams.nextToken, le_rfl, ?_⟩
      simp [openPipe, exec_bind, getReader, hs, hrl, isLocked]
    | none =>
      have hreader : exec (getReader r) streams =
          (.ok ⟨streams.nextToken⟩, streams.readerLocked r source) := exec_getReader streams hs hrl
      refine ⟨streams.nextToken + 1, Nat.le_succ _, ?_⟩
      rw [exec_openPipe_of_refused hreader (hwriter (streams.readerLocked r source) rfl)]
      simp [unlockReader_readerLocked hs hrl, containsReadable, isLocked, hs, hrl]

/-- An attempt to pipe into a stream that is locked changes nothing but the number of the next
token. -/
theorem exec_openPipe_of_locked {w : WritableId} {sink : Sink E} {token : WriterToken}
    (hk : streams.sink? w = some sink) (hl : sink.writerLock = some token) (r : ReadableId)
    (options : PipeOptions) :
    ∃ number, streams.nextToken ≤ number ∧
      exec (openPipe r w options) streams =
        (.error (if streams.containsReadable r then .locked else .released),
          { streams with nextToken := number }) := by
  have hwriter : ∀ locked : Registry E, locked.sinks = streams.sinks →
      exec (getWriter w) locked = (.error .locked, locked) := fun locked hsinks => by
    have hfound : locked.sink? w = some sink := (congrArg (SlotMap.get? · w.key) hsinks).trans hk
    simp [getWriter, exec_bind, hfound, hl]
  obtain ⟨number, hle, hopen⟩ := exec_openPipe_of_unlockable hwriter r options
  refine ⟨number, hle, hopen.trans ?_⟩
  by_cases hlocked : streams.isLocked r = true
  · rw [if_pos hlocked, if_pos (containsReadable_of_isLocked hlocked)]
  · rw [if_neg hlocked]

/-- An attempt to pipe into a stream that is gone changes nothing but the number of the next
token. -/
theorem exec_openPipe_of_gone {w : WritableId} (hk : streams.sink? w = none) (r : ReadableId)
    (options : PipeOptions) :
    ∃ number, streams.nextToken ≤ number ∧
      exec (openPipe r w options) streams =
        (.error (if streams.isLocked r then .locked else .released),
          { streams with nextToken := number }) := by
  have hwriter : ∀ locked : Registry E, locked.sinks = streams.sinks →
      exec (getWriter w) locked = (.error .released, locked) := fun locked hsinks => by
    have hfound : locked.sink? w = none := (congrArg (SlotMap.get? · w.key) hsinks).trans hk
    simp [getWriter, exec_bind, hfound]
  obtain ⟨number, hle, hopen⟩ := exec_openPipe_of_unlockable hwriter r options
  refine ⟨number, hle, hopen.trans ?_⟩
  rw [ite_self]

end Registry

namespace Session

variable [Host H] {s : Session H E}

/-- A readable stream that is locked with a token refuses everybody who does not show it, and
nothing happens. -/
structure RefusesReaders (s : Session H E) (id : ReadableId) (token : ReaderToken) : Prop where
  getReader : exec (Registry.getReader id) s.streams = (.error .locked, s.streams)
  withReader : ∀ {α : Type} (work : ReaderToken → Attempt H E StreamError α),
    attempt (Session.withReader id work) s = some (.error .locked, s)
  releaseReader : ∀ {other}, other ≠ token →
    exec (Registry.releaseReader id other) s.streams = (.error .notLockHolder, s.streams)
  read : ∀ {other}, other ≠ some token → ∀ fuel,
    attempt (Session.read fuel id other) s = some (.error (lockRefusal other), s)
  cancel : ∀ {other}, other ≠ some token → ∀ reason,
    exec (Session.cancel id reason other) s = (.error (lockRefusal other), s)
  pipeTo : ∀ fuel destination options,
    attempt (Session.pipeTo fuel id destination options) s = some (.error .locked, s)
  /-- A body over the stream. -/
  drain : ∀ {body : Body}, body.readable = some id → ∀ fuel target,
    drive (body.drain fuel target) s =
      some ((.error (if body.used then .alreadyUsed else .locked), body), s)

/-- A writable stream that is locked with a token refuses everybody who does not show it, and
nothing happens. A pipe that cannot lock its destination may have used up the number of a token. -/
structure RefusesWriters (s : Session H E) (id : WritableId) (token : WriterToken) : Prop where
  getWriter : exec (Registry.getWriter id) s.streams = (.error .locked, s.streams)
  releaseWriter : ∀ {other}, other ≠ token →
    exec (Registry.releaseWriter id other) s.streams = (.error .notLockHolder, s.streams)
  write : ∀ {other}, other ≠ some token → ∀ chunk,
    exec (Session.write id chunk other) s = (.error (lockRefusal other), s)
  close : ∀ {other}, other ≠ some token →
    exec (Session.close id other) s = (.error (lockRefusal other), s)
  abort : ∀ {other}, other ≠ some token → ∀ reason,
    exec (Session.abort id reason other) s = (.error (lockRefusal other), s)
  /-- A source that is gone is found out first. -/
  pipeTo : ∀ fuel source options, ∃ number, s.streams.nextToken ≤ number ∧
    attempt (Session.pipeTo fuel source id options) s =
      some (.error (if s.streams.containsReadable source then .locked else .released),
        { s with streams := { s.streams with nextToken := number } })

theorem refusesReaders {id : ReadableId} {token : ReaderToken}
    (h : s.streams.holder? (.readable id) = some token.number) : s.RefusesReaders id token := by
  obtain ⟨source, hs, hlock⟩ := Registry.holder?_readable.mp h
  have hlocked : exec (Registry.getReader id) s.streams = (.error .locked, s.streams) := by
    simp [Registry.getReader, exec_bind, hs, hlock]
  have hchecked : ∀ {other : Option ReaderToken}, other ≠ some token →
      exec (Registry.checkReader id other) s.streams = (.error (lockRefusal other), s.streams) := by
    intro other hne
    simp [hs, Except.bind, hlock, Registry.admits_of_ne hne]
  refine ⟨hlocked, fun work => ?_, fun hne => ?_, fun hne fuel => ?_, fun hne reason => ?_,
    fun fuel destination options => ?_, fun {body} hbody fuel target => ?_⟩
  · simp only [withReader, attempt_bind, attempt_finite, exec_onStreams, hlocked, Option.bind_some]
  · have hother := hchecked fun he => hne (Option.some.inj he)
    simp only [Registry.releaseReader, exec_bind, hother]
    rfl
  · simp only [read, attempt_bind, attempt_finite, exec_onStreams, hchecked hne, Option.bind_some]
  · simp only [cancel, exec_bind, exec_onStreams, hchecked hne]
  · have hopen : exec (Registry.openPipe id destination options) s.streams =
        (.error .locked, s.streams) := by
      simp only [Registry.openPipe, exec_bind, hlocked]
    rw [attempt_pipeTo, hopen]
  · have hstream : exec body.stream s =
        if body.released then (.error .locked, s) else (.ok (id, body), s) := by
      cases hreleased : body.released <;>
        simp [Body.stream, Body.releasedError, exec_bind, hreleased, hbody, Registry.isLocked,
          Registry.containsReadable, hs, hlock]
    cases hused : body.used with
    | true => simp [Body.drain, Body.drainWith, hused]
    | false =>
      cases hreleased : body.released <;>
        simp [Body.drain, Body.drainWith, drive_bind, hused, hstream, hreleased,
          Registry.isLocked, hs, hlock]

theorem refusesWriters {id : WritableId} {token : WriterToken}
    (h : s.streams.holder? (.writable id) = some token.number) : s.RefusesWriters id token := by
  obtain ⟨sink, hk, hlock⟩ := Registry.holder?_writable.mp h
  have hchecked : ∀ {other : Option WriterToken}, other ≠ some token →
      exec (Registry.checkWriter id other) s.streams = (.error (lockRefusal other), s.streams) := by
    intro other hne
    simp [hk, Except.bind, hlock, Registry.admits_of_ne hne]
  refine ⟨?_, fun hne => ?_, fun hne chunk => ?_, fun hne => ?_, fun hne reason => ?_,
    fun fuel source options => ?_⟩
  · simp [Registry.getWriter, exec_bind, hk, hlock]
  · have hother := hchecked fun he => hne (Option.some.inj he)
    simp only [Registry.releaseWriter, exec_bind, hother]
    rfl
  · simp only [write, exec_bind, exec_onStreams, hchecked hne]
  · simp only [close, exec_bind, exec_onStreams, hchecked hne]
  · simp only [abort, exec_bind, exec_onStreams, hchecked hne]
  · obtain ⟨number, hle, hopen⟩ := Registry.exec_openPipe_of_locked hk hlock source options
    refine ⟨number, hle, ?_⟩
    rw [attempt_pipeTo, hopen]

/-- The error of callers who show a token that locks nothing. -/
def spentError (lives : Bool) : StreamError := if lives then .notLockHolder else .released

/-- A reader's token is refused by every stream, and nothing happens. -/
structure RejectsReader (s : Session H E) (token : ReaderToken) : Prop where
  releaseReader : ∀ id, exec (Registry.releaseReader id token) s.streams =
    (.error (spentError (s.streams.containsReadable id)), s.streams)
  read : ∀ fuel id, attempt (Session.read fuel id (some token)) s =
    some (.error (spentError (s.streams.containsReadable id)), s)
  cancel : ∀ id reason, exec (Session.cancel id reason (some token)) s =
    (.error (spentError (s.streams.containsReadable id)), s)

/-- A writer's token is refused by every stream, and nothing happens. -/
structure RejectsWriter (s : Session H E) (token : WriterToken) : Prop where
  releaseWriter : ∀ id, exec (Registry.releaseWriter id token) s.streams =
    (.error (spentError (s.streams.containsWritable id)), s.streams)
  write : ∀ id chunk, exec (Session.write id chunk (some token)) s =
    (.error (spentError (s.streams.containsWritable id)), s)
  close : ∀ id, exec (Session.close id (some token)) s =
    (.error (spentError (s.streams.containsWritable id)), s)
  abort : ∀ id reason, exec (Session.abort id reason (some token)) s =
    (.error (spentError (s.streams.containsWritable id)), s)

theorem rejectsReader {token : ReaderToken}
    (h : ∀ name, s.streams.holder? name ≠ some token.number) : s.RejectsReader token := by
  have hchecked : ∀ id, exec (Registry.checkReader id (some token)) s.streams =
      (.error (spentError (s.streams.containsReadable id)), s.streams) := by
    intro id
    rw [Registry.exec_checkReader, Registry.containsReadable]
    cases hs : s.streams.source? id with
    | none => rfl
    | some source =>
      have hne : source.readerLock ≠ some token := fun hlock =>
        h (.readable id) (Registry.holder?_readable.mpr ⟨source, hs, hlock⟩)
      simp [Except.bind, Registry.admits_of_lock_ne hne, spentError]
  refine ⟨fun id => ?_, fun fuel id => ?_, fun id reason => ?_⟩
  · simp only [Registry.releaseReader, exec_bind, hchecked]
  · simp only [read, attempt_bind, attempt_finite, exec_onStreams, hchecked, Option.bind_some]
  · simp only [cancel, exec_bind, exec_onStreams, hchecked]

theorem rejectsWriter {token : WriterToken}
    (h : ∀ name, s.streams.holder? name ≠ some token.number) : s.RejectsWriter token := by
  have hchecked : ∀ id, exec (Registry.checkWriter id (some token)) s.streams =
      (.error (spentError (s.streams.containsWritable id)), s.streams) := by
    intro id
    rw [Registry.exec_checkWriter, Registry.containsWritable]
    cases hk : s.streams.sink? id with
    | none => rfl
    | some sink =>
      have hne : sink.writerLock ≠ some token := fun hlock =>
        h (.writable id) (Registry.holder?_writable.mpr ⟨sink, hk, hlock⟩)
      simp [Except.bind, Registry.admits_of_lock_ne hne, spentError]
  refine ⟨fun id => ?_, fun id chunk => ?_, fun id => ?_, fun id reason => ?_⟩
  · simp only [Registry.releaseWriter, exec_bind, hchecked]
  · simp only [write, exec_bind, exec_onStreams, hchecked]
  · simp only [close, exec_bind, exec_onStreams, hchecked]
  · simp only [abort, exec_bind, exec_onStreams, hchecked]

end Session

end EdgeStreams
