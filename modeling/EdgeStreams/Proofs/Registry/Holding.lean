import EdgeStreams.Proofs.Registry.Locking

/-!
# Which token locks which stream

Seen from its locks, a registry is a table of the tokens that lock its streams. A lock is taken with
a token that has never been there before, and no change of the registry moves a token from one
stream to another. So a token that locks nothing will never lock anything again.

## Main definitions

- `Registry.holder?`: the number of the token that locks a stream
- `Registry.RelocksTo`: locks are taken and given back, one after the other

## Main statements

- `Registry.RelocksTo.stays`: a lock stays until it is given back
- `Registry.RelocksTo.spent`: a token that locks nothing will never lock anything
- `Registry.RelocksTo.single`: no two streams are locked with the same token

## Design notes

The tokens of readers, of writers and of pipes are numbered together, and a lock is compared with
the number only. Hence the names of readable and writable streams are put into one type here.
-/

namespace EdgeStreams

variable {E : Type}

/-- The name of a stream. -/
inductive StreamName where
  | readable (id : ReadableId)
  | writable (id : WritableId)
deriving DecidableEq

namespace Registry

/-- The number of the token that locks a stream. -/
def holder? (streams : Registry E) : StreamName → Option Nat
  | .readable id => (streams.source? id).bind fun source => source.readerLock.map ReaderToken.number
  | .writable id => (streams.sink? id).bind fun sink => sink.writerLock.map WriterToken.number

variable {streams streams' later : Registry E} {name other : StreamName} {number : Nat}

theorem holder?_readable {id : ReadableId} : streams.holder? (.readable id) = some number ↔
    ∃ source, streams.source? id = some source ∧ source.readerLock = some ⟨number⟩ := by
  simp only [holder?, Option.bind_eq_some_iff, Option.map_eq_some_iff]
  constructor
  · rintro ⟨source, hs, ⟨_⟩, hlock, rfl⟩
    exact ⟨source, hs, hlock⟩
  · rintro ⟨source, hs, hlock⟩
    exact ⟨source, hs, _, hlock, rfl⟩

theorem holder?_writable {id : WritableId} : streams.holder? (.writable id) = some number ↔
    ∃ sink, streams.sink? id = some sink ∧ sink.writerLock = some ⟨number⟩ := by
  simp only [holder?, Option.bind_eq_some_iff, Option.map_eq_some_iff]
  constructor
  · rintro ⟨sink, hs, ⟨_⟩, hlock, rfl⟩
    exact ⟨sink, hs, hlock⟩
  · rintro ⟨sink, hs, hlock⟩
    exact ⟨sink, hs, _, hlock, rfl⟩

/-! ### Tables of locks -/

/-- No lock is taken, and locks are given back only as `freed` has it. -/
structure UnlocksTo (freed : StreamName → Nat → Prop) (streams streams' : Registry E) : Prop where
  nextToken : streams.nextToken ≤ streams'.nextToken
  back : ∀ {name number}, streams'.holder? name = some number → streams.holder? name = some number
  forth : ∀ {name number}, streams.holder? name = some number →
    streams'.holder? name = some number ∨ freed name number

/-- The lock of one stream, which is not locked, is taken with the next token. -/
structure Locks (name : StreamName) (streams streams' : Registry E) : Prop where
  nextToken : streams'.nextToken = streams.nextToken + 1
  free : streams.holder? name = none
  holder : ∀ other, streams'.holder? other =
    if other = name then some streams.nextToken else streams.holder? other

/-- Locks are taken, and given back as `freed` has it, one after the other. -/
inductive RelocksTo (freed : StreamName → Nat → Prop) (streams : Registry E) : Registry E → Prop
  | refl : RelocksTo freed streams streams
  | unlock {streams' later : Registry E} : RelocksTo freed streams streams' →
    streams'.UnlocksTo freed later → RelocksTo freed streams later
  | lock {streams' later : Registry E} {name : StreamName} : RelocksTo freed streams streams' →
    streams'.Locks name later → RelocksTo freed streams later

/-- No two streams are locked with the same token, and every token that locks a stream has been
handed out. -/
structure Single (streams : Registry E) : Prop where
  old : ∀ {name number}, streams.holder? name = some number → number < streams.nextToken
  single : ∀ {name other number}, streams.holder? name = some number →
    streams.holder? other = some number → name = other

theorem single_new (config : StreamConfig) : (new config : Registry E).Single := by
  have hnone : ∀ name number, (new config : Registry E).holder? name ≠ some number := by
    intro name number hheld
    cases name with
    | readable id =>
      obtain ⟨source, hs, -⟩ := holder?_readable.mp hheld
      cases hs.symm.trans (SlotMap.get?_empty _)
    | writable id =>
      obtain ⟨sink, hs, -⟩ := holder?_writable.mp hheld
      cases hs.symm.trans (SlotMap.get?_empty _)
  exact ⟨fun hheld => absurd hheld (hnone _ _), fun hheld => absurd hheld (hnone _ _)⟩

theorem UnlocksTo.mono {freed freed' : StreamName → Nat → Prop} (h : streams.UnlocksTo freed later)
    (hfreed : ∀ {name number}, freed name number → freed' name number) :
    streams.UnlocksTo freed' later :=
  ⟨h.nextToken, h.back, fun hheld => (h.forth hheld).imp_right hfreed⟩

theorem UnlocksTo.trans {freed : StreamName → Nat → Prop} (h : streams.UnlocksTo freed streams')
    (h' : streams'.UnlocksTo freed later) : streams.UnlocksTo freed later where
  nextToken := h.nextToken.trans h'.nextToken
  back hheld := h.back (h'.back hheld)
  forth hheld := (h.forth hheld).elim h'.forth .inr

theorem Single.unlocksTo {freed : StreamName → Nat → Prop} (h : streams.Single)
    (hu : streams.UnlocksTo freed later) : later.Single where
  old hheld := (h.old (hu.back hheld)).trans_le hu.nextToken
  single hheld hheld' := h.single (hu.back hheld) (hu.back hheld')

/-- The new token locks nothing yet. -/
theorem Single.locks (h : streams.Single) (hl : streams.Locks name later) : later.Single where
  old {other number} hheld := by
    rw [hl.holder] at hheld
    rw [hl.nextToken]
    split at hheld
    · cases hheld
      exact Nat.lt_succ_self _
    · exact (h.old hheld).trans (Nat.lt_succ_self _)
  single {first second number} hfirst hsecond := by
    rw [hl.holder] at hfirst hsecond
    split at hfirst <;> split at hsecond
    · next he he' => exact he.trans he'.symm
    · cases hfirst
      exact absurd (h.old hsecond) (Nat.lt_irrefl _)
    · cases hsecond
      exact absurd (h.old hfirst) (Nat.lt_irrefl _)
    · exact h.single hfirst hsecond

namespace RelocksTo

variable {freed freed' : StreamName → Nat → Prop}

theorem of_unlocksTo (h : streams.UnlocksTo freed later) :
    RelocksTo freed streams later := .unlock .refl h

theorem of_locks (h : streams.Locks name later) : RelocksTo freed streams later := .lock .refl h

theorem trans (h : RelocksTo freed streams streams') (h' : RelocksTo freed streams' later) :
    RelocksTo freed streams later := by
  induction h' with
  | refl => exact h
  | unlock _ hu ih => exact ih.unlock hu
  | lock _ hl ih => exact ih.lock hl

theorem nextToken (h : RelocksTo freed streams later) : streams.nextToken ≤ later.nextToken := by
  induction h with
  | refl => exact le_rfl
  | unlock _ hu ih => exact ih.trans hu.nextToken
  | lock _ hl ih =>
    rw [hl.nextToken]
    exact ih.trans (Nat.le_succ _)

/-- By induction on the changes. -/
theorem single (h : RelocksTo freed streams later) (hs : streams.Single) : later.Single := by
  induction h with
  | refl => exact hs
  | unlock _ hu ih => exact ih.unlocksTo hu
  | lock _ hl ih => exact ih.locks hl

/-- A lock stays until it is given back. By induction on the changes. -/
theorem stays (h : RelocksTo freed streams later) (hheld : streams.holder? name = some number)
    (hkept : ¬ freed name number) : later.holder? name = some number := by
  induction h with
  | refl => exact hheld
  | unlock _ hu ih => exact (hu.forth ih).resolve_right hkept
  | lock _ hl ih =>
    rw [hl.holder, if_neg, ih]
    rintro rfl
    cases ih.symm.trans hl.free

/-- A token that has been handed out locks no other stream than it did. By induction on the
changes. -/
theorem back (h : RelocksTo freed streams later) (hold : number < streams.nextToken)
    (hheld : later.holder? name = some number) : streams.holder? name = some number := by
  induction h with
  | refl => exact hheld
  | unlock _ hu ih => exact ih (hu.back hheld)
  | lock hbefore hl ih =>
    rw [hl.holder] at hheld
    split at hheld
    · cases hheld
      exact absurd hold (Nat.not_lt.mpr hbefore.nextToken)
    · exact ih hheld

/-- A token that locks nothing will never lock anything. -/
theorem spent (h : RelocksTo freed streams later) (hold : number < streams.nextToken)
    (hidle : ∀ name, streams.holder? name ≠ some number) (name : StreamName) :
    later.holder? name ≠ some number := fun hheld => hidle name (h.back hold hheld)

theorem mono (h : RelocksTo freed streams later)
    (hfreed : ∀ {name number}, freed name number → freed' name number) :
    RelocksTo freed' streams later := by
  induction h with
  | refl => exact .refl
  | unlock _ hu ih => exact ih.unlock (hu.mono hfreed)
  | lock _ hl ih => exact ih.lock hl

end RelocksTo

/-! ### Changes of a registry -/

theorem SameLocks.unlocksTo (h : streams.SameLocks later) (freed : StreamName → Nat → Prop) :
    streams.UnlocksTo freed later where
  nextToken := h.nextToken
  back {name number} hheld := by
    cases name with
    | readable id =>
      obtain ⟨source', hs', hlock⟩ := holder?_readable.mp hheld
      rcases (h.source id).back source' hs' with hfree | ⟨source, hs, hhold⟩
      · cases hfree.lock.symm.trans hlock
      · exact holder?_readable.mpr ⟨source, hs, hhold.lock ▸ hlock⟩
    | writable id =>
      obtain ⟨sink', hk', hlock⟩ := holder?_writable.mp hheld
      rcases (h.sink id).back sink' hk' with hfree | ⟨sink, hk, hhold⟩
      · cases hfree.symm.trans hlock
      · exact holder?_writable.mpr ⟨sink, hk, hhold ▸ hlock⟩
  forth {name number} hheld := by
    left
    cases name with
    | readable id =>
      obtain ⟨source, hs, hlock⟩ := holder?_readable.mp hheld
      obtain ⟨source', hs', hhold⟩ := (h.source id).forth source _ hs hlock
      exact holder?_readable.mpr ⟨source', hs', hhold.lock.trans hlock⟩
    | writable id =>
      obtain ⟨sink, hk, hlock⟩ := holder?_writable.mp hheld
      obtain ⟨sink', hk', hhold⟩ := (h.sink id).forth sink _ hk hlock
      exact holder?_writable.mpr ⟨sink', hk', hhold.trans hlock⟩

theorem holder?_clear (name : StreamName) : streams.clear.holder? name = none := by
  cases name with
  | readable id =>
    have hs : streams.clear.source? id = none := SlotMap.get?_clear _ _
    simp [holder?, hs]
  | writable id =>
    have hk : streams.clear.sink? id = none := SlotMap.get?_clear _ _
    simp [holder?, hk]

theorem unlocksTo_clear : streams.UnlocksTo (fun _ _ => True) streams.clear where
  nextToken := le_rfl
  back hheld := by
    rw [holder?_clear] at hheld
    cases hheld
  forth _ := .inr trivial

theorem admits_of_lock_ne {τ : Type} [DecidableEq τ] {lock : Option τ} {token : τ}
    (h : lock ≠ some token) : admits lock (some token) = .error .notLockHolder := by
  cases lock <;> simp_all [admits]

/-- What locks a stream once a lock has been given back. -/
theorem holder?_releaseReader (id : ReadableId) (token : ReaderToken) (name : StreamName) :
    (quietly (releaseReader id token) streams).holder? name =
      if name = .readable id then (streams.holder? name).filter (· ≠ token.number)
      else streams.holder? name := by
  cases name with
  | writable other => simp [holder?]
  | readable other =>
    simp only [holder?, source?_releaseReader, StreamName.readable.injEq]
    split
    · next he =>
      subst he
      cases hs : streams.source? other with
      | none => rfl
      | some source =>
        obtain ⟨backing, controller, start, owner, lock⟩ := source
        obtain ⟨number⟩ := token
        cases lock with
        | none => simp [unlockReader]
        | some held =>
          obtain ⟨number'⟩ := held
          by_cases he : number' = number <;> simp [unlockReader, he, Option.filter]
    · rfl

theorem holder?_releaseWriter (id : WritableId) (token : WriterToken) (name : StreamName) :
    (quietly (releaseWriter id token) streams).holder? name =
      if name = .writable id then (streams.holder? name).filter (· ≠ token.number)
      else streams.holder? name := by
  cases name with
  | readable other => simp [holder?]
  | writable other =>
    simp only [holder?, sink?_releaseWriter, StreamName.writable.injEq]
    split
    · next he =>
      subst he
      cases hs : streams.sink? other with
      | none => rfl
      | some sink =>
        obtain ⟨backing, controller, start, owner, lock⟩ := sink
        obtain ⟨number⟩ := token
        cases lock with
        | none => simp [unlockWriter]
        | some held =>
          obtain ⟨number'⟩ := held
          by_cases he : number' = number <;> simp [unlockWriter, he, Option.filter]
    · rfl

namespace UnlocksTo

variable {freed : StreamName → Nat → Prop}

theorem of_eq (hn : later.nextToken = streams.nextToken)
    (h : ∀ name, later.holder? name = streams.holder? name) : streams.UnlocksTo freed later where
  nextToken := hn.ge
  back {name _} hheld := h name ▸ hheld
  forth {name _} hheld := .inl (h name ▸ hheld)

/-- One lock is given back, if it is held with the token. -/
theorem of_filter (hn : later.nextToken = streams.nextToken)
    (h : ∀ other, later.holder? other =
      if other = name then (streams.holder? other).filter (· ≠ number) else streams.holder? other) :
    streams.UnlocksTo (fun other token => other = name ∧ token = number) later where
  nextToken := hn.ge
  back {other token} hheld := by
    rw [h] at hheld
    split at hheld
    · exact (Option.filter_eq_some_iff.mp hheld).1
    · exact hheld
  forth {other token} hheld := by
    rw [h, hheld]
    split
    · next he =>
      by_cases ht : token = number
      · exact .inr ⟨he, ht⟩
      · exact .inl (by simp [ht])
    · exact .inl rfl

theorem releaseReader (id : ReadableId) (token : ReaderToken) :
    streams.UnlocksTo (fun name number => name = .readable id ∧ number = token.number)
      (quietly (Registry.releaseReader id token) streams) :=
  .of_filter (nextToken_releaseReader id token) (holder?_releaseReader id token)

theorem releaseWriter (id : WritableId) (token : WriterToken) :
    streams.UnlocksTo (fun name number => name = .writable id ∧ number = token.number)
      (quietly (Registry.releaseWriter id token) streams) :=
  .of_filter (nextToken_releaseWriter id token) (holder?_releaseWriter id token)

end UnlocksTo

/-- A token that locks one stream only locks nothing once that has been given back. -/
theorem idle_of_filter
    (h : ∀ other, later.holder? other =
      if other = name then (streams.holder? other).filter (· ≠ number) else streams.holder? other)
    (honly : ∀ other, streams.holder? other = some number → other = name) (other : StreamName) :
    later.holder? other ≠ some number := by
  intro hheld
  rw [h] at hheld
  split at hheld
  · exact absurd rfl (of_decide_eq_true (Option.filter_eq_some_iff.mp hheld).2)
  · next hne => exact hne (honly other hheld)

theorem holder?_of_releaseReader {id : ReadableId} {token : ReaderToken}
    (h : exec (releaseReader id token) streams = (.ok (), later)) :
    streams.holder? (.readable id) = some token.number := by
  simp only [releaseReader, exec_bind, exec_checkReader] at h
  cases hs : streams.source? id with
  | none => simp [hs, Except.bind] at h
  | some source =>
    by_cases hlock : source.readerLock = some token
    · exact holder?_readable.mpr ⟨source, hs, hlock⟩
    · simp [hs, Except.bind, admits_of_lock_ne hlock] at h

theorem holder?_of_releaseWriter {id : WritableId} {token : WriterToken}
    (h : exec (releaseWriter id token) streams = (.ok (), later)) :
    streams.holder? (.writable id) = some token.number := by
  simp only [releaseWriter, exec_bind, exec_checkWriter] at h
  cases hk : streams.sink? id with
  | none => simp [hk, Except.bind] at h
  | some sink =>
    by_cases hlock : sink.writerLock = some token
    · exact holder?_writable.mpr ⟨sink, hk, hlock⟩
    · simp [hk, Except.bind, admits_of_lock_ne hlock] at h

/-- The end of a pipe gives back its own two locks. -/
theorem unlocksTo_finishPipe {id : PipeId} {pipe : Pipe} (hp : streams.pipe? id = some pipe)
    (hr : pipe.isRunning) (state : PipeState) :
    streams.UnlocksTo (fun _ number => pipe.Uses number) (streams.finishPipe id state) := by
  simp only [finishPipe, hp, hr, if_true]
  have hset : streams.UnlocksTo (fun _ number => pipe.Uses number)
      (streams.setPipe id { pipe with state }) := .of_eq rfl fun name => by cases name <;> rfl
  have hreader := hset.trans ((UnlocksTo.releaseReader pipe.source pipe.reader).mono fun h =>
    .inl h.2.symm)
  have hwriter := hreader.trans
    ((UnlocksTo.releaseWriter pipe.destination pipe.writer).mono fun h =>
    .inr h.2.symm)
  refine hwriter.trans (.of_eq (SameLocks.nextToken_modifySource _ _) fun name => ?_)
  cases name with
  | writable id => simp [holder?]
  | readable id =>
    simp only [holder?, source?_modifySource]
    split
    · next he => rw [he, Option.bind_map]; rfl
    · rfl

theorem locks_getReader {id : ReadableId} {token : ReaderToken}
    (h : exec (getReader id) streams = (.ok token, later)) :
    streams.Locks (.readable id) later := by
  obtain ⟨-, source, hs, hl⟩ := of_exec_getReader h
  rw [exec_getReader streams hs hl] at h
  obtain ⟨-, rfl⟩ := Prod.mk.inj h
  refine ⟨rfl, by simp [holder?, hs, hl], fun other => ?_⟩
  cases other with
  | writable other => rfl
  | readable other =>
    have hset := source?_setSource { streams with nextToken := streams.nextToken + 1 } id other
      { source with readerLock := some ⟨streams.nextToken⟩ }
    have hfound : ({ streams with nextToken := streams.nextToken + 1 } : Registry E).source? id =
        some source := hs
    simp only [holder?, hset, hfound, StreamName.readable.injEq]
    split <;> rfl

theorem locks_getWriter {id : WritableId} {token : WriterToken}
    (h : exec (getWriter id) streams = (.ok token, later)) :
    streams.Locks (.writable id) later := by
  obtain ⟨-, sink, hk, hl⟩ := of_exec_getWriter h
  rw [exec_getWriter streams hk hl] at h
  obtain ⟨-, rfl⟩ := Prod.mk.inj h
  refine ⟨rfl, by simp [holder?, hk, hl], fun other => ?_⟩
  cases other with
  | readable other => rfl
  | writable other =>
    have hset := sink?_setSink { streams with nextToken := streams.nextToken + 1 } id other
      { sink with writerLock := some ⟨streams.nextToken⟩ }
    have hfound : ({ streams with nextToken := streams.nextToken + 1 } : Registry E).sink? id =
        some sink := hk
    simp only [holder?, hset, hfound, StreamName.writable.injEq]
    split <;> rfl

/-- A new pipe takes the locks of both its ends, one after the other. -/
theorem relocksTo_openPipe {freed : StreamName → Nat → Prop} (r : ReadableId) (w : WritableId)
    (options : PipeOptions) : RelocksTo freed streams (exec (openPipe r w options) streams).2 := by
  rcases exec_openPipe_cases streams r w options with
    ⟨source, sink, hs, hl, hk, hkl, hopen⟩ | ⟨error, streams', hopen, hgives⟩
  · rw [hopen]
    have hreader : streams.Locks (.readable r) (streams.readerLocked r source) :=
      locks_getReader (exec_getReader streams hs hl)
    have hwriter : (streams.readerLocked r source).Locks (.writable w)
        (streams.withPipe r w source sink options) := by
      refine ⟨rfl, by simp [readerLocked, holder?, sink?_nextToken, hk, hkl], fun other => ?_⟩
      cases other with
      | readable other =>
        simp only [holder?, source?_withPipe w sink options hs, source?_readerLocked hs]
        split <;> rfl
      | writable other =>
        simp only [holder?, sink?_withPipe r source options hk, StreamName.writable.injEq]
        split <;> rfl
    exact .lock (.of_locks hreader) hwriter
  · rw [hopen]
    exact .of_unlocksTo (hgives.sameLocks.unlocksTo freed)

end Registry

end EdgeStreams
