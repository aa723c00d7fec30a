import EdgeStreams.Proofs.Registry.Locks

/-!
# Changes that keep the locks in order

Each change of the registry, seen at the locks. Most leave them alone; a client takes a lock or
gives one back, and a pipe starts or ends.

## Main statements

- `Registry.SameLocks.modifySource` and its like: changes that leave the locks alone
- `Registry.Orderly.getReader`, `Registry.Orderly.getWriter`: a client takes a lock
- `Registry.Orderly.releaseReader`, `Registry.Orderly.releaseWriter`: a client gives a lock back
- `Registry.Orderly.openPipe`, `Registry.Orderly.finishPipe`: a pipe starts or ends
-/

namespace EdgeStreams

variable {E : Type}

namespace Registry

variable {streams streams' : Registry E} {held spent : Set Nat}

/-! ### Changes that leave the locks alone -/

namespace SameLocks

/-- A change that concerns no pipe. -/
theorem of_pipes (hw : streams.WellFormed → streams'.WellFormed)
    (hn : streams.nextToken ≤ streams'.nextToken) (hp : streams'.pipes = streams.pipes)
    (hs : ∀ id, Source.Follows (streams.source? id) (streams'.source? id))
    (hk : ∀ id, Sink.Follows (streams.sink? id) (streams'.sink? id)) :
    streams.SameLocks streams' where
  wellFormed := hw
  nextToken := hn
  pipe id pipe h := ⟨pipe, (pipe?_congr hp id).symm.trans h, rfl⟩
  running id pipe h _ := ⟨pipe.pumping, (pipe?_congr hp id).trans h⟩
  source := hs
  sink := hk

theorem refl : streams.SameLocks streams :=
  of_pipes id le_rfl rfl (fun _ => .refl _) fun _ => .refl _

@[simp] theorem nextToken_modifySource (id : ReadableId) (f : Source E → Source E) :
    (streams.modifySource id f).nextToken = streams.nextToken := by
  unfold Registry.modifySource
  split <;> rfl

@[simp] theorem nextToken_modifySink (id : WritableId) (f : Sink E → Sink E) :
    (streams.modifySink id f).nextToken = streams.nextToken := by
  unfold Registry.modifySink
  split <;> rfl

theorem modifySource (id : ReadableId) {f : Source E → Source E}
    (h : ∀ source : Source E, source.SameHold (f source)) :
    streams.SameLocks (streams.modifySource id f) := by
  refine of_pipes (fun wf => wf.modifySource id f) (by simp) (by simp) (fun other => ?_)
    fun other => ?_
  · rw [source?_modifySource]
    split
    · next he => exact he ▸ .map _ h
    · exact .refl _
  · rw [sink?_modifySource]
    exact .refl _

theorem modifySink (id : WritableId) {f : Sink E → Sink E}
    (h : ∀ sink : Sink E, (f sink).writerLock = sink.writerLock) :
    streams.SameLocks (streams.modifySink id f) := by
  refine of_pipes (fun wf => wf.modifySink id f) (by simp) (by simp) (fun other => ?_)
    fun other => ?_
  · rw [source?_modifySink]
    exact .refl _
  · rw [sink?_modifySink]
    split
    · next he => exact he ▸ .map _ h
    · exact .refl _

theorem releaseReadable (id : ReadableId) : streams.SameLocks (streams.releaseReadable id) :=
  modifySource id fun _ => ⟨rfl, rfl, fun h => h⟩

theorem releaseWritable (id : WritableId) : streams.SameLocks (streams.releaseWritable id) :=
  modifySink id fun _ => rfl

theorem addSource (wf : streams.WellFormed) {source : Source E} (h : source.IsFree) :
    streams.SameLocks (streams.addSource source).2 := by
  refine of_pipes (fun wf => wf.addSource source) le_rfl rfl (fun id => ?_) fun id => .refl _
  rw [source?_addSource wf]
  split
  · next he =>
    rw [he, source?_addSource_fst wf source]
    exact .new h
  · exact .refl _

theorem addSink (wf : streams.WellFormed) {sink : Sink E} (h : sink.writerLock = none) :
    streams.SameLocks (streams.addSink sink).2 := by
  refine of_pipes (fun wf => wf.addSink sink) le_rfl rfl (fun id => .refl _) fun id => ?_
  rw [sink?_addSink wf]
  split
  · next he =>
    rw [he, sink?_addSink_fst wf sink]
    exact .new h
  · exact .refl _

theorem enterTransform (wf : streams.WellFormed) (transformer : Transformer E) :
    streams.SameLocks (Session.enterTransform transformer streams).2 := by
  obtain ⟨hreadable, hwritable, -⟩ := none_enterTransform wf transformer
  refine of_pipes (fun wf => wf.enterTransform transformer) (by rw [enterTransform_eq])
    (pipes_enterTransform transformer) (fun id => ?_) fun id => ?_
  · rw [source?_enterTransform wf]
    split
    · next he =>
      rw [he, hreadable]
      exact .new ⟨rfl, rfl⟩
    · exact .refl _
  · rw [sink?_enterTransform wf]
    split
    · next he =>
      rw [he, hwritable]
      exact .new rfl
    · exact .refl _

/-- A pipe starts or stops being driven. -/
theorem setPipe {id : PipeId} {pipe : Pipe} (h : streams.pipe? id = some pipe) (pumping : Bool) :
    streams.SameLocks (streams.setPipe id { pipe with pumping }) where
  wellFormed wf := ⟨wf.sources, wf.sinks, wf.bridges, wf.pipes.set _ _⟩
  nextToken := le_rfl
  pipe other found hfound := by
    rw [pipe?_setPipe, h] at hfound
    split at hfound
    · next he =>
      cases hfound
      exact ⟨pipe, he ▸ h, rfl⟩
    · exact ⟨found, hfound, rfl⟩
  running other found hfound _ := by
    rw [pipe?_setPipe, h]
    by_cases he : other = id
    · rw [he, h] at hfound
      cases hfound
      exact ⟨pumping, if_pos he⟩
    · exact ⟨found.pumping, (if_neg he).trans hfound⟩
  source _ := .refl _
  sink _ := .refl _

theorem sweep : streams.SameLocks streams.sweep.2 where
  wellFormed wf :=
    ⟨wf.sources.retain fun _ source => !(source.released && source.readerLock.isNone),
      wf.sinks.retain fun _ sink => !(sink.released && sink.writerLock.isNone),
      wf.bridges.retain fun _ bridge => streams.sweep.2.sources.contains bridge.readable.key ||
        streams.sweep.2.sinks.contains bridge.writable.key,
      wf.pipes.retain fun _ pipe => pipe.isRunning⟩
  nextToken := le_rfl
  pipe id pipe h := by
    rw [pipe?_sweep] at h
    exact ⟨pipe, (Option.filter_eq_some_iff.mp h).1, rfl⟩
  running id pipe h hr := by
    rw [pipe?_sweep]
    exact ⟨pipe.pumping, Option.filter_eq_some_iff.mpr ⟨h, hr⟩⟩
  source id := by
    rw [source?_sweep]
    exact .filter _ fun source token hlock => by simp [hlock]
  sink id := by
    rw [sink?_sweep]
    exact .filter _ fun sink token hlock => by simp [hlock]

end SameLocks

theorem WellFormed.setPipe (wf : streams.WellFormed) (id : PipeId) (pipe : Pipe) :
    (streams.setPipe id pipe).WellFormed := ⟨wf.sources, wf.sinks, wf.bridges, wf.pipes.set _ _⟩

theorem WellFormed.setSink (wf : streams.WellFormed) (id : WritableId) (sink : Sink E) :
    (streams.setSink id sink).WellFormed := ⟨wf.sources, wf.sinks.set _ _, wf.bridges, wf.pipes⟩

theorem WellFormed.getReader (wf : streams.WellFormed) (id : ReadableId) :
    (exec (Registry.getReader id) streams).2.WellFormed := by
  cases hs : streams.source? id with
  | none => simpa [Registry.getReader, exec_bind, hs] using wf
  | some source =>
    cases hl : source.readerLock with
    | some token => simpa [Registry.getReader, exec_bind, hs, hl] using wf
    | none =>
      rw [exec_getReader streams hs hl]
      exact ⟨wf.sources.set _ _, wf.sinks, wf.bridges, wf.pipes⟩

theorem WellFormed.getWriter (wf : streams.WellFormed) (id : WritableId) :
    (exec (Registry.getWriter id) streams).2.WellFormed := by
  cases hs : streams.sink? id with
  | none => simpa [Registry.getWriter, exec_bind, hs] using wf
  | some sink =>
    cases hl : sink.writerLock with
    | some token => simpa [Registry.getWriter, exec_bind, hs, hl] using wf
    | none =>
      rw [exec_getWriter streams hs hl]
      exact ⟨wf.sources, wf.sinks.set _ _, wf.bridges, wf.pipes⟩

theorem WellFormed.releaseReader (wf : streams.WellFormed) (id : ReadableId)
    (token : ReaderToken) : (quietly (releaseReader id token) streams).WellFormed := by
  rw [quietly_releaseReader]
  split
  · split
    · exact wf.setSource _ _
    · exact wf
  · exact wf

theorem WellFormed.releaseWriter (wf : streams.WellFormed) (id : WritableId)
    (token : WriterToken) : (quietly (releaseWriter id token) streams).WellFormed := by
  rw [quietly_releaseWriter]
  split
  · split
    · exact wf.setSink _ _
    · exact wf
  · exact wf

theorem WellFormed.finishPipe (wf : streams.WellFormed) (id : PipeId) (state : PipeState) :
    (streams.finishPipe id state).WellFormed := by
  unfold Registry.finishPipe
  split
  · exact wf
  · split
    · exact (((wf.setPipe _ _).releaseReader _ _).releaseWriter _ _).modifySource _ _
    · exact wf

@[simp] theorem nextToken_releaseReader (id : ReadableId) (token : ReaderToken) :
    (quietly (releaseReader id token) streams).nextToken = streams.nextToken := by
  rw [quietly_releaseReader]
  repeat' split
  all_goals rfl

@[simp] theorem nextToken_releaseWriter (id : WritableId) (token : WriterToken) :
    (quietly (releaseWriter id token) streams).nextToken = streams.nextToken := by
  rw [quietly_releaseWriter]
  repeat' split
  all_goals rfl

theorem nextToken_finishPipe (id : PipeId) (state : PipeState) :
    (streams.finishPipe id state).nextToken = streams.nextToken := by
  unfold finishPipe
  split
  · rfl
  · split
    · simp only [SameLocks.nextToken_modifySource, nextToken_releaseWriter,
        nextToken_releaseReader]
      rfl
    · rfl

/-! ### Opening a pipe -/

/-- The pipe that would be opened next. -/
def nextPipe (streams : Registry E) (r : ReadableId) (w : WritableId) (options : PipeOptions) :
    Pipe where
  source := r
  destination := w
  reader := ⟨streams.nextToken⟩
  writer := ⟨streams.nextToken + 1⟩
  options := options

/-- The registry once a pipe has locked both its ends and has been entered. -/
def withPipe (streams : Registry E) (r : ReadableId) (w : WritableId) (source : Source E)
    (sink : Sink E) (options : PipeOptions) : Registry E :=
  ((({ streams with nextToken := streams.nextToken + 2 }.setSink w
    { sink with writerLock := some ⟨streams.nextToken + 1⟩ }).setSource r
      { source with
        readerLock := some ⟨streams.nextToken⟩
        pipedTo := some w
        disturbed := true }).addPipe (streams.nextPipe r w options)).2

section WithPipe

variable {r : ReadableId} {w : WritableId} {source : Source E} {sink : Sink E}

theorem pipe?_withPipe (wf : streams.WellFormed) (r : ReadableId) (w : WritableId)
    (source : Source E) (sink : Sink E) (options : PipeOptions) (id : PipeId) :
    (streams.withPipe r w source sink options).pipe? id =
      if id = ⟨streams.pipes.nextKey⟩ then some (streams.nextPipe r w options)
      else streams.pipe? id := by
  have hinsert := wf.pipes.get?_insert (streams.nextPipe r w options) id.key
  simp only [← EntryId.key_inj]
  exact hinsert

theorem source?_withPipe (w : WritableId) (sink : Sink E) (options : PipeOptions)
    (hs : streams.source? r = some source) (id : ReadableId) :
    (streams.withPipe r w source sink options).source? id =
      if id = r then
        some { source with
          readerLock := some ⟨streams.nextToken⟩
          pipedTo := some w
          disturbed := true }
      else streams.source? id := by
  have hset := source?_setSource streams r id
    { source with
      readerLock := some ⟨streams.nextToken⟩
      pipedTo := some w
      disturbed := true }
  rw [hs] at hset
  exact hset

theorem sink?_withPipe (r : ReadableId) (source : Source E) (options : PipeOptions)
    (hk : streams.sink? w = some sink) (id : WritableId) :
    (streams.withPipe r w source sink options).sink? id =
      if id = w then some { sink with writerLock := some ⟨streams.nextToken + 1⟩ }
      else streams.sink? id := by
  have hset := sink?_setSink streams w id
    { sink with writerLock := some ⟨streams.nextToken + 1⟩ }
  rw [hk] at hset
  exact hset

@[simp] theorem setSource_setSource (id : ReadableId) (first second : Source E) :
    (streams.setSource id first).setSource id second = streams.setSource id second := by
  simp [setSource]

/-- The registry while a new pipe has locked its source only. -/
def readerLocked (streams : Registry E) (r : ReadableId) (source : Source E) : Registry E :=
  { streams with nextToken := streams.nextToken + 1 }.setSource r
    { source with readerLock := some ⟨streams.nextToken⟩ }

theorem sink?_nextToken (number : Nat) (id : WritableId) :
    ({ streams with nextToken := number } : Registry E).sink? id = streams.sink? id := rfl

theorem source?_readerLocked (hs : streams.source? r = some source) (id : ReadableId) :
    (streams.readerLocked r source).source? id =
      if id = r then some { source with readerLock := some ⟨streams.nextToken⟩ }
      else streams.source? id := by
  have hset := source?_setSource streams r id
    { source with readerLock := some ⟨streams.nextToken⟩ }
  rw [hs] at hset
  exact hset

/-- A destination that cannot be locked is the end of the attempt. -/
theorem exec_openPipe_of_refused {options : PipeOptions} {reader : ReaderToken}
    {locked : Registry E} {error : StreamError}
    (hreader : exec (getReader r) streams = (.ok reader, locked))
    (hwriter : exec (getWriter w) locked = (.error error, locked)) :
    exec (openPipe r w options) streams =
      (.error error, quietly (releaseReader r reader) locked) := by
  simp [openPipe, exec_bind, exec_tryCatch, hreader, hwriter]

/-- What an attempt to open a pipe leaves that fails: nothing, or a token that has been given
back. -/
inductive GivesUp (streams : Registry E) (r : ReadableId) : Registry E → Prop
  | refused : GivesUp streams r streams
  | unlocked {source : Source E} : streams.source? r = some source → source.readerLock = none →
    GivesUp streams r
      (quietly (releaseReader r ⟨streams.nextToken⟩) (streams.readerLocked r source))

/-- A source that has been locked and unlocked again is as it was. -/
theorem unlockReader_readerLocked (hs : streams.source? r = some source)
    (hl : source.readerLock = none) :
    quietly (releaseReader r ⟨streams.nextToken⟩) (streams.readerLocked r source) =
      { streams with nextToken := streams.nextToken + 1 } := by
  have hlocked := (source?_readerLocked hs r).trans (if_pos rfl)
  have hback : unlockReader ⟨streams.nextToken⟩
      { source with readerLock := some ⟨streams.nextToken⟩ } = source := by
    obtain ⟨backing, controller, start, owner, lock⟩ := source
    cases hl
    simp [unlockReader]
  have hsame : ({ streams with nextToken := streams.nextToken + 1 } : Registry E).setSource r
    source = { streams with nextToken := streams.nextToken + 1 } := by
    simp only [setSource, SlotMap.set_of_get? hs]
  rw [quietly_releaseReader, hlocked]
  simp only [if_true, hback]
  rw [readerLocked, setSource_setSource, hsame]

/-- An attempt that fails changes nothing but the number of the next token. -/
theorem GivesUp.eq (h : streams.GivesUp r streams') :
    ∃ number, streams.nextToken ≤ number ∧ streams' = { streams with nextToken := number } := by
  cases h with
  | refused => exact ⟨streams.nextToken, le_rfl, rfl⟩
  | unlocked hs hl => exact ⟨_, Nat.le_succ _, unlockReader_readerLocked hs hl⟩

/-- The locks are as they were. -/
theorem GivesUp.sameLocks (h : streams.GivesUp r streams') : streams.SameLocks streams' := by
  obtain ⟨number, hle, rfl⟩ := h.eq
  exact .of_pipes (fun wf => ⟨wf.sources, wf.sinks, wf.bridges, wf.pipes⟩)
    hle rfl (fun _ => .refl _) fun _ => .refl _

theorem exec_openPipe_eq (options : PipeOptions) (hs : streams.source? r = some source)
    (hl : source.readerLock = none) (hk : streams.sink? w = some sink)
    (hkl : sink.writerLock = none) :
    exec (openPipe r w options) streams =
      (.ok ⟨streams.pipes.nextKey⟩, streams.withPipe r w source sink options) := by
  have hreader := exec_getReader streams hs hl
  have hwriter := exec_getWriter (streams.readerLocked r source) hk hkl
  have hfound : (setSink { streams.readerLocked r source with
      nextToken := (streams.readerLocked r source).nextToken + 1 } w
        { sink with writerLock := some ⟨(streams.readerLocked r source).nextToken⟩ }).source? r =
          some { source with readerLock := some ⟨streams.nextToken⟩ } :=
    (source?_readerLocked hs r).trans (if_pos rfl)
  simp only [openPipe, exec_bind, exec_tryCatch, hreader]
  rw [show setSource { streams with nextToken := streams.nextToken + 1 } r
    { source with readerLock := some ⟨streams.nextToken⟩ } = streams.readerLocked r source from rfl,
    hwriter]
  simp only [exec_source, hfound, need_some, putSource, exec_modify, exec_modifyGet, addPipe,
    SlotMap.insert_fst]
  have htwice := SlotMap.set_set streams.sources r.key
    { source with readerLock := some ⟨streams.nextToken⟩ }
    { source with
      readerLock := some ⟨streams.nextToken⟩
      pipedTo := some w
      disturbed := true }
  simp only [withPipe, addPipe, setSource, setSink, readerLocked, htwice]
  rfl

variable (streams r w)

/-- A pipe is opened between two streams that nobody holds. Between others it is not. -/
theorem exec_openPipe_cases (options : PipeOptions) :
    (∃ source sink, streams.source? r = some source ∧ source.readerLock = none ∧
      streams.sink? w = some sink ∧ sink.writerLock = none ∧
        exec (openPipe r w options) streams =
          (.ok ⟨streams.pipes.nextKey⟩, streams.withPipe r w source sink options)) ∨
      ∃ error streams', exec (openPipe r w options) streams = (.error error, streams') ∧
        streams.GivesUp r streams' := by
  cases hs : streams.source? r with
  | none =>
    refine .inr ⟨.released, streams, ?_, .refused⟩
    simp [openPipe, exec_bind, getReader, hs]
  | some source =>
    cases hl : source.readerLock with
    | some token =>
      refine .inr ⟨.locked, streams, ?_, .refused⟩
      simp [openPipe, exec_bind, getReader, hs, hl]
    | none =>
      have hreader := exec_getReader streams hs hl
      cases hk : streams.sink? w with
      | none =>
        have hwriter : exec (getWriter w) (streams.readerLocked r source) =
            (.error .released, streams.readerLocked r source) := by
          simp [getWriter, exec_bind, readerLocked, sink?_nextToken, hk]
        exact .inr ⟨.released, _, exec_openPipe_of_refused hreader hwriter,
          .unlocked hs hl⟩
      | some sink =>
        cases hkl : sink.writerLock with
        | some token =>
          have hwriter : exec (getWriter w) (streams.readerLocked r source) =
              (.error .locked, streams.readerLocked r source) := by
            simp [getWriter, exec_bind, readerLocked, sink?_nextToken, hk, hkl]
          exact .inr ⟨.locked, _, exec_openPipe_of_refused hreader hwriter,
            .unlocked hs hl⟩
        | none =>
          exact .inl ⟨source, sink, rfl, hl, rfl, hkl, exec_openPipe_eq options hs hl hk hkl⟩

end WithPipe

/-! ### Clients and their tokens -/

/-- Only the lock of a source that nobody holds is had, and with a new token. -/
theorem of_exec_getReader {id : ReadableId} {token : ReaderToken}
    (h : exec (getReader id) streams = (.ok token, streams')) :
    token = ⟨streams.nextToken⟩ ∧
      ∃ source, streams.source? id = some source ∧ source.readerLock = none := by
  cases hs : streams.source? id with
  | none => simp [getReader, exec_bind, hs] at h
  | some source =>
    cases hl : source.readerLock with
    | some lock => simp [getReader, exec_bind, hs, hl] at h
    | none =>
      rw [exec_getReader streams hs hl, Prod.mk.injEq] at h
      exact ⟨(Except.ok.inj h.1).symm, source, rfl, hl⟩

/-- Nothing has happened if the lock of a source is not had. -/
theorem eq_of_exec_getReader_error {id : ReadableId} {error : StreamError}
    (h : exec (getReader id) streams = (.error error, streams')) : streams' = streams := by
  cases hs : streams.source? id with
  | none => simp_all [getReader, exec_bind]
  | some source =>
    cases hl : source.readerLock with
    | some lock => simp_all [getReader, exec_bind]
    | none =>
      rw [exec_getReader streams hs hl, Prod.mk.injEq] at h
      cases h.1

/-- Only the lock of a sink that nobody holds is had, and with a new token. -/
theorem of_exec_getWriter {id : WritableId} {token : WriterToken}
    (h : exec (getWriter id) streams = (.ok token, streams')) :
    token = ⟨streams.nextToken⟩ ∧
      ∃ sink, streams.sink? id = some sink ∧ sink.writerLock = none := by
  cases hs : streams.sink? id with
  | none => simp [getWriter, exec_bind, hs] at h
  | some sink =>
    cases hl : sink.writerLock with
    | some lock => simp [getWriter, exec_bind, hs, hl] at h
    | none =>
      rw [exec_getWriter streams hs hl, Prod.mk.injEq] at h
      exact ⟨(Except.ok.inj h.1).symm, sink, rfl, hl⟩

namespace Orderly

variable (h : streams.Orderly held spent)
include h

/-- A client holds the next number: one stream that was not locked may be locked by it. -/
theorem hold (hnew : streams'.nextToken = streams.nextToken + 1)
    (hwf : streams'.WellFormed) (hpipe : ∀ id, streams'.pipe? id = streams.pipe? id)
    (hsource : ∀ id source', streams'.source? id = some source' →
      ∃ source, streams.source? id = some source ∧ source'.pipedTo = source.pipedTo ∧
        (source'.readerLock = source.readerLock ∨
          source'.readerLock = some ⟨streams.nextToken⟩))
    (hsink : ∀ id sink', streams'.sink? id = some sink' →
      ∃ sink, streams.sink? id = some sink ∧
        (sink'.writerLock = sink.writerLock ∨ sink'.writerLock = some ⟨streams.nextToken⟩))
    (hlocked : ∀ id source token, streams.source? id = some source →
      source.readerLock = some token → streams'.source? id = some source)
    (hwritable : ∀ id sink token, streams.sink? id = some sink →
      sink.writerLock = some token → streams'.sink? id = some sink) :
    streams'.Orderly (insert streams.nextToken held) spent where
  wellFormed := hwf
  holds id pipe hp hr := by
    rw [hpipe] at hp
    obtain ⟨⟨source, hs, hlock, hpiped, hd⟩, ⟨sink, hw, hwlock⟩⟩ := h.holds id pipe hp hr
    exact ⟨⟨source, hlocked _ _ _ hs hlock, hlock, hpiped, hd⟩,
      ⟨sink, hwritable _ _ _ hw hwlock, hwlock⟩⟩
  piped id source' destination hs' hpiped := by
    obtain ⟨source, hs, hsame, -⟩ := hsource id source' hs'
    simp only [hpipe]
    exact h.piped id source destination hs (hsame ▸ hpiped)
  readers id source' token hs' hlock := by
    obtain ⟨source, hs, -, hsame | hnext⟩ := hsource id source' hs'
    · simp only [hpipe]
      exact (h.readers id source token hs (hsame ▸ hlock)).imp_left (Set.mem_insert_of_mem _)
    · rw [hnext] at hlock
      cases hlock
      exact .inl (Set.mem_insert _ _)
  writers id sink' token hs' hlock := by
    obtain ⟨sink, hs, hsame | hnext⟩ := hsink id sink' hs'
    · simp only [hpipe]
      exact (h.writers id sink token hs (hsame ▸ hlock)).imp_left (Set.mem_insert_of_mem _)
    · rw [hnext] at hlock
      cases hlock
      exact .inl (Set.mem_insert _ _)
  held_old := by
    rintro number (rfl | hn)
    · omega
    · have := h.held_old number hn
      omega
  used_old id pipe number hp hu := by
    obtain ⟨hold, hheld⟩ := h.used_old id pipe number (hpipe id ▸ hp) hu
    refine ⟨by omega, ?_⟩
    rintro (rfl | hn)
    · exact Nat.lt_irrefl _ hold
    · exact hheld hn
  used_once id other pipe pipe' number hp hp' :=
    h.used_once id other pipe pipe' number (hpipe id ▸ hp) (hpipe other ▸ hp')
  spent_old number hn := by
    obtain ⟨hold, hheld⟩ := h.spent_old number hn
    refine ⟨by omega, ?_⟩
    rintro (rfl | hn)
    · exact Nat.lt_irrefl _ hold
    · exact hheld hn
  spent_idle number hn id pipe hp := h.spent_idle number hn id pipe (hpipe id ▸ hp)

/-- A client has taken the lock of a source. -/
theorem getReader {id : ReadableId} {source : Source E} (hs : streams.source? id = some source)
    (hl : source.readerLock = none) :
    (exec (Registry.getReader id) streams).2.Orderly (insert streams.nextToken held) spent := by
  rw [exec_getReader streams hs hl]
  have hfound : ∀ other, (setSource { streams with nextToken := streams.nextToken + 1 } id
      { source with readerLock := some ⟨streams.nextToken⟩ }).source? other =
        if other = id then some { source with readerLock := some ⟨streams.nextToken⟩ }
        else streams.source? other := by
    intro other
    rw [source?_setSource]
    change (if _ then (streams.source? id).map _ else _) = _
    rw [hs]
    rfl
  refine h.hold rfl ?_ (fun _ => rfl) (fun other source' hs' => ?_)
    (fun other sink hk => ⟨sink, hk, .inl rfl⟩) (fun other source' token hs' hlock => ?_)
    fun other sink token hk _ => hk
  · exact ⟨h.wellFormed.sources.set _ _, h.wellFormed.sinks, h.wellFormed.bridges,
      h.wellFormed.pipes⟩
  · rw [hfound] at hs'
    split at hs'
    · next he =>
      cases hs'
      exact ⟨source, he ▸ hs, rfl, .inr rfl⟩
    · exact ⟨source', hs', rfl, .inl rfl⟩
  · rw [hfound, if_neg, hs']
    rintro rfl
    rw [hs] at hs'
    cases hs'
    rw [hl] at hlock
    cases hlock

/-- A client has taken the lock of a sink. -/
theorem getWriter {id : WritableId} {sink : Sink E} (hs : streams.sink? id = some sink)
    (hl : sink.writerLock = none) :
    (exec (Registry.getWriter id) streams).2.Orderly (insert streams.nextToken held) spent := by
  rw [exec_getWriter streams hs hl]
  have hfound : ∀ other, (setSink { streams with nextToken := streams.nextToken + 1 } id
      { sink with writerLock := some ⟨streams.nextToken⟩ }).sink? other =
        if other = id then some { sink with writerLock := some ⟨streams.nextToken⟩ }
        else streams.sink? other := by
    intro other
    rw [sink?_setSink]
    change (if _ then (streams.sink? id).map _ else _) = _
    rw [hs]
    rfl
  refine h.hold rfl ?_ (fun _ => rfl) (fun other source hs => ⟨source, hs, rfl, .inl rfl⟩)
    (fun other sink' hs' => ?_) (fun other source token hs _ => hs)
    fun other sink' token hs' hlock => ?_
  · exact ⟨h.wellFormed.sources, h.wellFormed.sinks.set _ _, h.wellFormed.bridges,
      h.wellFormed.pipes⟩
  · rw [hfound] at hs'
    split at hs'
    · next he =>
      cases hs'
      exact ⟨sink, he ▸ hs, .inr rfl⟩
    · exact ⟨sink', hs', .inl rfl⟩
  · rw [hfound, if_neg, hs']
    rintro rfl
    rw [hs] at hs'
    cases hs'
    rw [hl] at hlock
    cases hlock

/-- A client has given the lock of a source back, or has tried to. -/
theorem releaseReader (id : ReadableId) {token : ReaderToken} (ht : token.number ∈ held) :
    (quietly (Registry.releaseReader id token) streams).Orderly held spent := by
  rw [quietly_releaseReader]
  cases hs : streams.source? id with
  | none => exact h
  | some source =>
    by_cases hl : source.readerLock = some token
    · simp only [hl, if_true, unlockReader]
      have hfound := source?_setSource streams id
      exact { h with
        wellFormed := h.wellFormed.setSource _ _
        holds := fun name pipe hp hr => by
          obtain ⟨⟨held, hheld, hlock, hpiped⟩, hsink⟩ := h.holds name pipe hp hr
          refine ⟨⟨held, ?_, hlock, hpiped⟩, hsink⟩
          rw [hfound, if_neg, hheld]
          -- a pipe's source is not locked by a client
          rintro rfl
          rw [hs] at hheld
          cases hheld
          rw [hl] at hlock
          exact (h.used_old name pipe _ hp (.inl rfl)).2 (Option.some.inj hlock ▸ ht)
        piped := fun other source' destination hs' hpiped => by
          rw [hfound, hs] at hs'
          split at hs'
          · next he =>
            cases hs'
            exact h.piped other source destination (he ▸ hs) hpiped
          · exact h.piped other source' destination hs' hpiped
        readers := fun other source' token' hs' hlock => by
          rw [hfound, hs] at hs'
          split at hs'
          · cases hs'
            cases hlock
          · exact h.readers other source' token' hs' hlock }
    · simp only [hl, if_false]
      exact h

/-- A client has given the lock of a sink back, or has tried to. -/
theorem releaseWriter (id : WritableId) {token : WriterToken} (ht : token.number ∈ held) :
    (quietly (Registry.releaseWriter id token) streams).Orderly held spent := by
  rw [quietly_releaseWriter]
  cases hs : streams.sink? id with
  | none => exact h
  | some sink =>
    by_cases hl : sink.writerLock = some token
    · simp only [hl, if_true, unlockWriter]
      have hfound := sink?_setSink streams id
      exact { h with
        wellFormed := ⟨h.wellFormed.sources, h.wellFormed.sinks.set _ _, h.wellFormed.bridges,
          h.wellFormed.pipes⟩
        holds := fun name pipe hp hr => by
          obtain ⟨hsource, ⟨held, hheld, hlock⟩⟩ := h.holds name pipe hp hr
          refine ⟨hsource, ⟨held, ?_, hlock⟩⟩
          rw [hfound, if_neg, hheld]
          rintro rfl
          rw [hs] at hheld
          cases hheld
          rw [hl] at hlock
          exact (h.used_old name pipe _ hp (.inr rfl)).2 (Option.some.inj hlock ▸ ht)
        writers := fun other sink' token' hs' hlock => by
          rw [hfound, hs] at hs'
          split at hs'
          · cases hs'
            cases hlock
          · exact h.writers other sink' token' hs' hlock }
    · simp only [hl, if_false]
      exact h

omit h in
/-- A registry without entries. -/
theorem of_empty (wf : streams.WellFormed) (hs : ∀ id, streams.source? id = none)
    (hw : ∀ id, streams.sink? id = none) (hp : ∀ id, streams.pipe? id = none)
    (hheld : ∀ number ∈ held, number < streams.nextToken)
    (hspent : ∀ number ∈ spent, number < streams.nextToken ∧ number ∉ held) :
    streams.Orderly held spent where
  wellFormed := wf
  holds id _ h := by simp [hp] at h
  piped id _ _ h := by simp [hs] at h
  readers id _ _ h := by simp [hs] at h
  writers id _ _ h := by simp [hw] at h
  held_old := hheld
  used_old id _ _ h := by simp [hp] at h
  used_once id _ _ _ _ h := by simp [hp] at h
  spent_old := hspent
  spent_idle _ _ id _ h := by simp [hp] at h

theorem clear : streams.clear.Orderly held spent :=
  of_empty ⟨h.wellFormed.sources.clear, h.wellFormed.sinks.clear, h.wellFormed.bridges.clear,
    h.wellFormed.pipes.clear⟩ (fun _ => SlotMap.get?_clear _ _) (fun _ => SlotMap.get?_clear _ _)
    (fun _ => SlotMap.get?_clear _ _) h.held_old h.spent_old

/-! ### Pipes -/

section Opening

variable {r : ReadableId} {w : WritableId} {source : Source E} {sink : Sink E}

omit h in
/-- A pipe takes the next two numbers. -/
theorem le_of_uses_nextPipe {options : PipeOptions} {number : Nat}
    (hu : (streams.nextPipe r w options).Uses number) :
    streams.nextToken ≤ number ∧ number < streams.nextToken + 2 := by
  rcases hu with rfl | rfl
  · exact ⟨le_rfl, Nat.lt_add_of_pos_right Nat.two_pos⟩
  · exact ⟨Nat.le_succ _, Nat.lt_succ_self _⟩

variable (r w source sink) (options : PipeOptions)

theorem pipe?_withPipe_new :
    (streams.withPipe r w source sink options).pipe? ⟨streams.pipes.nextKey⟩ =
      some (streams.nextPipe r w options) :=
  (pipe?_withPipe h.wellFormed r w source sink options _).trans (if_pos rfl)

/-- The other pipes are as they were. -/
theorem pipe?_withPipe_of_some {id : PipeId} {pipe : Pipe} (hp : streams.pipe? id = some pipe) :
    (streams.withPipe r w source sink options).pipe? id = some pipe := by
  rw [pipe?_withPipe h.wellFormed, if_neg, hp]
  rintro rfl
  rw [pipe?, h.wellFormed.pipes.get?_nextKey] at hp
  cases hp

variable {r w source sink options}
variable (hs : streams.source? r = some source) (hk : streams.sink? w = some sink)

include hs in
theorem piped_withPipe {id : ReadableId} {source' : Source E} {destination : WritableId}
    (hs' : (streams.withPipe r w source sink options).source? id = some source')
    (hpiped : source'.pipedTo = some destination) :
    ∃ name pipe, (streams.withPipe r w source sink options).pipe? name = some pipe ∧
      pipe.isRunning ∧ pipe.source = id ∧ pipe.destination = destination := by
  rw [source?_withPipe w sink options hs] at hs'
  split at hs'
  · next he =>
    cases hs'
    exact ⟨_, _, h.pipe?_withPipe_new r w source sink options, rfl, he.symm, Option.some.inj hpiped⟩
  · obtain ⟨name, pipe, hp, hrest⟩ := h.piped id source' destination hs' hpiped
    exact ⟨name, pipe, h.pipe?_withPipe_of_some r w source sink options hp, hrest⟩

include hs in
theorem readers_withPipe {id : ReadableId} {source' : Source E} {token : ReaderToken}
    (hs' : (streams.withPipe r w source sink options).source? id = some source')
    (hlock : source'.readerLock = some token) :
    token.number ∈ held ∨ ∃ name pipe,
      (streams.withPipe r w source sink options).pipe? name = some pipe ∧ pipe.isRunning ∧
        pipe.source = id ∧ pipe.reader = token := by
  rw [source?_withPipe w sink options hs] at hs'
  split at hs'
  · next he =>
    cases hs'
    exact .inr ⟨_, _, h.pipe?_withPipe_new r w source sink options, rfl, he.symm,
      Option.some.inj hlock⟩
  · refine (h.readers id source' token hs' hlock).imp_right ?_
    rintro ⟨name, pipe, hp, hrest⟩
    exact ⟨name, pipe, h.pipe?_withPipe_of_some r w source sink options hp, hrest⟩

include hk in
theorem writers_withPipe {id : WritableId} {sink' : Sink E} {token : WriterToken}
    (hk' : (streams.withPipe r w source sink options).sink? id = some sink')
    (hlock : sink'.writerLock = some token) :
    token.number ∈ held ∨ ∃ name pipe,
      (streams.withPipe r w source sink options).pipe? name = some pipe ∧ pipe.isRunning ∧
        pipe.destination = id ∧ pipe.writer = token := by
  rw [sink?_withPipe r source options hk] at hk'
  split at hk'
  · next he =>
    cases hk'
    exact .inr ⟨_, _, h.pipe?_withPipe_new r w source sink options, rfl, he.symm,
      Option.some.inj hlock⟩
  · refine (h.writers id sink' token hk' hlock).imp_right ?_
    rintro ⟨name, pipe, hp, hrest⟩
    exact ⟨name, pipe, h.pipe?_withPipe_of_some r w source sink options hp, hrest⟩

theorem used_old_withPipe {id : PipeId} {pipe : Pipe} {number : Nat}
    (hp : (streams.withPipe r w source sink options).pipe? id = some pipe) (hu : pipe.Uses number) :
    number < streams.nextToken + 2 ∧ number ∉ held := by
  rw [pipe?_withPipe h.wellFormed] at hp
  split at hp
  · cases hp
    obtain ⟨hle, hlt⟩ := le_of_uses_nextPipe hu
    exact ⟨hlt, fun hn => absurd (h.held_old number hn) (Nat.not_lt.mpr hle)⟩
  · obtain ⟨hold, hheld⟩ := h.used_old id pipe number hp hu
    exact ⟨by omega, hheld⟩

/-- No number of the new pipe is one of another. -/
theorem used_once_withPipe {id other : PipeId} {pipe pipe' : Pipe} {number : Nat}
    (hp : (streams.withPipe r w source sink options).pipe? id = some pipe)
    (hp' : (streams.withPipe r w source sink options).pipe? other = some pipe')
    (hu : pipe.Uses number) (hu' : pipe'.Uses number) : id = other := by
  rw [pipe?_withPipe h.wellFormed] at hp hp'
  split at hp <;> split at hp'
  · next he he' => exact he.trans he'.symm
  · cases hp
    exact absurd (h.used_old other pipe' number hp' hu').1
      (Nat.not_lt.mpr (le_of_uses_nextPipe hu).1)
  · cases hp'
    exact absurd (h.used_old id pipe number hp hu).1 (Nat.not_lt.mpr (le_of_uses_nextPipe hu').1)
  · exact h.used_once id other pipe pipe' number hp hp' hu hu'

theorem spent_idle_withPipe {number : Nat} (hn : number ∈ spent) {id : PipeId} {pipe : Pipe}
    (hp : (streams.withPipe r w source sink options).pipe? id = some pipe)
    (hrunning : pipe.isRunning) :
    ¬ pipe.Uses number := fun hu => by
  rw [pipe?_withPipe h.wellFormed] at hp
  split at hp
  · cases hp
    exact absurd (h.spent_old number hn).1 (Nat.not_lt.mpr (le_of_uses_nextPipe hu).1)
  · exact h.spent_idle number hn id pipe hp hrunning hu

variable (hl : source.readerLock = none) (hkl : sink.writerLock = none)
include hs hk hl hkl

/-- The ends of another pipe are locked, and so are not those of the new one. -/
theorem holds_withPipe {id : PipeId} {pipe : Pipe}
    (hp : (streams.withPipe r w source sink options).pipe? id = some pipe)
    (hrunning : pipe.isRunning) :
    pipe.Holds (streams.withPipe r w source sink options) := by
  have hsource := source?_withPipe w sink options hs
  have hsink := sink?_withPipe r source options hk
  rw [pipe?_withPipe h.wellFormed] at hp
  split at hp
  · cases hp
    exact ⟨⟨_, (hsource r).trans (if_pos rfl), rfl, rfl, rfl⟩,
      ⟨_, (hsink w).trans (if_pos rfl), rfl⟩⟩
  · obtain ⟨⟨source', hs', hlock, hrest⟩, ⟨sink', hk', hlock'⟩⟩ := h.holds id pipe hp hrunning
    refine ⟨⟨source', (hsource _).trans ((if_neg fun he => ?_).trans hs'), hlock, hrest⟩,
      ⟨sink', (hsink _).trans ((if_neg fun he => ?_).trans hk'), hlock'⟩⟩
    · rw [he, hs] at hs'
      cases hs'
      rw [hl] at hlock
      cases hlock
    · rw [he, hk] at hk'
      cases hk'
      rw [hkl] at hlock'
      cases hlock'

/-- A pipe between two streams that nobody holds has been opened. -/
theorem withPipe : (streams.withPipe r w source sink options).Orderly held spent where
  wellFormed := ⟨h.wellFormed.sources.set _ _, h.wellFormed.sinks.set _ _, h.wellFormed.bridges,
    h.wellFormed.pipes.insert _⟩
  holds _ _ := h.holds_withPipe hs hk hl hkl
  piped _ _ _ := h.piped_withPipe hs
  readers _ _ _ := h.readers_withPipe hs
  writers _ _ _ := h.writers_withPipe hk
  held_old number hn := (h.held_old number hn).trans (Nat.lt_add_of_pos_right Nat.two_pos)
  used_old _ _ _ := h.used_old_withPipe
  used_once _ _ _ _ _ := h.used_once_withPipe
  spent_old number hn :=
    ⟨(h.spent_old number hn).1.trans (Nat.lt_add_of_pos_right Nat.two_pos),
      (h.spent_old number hn).2⟩
  spent_idle _ hn _ _ := h.spent_idle_withPipe hn

end Opening

/-- Whatever opening a pipe comes to. -/
theorem openPipe (r : ReadableId) (w : WritableId) (options : PipeOptions) :
    (exec (Registry.openPipe r w options) streams).2.Orderly held spent := by
  rcases exec_openPipe_cases streams r w options with
    ⟨source, sink, hs, hl, hk, hkl, hopen⟩ | ⟨error, streams', hopen, hgives⟩
  · rw [hopen]
    exact h.withPipe hs hk hl hkl
  · rw [hopen]
    exact h.of_sameLocks hgives.sameLocks

section Finishing

variable {id : PipeId} {pipe : Pipe} {state : PipeState} (hp : streams.pipe? id = some pipe)
  (hr : pipe.isRunning)
include hp hr

omit h in
theorem pipe?_finishPipe_of_ne {other : PipeId} {found : Pipe}
    (hf : streams.pipe? other = some found) (hne : found ≠ pipe) :
    (streams.finishPipe id state).pipe? other = some found := by
  rw [pipe?_finishPipe state hp hr, if_neg, hf]
  rintro rfl
  exact hne (Option.some.inj (hf.symm.trans hp))

omit h in
/-- A pipe that is there has been there, with the same numbers, and if it runs it is another one. -/
theorem of_pipe?_finishPipe (hstate : state ≠ .running) {other : PipeId} {found : Pipe}
    (hf : (streams.finishPipe id state).pipe? other = some found) :
    ∃ old, streams.pipe? other = some old ∧ (found.isRunning → other ≠ id ∧ found = old) ∧
      ∀ number, found.Uses number ↔ old.Uses number := by
  rw [pipe?_finishPipe state hp hr] at hf
  split at hf
  · next he =>
    cases hf
    exact ⟨pipe, he ▸ hp, fun hrunning => absurd (eq_of_beq hrunning) hstate, fun _ => Iff.rfl⟩
  · next hne => exact ⟨found, hf, fun _ => ⟨hne, rfl⟩, fun _ => Iff.rfl⟩

/-- Every other running pipe has other ends. -/
theorem holds_finishPipe (hstate : state ≠ .running) {other : PipeId} {found : Pipe}
    (hf : (streams.finishPipe id state).pipe? other = some found) (hrunning : found.isRunning) :
    found.Holds (streams.finishPipe id state) := by
  obtain ⟨old, hold, hsame, -⟩ := of_pipe?_finishPipe hp hr hstate hf
  obtain ⟨hne, rfl⟩ := hsame hrunning
  obtain ⟨⟨source, hs, hrest⟩, ⟨sink, hk, hlock⟩⟩ := h.holds other found hold hrunning
  have hsource : found.source ≠ pipe.source := fun he => hne (h.source_inj hold hrunning hp hr he)
  have hsink : found.destination ≠ pipe.destination := fun he =>
    hne (h.destination_inj hold hrunning hp hr he)
  exact ⟨⟨source, (source?_finishPipe state hp hr _).trans ((if_neg hsource).trans hs), hrest⟩,
    ⟨sink, (sink?_finishPipe state hp hr _).trans ((if_neg hsink).trans hk), hlock⟩⟩

theorem piped_finishPipe {r : ReadableId} {source : Source E} {destination : WritableId}
    (hs : (streams.finishPipe id state).source? r = some source)
    (hpiped : source.pipedTo = some destination) :
    ∃ name found, (streams.finishPipe id state).pipe? name = some found ∧ found.isRunning ∧
      found.source = r ∧ found.destination = destination := by
  rw [source?_finishPipe state hp hr] at hs
  split at hs
  · obtain ⟨old, -, rfl⟩ := Option.map_eq_some_iff.mp hs
    cases hpiped
  · next hne =>
    obtain ⟨name, found, hf, hrunning, hsource, hd⟩ := h.piped r source destination hs hpiped
    exact ⟨name, found, pipe?_finishPipe_of_ne hp hr hf fun he => hne (he ▸ hsource.symm), hrunning,
      hsource, hd⟩

/-- The source of the pipe has been unlocked. -/
theorem readers_finishPipe {r : ReadableId} {source : Source E} {token : ReaderToken}
    (hs : (streams.finishPipe id state).source? r = some source)
    (hlock : source.readerLock = some token) :
    token.number ∈ held ∨ ∃ name found, (streams.finishPipe id state).pipe? name = some found ∧
      found.isRunning ∧ found.source = r ∧ found.reader = token := by
  rw [source?_finishPipe state hp hr] at hs
  split at hs
  · obtain ⟨⟨old, hold, hlocked, -⟩, -⟩ := h.holds id pipe hp hr
    rw [hold] at hs
    cases hs
    simp [unlockReader, hlocked] at hlock
  · next hne =>
    refine (h.readers r source token hs hlock).imp_right ?_
    rintro ⟨name, found, hf, hrunning, hsource, ht⟩
    exact ⟨name, found, pipe?_finishPipe_of_ne hp hr hf fun he => hne (he ▸ hsource.symm), hrunning,
      hsource, ht⟩

/-- The destination of the pipe has been unlocked. -/
theorem writers_finishPipe {w : WritableId} {sink : Sink E} {token : WriterToken}
    (hk : (streams.finishPipe id state).sink? w = some sink)
    (hlock : sink.writerLock = some token) :
    token.number ∈ held ∨ ∃ name found, (streams.finishPipe id state).pipe? name = some found ∧
      found.isRunning ∧ found.destination = w ∧ found.writer = token := by
  rw [sink?_finishPipe state hp hr] at hk
  split at hk
  · obtain ⟨-, old, hold, hlocked⟩ := h.holds id pipe hp hr
    rw [hold] at hk
    cases hk
    simp [unlockWriter, hlocked] at hlock
  · next hne =>
    refine (h.writers w sink token hk hlock).imp_right ?_
    rintro ⟨name, found, hf, hrunning, hd, ht⟩
    exact ⟨name, found, pipe?_finishPipe_of_ne hp hr hf fun he => hne (he ▸ hd.symm),
      hrunning, hd, ht⟩

/-- A running pipe has come to an end. -/
theorem finishPipe_of_running (hstate : state ≠ .running) :
    (streams.finishPipe id state).Orderly held spent where
  wellFormed := h.wellFormed.finishPipe id state
  holds _ _ := h.holds_finishPipe hp hr hstate
  piped _ _ _ := h.piped_finishPipe hp hr
  readers _ _ _ := h.readers_finishPipe hp hr
  writers _ _ _ := h.writers_finishPipe hp hr
  held_old := by
    rw [nextToken_finishPipe]
    exact h.held_old
  used_old other found number hf hu := by
    obtain ⟨old, hold, -, huses⟩ := of_pipe?_finishPipe hp hr hstate hf
    rw [nextToken_finishPipe]
    exact h.used_old other old number hold ((huses number).mp hu)
  used_once other another found found' number hf hf' hu hu' := by
    obtain ⟨old, hold, -, huses⟩ := of_pipe?_finishPipe hp hr hstate hf
    obtain ⟨old', hold', -, huses'⟩ := of_pipe?_finishPipe hp hr hstate hf'
    exact h.used_once other another old old' number hold hold' ((huses number).mp hu)
      ((huses' number).mp hu')
  spent_old := by
    rw [nextToken_finishPipe]
    exact h.spent_old
  spent_idle number hn other found hf hrunning := by
    obtain ⟨old, hold, hsame, -⟩ := of_pipe?_finishPipe hp hr hstate hf
    obtain ⟨-, rfl⟩ := hsame hrunning
    exact h.spent_idle number hn other found hold hrunning

end Finishing

/-- A pipe has come to an end, if it was running. -/
theorem finishPipe (id : PipeId) {state : PipeState} (hstate : state ≠ .running) :
    (streams.finishPipe id state).Orderly held spent := by
  by_cases hrun : ∃ pipe, streams.pipe? id = some pipe ∧ pipe.isRunning
  · obtain ⟨pipe, hp, hr⟩ := hrun
    exact h.finishPipe_of_running hp hr hstate
  · rw [finishPipe_of_not_running]
    · exact h
    · exact fun pipe hp hr => hrun ⟨pipe, hp, hr⟩

end Orderly

end Registry

end EdgeStreams
