import EdgeStreams.Proofs.Exec
import EdgeStreams.Proofs.SlotMap.Lookup

/-!
# Looking up in the registry

What each change of the registry does to the entries that the outside can name. A change is seen at
the entry it is made to; all other entries stay as they are.

## Main statements

- `Registry.source?_setSource` and its like: a change of one entry
- `Registry.exec_checkReader`, `Registry.exec_getReader`, `Registry.quietly_releaseReader`, and the
  same for writers
- `Registry.pipe?_finishPipe`, `Registry.source?_finishPipe`, `Registry.sink?_finishPipe`
- `Registry.exec_openPipe`: a new pipe between two streams that nobody holds
- `Registry.pipeInto?_eq_some`, `Registry.pipeInto?_eq_none`: the running pipe into a stream
- `Registry.pipeFrom?_eq_some`: the running pipe out of a stream
- `Registry.source?_sweep` and its like: what a sweep leaves
-/

namespace EdgeStreams

variable {E : Type}

theorem EntryId.key_inj {kind : EntryKind} {a b : EntryId kind} : a.key = b.key ↔ a = b := by
  cases a; cases b; simp

namespace Registry

variable (streams : Registry E)

/-! ### A change of one entry -/

theorem source?_setSource (id other : ReadableId) (source : Source E) :
    (streams.setSource id source).source? other =
      if other = id then (streams.source? id).map fun _ => source else streams.source? other := by
  simp only [source?, setSource, SlotMap.get?_set, EntryId.key_inj]

theorem sink?_setSink (id other : WritableId) (sink : Sink E) :
    (streams.setSink id sink).sink? other =
      if other = id then (streams.sink? id).map fun _ => sink else streams.sink? other := by
  simp only [sink?, setSink, SlotMap.get?_set, EntryId.key_inj]

theorem bridge?_setBridge (id other : BridgeId) (bridge : Bridge E) :
    (streams.setBridge id bridge).bridge? other =
      if other = id then (streams.bridge? id).map fun _ => bridge else streams.bridge? other := by
  simp only [bridge?, setBridge, SlotMap.get?_set, EntryId.key_inj]

theorem pipe?_setPipe (id other : PipeId) (pipe : Pipe) :
    (streams.setPipe id pipe).pipe? other =
      if other = id then (streams.pipe? id).map fun _ => pipe else streams.pipe? other := by
  simp only [pipe?, setPipe, SlotMap.get?_set, EntryId.key_inj]

@[simp] theorem setSink_setSink (id : WritableId) (first second : Sink E) :
    (streams.setSink id first).setSink id second = streams.setSink id second := by
  simp [setSink]

section Frame

variable (r other : ReadableId) (w : WritableId) (b : BridgeId) (p : PipeId)
variable (source : Source E) (sink : Sink E) (bridge : Bridge E) (pipe : Pipe)

@[simp] theorem config_setSource : (streams.setSource r source).config = streams.config := rfl

@[simp] theorem sink?_setSource (id : WritableId) :
    (streams.setSource r source).sink? id = streams.sink? id := rfl

@[simp] theorem bridge?_setSource (id : BridgeId) :
    (streams.setSource r source).bridge? id = streams.bridge? id := rfl

@[simp] theorem pipes_setSource : (streams.setSource r source).pipes = streams.pipes := rfl

@[simp] theorem source?_setSink (id : ReadableId) :
    (streams.setSink w sink).source? id = streams.source? id := rfl

@[simp] theorem bridge?_setSink (id : BridgeId) :
    (streams.setSink w sink).bridge? id = streams.bridge? id := rfl

@[simp] theorem pipes_setSink : (streams.setSink w sink).pipes = streams.pipes := rfl

@[simp] theorem source?_setBridge (id : ReadableId) :
    (streams.setBridge b bridge).source? id = streams.source? id := rfl

@[simp] theorem sink?_setBridge (id : WritableId) :
    (streams.setBridge b bridge).sink? id = streams.sink? id := rfl

@[simp] theorem pipes_setBridge : (streams.setBridge b bridge).pipes = streams.pipes := rfl

@[simp] theorem source?_setPipe (id : ReadableId) :
    (streams.setPipe p pipe).source? id = streams.source? id := rfl

@[simp] theorem sink?_setPipe (id : WritableId) :
    (streams.setPipe p pipe).sink? id = streams.sink? id := rfl

@[simp] theorem bridge?_setPipe (id : BridgeId) :
    (streams.setPipe p pipe).bridge? id = streams.bridge? id := rfl

end Frame

theorem pipe?_congr {streams streams' : Registry E} (h : streams.pipes = streams'.pipes)
    (id : PipeId) : streams.pipe? id = streams'.pipe? id := by
  simp only [pipe?, h]

theorem source?_modifySource (id other : ReadableId) (f : Source E → Source E) :
    (streams.modifySource id f).source? other =
      if other = id then (streams.source? id).map f else streams.source? other := by
  unfold modifySource
  cases h : streams.source? id with
  | none =>
    by_cases ho : other = id
    · simp [ho, h]
    · simp [ho]
  | some source => simp [source?_setSource, h]

theorem sink?_modifySink (id other : WritableId) (f : Sink E → Sink E) :
    (streams.modifySink id f).sink? other =
      if other = id then (streams.sink? id).map f else streams.sink? other := by
  unfold modifySink
  cases h : streams.sink? id with
  | none =>
    by_cases ho : other = id
    · simp [ho, h]
    · simp [ho]
  | some sink => simp [sink?_setSink, h]

section Frame

variable (r : ReadableId) (w : WritableId) (f : Source E → Source E) (g : Sink E → Sink E)

@[simp] theorem sink?_modifySource (id : WritableId) :
    (streams.modifySource r f).sink? id = streams.sink? id := by
  unfold modifySource
  split <;> rfl

@[simp] theorem bridge?_modifySource (id : BridgeId) :
    (streams.modifySource r f).bridge? id = streams.bridge? id := by
  unfold modifySource
  split <;> rfl

@[simp] theorem pipes_modifySource : (streams.modifySource r f).pipes = streams.pipes := by
  unfold modifySource
  split <;> rfl

@[simp] theorem config_modifySource : (streams.modifySource r f).config = streams.config := by
  unfold modifySource
  split <;> rfl

@[simp] theorem config_modifySink : (streams.modifySink w g).config = streams.config := by
  unfold modifySink
  split <;> rfl

@[simp] theorem source?_modifySink (id : ReadableId) :
    (streams.modifySink w g).source? id = streams.source? id := by
  unfold modifySink
  split <;> rfl

@[simp] theorem bridge?_modifySink (id : BridgeId) :
    (streams.modifySink w g).bridge? id = streams.bridge? id := by
  unfold modifySink
  split <;> rfl

@[simp] theorem pipes_modifySink : (streams.modifySink w g).pipes = streams.pipes := by
  unfold modifySink
  split <;> rfl

end Frame

/-! ### Entries that must live -/

/-- What a look-up that must succeed comes to. -/
def need {α : Type} : Option α → Except StreamError α
  | some entry => .ok entry
  | none => .error .released

@[simp] theorem need_some {α : Type} (entry : α) : need (some entry) = .ok entry := rfl

@[simp] theorem need_none {α : Type} : need (none : Option α) = .error .released := rfl

@[simp] theorem exec_source (id : ReadableId) :
    exec (source id) streams = (need (streams.source? id), streams) := by
  simp only [source, exec_bind, exec_get]
  cases streams.source? id <;> rfl

@[simp] theorem exec_sink (id : WritableId) :
    exec (sink id) streams = (need (streams.sink? id), streams) := by
  simp only [sink, exec_bind, exec_get]
  cases streams.sink? id <;> rfl

@[simp] theorem exec_bridge (id : BridgeId) :
    exec (bridge id) streams = (need (streams.bridge? id), streams) := by
  simp only [bridge, exec_bind, exec_get]
  cases streams.bridge? id <;> rfl

/-- A stream that is there gets its new owner. -/
theorem exec_setReadableOwner {streams : Registry E} {id : ReadableId} {source : Source E}
    (hs : streams.source? id = some source) (owner : OwnerKey) :
    exec (setReadableOwner id owner) streams =
      (.ok (), streams.setSource id { source with owner := some owner }) := by
  simp [setReadableOwner, exec_bind, putSource, hs]

/-! ### Locks -/

theorem admits_eq_ok_iff {τ : Type} [DecidableEq τ] {lock token : Option τ} :
    admits lock token = .ok () ↔ lock = token := by
  cases lock <;> cases token <;> simp [admits]

@[simp] theorem admits_self {τ : Type} [DecidableEq τ] (lock : Option τ) :
    admits lock lock = .ok () := admits_eq_ok_iff.mpr rfl

@[simp] theorem exec_checkReader (id : ReadableId) (token : Option ReaderToken) :
    exec (checkReader id token) streams =
      ((need (streams.source? id)).bind fun source => admits source.readerLock token, streams) := by
  simp only [checkReader, exec_bind, exec_source]
  cases streams.source? id <;> simp [Except.bind]

@[simp] theorem exec_checkWriter (id : WritableId) (token : Option WriterToken) :
    exec (checkWriter id token) streams =
      ((need (streams.sink? id)).bind fun sink => admits sink.writerLock token, streams) := by
  simp only [checkWriter, exec_bind, exec_sink]
  cases streams.sink? id <;> simp [Except.bind]

/-- What giving back a reader's lock does to a stream that is locked by it. -/
def unlockReader (token : ReaderToken) (source : Source E) : Source E :=
  if source.readerLock = some token then { source with readerLock := none } else source

/-- What giving back a writer's lock does to a stream that is locked by it. -/
def unlockWriter (token : WriterToken) (sink : Sink E) : Sink E :=
  if sink.writerLock = some token then { sink with writerLock := none } else sink

/-- Giving a lock back, as far as that goes, unlocks the stream that the token holds. -/
theorem quietly_releaseReader (id : ReadableId) (token : ReaderToken) :
    quietly (releaseReader id token) streams =
      match streams.source? id with
      | some source =>
        if source.readerLock = some token then streams.setSource id (unlockReader token source)
        else streams
      | none => streams := by
  change (exec (releaseReader id token) streams).2 = _
  simp only [releaseReader, exec_bind, exec_checkReader, exec_source]
  cases h : streams.source? id with
  | none => rfl
  | some source =>
    by_cases hl : source.readerLock = some token
    · simp [hl, Except.bind, putSource, unlockReader]
    · have ha : admits source.readerLock (some token) = .error .notLockHolder := by
        cases hk : source.readerLock <;> simp_all [admits]
      simp [hl, Except.bind, ha]

theorem quietly_releaseWriter (id : WritableId) (token : WriterToken) :
    quietly (releaseWriter id token) streams =
      match streams.sink? id with
      | some sink =>
        if sink.writerLock = some token then streams.setSink id (unlockWriter token sink)
        else streams
      | none => streams := by
  change (exec (releaseWriter id token) streams).2 = _
  simp only [releaseWriter, exec_bind, exec_checkWriter, exec_sink]
  cases h : streams.sink? id with
  | none => rfl
  | some sink =>
    by_cases hl : sink.writerLock = some token
    · simp [hl, Except.bind, putSink, unlockWriter]
    · have ha : admits sink.writerLock (some token) = .error .notLockHolder := by
        cases hk : sink.writerLock <;> simp_all [admits]
      simp [hl, Except.bind, ha]

theorem source?_releaseReader (id other : ReadableId) (token : ReaderToken) :
    (quietly (releaseReader id token) streams).source? other =
      if other = id then (streams.source? id).map (unlockReader token)
      else streams.source? other := by
  rw [quietly_releaseReader]
  cases h : streams.source? id with
  | none =>
    by_cases ho : other = id
    · simp [ho, h]
    · simp [ho]
  | some source =>
    by_cases hl : source.readerLock = some token
    · simp [hl, source?_setSource, h]
    · by_cases ho : other = id
      · simp [ho, h, hl, unlockReader]
      · simp [ho, hl]

theorem sink?_releaseWriter (id other : WritableId) (token : WriterToken) :
    (quietly (releaseWriter id token) streams).sink? other =
      if other = id then (streams.sink? id).map (unlockWriter token) else streams.sink? other := by
  rw [quietly_releaseWriter]
  cases h : streams.sink? id with
  | none =>
    by_cases ho : other = id
    · simp [ho, h]
    · simp [ho]
  | some sink =>
    by_cases hl : sink.writerLock = some token
    · simp [hl, sink?_setSink, h]
    · by_cases ho : other = id
      · simp [ho, h, hl, unlockWriter]
      · simp [ho, hl]

section Frame

variable (r : ReadableId) (w : WritableId) (reader : ReaderToken) (writer : WriterToken)

@[simp] theorem sink?_releaseReader (id : WritableId) :
    (quietly (releaseReader r reader) streams).sink? id = streams.sink? id := by
  rw [quietly_releaseReader]
  repeat' split
  all_goals rfl

@[simp] theorem bridge?_releaseReader (id : BridgeId) :
    (quietly (releaseReader r reader) streams).bridge? id = streams.bridge? id := by
  rw [quietly_releaseReader]
  repeat' split
  all_goals rfl

@[simp] theorem pipes_releaseReader :
    (quietly (releaseReader r reader) streams).pipes = streams.pipes := by
  rw [quietly_releaseReader]
  repeat' split
  all_goals rfl

@[simp] theorem source?_releaseWriter (id : ReadableId) :
    (quietly (releaseWriter w writer) streams).source? id = streams.source? id := by
  rw [quietly_releaseWriter]
  repeat' split
  all_goals rfl

@[simp] theorem bridge?_releaseWriter (id : BridgeId) :
    (quietly (releaseWriter w writer) streams).bridge? id = streams.bridge? id := by
  rw [quietly_releaseWriter]
  repeat' split
  all_goals rfl

@[simp] theorem pipes_releaseWriter :
    (quietly (releaseWriter w writer) streams).pipes = streams.pipes := by
  rw [quietly_releaseWriter]
  repeat' split
  all_goals rfl

end Frame

/-! ### Pipes -/

section FinishPipe

variable {streams} {id : PipeId} {pipe : Pipe} (state : PipeState)

theorem finishPipe_of_not_running (h : ∀ pipe, streams.pipe? id = some pipe → ¬ pipe.isRunning) :
    streams.finishPipe id state = streams := by
  unfold finishPipe
  cases hp : streams.pipe? id with
  | none => rfl
  | some pipe => simp [h pipe hp]

theorem pipes_finishPipe (h : streams.pipe? id = some pipe) (hr : pipe.isRunning) :
    (streams.finishPipe id state).pipes = (streams.setPipe id { pipe with state }).pipes := by
  simp [finishPipe, h, hr]

theorem pipe?_finishPipe (h : streams.pipe? id = some pipe) (hr : pipe.isRunning) (other : PipeId) :
    (streams.finishPipe id state).pipe? other =
      if other = id then some { pipe with state } else streams.pipe? other := by
  rw [pipe?_congr (pipes_finishPipe state h hr), pipe?_setPipe, h]
  rfl

theorem source?_finishPipe (h : streams.pipe? id = some pipe) (hr : pipe.isRunning)
    (other : ReadableId) :
    (streams.finishPipe id state).source? other =
      if other = pipe.source then
        (streams.source? pipe.source).map fun source =>
          { unlockReader pipe.reader source with pipedTo := none }
      else streams.source? other := by
  simp only [finishPipe, h, hr, if_true, source?_modifySource, source?_releaseWriter,
    source?_releaseReader, source?_setPipe]
  split <;> simp [Function.comp_def]

theorem sink?_finishPipe (h : streams.pipe? id = some pipe) (hr : pipe.isRunning)
    (other : WritableId) :
    (streams.finishPipe id state).sink? other =
      if other = pipe.destination then
        (streams.sink? pipe.destination).map (unlockWriter pipe.writer)
      else streams.sink? other := by
  simp only [finishPipe, h, hr, if_true, sink?_modifySource, sink?_releaseWriter,
    sink?_releaseReader, sink?_setPipe]

@[simp] theorem bridge?_finishPipe (other : BridgeId) :
    (streams.finishPipe id state).bridge? other = streams.bridge? other := by
  unfold finishPipe
  cases streams.pipe? id with
  | none => rfl
  | some pipe => by_cases hr : pipe.isRunning <;> simp [hr]

end FinishPipe

theorem exec_getReader {id : ReadableId} {source : Source E} (h : streams.source? id = some source)
    (hl : source.readerLock = none) :
    exec (getReader id) streams =
      (.ok ⟨streams.nextToken⟩,
        { streams with nextToken := streams.nextToken + 1 }.setSource id
          { source with readerLock := some ⟨streams.nextToken⟩ }) := by
  simp [getReader, freshToken, putSource, exec_bind, h, hl, Except.map]

theorem exec_getWriter {id : WritableId} {sink : Sink E} (h : streams.sink? id = some sink)
    (hl : sink.writerLock = none) :
    exec (getWriter id) streams =
      (.ok ⟨streams.nextToken⟩,
        { streams with nextToken := streams.nextToken + 1 }.setSink id
          { sink with writerLock := some ⟨streams.nextToken⟩ }) := by
  simp [getWriter, freshToken, putSink, exec_bind, h, hl, Except.map]

/-- A pipe between two streams that nobody holds locks both and is entered. -/
theorem exec_openPipe {r : ReadableId} {w : WritableId} {source : Source E} {sink : Sink E}
    (options : PipeOptions) (hr : streams.source? r = some source) (hrl : source.readerLock = none)
    (hw : streams.sink? w = some sink) (hwl : sink.writerLock = none) :
    ∃ opened : Registry E,
      exec (openPipe r w options) streams = (.ok ⟨streams.pipes.nextKey⟩, opened) ∧
        opened.pipes = (streams.pipes.insert
          ⟨r, w, ⟨streams.nextToken⟩, ⟨streams.nextToken + 1⟩, options, .running, false⟩).2 ∧
        (∀ id, opened.source? id =
          if id = r then
            some { source with
              readerLock := some ⟨streams.nextToken⟩
              pipedTo := some w
              disturbed := true }
          else streams.source? id) ∧
        (∀ id, opened.sink? id =
          if id = w then some { sink with writerLock := some ⟨streams.nextToken + 1⟩ }
          else streams.sink? id) ∧
        (∀ id, opened.bridge? id = streams.bridge? id) := by
  let locked := { streams with nextToken := streams.nextToken + 1 }.setSource r
    { source with readerLock := some ⟨streams.nextToken⟩ }
  let both := { locked with nextToken := streams.nextToken + 1 + 1 }.setSink w
    { sink with writerLock := some ⟨streams.nextToken + 1⟩ }
  have hr' : both.source? r = some { source with readerLock := some ⟨streams.nextToken⟩ } := by
    have h := source?_setSource streams r r { source with readerLock := some ⟨streams.nextToken⟩ }
    rw [if_pos rfl, hr] at h
    exact h
  let piped := both.setSource r
    { source with
      readerLock := some ⟨streams.nextToken⟩
      pipedTo := some w
      disturbed := true }
  refine ⟨(piped.addPipe
    ⟨r, w, ⟨streams.nextToken⟩, ⟨streams.nextToken + 1⟩, options, .running, false⟩).2,
    ?_, rfl, fun id => ?_, fun id => ?_, fun id => rfl⟩
  · have hwriter : exec (getWriter w) locked = (.ok ⟨streams.nextToken + 1⟩, both) :=
      exec_getWriter locked hw hwl
    have hpipe : exec (getReader r) streams = (.ok ⟨streams.nextToken⟩, locked) :=
      exec_getReader streams hr hrl
    simp only [openPipe, exec_bind, exec_tryCatch, hpipe, hwriter, exec_source, hr', need_some,
      putSource, exec_modify, exec_modifyGet, addPipe, SlotMap.insert_fst]
    rfl
  · change (both.setSource r _).source? id = _
    rw [source?_setSource, hr']
    by_cases hid : id = r
    · simp [hid]
    · have h := source?_setSource streams r id
        { source with readerLock := some ⟨streams.nextToken⟩ }
      rw [if_neg hid] at h
      rw [if_neg hid, if_neg hid]
      exact h
  · have h := sink?_setSink streams w id { sink with writerLock := some ⟨streams.nextToken + 1⟩ }
    rw [hw] at h
    exact h

/-! ### Running pipes -/

theorem mem_runningPipes {id : PipeId} {pipe : Pipe} :
    (id, pipe) ∈ streams.runningPipes ↔ streams.pipe? id = some pipe ∧ pipe.isRunning := by
  simp only [runningPipes, List.mem_map, List.mem_filter, Prod.exists, Prod.mk.injEq,
    SlotMap.mem_toList, pipe?]
  constructor
  · rintro ⟨key, same, ⟨hs, hr⟩, rfl, rfl⟩
    exact ⟨hs, hr⟩
  · rintro ⟨hs, hr⟩
    exact ⟨id.key, pipe, ⟨hs, hr⟩, rfl, rfl⟩

/-- The running pipe into a stream, if no other runs. -/
theorem pipeInto?_eq_some {id : PipeId} {pipe : Pipe} (h : streams.pipe? id = some pipe)
    (hr : pipe.isRunning) (honly : ∀ other found, streams.pipe? other = some found →
      found.isRunning → found.destination = pipe.destination → other = id) :
    streams.pipeInto? pipe.destination = some id := by
  unfold pipeInto?
  cases hfind : streams.runningPipes.find? fun entry => entry.2.destination == pipe.destination with
  | none =>
    have hnone := List.find?_eq_none.mp hfind (id, pipe) (streams.mem_runningPipes.mpr ⟨h, hr⟩)
    exact absurd (beq_self_eq_true _) hnone
  | some entry =>
    obtain ⟨hfound, hrunning⟩ :=
      streams.mem_runningPipes.mp (List.mem_of_find?_eq_some hfind)
    have hd := List.find?_some hfind
    rw [Option.map_some, honly entry.1 entry.2 hfound hrunning (eq_of_beq hd)]

theorem of_pipeInto?_eq_some {destination : WritableId} {id : PipeId}
    (h : streams.pipeInto? destination = some id) :
    ∃ pipe, streams.pipe? id = some pipe ∧ pipe.isRunning ∧ pipe.destination = destination := by
  obtain ⟨⟨name, pipe⟩, hfind, rfl⟩ := Option.map_eq_some_iff.mp h
  obtain ⟨hp, hr⟩ := streams.mem_runningPipes.mp (List.mem_of_find?_eq_some hfind)
  have hd := List.find?_some hfind
  exact ⟨pipe, hp, hr, eq_of_beq hd⟩

theorem pipeInto?_eq_none {destination : WritableId} (h : ∀ id pipe, streams.pipe? id = some pipe →
    pipe.isRunning → pipe.destination ≠ destination) :
    streams.pipeInto? destination = none := by
  rw [pipeInto?, Option.map_eq_none_iff, List.find?_eq_none]
  intro entry hmem hd
  obtain ⟨hfound, hr⟩ := streams.mem_runningPipes.mp hmem
  exact h entry.1 entry.2 hfound hr (eq_of_beq hd)

theorem of_pipeFrom?_eq_some {source : ReadableId} {id : PipeId} {pipe : Pipe}
    (h : streams.pipeFrom? source = some (id, pipe)) :
    streams.pipe? id = some pipe ∧ pipe.isRunning ∧ pipe.source = source := by
  obtain ⟨hp, hr⟩ := streams.mem_runningPipes.mp (List.mem_of_find?_eq_some h)
  have hsource := List.find?_some h
  exact ⟨hp, hr, eq_of_beq hsource⟩

/-- The running pipe out of a stream, if no other runs. -/
theorem pipeFrom?_eq_some {id : PipeId} {pipe : Pipe} (h : streams.pipe? id = some pipe)
    (hr : pipe.isRunning) (honly : ∀ other found, streams.pipe? other = some found →
      found.isRunning → found.source = pipe.source → other = id) :
    streams.pipeFrom? pipe.source = some (id, pipe) := by
  cases hfrom : streams.pipeFrom? pipe.source with
  | none =>
    have hmem := streams.mem_runningPipes.mpr ⟨h, hr⟩
    exact absurd (beq_self_eq_true _) (List.find?_eq_none.mp hfrom _ hmem)
  | some found =>
    obtain ⟨hfound, hr', hs⟩ := streams.of_pipeFrom?_eq_some hfrom
    obtain ⟨other, pipe'⟩ := found
    obtain rfl := honly other pipe' hfound hr' hs
    cases hfound.symm.trans h
    rfl

/-! ### Sweeping -/

theorem pipes_sweep :
    streams.sweep.2.pipes = (streams.pipes.retain fun _ pipe => pipe.isRunning).2 := rfl

theorem pipe?_sweep (id : PipeId) :
    streams.sweep.2.pipe? id = (streams.pipe? id).filter Pipe.isRunning := by
  unfold pipe?
  rw [pipes_sweep, SlotMap.get?_retain]

theorem source?_sweep (id : ReadableId) :
    streams.sweep.2.source? id =
      (streams.source? id).filter fun source =>
        !(source.released && source.readerLock.isNone) := by
  have h : streams.sweep.2.sources =
    (streams.sources.retain fun _ source =>
      !(source.released && source.readerLock.isNone)).2 := rfl
  unfold source?
  rw [h, SlotMap.get?_retain]

theorem sink?_sweep (id : WritableId) :
    streams.sweep.2.sink? id =
      (streams.sink? id).filter fun sink => !(sink.released && sink.writerLock.isNone) := by
  have h : streams.sweep.2.sinks =
    (streams.sinks.retain fun _ sink => !(sink.released && sink.writerLock.isNone)).2 := rfl
  unfold sink?
  rw [h, SlotMap.get?_retain]

theorem bridge?_sweep (id : BridgeId) :
    streams.sweep.2.bridge? id =
      (streams.bridge? id).filter fun bridge =>
        streams.sweep.2.containsReadable bridge.readable ||
          streams.sweep.2.containsWritable bridge.writable := by
  have h : streams.sweep.2.bridges =
    (streams.bridges.retain fun _ bridge => streams.sweep.2.sources.contains bridge.readable.key ||
      streams.sweep.2.sinks.contains bridge.writable.key).2 := rfl
  unfold bridge?
  rw [h, SlotMap.get?_retain]
  rfl

end Registry

end EdgeStreams
