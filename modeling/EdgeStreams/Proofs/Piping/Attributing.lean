import EdgeStreams.Proofs.Piping.Endings

/-!
# Who closes and who cancels

While data flows, nobody but a pipe closes a writable stream or cancels a readable one. A pipe
closes only its destination, and that is the last thing it does; it cancels only its source. Neither
a write nor an abort nor a cancellation closes anything: they can only fail a stream.

## Main definitions

- `Registry.IsShut`: a stream has been closed, not failed
- `Registry.IsCanceled`: the consumer of a stream has cancelled it
- `Session.ByPipes`: what has been closed or cancelled has been so by pipes that were running

## Main statements

- `Session.flowByPipes`: the functions that make data flow
- `Session.byPipes_read`, `Session.byPipes_pumpPipe`, `Session.byPipes_pump`: operations
- `Session.ByPipes.unshut`: if no running pipe had a closed destination, then none has
-/

namespace EdgeStreams

variable {H E : Type}

namespace Registry

/-- The stream has been closed. -/
def IsShut (streams : Registry E) (id : WritableId) : Prop :=
  ∃ sink, streams.sink? id = some sink ∧ sink.controller.state = .closed

/-- The consumer of the stream has cancelled it. -/
def IsCanceled (streams : Registry E) (id : ReadableId) : Prop :=
  ∃ source, streams.source? id = some source ∧ source.canceled = true

/-- No running pipe has a closed destination. -/
def Unshut (streams : Registry E) : Prop :=
  ∀ id pipe, streams.pipe? id = some pipe → pipe.isRunning → ¬ streams.IsShut pipe.destination

end Registry

/-- A failure closes nothing. -/
theorem WritableController.closed_of_error {controller : WritableController} {error : StreamError}
    (h : (controller.error error).state = .closed) : controller.state = .closed := by
  unfold WritableController.error at h
  split at h
  · exact h
  · cases h

theorem Sink.closed_of_failing {sink : Sink E} {error : StreamError}
    (h : (sink.failing error).controller.state = .closed) : sink.controller.state = .closed :=
  WritableController.closed_of_error h

theorem Sink.closed_of_rested (sink : Sink E) (outcome : Except StreamError Unit)
    (h : (sink.rested outcome).controller.state = .closed) : sink.controller.state = .closed := by
  cases outcome with
  | ok => exact h
  | error error =>
    exact @WritableController.closed_of_error { sink.controller with inFlight := false } _ h

namespace Session

variable {s t u : Session H E}

/-! ### What closes nothing -/

/-- Whatever is closed was closed before. -/
structure ShutsNone (s t : Session H E) : Prop where
  before : ∀ id, t.streams.IsShut id → s.streams.IsShut id

namespace ShutsNone

theorem refl (s : Session H E) : s.ShutsNone s := ⟨fun _ hshut => hshut⟩

theorem trans (h : s.ShutsNone t) (h' : t.ShutsNone u) : s.ShutsNone u :=
  ⟨fun id hshut => h.before id (h'.before id hshut)⟩

theorem of_sink? (h : ∀ id, t.streams.sink? id = s.streams.sink? id) : s.ShutsNone t :=
  ⟨fun id ⟨sink, hk, hshut⟩ => ⟨sink, h id ▸ hk, hshut⟩⟩

theorem modifySink (s : Session H E) (id : WritableId) {change : Sink E → Sink E}
    (hchange : ∀ sink, (change sink).controller.state = .closed → sink.controller.state = .closed) :
    s.ShutsNone (mapStreams (fun streams => streams.modifySink id change) s) := by
  refine ⟨?_⟩
  rintro other ⟨sink, hk, hshut⟩
  rw [streams_mapStreams, Registry.sink?_modifySink] at hk
  split at hk
  · next he =>
    obtain ⟨before, hbefore, rfl⟩ := Option.map_eq_some_iff.mp hk
    exact ⟨before, he ▸ hbefore, hchange before hshut⟩
  · exact ⟨sink, hk, hshut⟩

theorem setSink {id : WritableId} {sink sink' : Sink E} (hk : s.streams.sink? id = some sink)
    (hclosed : sink'.controller.state = .closed → sink.controller.state = .closed) :
    s.ShutsNone (setSink id sink' s) := by
  refine ⟨?_⟩
  rintro other ⟨found, hfound, hshut⟩
  rw [streams_setSink, Registry.sink?_setSink] at hfound
  split at hfound
  · next he =>
    obtain ⟨-, -, rfl⟩ := Option.map_eq_some_iff.mp hfound
    exact ⟨sink, he ▸ hk, hclosed hshut⟩
  · exact ⟨found, hfound, hshut⟩

end ShutsNone

/-- A transformer may fail the writable half, but it does not close it. -/
theorem shutsNone_withTransformer (id : BridgeId) (work : TransformWork E) (s : Session H E) :
    s.ShutsNone (exec (withTransformer id work) s).2 := by
  rw [exec_withTransformer]
  cases hb : s.streams.bridge? id with
  | none => exact .refl s
  | some bridge =>
    dsimp only
    cases hs : s.streams.source? bridge.readable with
    | none => exact .refl s
    | some source =>
      dsimp only
      split
      · exact .refl s
      · dsimp only
        generalize work bridge.transformer s.env { controller := source.controller } = worked
        have hmarked : s.ShutsNone (marked bridge worked (fed bridge worked s source) id) := by
          refine .of_sink? fun other => ?_
          unfold marked
          split <;> rfl
        unfold transformed spread
        split
        · refine hmarked.trans (.modifySink _ _ fun sink hclosed => ?_)
          split at hclosed
          · exact Sink.closed_of_failing hclosed
          · exact hclosed
        · exact hmarked

section Algorithms

variable [Host H]

theorem shutsNone_writeAlgorithm (id : WritableId) (chunk : Bytes) (s : Session H E) :
    s.ShutsNone (exec (writeAlgorithm id chunk) s).2 := by
  simp only [writeAlgorithm, exec_bind, exec_sink]
  cases s.streams.sink? id with
  | none => exact .refl s
  | some sink =>
    dsimp only [Registry.need_some]
    cases sink.backing with
    | body handle | script guest => exact .of_sink? fun _ => rfl
    | transform name =>
      simp only [exec_bind, exec_bridge]
      cases hb : s.streams.bridge? name with
      | none => exact .refl s
      | some bridge =>
        have hforgot : s.ShutsNone (setBridge name { bridge with pullRequested := false } s) :=
          .of_sink? fun _ => rfl
        exact hforgot.trans (shutsNone_withTransformer name (.transform chunk) _)

theorem shutsNone_abortAlgorithm (id : WritableId) (reason : Option String) (s : Session H E) :
    s.ShutsNone (exec (abortAlgorithm id reason) s).2 := by
  refine .of_sink? fun other => ?_
  simp only [abortAlgorithm, exec_bind, exec_sink]
  cases s.streams.sink? id with
  | none => rfl
  | some sink =>
    dsimp only [Registry.need_some]
    cases sink.backing with
    | body handle | script guest => rfl
    | transform name =>
      simp only [exec_bind, exec_bridge]
      cases s.streams.bridge? name with
      | none => rfl
      | some bridge => exact Registry.sink?_modifySource _ _ _ _

theorem shutsNone_cancelAlgorithm (id : ReadableId) (reason : Option String) (s : Session H E) :
    s.ShutsNone (exec (cancelAlgorithm id reason) s).2 := by
  simp only [cancelAlgorithm, exec_bind, exec_source]
  cases s.streams.source? id with
  | none => exact .refl s
  | some source =>
    dsimp only [Registry.need_some]
    cases source.backing with
    | body handle size | script guest => exact .of_sink? fun _ => rfl
    | transform name =>
      simp only [exec_bind, exec_bridge]
      cases hb : s.streams.bridge? name with
      | none => exact .refl s
      | some bridge =>
        have hfailed : s.ShutsNone (setBridge name { bridge with errored := true } s) :=
          .of_sink? fun _ => rfl
        exact hfailed.trans
          (.modifySink _ _ fun _ hclosed => Sink.closed_of_failing hclosed)

theorem shutsNone_cancelUnchecked (id : ReadableId) (reason : Option String) (s : Session H E) :
    s.ShutsNone (exec (cancelUnchecked id reason) s).2 := by
  simp only [cancelUnchecked, exec_bind, exec_source]
  cases hs : s.streams.source? id with
  | none => exact .refl s
  | some source =>
    dsimp only [Registry.need_some]
    have hset : ∀ source', s.ShutsNone (setSource id source' s) :=
      fun _ => .of_sink? fun _ => rfl
    cases hstate : source.controller.state with
    | closed => exact hset _
    | errored error => exact hset _
    | readable =>
      cases hcanceled : source.canceled with
      | true => exact hset _
      | false =>
        simp only [Bool.false_eq_true, if_false, exec_bind, exec_modify, exec_noting]
        exact ((hset _).trans (shutsNone_cancelAlgorithm id reason _)).trans
          (.of_sink? fun _ => rfl)

variable (hc : s.streams.Composed)
include hc

theorem shutsNone_write (id : WritableId) (chunk : Bytes) (token : Option WriterToken) :
    s.ShutsNone (exec (write id chunk token) s).2 := by
  by_cases htakes : s.streams.Takes id token
  · obtain ⟨sink, hk, rfl, hw, -⟩ := htakes
    rw [exec_write_of_lock hk]
    have hsilent := asksNothing_writeAlgorithm id chunk (setSink id sink.working s)
    have hworks := shutsNone_writeAlgorithm id chunk (setSink id sink.working s)
    generalize hwork : exec (writeAlgorithm id chunk) (setSink id sink.working s) = worked
      at hsilent hworks
    obtain ⟨outcome, s'⟩ := worked
    have hduring : (setSink id sink.working s).streams.sink? id = some sink.working := by
      simp [Registry.sink?_setSink, hk]
    obtain ⟨sink', hworked, hripples⟩ := SlotMap.rel_some_left (hduring ▸ hsilent.sink id)
    rw [exec_writeUnchecked_of_idle hk (hc.idle hk) hw hwork hworked hripples]
    have hbegins : s.ShutsNone (setSink id sink.working s) := .setSink hk fun h => h
    have hnoted : (note (.written id chunk outcome) s').streams.sink? id = some sink' := hworked
    have hnotes : s'.ShutsNone (note (.written id chunk outcome) s') := .of_sink? fun _ => rfl
    exact (hbegins.trans hworks).trans
      (hnotes.trans (.setSink hnoted (sink'.closed_of_rested outcome)))
  · obtain ⟨error, hrefused⟩ := exec_write_of_refused chunk htakes
    rw [hrefused]
    exact .refl s

theorem shutsNone_abortUnchecked (id : WritableId) (reason : Option String) :
    s.ShutsNone (exec (abortUnchecked id reason) s).2 := by
  cases hk : s.streams.sink? id with
  | none =>
    have hsame : (exec (abortUnchecked id reason) s).2 = s := by
      simp [abortUnchecked, exec_bind, hk]
    rw [hsame]
    exact .refl s
  | some sink =>
    cases hterminal : sink.controller.state.isTerminal with
    | true =>
      rw [exec_abortUnchecked_of_terminal hk hterminal]
      exact .refl s
    | false =>
      rw [exec_abortUnchecked_of_idle hk (hc.idle hk) ((hc.idle hk).writable hterminal),
        exec_noting]
      have hfails : s.ShutsNone (setSink id (sink.failing .aborted) s) :=
        .setSink hk Sink.closed_of_failing
      exact (hfails.trans (shutsNone_abortAlgorithm id reason _)).trans (.of_sink? fun _ => rfl)

omit [Host H] hc in
theorem shutsNone_pipeFinished (name : PipeId) (state : PipeState) (s : Session H E) :
    s.ShutsNone (pipeFinished name state s) := by
  refine ⟨?_⟩
  rintro id ⟨sink', hk', hshut⟩
  obtain ⟨sink, hk, hsame⟩ := SlotMap.rel_some_right (hk' ▸ sameSink_pipeFinished name state s id)
  exact ⟨sink, hk, hsame.controller ▸ hshut⟩

/-- What ends a stream closes no other. -/
theorem shut_closeUnchecked {id other : WritableId}
    (h : (exec (closeUnchecked id) s).2.streams.IsShut other) : s.streams.IsShut other ∨
    other = id := by
  by_cases he : other = id
  · exact .inr he
  · obtain ⟨sink, hk, hshut⟩ := h
    have houtside := (changesWithin_closeUnchecked .refl s .refl).sink?_outside
      fun hm => he (hc.mem_sinkReach hm)
    exact .inl ⟨sink, houtside.symm.trans hk, hshut⟩

end Algorithms

/-! ### What cancels nothing -/

/-- Whatever is cancelled was cancelled before. -/
structure CancelsNone (s t : Session H E) : Prop where
  before : ∀ id, t.streams.IsCanceled id → s.streams.IsCanceled id

namespace CancelsNone

theorem refl (s : Session H E) : s.CancelsNone s := ⟨fun _ hcanceled => hcanceled⟩

theorem of_source? (h : ∀ id, t.streams.source? id = s.streams.source? id) : s.CancelsNone t :=
  ⟨fun id ⟨source, hs, hcanceled⟩ => ⟨source, h id ▸ hs, hcanceled⟩⟩

theorem workedInto {calls : List StreamEvent} (h : WorkedInto calls s t) : s.CancelsNone t := by
  refine ⟨?_⟩
  rintro id ⟨source', hs', hcanceled⟩
  obtain ⟨source, hs, hr⟩ := SlotMap.rel_some_right (hs' ▸ h.source id)
  exact ⟨source, hs, hr.flags.1 ▸ hcanceled⟩

theorem setSource {id : ReadableId} {source source' : Source E}
    (hs : s.streams.source? id = some source) (hcanceled : source'.canceled = source.canceled) :
    s.CancelsNone (setSource id source' s) := by
  refine ⟨?_⟩
  rintro other ⟨found, hfound, hyes⟩
  rw [streams_setSource, Registry.source?_setSource] at hfound
  split at hfound
  · next he =>
    obtain ⟨-, -, rfl⟩ := Option.map_eq_some_iff.mp hfound
    exact ⟨source, he ▸ hs, hcanceled ▸ hyes⟩
  · exact ⟨found, hfound, hyes⟩

theorem pipeFinished (name : PipeId) (state : PipeState) (s : Session H E) :
    s.CancelsNone (pipeFinished name state s) := by
  by_cases hrun : ∃ pipe, s.streams.pipe? name = some pipe ∧ pipe.isRunning
  · obtain ⟨pipe, hp, hr⟩ := hrun
    refine ⟨?_⟩
    rintro id ⟨source', hs', hcanceled⟩
    rw [Session.pipeFinished, streams_mapStreams, Registry.source?_finishPipe state hp hr] at hs'
    split at hs'
    · next he =>
      obtain ⟨source, hs, rfl⟩ := Option.map_eq_some_iff.mp hs'
      refine ⟨source, he ▸ hs, ?_⟩
      unfold Registry.unlockReader at hcanceled
      split at hcanceled <;> exact hcanceled
    · exact ⟨source', hs', hcanceled⟩
  · rw [Session.pipeFinished, mapStreams, Registry.finishPipe_of_not_running]
    · exact .refl s
    · exact fun pipe hp hr => hrun ⟨pipe, hp, hr⟩

theorem revised {id : ReadableId} {source source' : Source E} {calls : List StreamEvent} {host : H}
    {env : E} (hs : s.streams.source? id = some source) (h : Revised id source' calls host env s t)
    (hcanceled : source'.canceled = source.canceled) : s.CancelsNone t := by
  refine ⟨?_⟩
  rintro other ⟨found, hfound, hyes⟩
  by_cases he : other = id
  · subst he
    cases (h.source? hs).symm.trans hfound
    exact ⟨source, hs, hcanceled ▸ hyes⟩
  · exact ⟨found, (h.source?_other he).symm.trans hfound, hyes⟩

end CancelsNone

section Cancelling

variable [Host H] (hc : s.streams.Composed)
include hc

theorem cancelsNone_write (id : WritableId) (chunk : Bytes) (token : Option WriterToken) :
    s.CancelsNone (exec (write id chunk token) s).2 := by
  by_cases htakes : s.streams.Takes id token
  · obtain ⟨sink, hk, rfl, hw, -⟩ := htakes
    obtain ⟨outcome, hr, -⟩ := workedInto_writeUnchecked hc hk hw chunk
    rw [exec_write_of_lock hk]
    exact .workedInto hr
  · obtain ⟨error, hrefused⟩ := exec_write_of_refused chunk htakes
    rw [hrefused]
    exact .refl s

theorem cancelsNone_closeUnchecked (id : WritableId) :
    s.CancelsNone (exec (closeUnchecked id) s).2 := by
  rcases closeUnchecked_cases hc id with heq | ⟨sink, outcome, sink', hk, hw, hr, -⟩
  · rw [heq]
    exact .refl s
  · exact .workedInto hr

theorem cancelsNone_abortUnchecked (id : WritableId) (reason : Option String) :
    s.CancelsNone (exec (abortUnchecked id reason) s).2 := by
  rcases abortUnchecked_cases hc id reason with heq | ⟨sink, outcome, sink', hk, hw, hr, -⟩
  · rw [heq]
    exact .refl s
  · exact .workedInto hr

/-- What cancels a stream cancels no other. -/
theorem canceled_cancelUnchecked {id other : ReadableId} {reason : Option String}
    (h : (exec (cancelUnchecked id reason) s).2.streams.IsCanceled other) :
    s.streams.IsCanceled other ∨ other = id := by
  by_cases he : other = id
  · exact .inr he
  · left
    obtain ⟨source', hs', hcanceled⟩ := h
    rcases cancelUnchecked_cases hc id reason with
      ⟨-, heq⟩ | ⟨source, hs, ⟨-, heq⟩ | ⟨-, -, outcome, hr, -⟩⟩
    · exact ⟨source', heq ▸ hs', hcanceled⟩
    · rw [heq, streams_setSource, Registry.source?_setSource, if_neg he] at hs'
      exact ⟨source', hs', hcanceled⟩
    · obtain ⟨found, hfound, hyes⟩ :=
        (CancelsNone.workedInto hr).before other ⟨source', hs', hcanceled⟩
      rw [streams_setSource, Registry.source?_setSource, if_neg he] at hfound
      exact ⟨found, hfound, hyes⟩

end Cancelling

/-! ### What pipes close and cancel -/

section Pipes

variable [Host H]

/-- Deeds and moves. Whatever has been closed meanwhile is the destination of a pipe that was
running and runs no longer; whatever has been cancelled is the source of a pipe that was running. -/
structure ByPipes (s t : Session H E) : Prop where
  course : ∃ made, Course s made t
  movesTo : MovesTo s t
  shut : ∀ {id}, t.streams.IsShut id → s.streams.IsShut id ∨
    ∃ name pipe, s.streams.pipe? name = some pipe ∧ pipe.isRunning ∧ pipe.destination = id ∧
      ∀ pipe', t.streams.pipe? name = some pipe' → ¬ pipe'.isRunning
  canceled : ∀ {id}, t.streams.IsCanceled id → s.streams.IsCanceled id ∨
    ∃ name pipe, s.streams.pipe? name = some pipe ∧ pipe.isRunning ∧ pipe.source = id

/-- The halves of transform streams know their bridges, and pipes hold their ends. -/
structure Ordered (s : Session H E) : Prop where
  composed : s.streams.Composed
  orderly : ∃ held spent, s.streams.Orderly held spent

omit [Host H] in
/-- The pipe of the name runs if one of its tokens locks a stream. -/
theorem Ordered.running_of_uses (ho : s.Ordered) {name : PipeId} {pipe : Pipe}
    (hnames : s.streams.NamesPipe name pipe)
    (hlocks : (∃ id source, s.streams.source? id = some source ∧ source.readerLock =
      some pipe.reader) ∨
      ∃ id sink, s.streams.sink? id = some sink ∧ sink.writerLock = some pipe.writer) :
    ∃ found, s.streams.pipe? name = some found ∧ found.isRunning ∧ found.source = pipe.source ∧
      found.destination = pipe.destination := by
  obtain ⟨state, pumping, hp⟩ := hnames
  obtain ⟨held, spent, horderly⟩ := ho.orderly
  refine ⟨_, hp, ?_, rfl, rfl⟩
  by_contra hf
  rcases hlocks with ⟨id, source, hs, hlock⟩ | ⟨id, sink, hk, hlock⟩
  · exact horderly.reader_idle (horderly.used_old name _ _ hp (.inl rfl)).2
      (horderly.finished_idle hp hf (.inl rfl)) hs hlock
  · exact horderly.writer_idle (horderly.used_old name _ _ hp (.inr rfl)).2
      (horderly.finished_idle hp hf (.inr rfl)) hk hlock

/-- A cancellation that does not pass the lock changes nothing. -/
theorem cancel_cases (id : ReadableId) (reason : Option String) (token : Option ReaderToken)
    (s : Session H E) : (exec (cancel id reason token) s).2 = s ∨
      ∃ source, s.streams.source? id = some source ∧ source.readerLock = token ∧
        exec (cancel id reason token) s = exec (cancelUnchecked id reason) s := by
  cases hs : s.streams.source? id with
  | none => exact .inl (by simp [cancel, exec_bind, hs, Except.bind])
  | some source =>
    cases hadmits : Registry.admits source.readerLock token with
    | error error => exact .inl (by simp [cancel, exec_bind, hs, Except.bind, hadmits])
    | ok => exact .inr ⟨source, rfl, Registry.admits_eq_ok_iff.mp hadmits,
        by simp [cancel, exec_bind, hs, Except.bind, hadmits]⟩

/-- An end that does not pass the lock changes nothing. -/
theorem close_cases (id : WritableId) (token : Option WriterToken) (s : Session H E) :
    (exec (close id token) s).2 = s ∨
      ∃ sink, s.streams.sink? id = some sink ∧ sink.writerLock = token ∧
        exec (close id token) s = exec (closeUnchecked id) s := by
  cases hk : s.streams.sink? id with
  | none => exact .inl (by simp [close, exec_bind, hk, Except.bind])
  | some sink =>
    cases hadmits : Registry.admits sink.writerLock token with
    | error error => exact .inl (by simp [close, exec_bind, hk, Except.bind, hadmits])
    | ok => exact .inr ⟨sink, rfl, Registry.admits_eq_ok_iff.mp hadmits,
        by simp [close, exec_bind, hk, Except.bind, hadmits]⟩

namespace ByPipes

theorem of_none (hcourse : ∃ made, Course s made t) (hmoves : MovesTo s t) (hshut : s.ShutsNone t)
    (hcanceled : s.CancelsNone t) : s.ByPipes t where
  course := hcourse
  movesTo := hmoves
  shut h := .inl (hshut.before _ h)
  canceled h := .inl (hcanceled.before _ h)

theorem refl (s : Session H E) : s.ByPipes s := of_none ⟨_, .refl⟩ .refl (.refl s) (.refl s)

theorem ordered (h : s.ByPipes t) (ho : s.Ordered) : t.Ordered := by
  obtain ⟨made, hcourse⟩ := h.course
  obtain ⟨held, spent, horderly⟩ := ho.orderly
  exact ⟨hcourse.composed ho.composed, held, spent, h.movesTo.orderly horderly⟩

theorem trans (h : s.ByPipes t) (h' : t.ByPipes u) : s.ByPipes u where
  course := by
    obtain ⟨made, hcourse⟩ := h.course
    obtain ⟨more, hcourse'⟩ := h'.course
    exact ⟨_, hcourse.trans hcourse'⟩
  movesTo := h.movesTo.trans h'.movesTo
  shut {id} hshut := by
    rcases h'.shut hshut with hbetween | ⟨name, pipe, hp, hr, hd, hstopped⟩
    · refine (h.shut hbetween).imp_right fun ⟨name, pipe, hp, hr, hd, hstopped⟩ => ?_
      refine ⟨name, pipe, hp, hr, hd, fun pipe' hp' hr' => ?_⟩
      obtain ⟨pumping, hstill⟩ := h'.movesTo.running_before hp' hr'
      exact hstopped _ hstill hr'
    · obtain ⟨pumping, hbefore⟩ := h.movesTo.running_before hp hr
      exact .inr ⟨name, _, hbefore, hr, hd, hstopped⟩
  canceled {id} hcanceled := by
    rcases h'.canceled hcanceled with hbetween | ⟨name, pipe, hp, hr, hs⟩
    · exact h.canceled hbetween
    · obtain ⟨pumping, hbefore⟩ := h.movesTo.running_before hp hr
      exact .inr ⟨name, _, hbefore, hr, hs⟩

/-- The destination of a pipe that still runs has not been closed. -/
theorem not_isShut (h : s.ByPipes t) (ho : s.Ordered) {name : PipeId} {pipe : Pipe}
    (hp : t.streams.pipe? name = some pipe) (hr : pipe.isRunning)
    (hopen : ¬ s.streams.IsShut pipe.destination) : ¬ t.streams.IsShut pipe.destination := by
  intro hshut
  obtain ⟨pumping, hbefore⟩ := h.movesTo.running_before hp hr
  obtain ⟨other, found, hfound, hr', hd, hstopped⟩ := (h.shut hshut).resolve_left hopen
  obtain ⟨held, spent, horderly⟩ := ho.orderly
  cases horderly.destination_inj hfound hr' hbefore hr hd
  exact hstopped pipe hp hr

/-- If no running pipe had a closed destination, then none has. -/
theorem unshut (h : s.ByPipes t) (ho : s.Ordered) (hu : s.streams.Unshut) : t.streams.Unshut := by
  intro name pipe hp hr
  obtain ⟨pumping, hbefore⟩ := h.movesTo.running_before hp hr
  exact h.not_isShut ho hp hr (hu name { pipe with pumping } hbefore hr)

/-- The streams are as they were, but for work on sources that are not cancelled by it. -/
theorem of_quiet {made : List (WritableId × Bytes)} (hdeed : Deed s made t) (hmoves : MovesTo s t)
    (hk : ∀ id, t.streams.sink? id = s.streams.sink? id) (hcanceled : s.CancelsNone t) :
    s.ByPipes t :=
  of_none ⟨_, .step .refl hdeed⟩ hmoves (.of_sink? hk) hcanceled

/-- A pipe starts or stops being driven. -/
theorem drive {id : PipeId} {pipe : Pipe} (pumping : Bool) (hp : s.streams.pipe? id = some pipe) :
    s.ByPipes (mapStreams (fun streams => streams.setPipe id { pipe with pumping }) s) :=
  of_quiet (.drive pumping hp) (.drive pumping .refl hp) (fun _ => rfl) (.of_source? fun _ => rfl)

theorem finish (id : PipeId) {state : PipeState} (hstopped : state ≠ .running) :
    s.ByPipes (pipeFinished id state s) :=
  of_none ⟨_, .step .refl (.finish id state)⟩ (.finish id .refl hstopped)
    (shutsNone_pipeFinished id state s) (.pipeFinished id state s)

theorem write (hc : s.streams.Composed) (id : WritableId) (chunk : Bytes)
    (token : Option WriterToken) : s.ByPipes (exec (write id chunk token) s).2 :=
  of_none (flowsTo_write hc id chunk token).course
    (.of_changesWithin (changesWithin_write s id chunk token))
    (shutsNone_write hc id chunk token) (cancelsNone_write hc id chunk token)

theorem abort (hc : s.streams.Composed) (id : WritableId) (reason : Option String)
    (token : Option WriterToken) : s.ByPipes (exec (abort id reason token) s).2 := by
  refine of_none (flowsTo_abort hc id reason token).course
    (.of_changesWithin (changesWithin_abort s id reason token))
    ?_ ?_
  all_goals
    simp only [Session.abort, exec_bind, exec_onStreams, Registry.exec_checkWriter]
    split
  · exact shutsNone_abortUnchecked hc id reason
  · exact .refl s
  · exact cancelsNone_abortUnchecked hc id reason
  · exact .refl s

theorem abortDestination (hc : s.streams.Composed) (pipe : Pipe) :
    s.ByPipes (abortDestination pipe s).2 := by
  cases h : pipe.options.preventAbort with
  | false =>
    rw [abortDestination_snd h]
    exact abort hc _ _ _
  | true =>
    rw [abortDestination_of_prevented h]
    exact .refl s

/-- A pipe cancels its source while it runs. -/
theorem cancelSource (ho : s.Ordered) {id : PipeId} {pipe : Pipe}
    (hnames : s.streams.NamesPipe id pipe) :
    s.ByPipes (cancelSource pipe s).2 := by
  have hc := ho.composed
  cases h : pipe.options.preventCancel with
  | true =>
    rw [cancelSource_of_prevented h]
    exact .refl s
  | false =>
    rw [cancelSource_snd h]
    have hcourse := (flowsTo_cancel hc pipe.source none (some pipe.reader)).course
    have htouches := changesWithin_cancel s pipe.source none (some pipe.reader)
    rcases cancel_cases pipe.source none (some pipe.reader) s with heq | ⟨source, hs, hlock, heq⟩
    · rw [heq]
      exact .refl s
    · rw [heq] at hcourse htouches ⊢
      refine ⟨hcourse, .of_changesWithin htouches,
        fun hshut => .inl ((shutsNone_cancelUnchecked _ _ s).before _ hshut), fun hcanceled => ?_⟩
      refine (canceled_cancelUnchecked hc hcanceled).imp_right ?_
      rintro rfl
      obtain ⟨found, hfound, hr, hsource, -⟩ :=
        ho.running_of_uses hnames (.inl ⟨_, source, hs, hlock⟩)
      exact ⟨id, found, hfound, hr, hsource⟩

/-- A pipe whose source has ended ends its destination, and itself. -/
theorem closed (ho : s.Ordered) {id : PipeId} {pipe : Pipe} (hnames : s.streams.NamesPipe id pipe) :
    s.ByPipes (pipeFinished id (closeDestination pipe s).1 (closeDestination pipe s).2) := by
  have hc := ho.composed
  obtain ⟨htouches, hstopped⟩ := changesWithin_closeDestination pipe s
  have hcourse := (flowsTo_closeDestination hc pipe).course
  have hmoves : MovesTo s (pipeFinished id (closeDestination pipe s).1
      (closeDestination pipe s).2) :=
    (MovesTo.of_changesWithin htouches).finish id hstopped
  cases h : pipe.options.preventClose with
  | true =>
    rw [closeDestination_of_prevented h]
    exact finish id (by simp)
  | false =>
    rcases close_cases pipe.destination (some pipe.writer) s with heq | ⟨sink, hk, hlock, heq⟩
    · rw [closeDestination_eq h] at hstopped ⊢
      dsimp only at hstopped ⊢
      rw [heq]
      exact finish id hstopped
    · obtain ⟨made, hcourse⟩ := hcourse
      refine ⟨⟨_, hcourse.step (.finish id _)⟩, hmoves, fun hshut => ?_, fun hcanceled => ?_⟩
      · have hbefore := (shutsNone_pipeFinished _ _ _).before _ hshut
        rw [closeDestination_eq h, heq] at hbefore
        refine (shut_closeUnchecked hc hbefore).imp_right ?_
        rintro rfl
        obtain ⟨found, hfound, hr, -, hd⟩ := ho.running_of_uses hnames (.inr ⟨_, sink, hk, hlock⟩)
        refine ⟨id, found, hfound, hr, hd, fun pipe' hp' hr' => hstopped ?_⟩
        have hthere := (Registry.pipe?_congr htouches.pipes_eq id).trans hfound
        rw [pipeFinished, streams_mapStreams, Registry.pipe?_finishPipe _ hthere hr,
          if_pos rfl] at hp'
        cases hp'
        exact Registry.isRunning_iff.mp hr'
      · have hbefore := (CancelsNone.pipeFinished _ _ _).before _ hcanceled
        rw [closeDestination_eq h, heq] at hbefore
        exact .inl ((cancelsNone_closeUnchecked hc _).before _ hbefore)

end ByPipes

/-! ### The functions that call each other -/

/-- With some fuel, whatever there is an outcome of leaves closing and cancelling to pipes. -/
structure FlowByPipes (H E : Type) [Host H] (fuel : Nat) : Prop where
  readUnchecked {s : Session H E} {id : ReadableId}
    {r : Except StreamError ReadOutcome × Session H E} : s.Ordered →
    attempt (Session.readUnchecked fuel id) s = some r → s.ByPipes r.2
  pullIfNeeded {s : Session H E} {id : ReadableId} {source : Source E} {readerWaits : Bool}
    {r : Unit × Session H E} : s.Ordered → s.streams.source? id = some source →
      source.IsTransform → s.streams.isDisturbed id = true →
        EdgeStreams.drive (Session.pullIfNeeded fuel id readerWaits) s = some r → s.ByPipes r.2
  pull {s : Session H E} {id : ReadableId} {source : Source E}
    {r : Except StreamError Unit × Session H E} : s.Ordered →
      s.streams.source? id = some source → source.IsTransform →
        attempt (Session.pull fuel id) s = some r → s.ByPipes r.2
  pumpPipe {s : Session H E} {id : PipeId} {r : Nat × Session H E} : s.Ordered →
    EdgeStreams.drive (Session.pumpPipe fuel id) s = some r → s.ByPipes r.2
  pumpSteps {s : Session H E} {id : PipeId} {pipe : Pipe} {steps : Nat} {r : Nat × Session H E} :
    s.Ordered → s.streams.NamesPipe id pipe →
      EdgeStreams.drive (Session.pumpSteps fuel id pipe steps) s = some r → s.ByPipes r.2

namespace FlowByPipes

theorem zero : FlowByPipes H E 0 where
  readUnchecked _ h := by cases h
  pullIfNeeded _ _ _ _ h := by cases h
  pull _ _ _ h := by cases h
  pumpPipe _ h := by cases h
  pumpSteps _ _ h := by cases h

variable {fuel : Nat} {id : ReadableId} {source : Source E}

/-- A read of a host body or of a guest closes and cancels nothing. -/
theorem readUnchecked_native {r : Except StreamError ReadOutcome × Session H E}
    (hc : s.streams.Composed) (hs : s.streams.source? id = some source) (hn : ¬ source.IsTransform)
    (h : attempt (Session.readUnchecked fuel id) s = some r) : s.ByPipes r.2 := by
  have hp := hc.native hs hn
  refine .of_quiet (.read hs hn h) ((flowMoves fuel).readUnchecked h) (fun other => ?_) ?_
  all_goals
    rcases revised_readUnchecked hs hn hp (hc.notAsked hs hp) h with
      ⟨source', hproceeds, hrevised⟩ | ⟨outcome, source', host, env, hproceeds, hrevised, -⟩
  · obtain ⟨new, -, he⟩ := hrevised
    rw [he]
    rfl
  · obtain ⟨new, -, he⟩ := hrevised
    rw [he]
    rfl
  · cases hproceeds with
    | stays _ hcanceled => exact .revised hs hrevised hcanceled
  · cases hproceeds with
    | pulls _ _ _ _ hcanceled => exact .revised hs hrevised hcanceled

theorem byPipes_disturb (hs : s.streams.source? id = some source) (ht : source.IsTransform) :
    s.ByPipes (disturb id source s) :=
  .of_quiet (.disturb hs ht) (MovesTo.refl.disturb hs) (fun _ => rfl) (.setSource hs rfl)

theorem byPipes_takeReady (hs : s.streams.source? id = some source) (ht : source.IsTransform)
    (hd : s.streams.isDisturbed id = true) : s.ByPipes (exec (takeReady id) s).2 := by
  have htakes := (Revised.refl hs).takeReady hs
  refine .of_quiet (.take hs ht) (movesTo_takeReady hd) (fun other => ?_) (.revised hs htakes rfl)
  obtain ⟨new, -, he⟩ := htakes
  rw [he]
  rfl

theorem byPipes_beginPull {waits : Bool} (hs : s.streams.source? id = some source)
    (ht : source.IsTransform) (hd : s.streams.isDisturbed id = true)
    (hwants : source.wantsPull waits = true) (hp : source.pulling = false) :
    s.ByPipes (note (.pullBegan id) (setSource id { source with pulling := true } s)) := by
  have hmoves : MovesTo s (setSource id { source with pulling := true } s) :=
    MovesTo.refl.setSource hd hs ⟨rfl, rfl, rfl, rfl, rfl, rfl, fun h => h, fun h => h⟩
  have hcanceled : s.CancelsNone (setSource id { source with pulling := true } s) :=
    .setSource hs rfl
  exact .of_quiet (.beginPull hs ht hwants hp) (hmoves.note _) (fun _ => rfl) ⟨hcanceled.before⟩

theorem byPipes_endPull (hs : s.streams.source? id = some source) (ht : source.IsTransform)
    (hd : s.streams.isDisturbed id = true) (hp : source.pulling = true) :
    s.ByPipes (setSource id { source with pulling := false, pullAgain := false }
      (note (.pullEnded id (.ok ())) s)) := by
  have hmoves : MovesTo s (setSource id { source with pulling := false, pullAgain := false }
      (note (.pullEnded id (.ok ())) s)) :=
    (MovesTo.refl.note _).setSource hd hs ⟨rfl, rfl, rfl, rfl, rfl, rfl, fun h => h, fun h => h⟩
  have hcanceled : s.CancelsNone
      (setSource id { source with pulling := false, pullAgain := false } s) :=
    .setSource hs rfl
  exact .of_quiet (.endPull hs ht hp) hmoves (fun _ => rfl) ⟨hcanceled.before⟩

theorem byPipes_request {name : BridgeId} {bridge : Bridge E}
    (hb : s.streams.bridge? name = some bridge) :
    s.ByPipes (setBridge name { bridge with pullRequested := true } s) :=
  .of_quiet (.request hb) (.of_changesWithin
    (ChangesWithin.refl.setBridge (f := { bridges := {name} }) rfl hb ⟨rfl, rfl, rfl, fun h => h⟩))
    (fun _ => rfl) (.of_source? fun _ => rfl)

variable (ih : FlowByPipes H E fuel)
include ih

theorem readUnchecked_succ {r : Except StreamError ReadOutcome × Session H E} (ho : s.Ordered)
    (h : attempt (Session.readUnchecked (fuel + 1) id) s = some r) : s.ByPipes r.2 := by
  have hc := ho.composed
  by_cases hnative : ∀ source, s.streams.source? id = some source → ¬ source.IsTransform
  · cases hs : s.streams.source? id with
    | none => exact readUnchecked_of_gone hs h ▸ .refl s
    | some source => exact readUnchecked_native hc hs (hnative source hs) h
  · simp only [not_forall, not_not] at hnative
    obtain ⟨source, hs, ht⟩ := hnative
    have hmarks := byPipes_disturb hs ht
    have hd := isDisturbed_disturb hs
    have hordered := hmarks.ordered ho
    obtain ⟨marked, hs', ht'⟩ := (flowsTo_disturb hs ht).isTransform hc hs ht
    have htake : ∀ t, (Session.disturb id source s).ByPipes t →
        (Session.disturb id source s).ByPipes (exec (takeReady id) t).2 := fun t hpipes => by
      obtain ⟨made, hcourse⟩ := hpipes.course
      obtain ⟨last, hlast, htransform⟩ := hcourse.isTransform hordered.composed hs' ht'
      exact hpipes.trans (byPipes_takeReady hlast htransform (hpipes.movesTo.disturbed hd))
    refine (readUnchecked_keeps (Session.disturb id source s).ByPipes hs h (.refl _) htake
      fun waits t _ hpull => ?_).elim (fun heq => heq ▸ .refl s) hmarks.trans
    have htaken := htake _ (.refl _)
    obtain ⟨made, hcourse⟩ := htaken.course
    obtain ⟨last, hlast, htransform⟩ := hcourse.isTransform hordered.composed hs' ht'
    exact htaken.trans (ih.pullIfNeeded (htaken.ordered hordered) hlast htransform
      (htaken.movesTo.disturbed hd) hpull)

theorem pullIfNeeded_succ {readerWaits : Bool} {r : Unit × Session H E} (ho : s.Ordered)
    (hs : s.streams.source? id = some source) (ht : source.IsTransform)
    (hd : s.streams.isDisturbed id = true)
    (h : EdgeStreams.drive (Session.pullIfNeeded (fuel + 1) id readerWaits) s = some r) :
    s.ByPipes r.2 := by
  rcases (flowDeeds fuel).pullIfNeeded_cases ho.composed hs ht h with
    ⟨-, rfl⟩ | ⟨hwants, ⟨hp, rfl⟩ | ⟨hp, t, last, hpull, hnext⟩⟩
  · exact .refl s
  · exact .of_quiet (.ask hs ht hp)
      (MovesTo.refl.setSource hd hs ⟨rfl, rfl, rfl, rfl, rfl, rfl, fun h => h, fun h => h⟩)
      (fun _ => rfl) (.setSource hs rfl)
  · have hbegan := byPipes_beginPull hs ht hd hwants hp
    have hpulled := hbegan.trans (ih.pull (hbegan.ordered ho) hpull.during ht hpull.pull)
    have hdone := hpulled.trans (byPipes_endPull hpull.found hpull.isTransform
      (hpulled.movesTo.disturbed hd) hpull.pulling)
    rcases hnext with rfl | hagain
    · exact hdone
    · exact hdone.trans (ih.pullIfNeeded (hdone.ordered ho) hpull.ended hpull.isTransform
        (hdone.movesTo.disturbed hd) hagain)

theorem pull_succ {r : Except StreamError Unit × Session H E} (ho : s.Ordered)
    (hs : s.streams.source? id = some source) (ht : source.IsTransform)
    (h : attempt (Session.pull (fuel + 1) id) s = some r) : s.ByPipes r.2 := by
  obtain ⟨name, hback⟩ := ht
  obtain ⟨bridge, hb, -⟩ := ho.composed.readable hs hback
  have hasked := byPipes_request hb
  rcases pull_cases hs hback hb h with ⟨-, rfl⟩ | ⟨pipe, steps, t, -, hpump, rfl⟩
  · exact hasked
  · exact hasked.trans (ih.pumpPipe (hasked.ordered ho) hpump)

omit id in
theorem pumpPipe_succ {name : PipeId} {r : Nat × Session H E} (ho : s.Ordered)
    (h : EdgeStreams.drive (Session.pumpPipe (fuel + 1) name) s = some r) : s.ByPipes r.2 := by
  rcases pumpPipe_cases h with ⟨-, rfl⟩ | ⟨pipe, steps, t, hp, -, -, hsteps, rfl⟩
  · exact .refl s
  · have hdrives := ByPipes.drive true hp
    have hnames : (mapStreams (fun streams => streams.setPipe name { pipe with pumping := true })
        s).streams.NamesPipe name pipe := ⟨pipe.state, true, by simp [Registry.pipe?_setPipe, hp]⟩
    have hpumped := hdrives.trans (ih.pumpSteps (hdrives.ordered ho) hnames hsteps)
    simp only [mapStreams, parked]
    cases ht : t.streams.pipe? name with
    | none => exact hpumped
    | some pipe' => exact hpumped.trans (.drive false ht)

omit ih in
theorem byPipes_failPipe {name : PipeId} {pipe : Pipe} (ho : s.Ordered)
    (hnames : s.streams.NamesPipe name pipe) (error : StreamError) :
    s.ByPipes (failPipe name pipe error s).2 := by
  cases hfound : s.streams.containsWritable pipe.destination with
  | true =>
    rw [failPipe_snd hfound]
    exact (ByPipes.cancelSource ho hnames).trans (.finish name (by simp))
  | false =>
    rw [failPipe_snd_of_gone hfound]
    exact .finish name (by simp)

/-- A pipe closes its destination only when it is done. -/
theorem pumpSteps_succ {name : PipeId} {pipe : Pipe} {steps : Nat} {r : Nat × Session H E}
    (ho : s.Ordered) (hnames : s.streams.NamesPipe name pipe)
    (h : EdgeStreams.drive (Session.pumpSteps (fuel + 1) name pipe steps) s = some r) :
    s.ByPipes r.2 := by
  rcases pumpSteps_cases h with ⟨error, -, rfl⟩ | ⟨-, ⟨-, rfl⟩ | ⟨-, found, t, hread, hfound⟩⟩
  · exact byPipes_failPipe ho hnames error
  · exact .refl s
  have hmoved : s.ByPipes t := by
    rcases readByPipe_cases hread with hread | ⟨rfl, -⟩
    · exact ih.readUnchecked ho hread
    · exact .refl _
  have hordered := hmoved.ordered ho
  have hwrites : ∀ {data outcome u}, exec (write pipe.destination data (some pipe.writer)) t =
      (outcome, u) → s.ByPipes u := by
    intro data outcome u hwrite
    have hwritten := hmoved.trans (.write hordered.composed pipe.destination data
      (some pipe.writer))
    rwa [hwrite] at hwritten
  cases hfound with
  | starved => exact hmoved
  | failed error =>
    exact (hmoved.trans (.abortDestination hordered.composed pipe)).trans (.finish name (by simp))
  | drained => exact hmoved.trans (.closed hordered (hmoved.movesTo.names hnames))
  | refused data error u hwrite =>
    have hwritten := hwrites hwrite
    exact (hwritten.trans (.cancelSource (hwritten.ordered ho)
      (hwritten.movesTo.names hnames))).trans
      (.finish name (by simp))
  | carried data u hwrite hrest =>
    have hwritten := hwrites hwrite
    exact hwritten.trans (ih.pumpSteps (hwritten.ordered ho) (hwritten.movesTo.names hnames) hrest)

end FlowByPipes

/-- By induction on the fuel. -/
theorem flowByPipes (fuel : Nat) : FlowByPipes H E fuel := by
  induction fuel with
  | zero => exact .zero
  | succ fuel ih =>
    exact ⟨ih.readUnchecked_succ, ih.pullIfNeeded_succ, ih.pull_succ, ih.pumpPipe_succ,
      ih.pumpSteps_succ⟩

/-! ### Operations -/

section Operations

variable {fuel : Nat} (ho : s.Ordered)
include ho

theorem byPipes_read {id : ReadableId} {token : Option ReaderToken}
    {r : Except StreamError ReadOutcome × Session H E}
    (h : attempt (read fuel id token) s = some r) :
    s.ByPipes r.2 := by
  simp only [read, attempt_bind, attempt_finite, exec_onStreams, Registry.exec_checkReader,
    Option.bind_some] at h
  split at h
  · exact (flowByPipes fuel).readUnchecked ho h
  · simp only [Option.some.injEq] at h
    exact h ▸ .refl s

theorem byPipes_pumpPipe {id : PipeId} {r : Nat × Session H E}
    (h : EdgeStreams.drive (pumpPipe fuel id) s = some r) : s.ByPipes r.2 :=
  (flowByPipes fuel).pumpPipe ho h

theorem byPipes_pumpEach {pipes : List PipeId} {r : Nat × Session H E}
    (h : EdgeStreams.drive (pumpEach fuel pipes) s = some r) : s.ByPipes r.2 := by
  induction pipes generalizing s r with
  | nil =>
    simp only [drive_pumpEach_nil, Option.some.injEq] at h
    exact h ▸ .refl s
  | cons id rest ih =>
    rw [drive_pumpEach_cons] at h
    obtain ⟨first, hfirst, h⟩ := Option.bind_eq_some_iff.mp h
    obtain ⟨others, hothers, rfl⟩ := Option.map_eq_some_iff.mp h
    have hpumps := byPipes_pumpPipe ho hfirst
    exact hpumps.trans (ih (r := others) (hpumps.ordered ho) hothers)

/-- By induction on the rounds. -/
theorem byPipes_pump {r : Nat × Session H E} (h : EdgeStreams.drive (pump fuel) s = some r) :
    s.ByPipes r.2 := by
  induction fuel generalizing s r with
  | zero => cases h
  | succ fuel ih =>
    rw [drive_pump] at h
    obtain ⟨round, hround, h⟩ := Option.bind_eq_some_iff.mp h
    have hpumps := byPipes_pumpEach ho (r := round) hround
    split at h
    · simp only [Option.some.injEq] at h
      exact h ▸ hpumps
    · obtain ⟨others, hothers, rfl⟩ := Option.map_eq_some_iff.mp h
      exact hpumps.trans (ih (r := others) (hpumps.ordered ho) hothers)

end Operations

end Pipes

end Session

end EdgeStreams
