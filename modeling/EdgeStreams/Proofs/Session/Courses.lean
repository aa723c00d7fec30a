import EdgeStreams.Proofs.Session.Revising

/-!
# What every deed does

## Main definitions

- `Session.Level`: which sources are being pulled and which pipes are being driven is as it was

## Main statements

- `Session.cancelUnchecked_cases`, `Session.closeUnchecked_cases`, `Session.abortUnchecked_cases`:
  what each operation comes to
- `Session.Deed.advancesTo`: every deed does no more to a stream than deeds do
- `Session.Course.composed`: what holds between two deeds holds after any number of them
-/

namespace EdgeStreams

variable {H E : Type}

namespace Session

variable {s t u : Session H E}

/-- Which sources are being pulled, and which pipes are being driven, is as it was. -/
structure Level (s t : Session H E) : Prop where
  source : ∀ id, Option.Rel (fun source source' => source'.pulling = source.pulling)
    (s.streams.source? id) (t.streams.source? id)
  pipe : ∀ id, Option.Rel (fun pipe pipe' => pipe'.pumping = pipe.pumping)
    (s.streams.pipe? id) (t.streams.pipe? id)

namespace Level

theorem refl (s : Session H E) : s.Level s where
  source id := by cases s.streams.source? id <;> constructor; rfl
  pipe id := by cases s.streams.pipe? id <;> constructor; rfl

theorem trans (h : s.Level t) (h' : t.Level u) : s.Level u where
  source id := SlotMap.rel_trans (fun hab hbc => hbc.trans hab) (h.source id) (h'.source id)
  pipe id := SlotMap.rel_trans (fun hab hbc => hbc.trans hab) (h.pipe id) (h'.pipe id)

theorem workedInto {calls : List StreamEvent} (h : WorkedInto calls s t) : s.Level t where
  source id := SlotMap.rel_imp (fun _ _ hr => hr.flags.2.1) (h.source id)
  pipe id := by
    rw [Registry.pipe?_congr h.pipes]
    exact (refl s).pipe id

theorem revised {id : ReadableId} {source source' : Source E} {calls : List StreamEvent}
    {host : H} {env : E} (hs : s.streams.source? id = some source)
    (h : Revised id source' calls host env s t)
    (hp : source'.pulling = source.pulling) : s.Level t := by
  obtain ⟨new, -, rfl⟩ := h
  refine ⟨fun other => ?_, (refl s).pipe⟩
  rw [streams_setSource, Registry.source?_setSource]
  split
  · next he =>
    subst he
    change Option.Rel _ (s.streams.source? other)
      (Option.map (fun _ => source') (s.streams.source? other))
    rw [hs]
    exact .some hp
  · exact (refl s).source other

theorem pipeFinished (id : PipeId) (state : PipeState) (s : Session H E) :
    s.Level (pipeFinished id state s) := by
  by_cases hrun : ∃ pipe, s.streams.pipe? id = some pipe ∧ pipe.isRunning
  · obtain ⟨pipe, hp, hr⟩ := hrun
    refine ⟨fun other => ?_, fun other => ?_⟩
    · rw [Session.pipeFinished, streams_mapStreams, Registry.source?_finishPipe state hp hr]
      split
      · next he =>
        refine he ▸ SlotMap.rel_map (fun source => ?_) _
        unfold Registry.unlockReader
        split <;> rfl
      · exact (refl s).source other
    · rw [Session.pipeFinished, streams_mapStreams, Registry.pipe?_finishPipe state hp hr]
      split
      · next he =>
        rw [he, hp]
        exact .some rfl
      · exact (refl s).pipe other
  · rw [Session.pipeFinished, mapStreams, Registry.finishPipe_of_not_running]
    · exact refl s
    · exact fun pipe hp hr => hrun ⟨pipe, hp, hr⟩

end Level

section Operations

variable [Host H]

/-- Nothing is asked of any stream. -/
theorem AdvancesTo.of_quiet (hcalls : t.calls = s.calls) (hhost : t.host = s.host)
    (hsource : ∀ id, Option.Rel (fun source source' => source.ProceedsTo [] source')
      (s.streams.source? id) (t.streams.source? id))
    (hsink : ∀ id, Option.Rel Sink.Stays (s.streams.sink? id) (t.streams.sink? id))
    (hbridge : ∀ id, Option.Rel Bridge.Keeps (s.streams.bridge? id) (t.streams.bridge? id)) :
    s.AdvancesTo [] t where
  source {id source} hs := by
    obtain ⟨source', ht, hp⟩ := SlotMap.rel_some_left (hs ▸ hsource id)
    exact ⟨source', [], ht, by rw [demands_eq, demands_eq, hcalls, List.nil_append], hp, .nothing⟩
  noSource {id} hs :=
    ⟨SlotMap.rel_none_left (hs ▸ hsource id), by rw [demands_eq, demands_eq, hcalls]⟩
  sink {id sink} hs := by
    obtain ⟨sink', ht, hp⟩ := SlotMap.rel_some_left (hs ▸ hsink id)
    exact ⟨sink', [], ht, by rw [sinkCalls_eq, sinkCalls_eq, hcalls, List.nil_append], .stays hp,
      rfl, nofun⟩
  noSink {id} hs :=
    ⟨SlotMap.rel_none_left (hs ▸ hsink id), by rw [sinkCalls_eq, sinkCalls_eq, hcalls]⟩
  bridge := hbridge
  host := .inl hhost

/-- The end of a pipe gives back both its locks. -/
theorem advancesTo_pipeFinished (id : PipeId) (state : PipeState) (s : Session H E) :
    s.AdvancesTo [] (pipeFinished id state s) := by
  by_cases hrun : ∃ pipe, s.streams.pipe? id = some pipe ∧ pipe.isRunning
  · obtain ⟨pipe, hp, hr⟩ := hrun
    refine .of_quiet rfl rfl (fun other => ?_) (fun other => ?_) fun other => ?_
    · rw [pipeFinished, streams_mapStreams, Registry.source?_finishPipe state hp hr]
      split
      · next he =>
        refine he ▸ SlotMap.rel_map (fun source => ?_) _
        unfold Registry.unlockReader
        split <;> exact .stays ⟨rfl, rfl, .refl _⟩ rfl rfl .inl
      · exact SlotMap.rel_refl (fun source => .stays (.refl source) rfl rfl .inl) _
    · rw [pipeFinished, streams_mapStreams, Registry.sink?_finishPipe state hp hr]
      split
      · next he =>
        refine he ▸ SlotMap.rel_map (fun sink => ?_) _
        unfold Registry.unlockWriter
        split
        · exact ⟨rfl, fun h => ⟨h.1, h.2, h.3, h.4, h.5⟩, .inl rfl⟩
        · exact .refl sink
      · exact SlotMap.rel_refl Sink.Stays.refl _
    · rw [pipeFinished, streams_mapStreams, Registry.bridge?_finishPipe]
      exact SlotMap.rel_refl Bridge.Keeps.refl _
  · have hsame : pipeFinished id state s = s := by
      rw [pipeFinished, mapStreams, Registry.finishPipe_of_not_running]
      exact fun pipe hp hr => hrun ⟨pipe, hp, hr⟩
    rw [hsame]
    exact .refl s

/-- What is done for a source that is cancelled. -/
theorem performs_cancelAlgorithm (hc : s.streams.Composed) {id : ReadableId}
    {source during : Source E} (hs : s.streams.source? id = some source)
    (hd : during.backing = source.backing) (reason : Option String) :
    source.Performs s (exec (cancelAlgorithm id reason) (setSource id during s)).2 during
      [.cancel (exec (cancelAlgorithm id reason) (setSource id during s)).1] := by
  have hfound : (setSource id during s).streams.source? id = some during := by
    simp [Registry.source?_setSource, hs]
  simp only [cancelAlgorithm, exec_bind, exec_source, hfound, Registry.need_some, hd]
  cases hback : source.backing with
  | body handle size => exact .abandon hback rfl rfl
  | script guest => exact .cancel hback rfl rfl
  | transform name =>
    obtain ⟨bridge, hb, -⟩ := hc.readable hs hback
    have hb' : (setSource id during s).streams.bridge? name = some bridge := hb
    simp only [exec_bind, exec_bridge, hb', Registry.need_some, exec_modify]
    exact .relay ⟨name, hback⟩ rfl rfl

/-- A source is cancelled if it has neither ended nor failed nor been cancelled; otherwise it is
only marked as disturbed. -/
theorem cancelUnchecked_cases (hc : s.streams.Composed) (id : ReadableId) (reason : Option String) :
    s.streams.source? id = none ∧ (exec (cancelUnchecked id reason) s).2 = s ∨
      ∃ source, s.streams.source? id = some source ∧
        ((source.controller.state = .readable → source.canceled = true) ∧
            (exec (cancelUnchecked id reason) s).2 =
              setSource id { source with disturbed := true } s ∨
          source.controller.state = .readable ∧ source.canceled = false ∧
            ∃ outcome, WorkedInto [.canceled id outcome] (setSource id (canceledSource source) s)
                (exec (cancelUnchecked id reason) s).2 ∧
              source.Performs s (exec (cancelUnchecked id reason) s).2 (canceledSource source)
                [.cancel outcome]) := by
  simp only [cancelUnchecked, exec_bind, exec_source]
  cases hs : s.streams.source? id with
  | none => exact .inl ⟨rfl, rfl⟩
  | some source =>
    refine .inr ⟨source, rfl, ?_⟩
    dsimp only [Registry.need_some]
    cases hstate : source.controller.state with
    | closed => exact .inl ⟨(by cases ·), rfl⟩
    | errored error => exact .inl ⟨(by cases ·), rfl⟩
    | readable =>
      cases hcanceled : source.canceled with
      | true => exact .inl ⟨fun _ => rfl, rfl⟩
      | false =>
        have hsilent := asksNothing_cancelAlgorithm id reason
            (s := setSource id (canceledSource source) s)
          fun other sink hother => (hc.idle hother).unending
        have hback : (canceledSource source).backing = source.backing := rfl
        have hperforms := performs_cancelAlgorithm hc hs hback reason
        exact .inr ⟨rfl, rfl, _, hsilent.note rfl, hperforms.congr rfl (fun hq => hq)
          rfl rfl (.refl _)⟩

/-- A sink is ended if it takes writes; otherwise nothing happens. -/
theorem closeUnchecked_cases (hc : s.streams.Composed) (id : WritableId) :
    (exec (closeUnchecked id) s).2 = s ∨
      ∃ sink outcome sink', s.streams.sink? id = some sink ∧ sink.controller.state = .writable ∧
        WorkedInto [.closed id outcome] s (exec (closeUnchecked id) s).2 ∧
          sink.Performs s (exec (closeUnchecked id) s).2 (.close outcome) ∧
          (exec (closeUnchecked id) s).2.streams.sink? id = some sink' ∧
            sink'.controller.state.isTerminal = true := by
  cases hs : s.streams.sink? id with
  | none => exact .inl (by simp [closeUnchecked, exec_bind, hs])
  | some sink =>
    cases hterminal : sink.controller.state.isTerminal with
    | true =>
      obtain ⟨result, hclose, -⟩ := exec_closeUnchecked_of_terminal hs hterminal
      exact .inl (by rw [hclose])
    | false =>
      have hw := (hc.idle hs).writable hterminal
      obtain ⟨outcome, hr, hperforms, -, sink', ht, hended, -⟩ := workedInto_closeUnchecked hc hs hw
      exact .inr ⟨sink, outcome, sink', rfl, hw, hr, hperforms, ht, hended⟩

/-- A sink is aborted if it takes writes; otherwise nothing happens. -/
theorem abortUnchecked_cases (hc : s.streams.Composed) (id : WritableId) (reason : Option String) :
    (exec (abortUnchecked id reason) s).2 = s ∨
      ∃ sink outcome sink', s.streams.sink? id = some sink ∧ sink.controller.state = .writable ∧
        WorkedInto [.aborted id outcome] s (exec (abortUnchecked id reason) s).2 ∧
          sink.Performs s (exec (abortUnchecked id reason) s).2 (.abort outcome) ∧
          (exec (abortUnchecked id reason) s).2.streams.sink? id = some sink' ∧
            sink'.controller.state.isTerminal = true := by
  cases hs : s.streams.sink? id with
  | none => exact .inl (by simp [abortUnchecked, exec_bind, hs])
  | some sink =>
    cases hterminal : sink.controller.state.isTerminal with
    | true => exact .inl (by rw [exec_abortUnchecked_of_terminal hs hterminal])
    | false =>
      have hw := (hc.idle hs).writable hterminal
      obtain ⟨outcome, hr, hperforms, -, sink', ht, hended⟩ :=
        workedInto_abortUnchecked hc hs hw reason
      exact .inr ⟨sink, outcome, sink', rfl, hw, hr, hperforms, ht, hended⟩

/-- A write that does not pass the lock, or finds the stream ended or failed, changes nothing. -/
theorem exec_write_of_refused {token : Option WriterToken} {id : WritableId} (chunk : Bytes)
    (h : ¬ s.streams.Takes id token) :
    ∃ error, exec (Session.write id chunk token) s = (.error error, s) := by
  cases hs : s.streams.sink? id with
  | none => exact ⟨.released, by simp [Session.write, exec_bind, hs, Except.bind]⟩
  | some sink =>
    by_cases hl : sink.writerLock = token
    · subst hl
      rw [exec_write_of_lock hs]
      by_cases hw : sink.controller.state = .writable
      · cases hstart : sink.start with
        | rejected error => exact ⟨error, by simp [writeUnchecked, exec_bind, hs, hw, hstart]⟩
        | pending | resolved => exact absurd ⟨sink, hs, rfl, hw, by simp [hstart]⟩ h
      · exact exec_writeUnchecked_of_not_writable hs hw
    · cases hadmits : Registry.admits sink.writerLock token with
      | ok => exact absurd (Registry.admits_eq_ok_iff.mp hadmits) hl
      | error error => exact ⟨error, by simp [Session.write, exec_bind, hs, Except.bind, hadmits]⟩

/-! ### Deeds -/

theorem advancesTo_cancelUnchecked (hc : s.streams.Composed) (id : ReadableId)
    (reason : Option String) : s.AdvancesTo [] (exec (cancelUnchecked id reason) s).2 := by
  rcases cancelUnchecked_cases hc id reason with
    ⟨-, heq⟩ | ⟨source, hs, ⟨-, heq⟩ | ⟨hstate, hidle, outcome, hr, hperforms⟩⟩
  · rw [heq]
    exact .refl s
  · rw [heq]
    exact ((Revised.refl hs).setSource _).advancesTo hs (.refl _) (fun _ => rfl) (fun _ _ => rfl)
      (.stays ⟨rfl, rfl, .refl _⟩ rfl rfl .inl) .nothing fun _ => rfl
  · have hdemand : ([StreamEvent.canceled id outcome] ++ []).filterMap (StreamEvent.demand? id) =
        [.cancel outcome] := by simp [StreamEvent.demand?]
    refine ((Revised.refl hs).setSource _).advancesTo hs hr (fun _ => rfl)
      (fun r hne => ?_) ?_ ?_ ?_
    · simp [StreamEvent.demand?, Ne.symm hne]
    · rw [hdemand]
      exact .cancels _ hstate hidle ⟨rfl, rfl, .cancel _⟩ rfl rfl rfl
    · rwa [hdemand]
    · rw [hdemand]
      nofun

theorem level_cancelUnchecked (hc : s.streams.Composed) (id : ReadableId)
    (reason : Option String) : s.Level (exec (cancelUnchecked id reason) s).2 := by
  rcases cancelUnchecked_cases hc id reason with
    ⟨-, heq⟩ | ⟨source, hs, ⟨-, heq⟩ | ⟨-, -, outcome, hr, -⟩⟩
  · rw [heq]
    exact .refl s
  · rw [heq]
    exact .revised hs ((Revised.refl hs).setSource _) rfl
  · exact (Level.revised hs ((Revised.refl hs).setSource (canceledSource source)) rfl).trans
      (.workedInto hr)

theorem advancesTo_write {token : Option WriterToken} {id : WritableId} (hc : s.streams.Composed)
    (chunk : Bytes) (h : s.streams.Takes id token) :
    s.AdvancesTo [(id, chunk)] (exec (Session.write id chunk token) s).2 := by
  obtain ⟨sink, hs, rfl, hw, -⟩ := h
  rw [exec_write_of_lock hs]
  obtain ⟨outcome, hr, hperforms, -, hfailed⟩ := workedInto_writeUnchecked hc hs hw chunk
  exact hr.advancesTo_call (fun _ => rfl) (fun _ => rfl) hs
    (fun sink' ht hrip => .writes chunk outcome hw hrip.stays (hfailed sink' ht)) hperforms

theorem level_write {token : Option WriterToken} {id : WritableId} (hc : s.streams.Composed)
    (chunk : Bytes) : s.Level (exec (Session.write id chunk token) s).2 := by
  by_cases htakes : s.streams.Takes id token
  · obtain ⟨sink, hs, rfl, hw, -⟩ := htakes
    rw [exec_write_of_lock hs]
    obtain ⟨outcome, hr, -⟩ := workedInto_writeUnchecked hc hs hw chunk
    exact .workedInto hr
  · obtain ⟨error, hwrite⟩ := exec_write_of_refused chunk htakes
    rw [hwrite]
    exact .refl s

theorem advancesTo_closeUnchecked (hc : s.streams.Composed) (id : WritableId) :
    s.AdvancesTo [] (exec (closeUnchecked id) s).2 := by
  rcases closeUnchecked_cases hc id with heq |
    ⟨sink, outcome, sink', hs, hw, hr, hperforms, ht, hended⟩
  · rw [heq]
    exact .refl s
  · refine hr.advancesTo_call (fun _ => rfl) (fun _ => rfl) hs
      (fun last hlast hrip => .closes outcome hw hrip.stays ?_) hperforms
    rw [ht] at hlast
    cases hlast
    exact hended

theorem level_closeUnchecked (hc : s.streams.Composed) (id : WritableId) :
    s.Level (exec (closeUnchecked id) s).2 := by
  rcases closeUnchecked_cases hc id with heq | ⟨sink, outcome, sink', hs, hw, hr, -⟩
  · rw [heq]
    exact .refl s
  · exact .workedInto hr

theorem advancesTo_abortUnchecked (hc : s.streams.Composed) (id : WritableId)
    (reason : Option String) : s.AdvancesTo [] (exec (abortUnchecked id reason) s).2 := by
  rcases abortUnchecked_cases hc id reason with heq |
    ⟨sink, outcome, sink', hs, hw, hr, hperforms, ht, hended⟩
  · rw [heq]
    exact .refl s
  · refine hr.advancesTo_call (fun _ => rfl) (fun _ => rfl) hs
      (fun last hlast hrip => .aborts outcome hw hrip.stays ?_) hperforms
    rw [ht] at hlast
    cases hlast
    exact hended

theorem level_abortUnchecked (hc : s.streams.Composed) (id : WritableId)
    (reason : Option String) : s.Level (exec (abortUnchecked id reason) s).2 := by
  rcases abortUnchecked_cases hc id reason with heq | ⟨sink, outcome, sink', hs, hw, hr, -⟩
  · rw [heq]
    exact .refl s
  · exact .workedInto hr

/-- Every deed does no more to any stream than deeds do. -/
theorem Deed.advancesTo {made : List (WritableId × Bytes)} (hc : s.streams.Composed)
    (h : Deed s made t) : s.AdvancesTo made t := by
  cases h with
  | @read fuel id source r hs hn hr =>
    have hp := hc.native hs hn
    have ha := hc.notAsked hs hp
    rcases revised_readUnchecked hs hn hp ha hr with ⟨source', hproc, hrev⟩ |
      ⟨outcome, source', host, env, hproc, hrev, hperforms⟩
    · exact hrev.advancesTo hs (.refl _) (fun _ => rfl) (fun _ _ => rfl) hproc .nothing
        fun _ => hrev.host_eq.1
    · have hdemands : ([] ++ [StreamEvent.pullEnded id outcome, .pullBegan id]).filterMap
          (StreamEvent.demand? id) = [.pulled outcome, .pull] := by simp [StreamEvent.demand?]
      refine hrev.advancesTo hs (.refl _) (fun _ => rfl) (fun r hne => ?_) ?_ ?_ ?_
      · simp [StreamEvent.demand?, Ne.symm hne]
      · rwa [hdemands]
      · rwa [hdemands]
      · rw [hdemands]
        nofun
  -- the parts of a read of a transform stream: none of them asks the host for anything
  | disturb hs ht =>
    exact ((Revised.refl hs).setSource _).advancesTo hs (.refl _) (fun _ => rfl) (fun _ _ => rfl)
      (.stays ⟨rfl, rfl, .refl _⟩ rfl rfl .inl) .nothing fun _ => rfl
  | take hs ht =>
    exact ((Revised.refl hs).takeReady hs).advancesTo hs (.refl _) (fun _ => rfl) (fun _ _ => rfl)
      (.stays ⟨rfl, rfl, .takeReady _⟩ rfl rfl .inl) .nothing
      fun _ => ((Revised.refl hs).takeReady hs).host_eq.1
  | ask hs ht hp =>
    exact ((Revised.refl hs).setSource _).advancesTo hs (.refl _) (fun _ => rfl) (fun _ _ => rfl)
      (.stays ⟨rfl, rfl, .refl _⟩ rfl rfl fun _ => .inr hp) .nothing fun _ => rfl
  | @beginPull id source waits hs ht hw hp =>
    have hbegan : (StreamEvent.pullBegan id).isCall = true := rfl
    refine (((Revised.refl hs).setSource _).call hbegan).advancesTo hs (.refl _)
      (fun _ => rfl) (fun r hne => ?_) ?_ (.relay ht rfl rfl) fun _ => rfl
    · simp [StreamEvent.demand?, Ne.symm hne]
    · simp only [List.nil_append, List.filterMap_cons, StreamEvent.demand?, if_pos,
        List.filterMap_nil]
      exact .begins ht (Source.pullable_of_wantsPull hw) hp ⟨rfl, rfl, .refl _⟩ rfl rfl
  | @endPull id source hs ht hp =>
    have hended : (StreamEvent.pullEnded id (.ok ())).isCall = true := rfl
    refine (((Revised.refl hs).call hended).setSource _).advancesTo hs
      (.refl _) (fun _ => rfl) (fun r hne => ?_) ?_ (.relay ht rfl rfl) fun _ => rfl
    · simp [StreamEvent.demand?, Ne.symm hne]
    · simp only [List.nil_append, List.filterMap_cons, StreamEvent.demand?, if_pos,
        List.filterMap_nil]
      exact .ends hp ⟨rfl, rfl, .refl _⟩ rfl rfl rfl
  | request hb =>
    have hkeeps : ∀ bridge : Bridge E, bridge.Keeps { bridge with pullRequested := true } :=
      fun _ => ⟨rfl, rfl, rfl, fun h => h⟩
    exact ((WorkedInto.refl s).setBridge hb (hkeeps _)).advancesTo_nil rfl
  | cancel id reason => exact advancesTo_cancelUnchecked hc id reason
  | write chunk htakes => exact advancesTo_write hc chunk htakes
  | refuse chunk hrefused =>
    obtain ⟨error, hwrite⟩ := exec_write_of_refused chunk hrefused
    rw [hwrite]
    exact .refl s
  | close id => exact advancesTo_closeUnchecked hc id
  | abort id reason => exact advancesTo_abortUnchecked hc id reason
  | drive pumping hp =>
    exact .of_quiet rfl rfl (fun _ =>
      SlotMap.rel_refl (fun source => .stays (.refl source) rfl rfl .inl) _)
      (fun _ => SlotMap.rel_refl Sink.Stays.refl _) fun _ => SlotMap.rel_refl Bridge.Keeps.refl _
  | finish id state => exact advancesTo_pipeFinished id state s

/-! ### Courses -/

namespace Course

variable {made more : List (WritableId × Bytes)}

theorem trans (h : Course s made t) (h' : Course t more u) : Course s (more ++ made) u := by
  induction h' with
  | refl => exact h
  | step _ hdeed ih =>
    rw [List.append_assoc]
    exact ih.step hdeed

/-- By induction on the deeds. -/
theorem composed (h : Course s made t) (hc : s.streams.Composed) : t.streams.Composed := by
  induction h with
  | refl => exact hc
  | step _ hdeed ih => exact ih.advancesTo (hdeed.advancesTo ih)

/-- Deeds take out no source, and what has ended stays as it was. By induction on the deeds. -/
theorem stays (h : Course s made t) (hc : s.streams.Composed) {id : ReadableId}
    {source : Source E} (hs : s.streams.source? id = some source) :
    ∃ source', t.streams.source? id = some source' ∧ source.Stays source' := by
  induction h with
  | refl => exact ⟨source, hs, .refl source⟩
  | step hbefore hdeed ih =>
    have hcomposed := hbefore.composed hc
    obtain ⟨between, hbetween, hstays⟩ := ih
    obtain ⟨last, demands, hlast, -, hp, -⟩ := (hdeed.advancesTo hcomposed).source hbetween
    exact ⟨last, hlast, hstays.trans (hcomposed.source_proceedsTo hbetween hp).1⟩

theorem isTransform (h : Course s made t) (hc : s.streams.Composed) {id : ReadableId}
    {source : Source E} (hs : s.streams.source? id = some source) (ht : source.IsTransform) :
    ∃ source', t.streams.source? id = some source' ∧ source'.IsTransform := by
  obtain ⟨source', hs', hstays⟩ := h.stays hc hs
  exact ⟨source', hs', hstays.isTransform_iff.mpr ht⟩

/-- Deeds make no source. -/
theorem stayed (h : Course s made t) (hc : s.streams.Composed) {id : ReadableId}
    {source' : Source E} (hs' : t.streams.source? id = some source') :
    ∃ source, s.streams.source? id = some source ∧ source.Stays source' := by
  induction h generalizing source' with
  | refl => exact ⟨source', hs', .refl source'⟩
  | step hbefore hdeed ih =>
    have hcomposed := hbefore.composed hc
    obtain ⟨between, demands, hbetween, hp⟩ := (hdeed.advancesTo hcomposed).source_before hs'
    obtain ⟨source, hs, hstays⟩ := ih hbetween
    exact ⟨source, hs, hstays.trans (hcomposed.source_proceedsTo hbetween hp).1⟩

/-- Deeds make no bridge and take none out. By induction on the deeds. -/
theorem bridge (h : Course s made t) (hc : s.streams.Composed) (id : BridgeId) :
    Option.Rel Bridge.Keeps (s.streams.bridge? id) (t.streams.bridge? id) := by
  induction h with
  | refl => exact SlotMap.rel_refl Bridge.Keeps.refl _
  | step hbefore hdeed ih =>
    exact SlotMap.rel_trans (fun h h' => h.trans h') ih
      ((hdeed.advancesTo (hbefore.composed hc)).bridge id)

end Course

end Operations

end Session

end EdgeStreams
