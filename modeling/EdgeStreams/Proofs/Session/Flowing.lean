import EdgeStreams.Proofs.Session.Courses
import EdgeStreams.Proofs.Session.Moves

/-!
# Runs are deeds

Reading, pulling and driving pipes call each other to any depth. Whatever they come to is one deed
after another, and at the end every source is being pulled, and every pipe is being driven, that was
so at the beginning.

## Main definitions

- `Session.FlowsTo`: deeds that leave nothing under way
- `Session.TransformPull`: a pull of a transform stream from its beginning to its end

## Main statements

- `Session.flowDeeds`: reading, pulling and driving a pipe
- `Session.flowsTo_read`, `Session.flowsTo_cancel`, `Session.flowsTo_write`,
  `Session.flowsTo_close`, `Session.flowsTo_abort`, `Session.flowsTo_pump`,
  `Session.flowsTo_abortCorrelated`: operations
-/

namespace EdgeStreams

variable {H E : Type}

namespace Session

variable {s t u : Session H E}

/-- What was done to a source, or to others while it was under way, leaves nothing under way. -/
theorem Level.around {id : ReadableId} {source during final : Source E}
    (hs : s.streams.source? id = some source) (h : Level (setSource id during s) t)
    (hf : final.pulling = source.pulling) : s.Level (setSource id final t) where
  source other := by
    have hrel := h.source other
    rw [streams_setSource, Registry.source?_setSource] at hrel ⊢
    by_cases he : other = id
    · subst he
      rw [if_pos rfl, hs, Option.map_some] at hrel
      obtain ⟨last, ht, -⟩ := SlotMap.rel_some_left hrel
      rw [if_pos rfl, hs, ht]
      exact .some hf
    · rwa [if_neg he] at hrel ⊢
  pipe := h.pipe

variable [Host H]

/-- Deeds that leave nothing under way. -/
structure FlowsTo (s t : Session H E) : Prop where
  course : ∃ made, Course s made t
  level : s.Level t

namespace FlowsTo

theorem refl (s : Session H E) : s.FlowsTo s := ⟨⟨_, .refl⟩, .refl s⟩

theorem trans (h : s.FlowsTo t) (h' : t.FlowsTo u) : s.FlowsTo u := by
  obtain ⟨⟨made, hcourse⟩, hlevel⟩ := h
  obtain ⟨⟨more, hcourse'⟩, hlevel'⟩ := h'
  exact ⟨⟨_, hcourse.trans hcourse'⟩, hlevel.trans hlevel'⟩

theorem deed {made : List (WritableId × Bytes)} (h : Deed s made t)
    (hl : s.Level t) : s.FlowsTo t :=
  ⟨⟨_, .step .refl h⟩, hl⟩

theorem composed (h : s.FlowsTo t) (hc : s.streams.Composed) : t.streams.Composed := by
  obtain ⟨⟨made, hcourse⟩, -⟩ := h
  exact hcourse.composed hc

/-- Deeds make no source and take none out. By induction on the deeds. -/
theorem source?_eq_none_iff (h : s.FlowsTo t) (hc : s.streams.Composed) {id : ReadableId} :
    t.streams.source? id = none ↔ s.streams.source? id = none := by
  obtain ⟨⟨made, hcourse⟩, -⟩ := h
  induction hcourse with
  | refl => exact .rfl
  | step hbefore hdeed ih =>
    exact (hdeed.advancesTo (hbefore.composed hc)).source?_eq_none_iff.trans ih

/-- Deeds make no sink and take none out. By induction on the deeds. -/
theorem sink?_eq_none_iff (h : s.FlowsTo t) (hc : s.streams.Composed) {id : WritableId} :
    t.streams.sink? id = none ↔ s.streams.sink? id = none := by
  obtain ⟨⟨made, hcourse⟩, -⟩ := h
  induction hcourse with
  | refl => exact .rfl
  | step hbefore hdeed ih =>
    exact (hdeed.advancesTo (hbefore.composed hc)).sink?_eq_none_iff.trans ih

theorem isTransform (h : s.FlowsTo t) (hc : s.streams.Composed) {id : ReadableId}
    {source : Source E} (hs : s.streams.source? id = some source) (ht : source.IsTransform) :
    ∃ source', t.streams.source? id = some source' ∧ source'.IsTransform := by
  obtain ⟨⟨made, hcourse⟩, -⟩ := h
  exact hcourse.isTransform hc hs ht

end FlowsTo

/-! ### Deeds that operations are made of -/

variable (hc : s.streams.Composed)
include hc

theorem flowsTo_cancelUnchecked (id : ReadableId) (reason : Option String) :
    s.FlowsTo (exec (cancelUnchecked id reason) s).2 :=
  .deed (.cancel id reason) (level_cancelUnchecked hc id reason)

theorem flowsTo_cancel (id : ReadableId) (reason : Option String) (token : Option ReaderToken) :
    s.FlowsTo (exec (cancel id reason token) s).2 := by
  simp only [cancel, exec_bind, exec_onStreams, Registry.exec_checkReader]
  split
  · exact flowsTo_cancelUnchecked hc id reason
  · exact .refl s

theorem flowsTo_write (id : WritableId) (chunk : Bytes) (token : Option WriterToken) :
    s.FlowsTo (exec (write id chunk token) s).2 := by
  by_cases htakes : s.streams.Takes id token
  · exact .deed (.write chunk htakes) (level_write hc chunk)
  · exact .deed (.refuse chunk htakes) (level_write hc chunk)

theorem flowsTo_close (id : WritableId) (token : Option WriterToken) :
    s.FlowsTo (exec (close id token) s).2 := by
  simp only [close, exec_bind, exec_onStreams, Registry.exec_checkWriter]
  split
  · exact .deed (.close id) (level_closeUnchecked hc id)
  · exact .refl s

theorem flowsTo_abortUnchecked (id : WritableId) (reason : Option String) :
    s.FlowsTo (exec (abortUnchecked id reason) s).2 :=
  .deed (.abort id reason) (level_abortUnchecked hc id reason)

theorem flowsTo_abort (id : WritableId) (reason : Option String) (token : Option WriterToken) :
    s.FlowsTo (exec (abort id reason token) s).2 := by
  simp only [abort, exec_bind, exec_onStreams, Registry.exec_checkWriter]
  split
  · exact flowsTo_abortUnchecked hc id reason
  · exact .refl s

omit hc in
theorem flowsTo_pipeFinished (id : PipeId) (state : PipeState) :
    s.FlowsTo (pipeFinished id state s) :=
  .deed (.finish id state) (.pipeFinished id state s)

/-! ### What a pipe does to its ends -/

theorem flowsTo_cancelSource (pipe : Pipe) : s.FlowsTo (cancelSource pipe s).2 := by
  cases h : pipe.options.preventCancel with
  | false =>
    rw [cancelSource_snd h]
    exact flowsTo_cancel hc _ _ _
  | true =>
    rw [cancelSource_of_prevented h]
    exact .refl s

theorem flowsTo_abortDestination (pipe : Pipe) : s.FlowsTo (abortDestination pipe s).2 := by
  cases h : pipe.options.preventAbort with
  | false =>
    rw [abortDestination_snd h]
    exact flowsTo_abort hc _ _ _
  | true =>
    rw [abortDestination_of_prevented h]
    exact .refl s

theorem flowsTo_closeDestination (pipe : Pipe) : s.FlowsTo (closeDestination pipe s).2 := by
  cases h : pipe.options.preventClose with
  | false =>
    rw [closeDestination_eq h]
    exact flowsTo_close hc _ _
  | true =>
    rw [closeDestination_of_prevented h]
    exact .refl s

theorem flowsTo_failPipe (id : PipeId) (pipe : Pipe) (error : StreamError) :
    s.FlowsTo (failPipe id pipe error s).2 := by
  cases h : s.streams.containsWritable pipe.destination with
  | true =>
    rw [failPipe_snd h]
    exact (flowsTo_cancelSource hc pipe).trans (flowsTo_pipeFinished id _)
  | false =>
    rw [failPipe_snd_of_gone h]
    exact flowsTo_pipeFinished id _

omit hc

theorem flowsTo_disturb {id : ReadableId} {source : Source E}
    (hs : s.streams.source? id = some source) (ht : source.IsTransform) :
    s.FlowsTo (disturb id source s) :=
  .deed (.disturb hs ht)
  (.revised hs ((Revised.refl hs).setSource { source with disturbed := true })
    rfl)

theorem flowsTo_takeReady {id : ReadableId} {source : Source E}
    (hs : s.streams.source? id = some source) (ht : source.IsTransform) :
    s.FlowsTo (exec (takeReady id) s).2 :=
  .deed (.take hs ht) (.revised hs ((Revised.refl hs).takeReady hs) rfl)

/-- A pull of a transform stream, from its beginning to its end. -/
theorem flowsTo_pulled {id : ReadableId} {source : Source E} {waits : Bool}
    (hc : s.streams.Composed) (hs : s.streams.source? id = some source) (ht : source.IsTransform)
    (hwants : source.wantsPull waits = true) (hp : source.pulling = false)
    (hflows : FlowsTo (note (.pullBegan id) (setSource id { source with pulling := true } s)) t) :
    ∃ source', t.streams.source? id = some source' ∧ source'.IsTransform ∧ source'.pulling = true ∧
      s.FlowsTo (setSource id { source' with pulling := false, pullAgain := false }
        (note (.pullEnded id (.ok ())) t)) := by
  have hbegins : Deed s [] _ := .beginPull hs ht hwants hp
  have hduring : (note (.pullBegan id)
      (setSource id { source with pulling := true } s)).streams.source?
      id = some { source with pulling := true } := by simp [Registry.source?_setSource, hs]
  obtain ⟨source', hs', ht'⟩ :=
    hflows.isTransform (hc.advancesTo (hbegins.advancesTo hc)) hduring ht
  have hpulling : source'.pulling = true := by
    obtain ⟨last, hlast, he⟩ := SlotMap.rel_some_left (hduring ▸ hflows.level.source id)
    cases hs'.symm.trans hlast
    exact he
  obtain ⟨⟨made, hcourse⟩, hlevel⟩ := hflows
  refine ⟨source', hs', ht', hpulling,
    ⟨_, ((Course.step .refl hbegins).trans hcourse).step (.endPull hs' ht' hpulling)⟩, ?_⟩
  have hnoted : Level (setSource id { source with pulling := true } s)
      (note (.pullEnded id (.ok ())) t) := ⟨hlevel.source, hlevel.pipe⟩
  exact hnoted.around hs hp.symm

/-- A pull of a transform stream that has come to its end: deeds and nothing else, between those
that it begins and ends with. -/
structure TransformPull [Host H] (fuel : Nat) (id : ReadableId) (source : Source E)
    (s t : Session H E) (last : Source E) : Prop where
  during : (note (.pullBegan id) (setSource id { source with pulling := true } s)).streams.source?
    id = some { source with pulling := true }
  pull : attempt (Session.pull fuel id)
    (note (.pullBegan id) (setSource id { source with pulling := true } s)) = some (.ok (), t)
  flowsTo : FlowsTo (note (.pullBegan id) (setSource id { source with pulling := true } s)) t
  found : t.streams.source? id = some last
  isTransform : last.IsTransform
  pulling : last.pulling = true
  ended : (setSource id { last with pulling := false, pullAgain := false }
    (note (.pullEnded id (.ok ())) t)).streams.source? id =
      some { last with pulling := false, pullAgain := false }
  whole : s.FlowsTo (setSource id { last with pulling := false, pullAgain := false }
    (note (.pullEnded id (.ok ())) t))

/-! ### The functions that call each other -/

/-- With some fuel, whatever there is an outcome of is deeds. -/
structure FlowDeeds (H E : Type) [Host H] (fuel : Nat) : Prop where
  readUnchecked {s : Session H E} {id : ReadableId}
    {r : Except StreamError ReadOutcome × Session H E} : s.streams.Composed →
    attempt (Session.readUnchecked fuel id) s = some r → s.FlowsTo r.2
  /-- A pull of a host body or a guest is part of the deed of reading it. -/
  pullIfNeeded {s : Session H E} {id : ReadableId} {source : Source E} {readerWaits : Bool}
    {r : Unit × Session H E} : s.streams.Composed → s.streams.source? id = some source →
      source.IsTransform →
        EdgeStreams.drive (Session.pullIfNeeded fuel id readerWaits) s = some r → s.FlowsTo r.2
  pull {s : Session H E} {id : ReadableId} {source : Source E}
    {r : Except StreamError Unit × Session H E} : s.streams.Composed →
      s.streams.source? id = some source → source.IsTransform →
        attempt (Session.pull fuel id) s = some r → r.1 = .ok () ∧ s.FlowsTo r.2
  pumpPipe {s : Session H E} {id : PipeId} {r : Nat × Session H E} : s.streams.Composed →
    EdgeStreams.drive (Session.pumpPipe fuel id) s = some r → s.FlowsTo r.2
  pumpSteps {s : Session H E} {id : PipeId} {pipe : Pipe} {steps : Nat} {r : Nat × Session H E} :
    s.streams.Composed → EdgeStreams.drive (Session.pumpSteps fuel id pipe steps) s = some r →
      s.FlowsTo r.2

namespace FlowDeeds

theorem zero : FlowDeeds H E 0 where
  readUnchecked _ h := by cases h
  pullIfNeeded _ _ _ h := by cases h
  pull _ _ _ h := by cases h
  pumpPipe _ h := by cases h
  pumpSteps _ h := by cases h

variable {fuel : Nat} (ih : FlowDeeds H E fuel)

/-- Reading a host body or a guest is one deed. -/
theorem readUnchecked_native {id : ReadableId} {source : Source E}
    {r : Except StreamError ReadOutcome × Session H E} (hc : s.streams.Composed)
    (hs : s.streams.source? id = some source) (hn : ¬ source.IsTransform)
    (h : attempt (Session.readUnchecked fuel id) s = some r) : s.FlowsTo r.2 := by
  have hp := hc.native hs hn
  have ha := hc.notAsked hs hp
  refine .deed (.read hs hn h) ?_
  rcases revised_readUnchecked hs hn hp ha h with ⟨source', hproc, hrev⟩ |
    ⟨outcome, source', host, env, hproc, hrev, -⟩
  · cases hproc with
    | stays _ _ hpulling _ => exact .revised hs hrev hpulling
  · cases hproc with
    | pulls _ _ _ _ _ hpulling _ _ => exact .revised hs hrev (hpulling.trans hp.symm)

include ih

theorem readUnchecked_succ {id : ReadableId} {r : Except StreamError ReadOutcome × Session H E}
    (hc : s.streams.Composed) (h : attempt (Session.readUnchecked (fuel + 1) id) s = some r) :
    s.FlowsTo r.2 := by
  by_cases hnative : ∀ source, s.streams.source? id = some source → ¬ source.IsTransform
  · cases hs : s.streams.source? id with
    | none => exact readUnchecked_of_gone hs h ▸ .refl s
    | some source => exact readUnchecked_native hc hs (hnative source hs) h
  · simp only [not_forall, not_not] at hnative
    obtain ⟨source, hs, ht⟩ := hnative
    have hmarks := flowsTo_disturb hs ht
    have htake : ∀ t, s.FlowsTo t → s.FlowsTo (exec (takeReady id) t).2 := fun t hflows => by
      obtain ⟨last, hlast, htransform⟩ := hflows.isTransform hc hs ht
      exact hflows.trans (flowsTo_takeReady hlast htransform)
    refine (readUnchecked_keeps s.FlowsTo hs h hmarks htake fun waits t _ hpull => ?_).elim
      (fun heq => heq ▸ .refl s) fun hread => hread
    have htaken := htake _ hmarks
    obtain ⟨last, hlast, htransform⟩ := htaken.isTransform hc hs ht
    exact htaken.trans (ih.pullIfNeeded (htaken.composed hc) hlast htransform hpull)

/-- A transform stream is pulled if that is of use, and the pull does not fail. One that was wanted
meanwhile comes next. -/
theorem pullIfNeeded_cases {id : ReadableId} {source : Source E} {readerWaits : Bool}
    {r : Unit × Session H E} (hc : s.streams.Composed) (hs : s.streams.source? id = some source)
    (ht : source.IsTransform)
    (h : EdgeStreams.drive (Session.pullIfNeeded (fuel + 1) id readerWaits) s = some r) :
    source.wantsPull readerWaits = false ∧ r = ((), s) ∨
    source.wantsPull readerWaits = true ∧
      (source.pulling = true ∧ r = ((), setSource id { source with pullAgain := true } s) ∨
        source.pulling = false ∧ ∃ t last, TransformPull fuel id source s t last ∧
          (r = ((), setSource id { last with pulling := false, pullAgain := false }
            (note (.pullEnded id (.ok ())) t)) ∨
          EdgeStreams.drive (Session.pullIfNeeded fuel id false)
            (setSource id { last with pulling := false, pullAgain := false }
              (note (.pullEnded id (.ok ())) t)) = some r)) := by
  rcases Session.pullIfNeeded_cases hs h with
    hidle | ⟨hwants, ⟨hp, hasked⟩ | ⟨hp, result, t, hpull, hover⟩⟩
  · exact .inl hidle
  · exact .inr ⟨hwants, .inl ⟨hp, hasked⟩⟩
  have hbegins : Deed s [] _ := .beginPull hs ht hwants hp
  have hduring : (note (.pullBegan id)
      (setSource id { source with pulling := true } s)).streams.source?
      id = some { source with pulling := true } := by simp [Registry.source?_setSource, hs]
  obtain ⟨rfl, hflows⟩ := ih.pull (hc.advancesTo (hbegins.advancesTo hc)) hduring ht hpull
  obtain ⟨last, hlast, htransform, hpulling, hwhole⟩ := flowsTo_pulled hc hs ht hwants hp hflows
  have hpulled : TransformPull fuel id source s t last :=
    ⟨hduring, hpull, hflows, hlast, htransform,
      hpulling, by simp [Registry.source?_setSource, hlast], hwhole⟩
  refine .inr ⟨hwants, .inr ⟨hp, t, last, hpulled, ?_⟩⟩
  cases hover with
  | gone _ hgone => cases hlast.symm.trans hgone
  | settled found hfound =>
    cases hlast.symm.trans hfound
    exact .inl rfl
  | again found hfound _ hrest =>
    cases hlast.symm.trans hfound
    exact .inr hrest

theorem pullIfNeeded_succ {id : ReadableId} {source : Source E} {readerWaits : Bool}
    {r : Unit × Session H E} (hc : s.streams.Composed) (hs : s.streams.source? id = some source)
    (ht : source.IsTransform)
    (h : EdgeStreams.drive (Session.pullIfNeeded (fuel + 1) id readerWaits) s = some r) :
    s.FlowsTo r.2 := by
  rcases ih.pullIfNeeded_cases hc hs ht h with
    ⟨-, rfl⟩ | ⟨-, ⟨hp, rfl⟩ | ⟨-, t, last, hpulled, rfl | hagain⟩⟩
  · exact .refl s
  · exact .deed (.ask hs ht hp) (.revised hs ((Revised.refl hs).setSource _) rfl)
  · exact hpulled.whole
  · exact hpulled.whole.trans
      (ih.pullIfNeeded (hpulled.whole.composed hc) hpulled.ended hpulled.isTransform hagain)

omit ih in
theorem flowsTo_request {id : BridgeId} {bridge : Bridge E}
    (hb : s.streams.bridge? id = some bridge) :
    s.FlowsTo (setBridge id { bridge with pullRequested := true } s) :=
  .deed (.request hb) ⟨(Level.refl s).source, (Level.refl s).pipe⟩

/-- The halves of a transform stream have their bridge, so a pull does not fail. -/
theorem pull_succ {id : ReadableId} {source : Source E} {r : Except StreamError Unit × Session H E}
    (hc : s.streams.Composed) (hs : s.streams.source? id = some source) (ht : source.IsTransform)
    (h : attempt (Session.pull (fuel + 1) id) s = some r) : r.1 = .ok () ∧ s.FlowsTo r.2 := by
  obtain ⟨name, hback⟩ := ht
  obtain ⟨bridge, hb, -⟩ := hc.readable hs hback
  have hasked := flowsTo_request hb
  rcases pull_cases hs hback hb h with ⟨-, rfl⟩ | ⟨pipe, steps, t, -, hpump, rfl⟩
  · exact ⟨rfl, hasked⟩
  · exact ⟨rfl, hasked.trans (ih.pumpPipe (hasked.composed hc) hpump)⟩

theorem pumpPipe_succ {id : PipeId} {r : Nat × Session H E} (hc : s.streams.Composed)
    (h : EdgeStreams.drive (Session.pumpPipe (fuel + 1) id) s = some r) : s.FlowsTo r.2 := by
  rcases pumpPipe_cases h with ⟨-, rfl⟩ | ⟨pipe, steps, t, hp, -, hparked, hsteps, rfl⟩
  · exact .refl s
  · have hdrives : Deed s [] _ := .drive true hp
    obtain ⟨⟨made, hcourse⟩, hlevel⟩ :=
      ih.pumpSteps (hc.advancesTo (hdrives.advancesTo hc)) hsteps
    have hpumped := (Course.step .refl hdrives).trans hcourse
    have hfound := hlevel.pipe id
    simp only [streams_mapStreams, Registry.pipe?_setPipe, if_pos, hp, Option.map_some] at hfound
    obtain ⟨pipe', hp', -⟩ := SlotMap.rel_some_left hfound
    simp only [mapStreams, parked, hp']
    refine ⟨⟨_, hpumped.step (.drive false hp')⟩, hlevel.source, fun other => ?_⟩
    have hrel := hlevel.pipe other
    simp only [streams_mapStreams, Registry.pipe?_setPipe] at hrel ⊢
    by_cases he : other = id
    · subst he
      rw [if_pos rfl, hp, hp']
      exact .some hparked.symm
    · rwa [if_neg he] at hrel ⊢

theorem pumpSteps_succ {id : PipeId} {pipe : Pipe} {steps : Nat} {r : Nat × Session H E}
    (hc : s.streams.Composed)
    (h : EdgeStreams.drive (Session.pumpSteps (fuel + 1) id pipe steps) s = some r) :
    s.FlowsTo r.2 := by
  rcases pumpSteps_cases h with ⟨error, -, rfl⟩ | ⟨-, ⟨-, rfl⟩ | ⟨-, found, t, hread, hfound⟩⟩
  · exact flowsTo_failPipe hc id pipe error
  · exact .refl s
  have hmoved : s.FlowsTo t := by
    rcases readByPipe_cases hread with hread | ⟨rfl, -⟩
    · exact ih.readUnchecked hc hread
    · exact .refl _
  have hcomposed := hmoved.composed hc
  have hwrites : ∀ {data outcome u}, exec (write pipe.destination data (some pipe.writer)) t =
      (outcome, u) → s.FlowsTo u := by
    intro data outcome u hwrite
    have hflows := flowsTo_write hcomposed pipe.destination data (some pipe.writer)
    rw [hwrite] at hflows
    exact hmoved.trans hflows
  cases hfound with
  | starved => exact hmoved
  | failed error =>
    exact (hmoved.trans (flowsTo_abortDestination hcomposed pipe)).trans (flowsTo_pipeFinished id _)
  | drained =>
    exact (hmoved.trans (flowsTo_closeDestination hcomposed pipe)).trans (flowsTo_pipeFinished id _)
  | refused data error u hwrite =>
    have hwritten := hwrites hwrite
    exact (hwritten.trans (flowsTo_cancelSource (hwritten.composed hc) pipe)).trans
      (flowsTo_pipeFinished id _)
  | carried data u hwrite hrest =>
    have hwritten := hwrites hwrite
    exact hwritten.trans (ih.pumpSteps (hwritten.composed hc) hrest)

end FlowDeeds

/-- By induction on the fuel. -/
theorem flowDeeds (fuel : Nat) : FlowDeeds H E fuel := by
  induction fuel with
  | zero => exact .zero
  | succ fuel ih =>
    exact ⟨ih.readUnchecked_succ, ih.pullIfNeeded_succ, ih.pull_succ, ih.pumpPipe_succ,
      ih.pumpSteps_succ⟩

/-! ### Operations -/

variable {fuel : Nat} (hc : s.streams.Composed)
include hc

theorem flowsTo_read {id : ReadableId} {token : Option ReaderToken}
    {r : Except StreamError ReadOutcome × Session H E}
    (h : attempt (read fuel id token) s = some r) : s.FlowsTo r.2 := by
  simp only [read, attempt_bind, attempt_finite, exec_onStreams, Registry.exec_checkReader,
    Option.bind_some] at h
  split at h
  · exact (flowDeeds fuel).readUnchecked hc h
  · simp only [Option.some.injEq] at h
    exact h ▸ .refl s

theorem flowsTo_pumpPipe {id : PipeId} {r : Nat × Session H E}
    (h : drive (pumpPipe fuel id) s = some r) : s.FlowsTo r.2 := (flowDeeds fuel).pumpPipe hc h

theorem flowsTo_pumpEach {pipes : List PipeId} {r : Nat × Session H E}
    (h : drive (pumpEach fuel pipes) s = some r) : s.FlowsTo r.2 := by
  induction pipes generalizing s r with
  | nil =>
    simp only [drive_pumpEach_nil, Option.some.injEq] at h
    exact h ▸ .refl s
  | cons id rest ih =>
    rw [drive_pumpEach_cons] at h
    obtain ⟨first, hfirst, h⟩ := Option.bind_eq_some_iff.mp h
    obtain ⟨others, hothers, rfl⟩ := Option.map_eq_some_iff.mp h
    have hpumped := flowsTo_pumpPipe hc hfirst
    exact hpumped.trans (ih (r := others) (hpumped.composed hc) hothers)

/-- By induction on the rounds. -/
theorem flowsTo_pump {r : Nat × Session H E} (h : drive (pump fuel) s = some r) :
    s.FlowsTo r.2 := by
  induction fuel generalizing s r with
  | zero => cases h
  | succ fuel ih =>
    rw [drive_pump] at h
    obtain ⟨round, hround, h⟩ := Option.bind_eq_some_iff.mp h
    have hpumped := flowsTo_pumpEach hc (r := round) hround
    split at h
    · simp only [Option.some.injEq] at h
      exact h ▸ hpumped
    · obtain ⟨others, hothers, rfl⟩ := Option.map_eq_some_iff.mp h
      exact hpumped.trans (ih (r := others) (hpumped.composed hc) hothers)

theorem flowsTo_abortCorrelated (source : ReadableId) (reason : Option String) :
    s.FlowsTo (exec (abortCorrelated source reason) s).2 := by
  simp only [abortCorrelated, exec_bind, exec_get]
  cases s.streams.pipeFrom? source with
  | some found =>
    obtain ⟨id, pipe⟩ := found
    simp only [exec_bind, exec_caught, exec_modify]
    have haborted := flowsTo_abort hc pipe.destination reason (some pipe.writer)
    exact (haborted.trans (flowsTo_cancel (haborted.composed hc)
      source reason (some pipe.reader))).trans
      (flowsTo_pipeFinished id _)
  | none =>
    -- an unlocked stream is cancelled once what it is piped to has been aborted
    have hcancel : ∀ {t : Session H E}, t.streams.Composed → t.FlowsTo (exec (do
        if (← get).streams.isLocked source then pure ()
        else cancelUnchecked source reason : Action H E StreamError Unit) t).2 := by
      intro t ht
      simp only [exec_bind, exec_get]
      split
      · exact .refl t
      · exact flowsTo_cancelUnchecked ht source reason
    dsimp only
    rw [exec_bind, exec_get]
    dsimp only
    cases s.streams.pipedTo? source with
    | none => exact hcancel hc
    | some destination =>
      have haborted := flowsTo_abortUnchecked hc destination reason
      dsimp only
      rw [exec_bind]
      generalize exec (abortUnchecked destination reason) s = aborted at haborted
      obtain ⟨outcome, t⟩ := aborted
      cases outcome with
      | error error => exact haborted
      | ok => exact haborted.trans (hcancel (haborted.composed hc))

end Session

end EdgeStreams
