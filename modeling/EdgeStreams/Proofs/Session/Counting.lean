import EdgeStreams.Proofs.Queue.Counting
import EdgeStreams.Proofs.Session.Amounting

/-!
# Counting in the course of operations

Whatever is done to streams keeps the controllers of all of them consistent. Most of it lets nothing
new come to wait for any sink: that goes for what a sink does that has been called, and so nothing
waits any more when the last call on it, which ends the stream, has returned.

## Main definitions

- `WritableController.Subsides`: nothing more waits than before
- `Session.AtWork`: what sources and sinks at work may do
- `Session.NoneWaits`: nothing waits for a sink

## Main statements

- `Session.AtWork.consistent`, `Session.AtWork.noneWaits`: what such work keeps
- `Session.consistent_advanceRounds`: handing a sink what waits for it
- `Session.Deed.consistent`, `Session.OperationStep.consistent`: any deed and any operation
-/

namespace EdgeStreams

variable {H E : Type}

/-- Changes besides deeds leave every controller alone that was there before. -/
theorem Registry.Consistent.turnover {streams streams' : Registry E} (h : streams.Consistent)
    (hturnover : streams.Turnover streams') (hnone : streams.MakesNone streams') :
    streams'.Consistent where
  source {id found} hf := by
    have hshift := hturnover.source id
    rw [hf] at hshift
    generalize hold : streams.source? id = old at hshift
    cases hshift with
    | kept hsame =>
      rw [hsame.controller]
      exact h.source hold
    | made hnew => cases hf.symm.trans (hnone.source hold)
  sink {id found} hf := by
    have hshift := hturnover.sink id
    rw [hf] at hshift
    generalize hold : streams.sink? id = old at hshift
    cases hshift with
    | kept hsame =>
      rw [hsame.controller]
      exact h.sink hold
    | made hidle => cases hf.symm.trans (hnone.sink hold)

/-! ### Sources and sinks at work -/

/-- Nothing more waits than before: the sink begins or ends its work, an abort comes, or the stream
fails. -/
inductive WritableController.Subsides (controller : WritableController) : WritableController → Prop
  | flag (inFlight abortRequested : Bool) :
    Subsides controller { controller with inFlight, abortRequested }
  | fail {controller' : WritableController} (error : StreamError) :
      Subsides controller controller' → Subsides controller (controller'.error error)

namespace WritableController.Subsides

variable {controller controller' : WritableController}

theorem refl (controller : WritableController) : controller.Subsides controller := .flag _ _

theorem consistent (h : controller.Subsides controller') (hc : controller.Consistent) :
    controller'.Consistent := by
  induction h with
  | flag inFlight abortRequested => exact hc.flagged inFlight abortRequested
  | fail error _ ih => exact ih.error error

theorem pending (h : controller.Subsides controller') (hnone : controller.pending = []) :
    controller'.pending = [] := by
  induction h with
  | flag => exact hnone
  | fail error _ ih => exact pending_error_of_pending ih error

end WritableController.Subsides

namespace Session

variable {s t : Session H E}

/-- The controllers of all streams are consistent. -/
abbrev Consistent (s : Session H E) : Prop := s.streams.Consistent

/-- The controllers of all streams are consistent, and nothing waits for a sink. -/
structure NoneWaits (s : Session H E) (id : WritableId) : Prop where
  consistent : s.Consistent
  empty : ∀ sink, s.streams.sink? id = some sink → sink.controller.pending = []

/-- What sources and sinks at work may do, without anything new coming to wait for a sink. -/
inductive AtWork (s : Session H E) : Session H E → Prop
  | refl : AtWork s s
  /-- The host or a guest does what it does, and it is entered in the journal. -/
  | aside {t u : Session H E} : AtWork s t → u.streams = t.streams → AtWork s u
  | bridge {t : Session H E} (id : BridgeId) (bridge : Bridge E) : AtWork s t →
    AtWork s (setBridge id bridge t)
  /-- A source or a transformer feeds or ends a stream, or a chunk is taken out. -/
  | source {t : Session H E} {id : ReadableId} {source source' : Source E} : AtWork s t →
    t.streams.source? id = some source → source'.backing = source.backing →
      source.controller.Becomes source'.controller → AtWork s (setSource id source' t)
  /-- A sink comes to the end of its work, or the writable half of a transform stream fails. -/
  | sink {t : Session H E} {id : WritableId} {sink sink' : Sink E} : AtWork s t →
    t.streams.sink? id = some sink → sink.controller.Subsides sink'.controller →
      AtWork s (setSink id sink' t)

namespace AtWork

/-- By induction on what is done. -/
theorem consistent (h : s.AtWork t) (hs : s.Consistent) : t.Consistent := by
  induction h with
  | refl => exact hs
  | aside _ hsame ih => rwa [Consistent, hsame]
  | bridge _ _ _ ih => exact ⟨ih.source, ih.sink⟩
  | source _ hfound _ hbecomes ih => exact ih.setSource _ (hbecomes.consistent (ih.source hfound))
  | sink _ hfound hsubsides ih => exact ih.setSink _ (hsubsides.consistent (ih.sink hfound))

/-- Nothing comes to wait for a sink that nothing waits for. By induction on what is done. -/
theorem noneWaits (h : s.AtWork t) {id : WritableId} (hs : s.NoneWaits id) : t.NoneWaits id := by
  refine ⟨h.consistent hs.consistent, ?_⟩
  induction h with
  | refl => exact hs.empty
  | aside _ hsame ih => rwa [hsame]
  | bridge _ _ _ ih => exact ih
  | source _ _ _ _ ih => exact ih
  | @sink u other old new _ hfound hsubsides ih =>
    intro sink hsink
    rw [streams_setSink, Registry.sink?_setSink] at hsink
    split at hsink
    · next he =>
      rw [hfound] at hsink
      cases hsink
      exact hsubsides.pending (ih old (he ▸ hfound))
    · exact ih sink hsink

theorem trans {u : Session H E} (h : s.AtWork t) (h' : t.AtWork u) : s.AtWork u := by
  induction h' with
  | refl => exact h
  | aside _ hsame ih => exact ih.aside hsame
  | bridge id bridge _ ih => exact ih.bridge id bridge
  | source _ hfound hback hbecomes ih => exact ih.source hfound hback hbecomes
  | sink _ hfound hsubsides ih => exact ih.sink hfound hsubsides

/-- What a stream's chunks come from stays the same. By induction on what is done. -/
theorem native (h : s.AtWork t) {id : ReadableId}
    (hs : ∀ source, s.streams.source? id = some source → ¬ source.IsTransform) :
    ∀ source, t.streams.source? id = some source → ¬ source.IsTransform := by
  induction h with
  | refl => exact hs
  | aside _ hsame ih => rwa [hsame]
  | bridge _ _ _ ih => exact ih
  | @source u other old new _ hfound hback _ ih =>
    intro source hsource
    rw [streams_setSource, Registry.source?_setSource] at hsource
    split at hsource
    · next he =>
      rw [hfound] at hsource
      cases hsource
      rintro ⟨name, htransform⟩
      exact ih old (he ▸ hfound) ⟨name, hback.symm.trans htransform⟩
    · exact ih source hsource
  | sink _ _ _ ih =>
    intro source hsource
    rw [streams_setSink, Registry.source?_setSink] at hsource
    exact ih source hsource

/-- The controller of a source changes. -/
theorem controller (h : s.AtWork t) {id : ReadableId} {source : Source E}
    (hs : t.streams.source? id = some source) {controller : ReadableController}
    (hbecomes : source.controller.Becomes controller) :
    s.AtWork (setSource id { source with controller } t) := h.source hs rfl hbecomes

theorem modifySource (h : s.AtWork t) (id : ReadableId) {change : Source E → Source E}
    (hback : ∀ source : Source E, (change source).backing = source.backing)
    (hchange : ∀ source : Source E, source.controller.Becomes (change source).controller) :
    s.AtWork (mapStreams (fun streams => streams.modifySource id change) t) := by
  simp only [mapStreams, Registry.modifySource]
  split
  · next source hs => exact h.source hs (hback source) (hchange source)
  · exact h

theorem modifySink (h : s.AtWork t) (id : WritableId) {change : Sink E → Sink E}
    (hchange : ∀ sink : Sink E, sink.controller.Subsides (change sink).controller) :
    s.AtWork (mapStreams (fun streams => streams.modifySink id change) t) := by
  simp only [mapStreams, Registry.modifySink]
  split
  · next sink hs => exact h.sink hs (hchange sink)
  · exact h

end AtWork

/-- What the host is asked for a stream changes nothing in the registry. -/
theorem atWork_streamCall {α : Type} (operation : HostOperation) (call : HostCall H α) :
    Preserves (AtWork s) (streamCall operation call : Action H E StreamError α) := by
  intro t h
  rw [exec_streamCall]
  exact h.aside rfl

theorem atWork_onGuest (work : E → GuestResult E) :
    Preserves (AtWork s) (onGuest work : Action H E StreamError Unit) := by
  intro t h
  exact h.aside rfl

theorem atWork_noting (event : Except StreamError Unit → StreamEvent)
    {action : Action H E StreamError Unit} (h : Preserves (AtWork s) action) :
    Preserves (AtWork s) (noting event action) :=
  .noting h fun _ _ hs => hs.aside rfl

/-- The transformer works on the readable half; the bridge and the writable half may fail. -/
theorem atWork_transformed (h : s.AtWork t) {id : BridgeId} {bridge : Bridge E} {source : Source E}
    {worked : GuestResult E × TransformDesk} (hs : t.streams.source? bridge.readable = some source)
    (hw : source.controller.Becomes worked.2.controller) :
    s.AtWork (transformed bridge worked t id source) := by
  have hleft : source.controller.Becomes (leftBy worked) := by
    unfold leftBy
    split
    · exact hw.trans (.one _ (.error _))
    · exact hw
  have hfed : s.AtWork (fed bridge worked t source) := by
    have haside : s.AtWork (noteEnqueued bridge.readable worked.2.accepted
      { t with env := worked.1.2 }) := h.aside rfl
    exact haside.controller hs hleft
  have hmarked : s.AtWork (marked bridge worked (fed bridge worked t source) id) := by
    unfold marked
    split
    · exact hfed.bridge _ _
    · exact hfed
  unfold transformed spread
  split
  · refine hmarked.modifySink _ fun sink => ?_
    split
    · exact .fail _ (.refl _)
    · exact .refl _
  · exact hmarked

theorem atWork_withTransformer (id : BridgeId) {work : TransformWork E} (hwork : work.Changes) :
    Preserves (AtWork s) (withTransformer id work) := by
  intro t h
  rw [exec_withTransformer]
  cases t.streams.bridge? id with
  | none => exact h
  | some bridge =>
    dsimp only
    cases hs : t.streams.source? bridge.readable with
    | none => exact h
    | some source =>
      have hworked := hwork bridge.transformer t.env { controller := source.controller }
      cases hstate : source.controller.state with
      | errored error => simpa only [hstate] using h
      | readable | closed =>
        simp only [hstate]
        exact atWork_transformed h hs hworked

section Writers

variable [Host H] (id : WritableId)

theorem atWork_writeAlgorithm (chunk : Bytes) : Preserves (AtWork s) (writeAlgorithm id chunk) := by
  refine .sink fun t sink h _ => ?_
  cases sink.backing with
  | body handle => exact atWork_streamCall _ _ t h
  | script guest => exact atWork_onGuest _ t h
  | transform name =>
    refine Preserves.bridge (fun u bridge h _ => ?_) t h
    exact atWork_withTransformer name (TransformWork.changes_transform chunk) _ (h.bridge name _)

theorem atWork_closeAlgorithm : Preserves (AtWork s) (closeAlgorithm id) := by
  refine .sink fun t sink h _ => ?_
  cases sink.backing with
  | body handle => exact atWork_streamCall _ _ t h
  | script guest => exact atWork_onGuest _ t h
  | transform name => exact atWork_withTransformer name TransformWork.changes_flush t h

theorem atWork_abortAlgorithm (reason : Option String) :
    Preserves (AtWork s) (abortAlgorithm id reason) := by
  refine .sink fun t sink h _ => ?_
  cases sink.backing with
  | body handle => exact atWork_streamCall _ _ t h
  | script guest => exact atWork_onGuest _ t h
  | transform name =>
    refine Preserves.bridge (fun u bridge h _ => ?_) t h
    exact (h.bridge name _).modifySource _ (fun _ => rfl) fun source => .one _ (.error _)

/-- The sink comes to the end of its work, or does the abort that has come meanwhile. -/
theorem atWork_settle (result : Except StreamError Unit) :
    Preserves (AtWork s) (settle id result) := by
  refine .sink fun t sink h hs => ?_
  simp only []
  split
  · have hdone : s.AtWork (setSink id { sink with controller :=
        { sink.controller with inFlight := false, abortRequested := false } } t) :=
      h.sink hs (.flag false false)
    rw [exec_bind, exec_modify]
    exact Preserves.bind (.caught (atWork_noting _ (atWork_abortAlgorithm id none)))
      (fun _ => .throw _) _ hdone
  · cases result with
    | ok => exact h.sink hs (.flag false _)
    | error error => exact h.sink hs (.fail error (.flag false _))

/-- A sink that is set to work, with what is then left to wait for it. -/
abbrev engaged (sink : Sink E) (controller : WritableController) (s : Session H E) : Session H E :=
  setSink id { sink with controller := { controller with inFlight := true } } s

theorem atWork_engage (sink : Sink E) (controller : WritableController)
    {work : Action H E StreamError Unit} (hwork : ∀ s, Preserves (AtWork s) work) :
    (engaged id sink controller s).AtWork (exec (engage id sink controller work) s).2 :=
  Preserves.bind (.caught (hwork _)) (fun result => atWork_settle id result) _ .refl

/-! ### Writing, ending and aborting -/

variable {id}

omit [Host H] in
/-- A sink is set to work. -/
theorem Consistent.engaged (h : s.Consistent) (id : WritableId) (sink : Sink E)
    {controller : WritableController} (hc : controller.Consistent) :
    (engaged id sink controller s).Consistent :=
  h.setSink id (hc.flagged true controller.abortRequested)

omit [Host H] in
/-- Nothing waits in the queue that a sink is given. -/
theorem Consistent.noneWaits (h : s.Consistent) {sink : Sink E} (hc : sink.controller.Consistent)
    (hnone : sink.controller.pending = []) : NoneWaits (setSink id sink s) id := by
  refine ⟨h.setSink id hc, fun found hfound => ?_⟩
  rw [streams_setSink, Registry.sink?_setSink, if_pos rfl] at hfound
  obtain ⟨old, -, rfl⟩ := Option.map_eq_some_iff.mp hfound
  exact hnone

/-- By induction on the rounds that are left. -/
theorem consistent_advanceRounds (rounds : Nat) :
    Preserves Consistent (advanceRounds id rounds : Action H E StreamError Unit) := by
  induction rounds with
  | zero => exact .pure ()
  | succ rounds ih =>
    refine .sink fun s sink h hs => ?_
    split
    · exact h
    · split
      · exact h
      · exact h
      · split
        · next chunk controller hpop =>
          have hengaged : (Session.engaged id sink controller s).Consistent :=
            h.engaged id sink ((h.sink hs).pop hpop)
          -- the sink may fail its own stream, so the other rounds find what it has left
          exact Preserves.after (fun _ => ih) ((atWork_engage id sink controller fun _ =>
            atWork_noting _ (atWork_writeAlgorithm id chunk)).consistent hengaged)
        · next hpop =>
          split
          · -- nothing waits any more, and nothing comes to wait while the sink is told
            have hnone := WritableController.pending_of_pop hpop
            have hengaged : NoneWaits (Session.engaged id sink sink.controller s) id :=
              h.noneWaits ((h.sink hs).flagged true _) hnone
            have hwork := (atWork_engage id sink sink.controller fun _ =>
              atWork_noting (.closed id) (atWork_closeAlgorithm id)).noneWaits hengaged
            refine (Preserves.after (P := fun t => NoneWaits t id)
              (fun _ => .sink fun t last ht hlast => ?_) hwork).consistent
            split
            · have hempty := ht.empty last hlast
              exact ht.consistent.noneWaits ⟨(ht.consistent.sink hlast).counted,
                fun _ => hempty⟩ hempty
            · exact ht
          · exact h

theorem consistent_advance : Preserves Consistent (advance id : Action H E StreamError Unit) := by
  refine .sink fun s sink h _ => ?_
  exact consistent_advanceRounds (sink.controller.pending.length + 1) s h

theorem consistent_writeUnchecked (chunk : Bytes) :
    Preserves Consistent (writeUnchecked id chunk : Action H E StreamError Unit) := by
  refine .sink fun s sink h hs => ?_
  cases hstate : sink.controller.state with
  | closing | closed | errored => exact h
  | writable =>
    have hopen : sink.controller.state.isTerminal = false := by rw [hstate]; rfl
    have hpushed : (setSink id { sink with controller := sink.controller.push chunk }
        s).Consistent :=
      h.setSink id ((h.sink hs).push hopen chunk)
    dsimp only
    split
    · exact h
    · simp only [exec_bind, exec_modify]
      exact consistent_advance _ hpushed

theorem consistent_closeUnchecked :
    Preserves Consistent (closeUnchecked id : Action H E StreamError Unit) := by
  refine .sink fun s sink h hs => ?_
  split
  · exact h
  · exact h
  · exact h
  · exact h
  · have hclosing : WritableController.Consistent { sink.controller with state := .closing } :=
      ⟨(h.sink hs).counted, fun hterminal => by cases hterminal⟩
    simp only [exec_bind, exec_modify]
    exact consistent_advance _ (h.setSink id hclosing)

theorem consistent_abortUnchecked (reason : Option String) :
    Preserves Consistent (abortUnchecked id reason : Action H E StreamError Unit) := by
  refine .sink fun s sink h hs => ?_
  have hfailed := (h.sink hs).error .aborted
  split
  · exact h
  · dsimp only
    split
    · exact h.setSink id (hfailed.flagged _ true)
    · simp only [exec_bind, exec_modify]
      exact (atWork_noting _ (atWork_abortAlgorithm id reason) _ .refl).consistent
        (h.setSink id hfailed)

theorem consistent_write (chunk : Bytes) (token : Option WriterToken) :
    Preserves Consistent (write id chunk token : Action H E StreamError Unit) :=
  .bind (.checkWriter id token) fun _ => consistent_writeUnchecked chunk

end Writers

/-! ### Reading, pulling and cancelling -/

section Readers

variable {id : ReadableId}

theorem atWork_takeReady (id : ReadableId) :
    Preserves (AtWork s) (takeReady id : Action H E StreamError (Option ReadOutcome)) := by
  intro t h
  cases hs : t.streams.source? id with
  | none => simpa [takeReady, exec_bind, hs] using h
  | some source =>
    have htaken := h.controller hs (.takeReady source.controller)
    rw [exec_takeReady hs]
    unfold noteDelivered
    split
    · exact htaken.aside rfl
    · exact htaken

variable [Host H]

theorem atWork_pullBody (handle : BodyHandle) (chunkSize : UInt64) :
    Preserves (AtWork s) (pullBody id handle chunkSize : Action H E StreamError Unit) := by
  refine .bind (atWork_streamCall _ _) fun chunk => .source fun t source h hs => ?_
  split
  · exact h.source hs rfl (.one _ .close)
  · have hfed := h.controller hs (.one source.controller (.enqueue chunk))
    exact hfed.aside rfl

omit [Host H] in
theorem atWork_pullScript (guest : UnderlyingSource E) :
    Preserves (AtWork s) (pullScript id guest : Action H E StreamError Unit) := by
  refine .source fun t source h hs => ?_
  have hrun := ReadableController.Becomes.run (guest.pull t.env) { controller := source.controller }
  simp only [exec_bind, exec_get]
  generalize (guest.pull t.env).run SourceDesk.perform { controller := source.controller } = worked
    at hrun ⊢
  obtain ⟨⟨result, env⟩, desk⟩ := worked
  have hworked : s.AtWork { t with env } := h.aside rfl
  have hfed := hworked.controller hs hrun
  exact hfed.aside rfl

theorem atWork_cancelAlgorithm (reason : Option String) :
    Preserves (AtWork s) (cancelAlgorithm id reason : Action H E StreamError Unit) := by
  refine .source fun t source h _ => ?_
  cases source.backing with
  | body handle size => exact atWork_streamCall _ _ t h
  | script guest => exact atWork_onGuest _ t h
  | transform name =>
    refine Preserves.bridge (fun u bridge h _ => ?_) t h
    exact (h.bridge name _).modifySink bridge.writable fun sink => .fail .canceled (.refl _)

theorem atWork_cancelUnchecked (reason : Option String) :
    Preserves (AtWork s) (cancelUnchecked id reason : Action H E StreamError Unit) := by
  refine .source fun t source h hs => ?_
  have hdisturbed : s.AtWork (setSource id { source with disturbed := true } t) :=
    h.source hs rfl (.refl _)
  dsimp only
  split
  · exact hdisturbed
  · exact hdisturbed
  · split
    · exact hdisturbed
    · simp only [exec_bind, exec_modify]
      refine atWork_noting _ (atWork_cancelAlgorithm reason) _ ?_
      exact h.source hs rfl (.one _ .cancel)

/-- A stream over a host body or a guest is pulled. -/
theorem atWork_pull {fuel : Nat} {r : Except StreamError Unit × Session H E}
    (hn : ∀ source, s.streams.source? id = some source → ¬ source.IsTransform)
    (h : attempt (pull fuel id) s = some r) : s.AtWork r.2 := by
  cases fuel with
  | zero => cases h
  | succ fuel =>
    rw [attempt_pull] at h
    cases hs : s.streams.source? id with
    | none =>
      rw [hs] at h
      cases h
      exact .refl
    | some source =>
      simp only [hs] at h
      cases hb : source.backing with
      | body handle size =>
        simp only [hb, Option.some.injEq] at h
        exact h ▸ atWork_pullBody handle size s .refl
      | script guest =>
        simp only [hb, Option.some.injEq] at h
        exact h ▸ atWork_pullScript guest s .refl
      | transform name => exact absurd ⟨name, hb⟩ (hn source hs)

/-- A pull that is wanted meanwhile comes after it. By induction on the fuel. -/
theorem atWork_pullIfNeeded {fuel : Nat} {waits : Bool} {r : Unit × Session H E}
    (hn : ∀ source, s.streams.source? id = some source → ¬ source.IsTransform)
    (h : drive (pullIfNeeded fuel id waits) s = some r) : s.AtWork r.2 := by
  induction fuel generalizing s waits with
  | zero => cases h
  | succ fuel ih =>
    cases hs : s.streams.source? id with
    | none => exact pullIfNeeded_of_gone hs h ▸ .refl
    | some source =>
      rcases pullIfNeeded_cases hs h with ⟨-, rfl⟩ | ⟨-, ⟨-, rfl⟩ | ⟨-, result, t, hpull, hafter⟩⟩
      · exact .refl
      · exact AtWork.refl.source hs rfl (.refl _)
      have hmarked : s.AtWork (setSource id { source with pulling := true } s) :=
        AtWork.refl.source hs rfl (.refl _)
      have hbegun : s.AtWork
          (note (.pullBegan id) (setSource id { source with pulling := true } s)) :=
        hmarked.aside rfl
      have hpulled := hbegun.trans (atWork_pull (hbegun.native hn) hpull)
      have hnoted : s.AtWork (note (.pullEnded id result) t) := hpulled.aside rfl
      cases hafter with
      | gone => exact hnoted
      | failed error last ht => exact hnoted.source ht rfl (.one _ (.error error))
      | settled last ht => exact hnoted.source ht rfl (.refl _)
      | again last ht _ hrest =>
        have hagain : s.AtWork (setSource id { last with pulling := false, pullAgain := false }
            (note (.pullEnded id (.ok ())) t)) := hnoted.source ht rfl (.refl _)
        exact hagain.trans (ih (hagain.native hn) hrest)

/-- A stream over a host body or a guest is read. -/
theorem atWork_readUnchecked {fuel : Nat} {r : Except StreamError ReadOutcome × Session H E}
    (hn : ∀ source, s.streams.source? id = some source → ¬ source.IsTransform)
    (h : attempt (readUnchecked fuel id) s = some r) : s.AtWork r.2 := by
  cases fuel with
  | zero => cases h
  | succ fuel =>
    cases hs : s.streams.source? id with
    | none => exact readUnchecked_of_gone hs h ▸ .refl
    | some source =>
      have hmarked : s.AtWork (disturb id source s) := AtWork.refl.source hs rfl (.refl _)
      have htaken := atWork_takeReady id _ hmarked
      rcases readUnchecked_keeps s.AtWork hs h hmarked (atWork_takeReady id) fun waits t _ hpull =>
        htaken.trans (atWork_pullIfNeeded (htaken.native hn) hpull) with heq | hread
      · exact heq ▸ .refl
      · exact hread

end Readers

/-! ### Deeds and operations -/

section Deeds

variable [Host H]

/-- Every deed keeps the controllers of all streams consistent. -/
theorem Deed.consistent {made : List (WritableId × Bytes)} (h : Deed s made t) (hc : s.Consistent) :
    t.Consistent := by
  cases h with
  | read hs hn h =>
    refine (atWork_readUnchecked (fun source hs' => ?_) h).consistent hc
    cases hs.symm.trans hs'
    exact hn
  | disturb hs _ => exact hc.setSame hs rfl
  | take _ _ => exact (atWork_takeReady _ s .refl).consistent hc
  | ask hs _ _ => exact hc.setSame hs rfl
  | beginPull hs _ _ _ => exact hc.setSame hs rfl
  | endPull hs _ _ => exact hc.setSame hs rfl
  | request _ => exact ⟨hc.source, hc.sink⟩
  | cancel id reason => exact (atWork_cancelUnchecked reason s .refl).consistent hc
  | write chunk _ => exact consistent_write chunk _ s hc
  | refuse chunk _ => exact consistent_write chunk _ s hc
  | close id => exact consistent_closeUnchecked s hc
  | abort id reason => exact consistent_abortUnchecked reason s hc
  | drive pumping _ => exact ⟨hc.source, hc.sink⟩
  | finish id state => exact hc.finishPipe id state

/-- By induction on the deeds. -/
theorem Course.consistent {made : List (WritableId × Bytes)} (h : Course s made t)
    (hc : s.Consistent) : t.Consistent := by
  induction h with
  | refl => exact hc
  | step _ hdeed ih => exact hdeed.consistent ih

end Deeds

section Made

/-- A new transform stream has nothing in its queues. -/
theorem consistent_enterTransform (wf : s.streams.WellFormed) (hc : s.Consistent)
    (transformer : Transformer E) : (enterTransform transformer s.streams).2.Consistent where
  source {id source} hs := by
    rw [Registry.source?_enterTransform wf] at hs
    split at hs
    · cases hs
      exact ReadableController.consistent_new _
    · exact hc.source hs
  sink {id sink} hs := by
    rw [Registry.sink?_enterTransform wf] at hs
    split at hs
    · cases hs
      exact .of_none rfl rfl
    · exact hc.sink hs

/-- A transformer is started. -/
theorem atWork_startedTransform (wf : s.streams.WellFormed) (transformer : Transformer E) :
    AtWork { s with streams := (enterTransform transformer s.streams).2 }
      (startedTransform transformer s) :=
  atWork_transformed .refl ((Registry.source?_enterTransform wf transformer _).trans (if_pos rfl))
    (TransformWork.changes_start transformer s.env
      { controller := { highWaterMark := s.streams.config.transformHighWaterMark } })

theorem consistent_settleTransform {streams : Registry E} (h : streams.Consistent)
    (stream : TransformStream) (result : Except StreamError Unit) :
    (settleTransform stream result streams).Consistent := by
  have hsettled : ∀ settle, (settleStart stream settle streams).Consistent := by
    intro settle
    unfold settleStart
    refine Registry.Consistent.modifySink ?_ _ fun sink hc => ?_
    · refine h.modifySource _ fun source hc => ?_
      exact hc
    · exact hc
  cases result with
  | ok => exact hsettled _
  | error error => exact (hsettled _).modifySink _ fun _ hc => hc.error error

theorem consistent_createTransform (wf : s.streams.WellFormed) (hc : s.Consistent)
    (transformer : Transformer E) :
    ((createTransform transformer : Step H E TransformStream) s).2.Consistent := by
  have hstarted := (atWork_startedTransform wf transformer).consistent
    (consistent_enterTransform wf hc transformer)
  rw [createTransform_eq wf]
  exact consistent_settleTransform hstarted _ _

/-- Every operation keeps the controllers of all streams consistent. -/
theorem OperationStep.consistent [Host H] (h : OperationStep s t) (hr : s.Resting)
    (hc : s.Consistent) : t.Consistent := by
  have wf := hr.wellFormed
  cases h.operationEffect hr with
  | deeds hturnover _ hnone _ hflows =>
    obtain ⟨made, hcourse⟩ := hflows.course
    exact hcourse.consistent (hc.turnover hturnover.streams hnone)
  | bodySource handle => exact hc.addSource wf (ReadableController.consistent_new _)
  | scriptSource guest highWaterMark =>
    rw [Consistent, streams_scriptSource]
    refine hc.addSource wf ?_
    -- a source may feed its stream and then fail to start
    have hrun := ReadableController.Becomes.run (guest.start s.env)
      { controller := { highWaterMark } }
    have hstarted := hrun.consistent (ReadableController.consistent_new highWaterMark)
    unfold startedController
    split
    · next heq =>
      rw [heq] at hstarted
      exact hstarted.error _
    · next heq =>
      rw [heq] at hstarted
      exact hstarted
  | bodySink handle => exact hc.addSink wf (.of_none rfl rfl)
  | scriptSink guest =>
    rw [Consistent, streams_scriptSink]
    refine hc.addSink wf ?_
    unfold startedWriter
    split
    · exact (WritableController.consistent_new _).error _
    · exact .of_none rfl rfl
  | createTransform transformer => exact consistent_createTransform wf hc transformer

end Made

end Session

end EdgeStreams
