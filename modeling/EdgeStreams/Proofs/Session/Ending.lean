import EdgeStreams.Proofs.Session.Drawing

/-!
# Sources that end or fail their streams

A guest ends or fails its stream while it is started or pulled, and a transformer ends or fails the
readable half while it is started, is handed a chunk or is told of the end. The source is not pulled
after that.

## Main definitions

- `Session.EndsAtStart`, `Session.EndsAtWork`: a source ends or fails its stream, or its start fails
- `Session.PulledNoMore`: whatever is done, the source is not pulled
- `Session.SourceContract`: what holds of a source at any time of its life

## Main statements

- `Session.EndsAtStart.not_pullable`, `Session.EndsAtWork.not_pullable`: such a source may not be
  pulled
- `Session.Story.sourceContract`: what holds of a source over its life
-/

namespace EdgeStreams

variable {H E : Type}

/-! ### Transformers -/

/-- Whether a call ends or fails the readable half. -/
def TransformCall.ends : TransformCall → Bool
  | .error _ | .terminate => true
  | .enqueue _ | .desiredSize => false

/-- A transformer that has ended or failed the readable half can add nothing to it any more. -/
theorem TransformDesk.not_open_of_makes {α : Type} {program : Program TransformCall.Answer α}
    {desk : TransformDesk} {call : TransformCall}
    (h : program.Makes TransformDesk.perform call desk) (he : call.ends = true) :
    ¬ (program.run TransformDesk.perform desk).2.controller.IsOpen := by
  induction h with
  | now state =>
    refine ReadableController.ProceedsTo.not_open
      (.runTransform _ (TransformDesk.perform call state).2) ?_
    cases call with
    | terminate => exact ReadableController.not_open_close _
    | error reason => exact ReadableController.not_open_error _ reason
    | enqueue | desiredSize => cases he
  | later _ ih => exact ih

/-- Once a transformer has been told of the end, the readable half takes no more chunks. -/
theorem TransformWork.not_open_flush (transformer : Transformer E) (env : E)
    (desk : TransformDesk) :
    ¬ (Session.leftBy (TransformWork.flush transformer env desk)).IsOpen := by
  unfold TransformWork.flush Session.leftBy
  generalize (transformer.flush env).run TransformDesk.perform desk = worked
  obtain ⟨⟨result, env'⟩, desk'⟩ := worked
  cases result with
  | ok => exact ReadableController.not_open_close _
  | error error => exact ReadableController.not_open_error _ error

namespace Session

variable {s t u : Session H E} {id : ReadableId} {source : Source E}

theorem not_open_leftBy {worked : GuestResult E × TransformDesk}
    (h : ¬ worked.2.controller.IsOpen) : ¬ (leftBy worked).IsOpen := by
  unfold leftBy
  split
  · next error _ => exact ReadableController.not_open_error _ error
  · exact h

theorem not_pullable_of_not_open (h : ¬ source.controller.IsOpen) : ¬ source.Pullable :=
  fun hp => h ⟨hp.readable, hp.unended⟩

/-- The readable half takes no more chunks after work that has ended or failed it. -/
theorem not_open_withTransformer {name : BridgeId} {bridge : Bridge E} {work : TransformWork E}
    {source' : Source E} (hb : s.streams.bridge? name = some bridge)
    (hs : s.streams.source? bridge.readable = some source)
    (hends : ¬ (leftBy (work bridge.transformer s.env { controller := source.controller })).IsOpen)
    (ht : (exec (withTransformer name work) s).2.streams.source? bridge.readable = some source') :
    ¬ source'.controller.IsOpen := by
  rw [exec_withTransformer, hb] at ht
  simp only [hs] at ht
  cases hstate : source.controller.state with
  | errored error =>
    simp only [hstate, hs, Option.some.injEq] at ht
    rintro ⟨hreadable, -⟩
    rw [← ht, hstate] at hreadable
    cases hreadable
  | readable | closed =>
    simp only [hstate, source?_transformed, if_pos, hs, Option.map_some, Option.some.injEq] at ht
    rw [← ht]
    exact hends

/-! ### Ends at the start -/

theorem scriptSource_fst (guest : UnderlyingSource E) (highWaterMark : UInt64) (s : Session H E) :
    ((scriptSource guest highWaterMark : Step H E ReadableId) s).1 =
      (s.streams.addSource
        { backing := .script guest
          controller := startedController guest highWaterMark s.env }).1 := by
  change (StateT.run (scriptSource guest highWaterMark : Step H E ReadableId) s).1 = _
  simp only [scriptSource, StateT.run_bind, StateT.run_get, pure_bind, startedController]
  obtain ⟨⟨result, env⟩, desk⟩ :=
    (guest.start s.env).run SourceDesk.perform { controller := { highWaterMark } }
  cases result <;> rfl

/-- A source is made whose guest or transformer fails at its start, or ends or fails the stream. -/
inductive EndsAtStart (s : Session H E) : ReadableId → Session H E → Prop
  | guestFails {guest : UnderlyingSource E} {highWaterMark : UInt64} {error : StreamError} :
    ((guest.start s.env).run SourceDesk.perform { controller := { highWaterMark } }).1.1 =
      .error error →
        EndsAtStart s (scriptSource guest highWaterMark s).1 (scriptSource guest highWaterMark s).2
  | guestEnds {guest : UnderlyingSource E} {highWaterMark : UInt64} {call : SourceCall} :
    (guest.start s.env).Makes SourceDesk.perform call { controller := { highWaterMark } } →
      call.ends = true →
        EndsAtStart s (scriptSource guest highWaterMark s).1 (scriptSource guest highWaterMark s).2
  | transformerFails {transformer : Transformer E} {error : StreamError} :
    (startWork transformer s).1.1 = .error error →
      EndsAtStart s (createTransform transformer s).1.readable (createTransform transformer s).2
  | transformerEnds {transformer : Transformer E} {call : TransformCall} :
    (transformer.start s.env).Makes TransformDesk.perform call
        { controller := { highWaterMark := s.streams.config.transformHighWaterMark } } →
      call.ends = true →
        EndsAtStart s (createTransform transformer s).1.readable (createTransform transformer s).2

theorem not_open_startedController {guest : UnderlyingSource E} {highWaterMark : UInt64} {env : E}
    (h : ¬ ((guest.start env).run SourceDesk.perform
      { controller := { highWaterMark } }).2.controller.IsOpen) :
    ¬ (startedController guest highWaterMark env).IsOpen := by
  unfold startedController
  generalize (guest.start env).run SourceDesk.perform { controller := { highWaterMark } } =
    worked at h
  obtain ⟨⟨result, env⟩, desk⟩ := worked
  cases result with
  | ok => exact h
  | error error => exact ReadableController.not_open_error _ error

theorem not_open_startedController_of_error {guest : UnderlyingSource E} {highWaterMark : UInt64}
    {env : E} {error : StreamError}
    (h : ((guest.start env).run SourceDesk.perform { controller := { highWaterMark } }).1.1 =
      .error error) : ¬ (startedController guest highWaterMark env).IsOpen := by
  unfold startedController
  generalize (guest.start env).run SourceDesk.perform { controller := { highWaterMark } } =
    worked at h
  obtain ⟨⟨result, env⟩, desk⟩ := worked
  cases h
  exact ReadableController.not_open_error _ error

theorem source?_scriptSource (wf : s.streams.WellFormed) (guest : UnderlyingSource E)
    (highWaterMark : UInt64) :
    ((scriptSource guest highWaterMark : Step H E ReadableId) s).2.streams.source?
        ((scriptSource guest highWaterMark : Step H E ReadableId) s).1 =
      some
        { backing := .script guest
          controller := startedController guest highWaterMark s.env } := by
  rw [streams_scriptSource, Registry.source?_addSource wf, scriptSource_fst, if_pos rfl]

theorem source?_createTransform (wf : s.streams.WellFormed) (transformer : Transformer E) :
    ((createTransform transformer : Step H E TransformStream) s).2.streams.source?
        ((createTransform transformer : Step H E TransformStream) s).1.readable =
      some (newHalf transformer s) := by
  rw [createTransform_eq wf transformer, streams_mapStreams, streams_note, source?_startSettled wf,
    if_pos rfl]

theorem EndsAtStart.not_pullable (h : EndsAtStart s id t) (wf : s.streams.WellFormed)
    (ht : t.streams.source? id = some source) : ¬ source.Pullable := by
  cases h with
  | guestFails hfails =>
    rw [source?_scriptSource wf] at ht
    cases ht
    exact not_pullable_of_not_open (not_open_startedController_of_error hfails)
  | guestEnds hmakes he =>
    rw [source?_scriptSource wf] at ht
    cases ht
    exact not_pullable_of_not_open
      (not_open_startedController (SourceDesk.not_open_of_makes hmakes he))
  | @transformerFails transformer error hfails =>
    rw [source?_createTransform wf] at ht
    cases ht
    intro hp
    have hstarted := hp.started
    rw [newHalf, hfails] at hstarted
    cases hstarted
  | transformerEnds hmakes he =>
    rw [source?_createTransform wf] at ht
    cases ht
    exact not_pullable_of_not_open (not_open_leftBy (TransformDesk.not_open_of_makes hmakes he))

/-! ### Ends at work -/

section Work

variable [Host H] {sinkId : WritableId} {sink : Sink E} {name : BridgeId} {bridge : Bridge E}

theorem exec_writeAlgorithm_transform (hk : s.streams.sink? sinkId = some sink)
    (hback : sink.backing = .transform name) (hb : s.streams.bridge? name = some bridge)
    (chunk : Bytes) :
    exec (writeAlgorithm sinkId chunk) s =
      exec (withTransformer name (.transform chunk))
        (setBridge name { bridge with pullRequested := false } s) := by
  simp [writeAlgorithm, exec_bind, hk, hback, hb]

theorem exec_closeAlgorithm_transform (hk : s.streams.sink? sinkId = some sink)
    (hback : sink.backing = .transform name) :
    exec (closeAlgorithm sinkId) s = exec (withTransformer name .flush) s := by
  simp [closeAlgorithm, exec_bind, hk, hback]

/-- A transformer ends or fails the readable half while it is handed a chunk, or is told of the
end. -/
inductive EndsAtWork (s : Session H E) : ReadableId → Session H E → Prop
  | transform {sinkId : WritableId} {token : Option WriterToken} {sink : Sink E} {name : BridgeId}
    {bridge : Bridge E} {source : Source E} {chunk : Bytes} {call : TransformCall} :
    s.streams.Takes sinkId token → s.streams.sink? sinkId = some sink →
      sink.backing = .transform name → s.streams.bridge? name = some bridge →
        s.streams.source? bridge.readable = some source →
          (bridge.transformer.transform chunk s.env).Makes TransformDesk.perform call
            { controller := source.controller } → call.ends = true →
              EndsAtWork s bridge.readable (exec (write sinkId chunk token) s).2
  | flush {sinkId : WritableId} {sink : Sink E} {name : BridgeId} {bridge : Bridge E}
    {source : Source E} : s.streams.sink? sinkId = some sink → sink.controller.state = .writable →
      sink.backing = .transform name → s.streams.bridge? name = some bridge →
        s.streams.source? bridge.readable = some source →
          EndsAtWork s bridge.readable (exec (closeUnchecked sinkId) s).2

theorem EndsAtWork.composed (h : EndsAtWork s id t) (hc : s.streams.Composed) :
    t.streams.Composed := by
  cases h with
  | transform htakes => exact hc.advancesTo ((Deed.write _ htakes).advancesTo hc)
  | flush => exact hc.advancesTo (advancesTo_closeUnchecked hc _)

section Halves

variable (hc : s.streams.Composed) (hk : s.streams.sink? sinkId = some sink)
variable (hw : sink.controller.state = .writable) (hback : sink.backing = .transform name)
include hc hk hw hback

/-- A write to the writable half of a transform stream is the work of the transformer. -/
theorem exec_writeUnchecked_transform (hb : s.streams.bridge? name = some bridge) (chunk : Bytes) :
    ∃ outcome t last, exec (withTransformer name (.transform chunk))
        (setBridge name { bridge with pullRequested := false } (setSink sinkId sink.working s)) =
          (outcome, t) ∧
      t.streams.sink? sinkId = some last ∧
        exec (writeUnchecked sinkId chunk) s = (last.verdict outcome,
          setSink sinkId (last.rested outcome) (note (.written sinkId chunk outcome) t)) := by
  have hduring : (setSink sinkId sink.working s).streams.sink? sinkId = some sink.working := by
    simp [Registry.sink?_setSink, hk]
  have hsilent := asksNothing_writeAlgorithm sinkId chunk (setSink sinkId sink.working s)
  have htransform := exec_writeAlgorithm_transform hduring hback hb chunk
  generalize hwork : exec (writeAlgorithm sinkId chunk) (setSink sinkId sink.working s) = worked
    at hsilent htransform
  obtain ⟨last, hlast, hr⟩ := SlotMap.rel_some_left (hduring ▸ hsilent.sink sinkId)
  exact ⟨worked.1, worked.2, last, htransform.symm, hlast,
    exec_writeUnchecked_of_idle hk (hc.idle hk) hw hwork hlast hr⟩

/-- The end of the writable half of a transform stream is the work of the transformer. -/
theorem exec_closeUnchecked_transform :
    ∃ outcome t, exec (withTransformer name .flush)
        (setSink sinkId (sink.inState .closing).working s) = (outcome, t) ∧
      exec (closeUnchecked sinkId) s =
        (outcome, setSink sinkId (sink.closedBy outcome) (note (.closed sinkId outcome) t)) := by
  have hduring : (setSink sinkId (sink.inState .closing).working s).streams.sink? sinkId =
      some (sink.inState .closing).working := by simp [Registry.sink?_setSink, hk]
  have hsilent := asksNothing_closeAlgorithm sinkId
    (setSink sinkId (sink.inState .closing).working s)
  have htransform := exec_closeAlgorithm_transform hduring hback
  generalize hwork : exec (closeAlgorithm sinkId)
    (setSink sinkId (sink.inState .closing).working s) = worked at hsilent htransform
  -- nothing fails a sink that is about to end
  have hkept : worked.2.streams.sink? sinkId = some (sink.inState .closing).working := by
    obtain ⟨sink', hworked, rfl | ⟨hwritable, -⟩⟩ :=
      SlotMap.rel_some_left (hduring ▸ hsilent.sink sinkId)
    · exact hworked
    · cases hwritable
  exact ⟨worked.1, worked.2, htransform.symm,
    exec_closeUnchecked_of_idle hk (hc.idle hk) hw hwork hkept⟩

/-- What is left of the readable half when a chunk has been written to the writable half. -/
theorem not_open_write {chunk : Bytes} {source' : Source E}
    (hb : s.streams.bridge? name = some bridge)
    (hs : s.streams.source? bridge.readable = some source)
    (hends : ¬ (leftBy (TransformWork.transform chunk bridge.transformer s.env
      { controller := source.controller })).IsOpen)
    (ht : (exec (writeUnchecked sinkId chunk) s).2.streams.source? bridge.readable = some source') :
    ¬ source'.controller.IsOpen := by
  obtain ⟨outcome, t, last, hwork, -, hwrite⟩ :=
    exec_writeUnchecked_transform hc hk hw hback hb chunk
  rw [hwrite] at ht
  have hforgot : (setBridge name { bridge with pullRequested := false }
      (setSink sinkId sink.working s)).streams.bridge? name =
        some { bridge with pullRequested := false } := by
    simp [setBridge, Registry.bridge?_setBridge, hb]
  exact not_open_withTransformer hforgot hs hends (hwork ▸ ht)

/-- What is left of the readable half when the writable half has been ended. -/
theorem not_open_close {source' : Source E} (hb : s.streams.bridge? name = some bridge)
    (hs : s.streams.source? bridge.readable = some source)
    (ht : (exec (closeUnchecked sinkId) s).2.streams.source? bridge.readable = some source') :
    ¬ source'.controller.IsOpen := by
  obtain ⟨outcome, t, hwork, hclose⟩ := exec_closeUnchecked_transform hc hk hw hback
  rw [hclose] at ht
  have hfound : (setSink sinkId (sink.inState .closing).working s).streams.bridge? name =
      some bridge := hb
  exact not_open_withTransformer hfound hs (TransformWork.not_open_flush _ _ _) (hwork ▸ ht)

end Halves

theorem EndsAtWork.not_pullable (h : EndsAtWork s id t) (hc : s.streams.Composed)
    (ht : t.streams.source? id = some source) : ¬ source.Pullable := by
  refine not_pullable_of_not_open ?_
  cases h with
  | transform htakes hk hback hb hs hmakes he =>
    obtain ⟨found, hfound, rfl, hw, -⟩ := htakes
    rw [hk] at hfound
    cases hfound
    rw [exec_write_of_lock hk] at ht
    exact not_open_write hc hk hw hback hb hs
      (not_open_leftBy (TransformDesk.not_open_of_makes hmakes he)) ht
  | flush hk hw hback hb hs => exact not_open_close hc hk hw hback hb hs ht

end Work

/-! ### Sources over their lives -/

section Lives

variable [Host H] {made : List (WritableId × Bytes)}

/-- Nothing is asked of a source that is gone. By induction on the deeds and changes. -/
theorem Story.source_gone (h : Story (KeepsSource id) s made t) (hc : s.streams.Composed)
    (hs : s.streams.source? id = none) :
    t.streams.source? id = none ∧ t.demands id = s.demands id := by
  induction h with
  | refl => exact ⟨hs, rfl⟩
  | deed hbefore hdeed ih =>
    obtain ⟨hgone, hsame⟩ := (hdeed.advancesTo (hbefore.composed hc)).noSource ih.1
    exact ⟨hgone, hsame.trans ih.2⟩
  | shift _ hturnover hkeeps ih => exact ⟨hkeeps ih.1, (hturnover.demands_eq id).trans ih.2⟩

/-- Whatever is done after `s`, the source is not pulled. -/
def PulledNoMore (id : ReadableId) (s : Session H E) : Prop :=
  ∀ {made t}, Story (KeepsSource id) s made t →
    ∃ demands, t.demands id = demands ++ s.demands id ∧ .pull ∉ demands

theorem pulledNoMore (hc : s.streams.Composed)
    (hs : ∀ {source}, s.streams.source? id = some source → ¬ source.Pullable) :
    PulledNoMore id s := by
  intro made t hstory
  cases hfound : s.streams.source? id with
  | none => exact ⟨[], (hstory.source_gone hc hfound).2, by simp⟩
  | some source =>
    obtain ⟨demands, hdemands, hlife⟩ := hstory.sourceLife hc hfound
    exact ⟨demands, hdemands, (hlife.shut (hs hfound)).1⟩

/-- What holds of a source that was made before `s` at a time `t` of its life. -/
structure SourceContract (id : ReadableId) (source : Source E) (s t : Session H E) : Prop where
  /-- The source has been pulled, one pull after the other, and cancelled once at most. -/
  demands : ∃ demands, t.demands id = demands ++ s.demands id ∧ Demand.Lawful demands
  /-- Whatever is done next, each thing that is asked of the source is one call. -/
  deed : ∀ {held}, t.streams.source? id = some held → held.backing = source.backing ∧
    ∀ {more u}, Deed t more u → ∃ last demands, u.streams.source? id = some last ∧
      u.demands id = demands ++ t.demands id ∧ held.Performs t u last demands
  gone : t.streams.source? id = none → ∀ {more u}, Deed t more u → u.demands id = t.demands id
  /-- A source that has not been started, or whose stream has ended, failed or been cancelled. -/
  shut : ∀ {held}, t.streams.source? id = some held → ¬ held.Pullable → PulledNoMore id t
  /-- A transform stream whose transformer ends or fails the readable half. -/
  ended : ∀ {u}, EndsAtWork t id u → PulledNoMore id u

theorem Story.sourceContract (h : Story (KeepsSource id) s made t) (hc : s.streams.Composed)
    (hs : s.streams.source? id = some source) (hp : source.pulling = false) :
    SourceContract id source s t := by
  have hcomposed := h.composed hc
  obtain ⟨demands, hdemands, hlife⟩ := h.sourceLife hc hs
  obtain ⟨hlawful, hlast⟩ := hlife.asked hp
  refine ⟨⟨demands, hdemands, hlawful⟩, fun {held} hheld => ⟨(hlast held hheld).1, fun hdeed => ?_⟩,
    fun hgone _ _ hdeed => ((hdeed.advancesTo hcomposed).noSource hgone).2,
    fun {held} hheld hshut => pulledNoMore hcomposed fun hfound => ?_,
    fun hends => pulledNoMore (hends.composed hcomposed) (hends.not_pullable hcomposed)⟩
  · obtain ⟨last, new, hlast, hnew, -, hperforms⟩ := (hdeed.advancesTo hcomposed).source hheld
    exact ⟨last, new, hlast, hnew, hperforms⟩
  · rw [hheld] at hfound
    cases hfound
    exact hshut

omit [Host H] in
/-- The name of a source that has just been made joins no bridge, unless the source is the readable
half of a transform stream or an old bridge has been left with the name. -/
theorem Turnover.not_joins (h : s.Turnover t) (ht : t.streams.source? id = some source)
    (hn : ¬ source.IsTransform) (hj : ¬ s.streams.Joins id) : ¬ t.streams.Joins id := by
  intro hjoins
  rcases h.joins hjoins with hold | ⟨-, found, hfound, htransform⟩
  · exact hj hold
  · rw [ht] at hfound
    cases hfound
    exact hn htransform

/-- From the time when a source is made, whatever is done: it is pulled, one pull after the end of
the other, and cancelled once at most; nothing is asked of it after that or after a pull that has
failed; and it is not pulled once it has ended or failed its stream, or its start has failed. A host
that is called about a body for one source only sees reads that take something, and after them at
most one more call: a read that fails or finds the end, or the abandonment of the body. -/
theorem obeys_of_leads {host : H} {env : E} {config : StreamConfig} {before after : Session H E}
    (hbefore : LeadsTo { host, env, streams := .new config } before)
    (hmade : OperationStep before after) (hnone : before.streams.source? id = none)
    (hsome : after.streams.source? id = some source) :
    after.demands id = before.demands id ∧
      (∀ {t}, Reaches (KeepsSource id) after t → ∃ made, Story (KeepsSource id) after made t) ∧
      (∀ {made t}, Story (KeepsSource id) after made t → SourceContract id source after t) ∧
      (EndsAtStart before id after → PulledNoMore id after) ∧
      ∀ {handle size log}, source.backing = .body handle size → WatchesBody handle log →
        ¬ before.streams.Joins id → after.streams.ReservesBody handle (· = id) (fun _ => False) →
          ∀ {t}, Reaches (LeavesToSource handle log id) after t →
            ∃ uses, log t.host = uses ++ log after.host ∧ BodyUse.Drawn uses := by
  have hresting := hbefore.resting (resting_new host env config)
  have hturnover := hmade.turnover_of_source hresting hnone hsome
  have hafter := hmade.resting hresting
  have hc := hafter.composed
  refine ⟨hturnover.demands_eq id, fun hrun => ?_,
    fun hstory => hstory.sourceContract hc hsome (hafter.unpulled hsome), fun hends => ?_,
    fun {handle size log} hback hw hjoins hreserves t hrun => ?_⟩
  · exact hrun.story hafter fun hc hturnover hflows _ hkeeps =>
      hkeeps.of_flowsTo (hturnover.streams.composed hc) hflows
  · exact pulledNoMore hc (hends.not_pullable hresting.wellFormed)
  · have hstory : ∃ made, Story (LeavesToSource handle log id) after made t :=
      hrun.story hafter fun hc hturnover hflows hkind hleaves =>
        ⟨hleaves.1.of_flowsTo (hturnover.streams.composed hc) hflows,
          hleaves.2.of_flowsTo hturnover hc hflows hkind⟩
    obtain ⟨made, hstory⟩ := hstory
    have hnew : source.IsNew := by
      have hshift := hturnover.streams.source id
      rw [hnone, hsome] at hshift
      cases hshift with
      | made hnew => exact hnew
    have hnative : ¬ source.IsTransform := by
      rintro ⟨name, hname⟩
      cases hname.symm.trans hback
    have hdrawn : Drawn handle log id after after := by
      refine ⟨hturnover.not_joins hsome hnative hjoins, hreserves, [], rfl, ⟨nofun, nofun⟩,
        fun hheld => ?_⟩
      rw [hsome] at hheld
      cases hheld
      exact ⟨⟨size, hback⟩, ⟨nofun, nofun⟩, hnew.unread hback, nofun⟩
    obtain ⟨-, -, uses, huses, hlawful, -⟩ := hstory.drawn hw hc hdrawn
    exact ⟨uses, huses, hlawful⟩

/-- Deeds in which something is asked of the source of a body leave the body to it. -/
theorem leavesToSource {handle : BodyHandle} {log : H → List BodyUse} (hc : s.streams.Composed)
    (hf : s.FlowsTo t) (hr : s.streams.ReservesBody handle (· = id) (fun _ => False))
    (hd : t.demands id ≠ s.demands id) : LeavesToSource handle log id s t := by
  obtain ⟨made, hcourse⟩ := hf.course
  refine ⟨(hf.source?_eq_none_iff hc).mpr, (hcourse.reserves_iff hc).mpr hr, fun hsame => ?_⟩
  rw [demands_eq, hsame, ← demands_eq] at hd
  exact absurd rfl hd

end Lives

/-- A source over a host body, which nobody else uses, is read once and then cancelled. -/
theorem obeys_of_leads_cancelled :
    ∃ (after t : Session (Recorded MemoryHost) Unit) (source : Source Unit),
      after.streams.source? ⟨0, 0⟩ = some source ∧
      (∃ made, Story (KeepsSource ⟨0, 0⟩) after made t ∧ SourceContract ⟨0, 0⟩ source after t) ∧
      t.demands ⟨0, 0⟩ = [.cancel (.ok ()), .pulled (.ok ()), .pull] ∧
      ∃ uses, t.host.about ⟨1⟩ = uses ++ after.host.about ⟨1⟩ ∧ BodyUse.Drawn uses := by
  obtain ⟨before, hbefore⟩ : ∃ before, before = recorded (MemoryHost.addBody {} [7]).2 := ⟨_, rfl⟩
  obtain ⟨after, hafter⟩ : ∃ after, after = before.mapStreams fun streams =>
      (streams.bodySource ⟨1⟩).2 := ⟨_, rfl⟩
  have hmade : OperationStep before after := .operate (.bodySource ⟨1⟩) 0 (by rw [hafter]; rfl)
  have hnew : LeadsTo (recorded (MemoryHost.addBody {} [7]).2) before := hbefore ▸ .refl
  obtain ⟨source, hsome, size, hback⟩ : ∃ source, after.streams.source? ⟨0, 0⟩ = some source ∧
      ∃ size, source.backing = .body ⟨1⟩ size := by
    rw [hafter, hbefore]
    exact ⟨_, rfl, _, rfl⟩
  obtain ⟨result, mid, t, hread, hpulled, ht, hcanceled⟩ : ∃ result mid t,
      attempt (read 9 ⟨0, 0⟩ none) after = some (result, mid) ∧
        mid.demands ⟨0, 0⟩ = [.pulled (.ok ()), .pull] ∧
          t = (exec (cancel ⟨0, 0⟩ none none) mid).2 ∧
            t.demands ⟨0, 0⟩ = [.cancel (.ok ()), .pulled (.ok ()), .pull] := by
    rw [hafter, hbefore]
    exact ⟨_, _, _, rfl, rfl, rfl, rfl⟩
  have hnone : before.streams.source? ⟨0, 0⟩ = none ∧ after.demands ⟨0, 0⟩ = [] := by
    rw [hafter, hbefore]
    exact ⟨rfl, rfl⟩
  have hjoins : ¬ before.streams.Joins ⟨0, 0⟩ := by
    rintro ⟨name, bridge, hb, -⟩
    rw [hbefore] at hb
    cases hb.symm.trans (SlotMap.get?_empty _)
  have hreserves : after.streams.ReservesBody ⟨1⟩ (· = ⟨0, 0⟩) (fun _ => False) := by
    rw [hafter, hbefore]
    exact (Registry.reserves_new {} ⟨1⟩).addSource (Registry.wellFormed_new {}) _
  obtain ⟨-, hstory, hobeys, -, hwatched⟩ := obeys_of_leads hnew hmade hnone.1 hsome
  have hresting := hmade.resting (hnew.resting (resting_new _ _ _))
  have hpulls : OperationStep after mid :=
    .operate (.read ⟨0, 0⟩ none) 9 (by simp [StreamOp.after, hread])
  have hmid := hpulls.resting hresting
  have hcancels : OperationStep mid t := .operate (.cancel ⟨0, 0⟩ none none) 0 (by rw [ht]; rfl)
  have hleft : LeavesToSource ⟨1⟩ (Recorded.about ⟨1⟩) ⟨0, 0⟩ after mid := by
    refine leavesToSource hresting.composed (flowsTo_read hresting.composed hread) hreserves ?_
    rw [hpulled, hnone.2]
    exact List.cons_ne_nil _ _
  have hleft' : LeavesToSource ⟨1⟩ (Recorded.about ⟨1⟩) ⟨0, 0⟩ mid t := by
    refine leavesToSource hmid.composed (ht ▸ flowsTo_cancel hmid.composed _ none none)
      hleft.2.reserves ?_
    rw [hcanceled, hpulled]
    exact fun h => absurd (congrArg List.length h) (by decide)
  obtain ⟨made, hmakes⟩ := hstory (.step (.step .refl hpulls hleft.1) hcancels hleft'.1)
  exact ⟨after, t, source, hsome, ⟨made, hmakes, hobeys hmakes⟩, hcanceled,
    hwatched hback (Recorded.watchesBody ⟨1⟩) hjoins hreserves
      (.step (.step .refl hpulls hleft) hcancels hleft')⟩

end Session

end EdgeStreams
