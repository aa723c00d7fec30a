import EdgeStreams.Proofs.Session.Ending

/-!
# The two halves of a transform stream

A transform stream lives and dies as a whole: as soon as its writable half takes no more writes, its
readable half takes no more chunks. Whatever ends or fails the writable half, be it a writer, the
transformer or a cancellation of the readable half, ends or fails the readable half as well.

## Main definitions

- `Registry.Couples`: the two halves of every transform stream belong together

## Main statements

- `Session.Deed.couples`: every deed keeps the halves together
- `Registry.Couples.not_isDry_of_unready`: a pipe that waits for a transform stream to be read
  leaves something to read

## Design notes

The readable half may well be the first to end: a writer learns of it with the next write.
-/

namespace EdgeStreams

variable {H E : Type}

namespace ReadableController

variable {controller : ReadableController}

/-- A stream that should pause has something queued, if its mark leaves room over an empty queue. -/
theorem not_isDry_of_full (h : controller.Measured) {size : Int}
    (hmark : 0 < room controller.highWaterMark 0) (hd : controller.desiredSize = some size)
    (hfull : size ≤ 0) : ¬ controller.IsDry := by
  rintro ⟨hstate, hqueue⟩
  simp only [desiredSize, hstate, Option.some.injEq, h.queued, hqueue, List.flatten_nil,
    List.length_nil] at hd
  omega

theorem not_isDry_of_not_open (h : controller.Measured) (hopen : ¬ controller.IsOpen) :
    ¬ controller.IsDry := by
  rintro ⟨hstate, hqueue⟩
  cases hclose : controller.closeRequested with
  | false => exact hopen ⟨hstate, hclose⟩
  | true => exact h.ended hclose hqueue hstate

end ReadableController

/-! ### Transformers -/

/-- A transformer that has ended or failed the stream can add nothing to it any more. -/
theorem TransformDesk.not_open_of_terminated {α : Type} (program : Program TransformCall.Answer α)
    (controller : ReadableController)
    (h : (program.run TransformDesk.perform { controller }).2.terminated = true) :
    ¬ (program.run TransformDesk.perform { controller }).2.controller.IsOpen := by
  have hstart : ({ controller } : TransformDesk).terminated = true → ¬ controller.IsOpen := nofun
  refine program.run_preserves TransformDesk.perform
    (fun desk => desk.terminated = true → ¬ desk.controller.IsOpen)
      (fun call desk hdesk => ?_) _ hstart h
  cases call with
  | enqueue chunk =>
    exact fun ht => (ReadableController.ProceedsTo.enqueue _ chunk).not_open (hdesk ht)
  | error error => exact fun _ => ReadableController.not_open_error _ error
  | terminate => exact fun _ => ReadableController.not_open_close _
  | desiredSize => exact hdesk

/-- Work that ends or fails the stream leaves a readable half that takes no more chunks. -/
def TransformWork.Stops (work : TransformWork E) : Prop :=
  ∀ (transformer : Transformer E) (env : E) (controller : ReadableController),
    (work transformer env { controller }).2.terminated = true →
      ¬ (work transformer env { controller }).2.controller.IsOpen

theorem TransformWork.stops_start : (start : TransformWork E).Stops :=
    fun transformer env controller =>
  TransformDesk.not_open_of_terminated (transformer.start env) controller

theorem TransformWork.stops_transform (chunk : Bytes) : (transform chunk : TransformWork E).Stops :=
  fun transformer env controller =>
    TransformDesk.not_open_of_terminated (transformer.transform chunk env) controller

namespace Session

/-- What a transformer has left of an open readable half, or of another, is what it was at least. -/
theorem proceedsTo_leftBy {controller : ReadableController} {worked : GuestResult E × TransformDesk}
    (h : controller.ProceedsTo worked.2.controller) : controller.ProceedsTo (leftBy worked) := by
  unfold leftBy
  split
  · exact h.trans (.error _ _)
  · exact h

/-- The writable half takes over no error if the readable half is still open. -/
theorem writableFault?_of_open {worked : GuestResult E × TransformDesk}
    (ht : worked.2.terminated = true → ¬ worked.2.controller.IsOpen) (h : (leftBy worked).IsOpen) :
    worked.1.1 = .ok () ∧ writableFault? worked.1.1 worked.2 = none := by
  obtain ⟨⟨result, env⟩, desk⟩ := worked
  cases result with
  | error error => exact absurd h (ReadableController.not_open_error _ error)
  | ok =>
    refine ⟨rfl, ?_⟩
    cases hterminated : desk.terminated with
    | false => simp [writableFault?, hterminated]
    | true => exact absurd h (ht hterminated)

/-- Every sink is as it was if the readable half is still open. -/
theorem sink?_transformed_of_open {s : Session H E} {name : BridgeId} {bridge : Bridge E}
    {source : Source E} {worked : GuestResult E × TransformDesk}
    (h : writableFault? worked.1.1 worked.2 = none) (id : WritableId) :
    (transformed bridge worked s name source).streams.sink? id = s.streams.sink? id := by
  unfold transformed spread marked
  simp only [h]
  split <;> rfl

end Session

/-! ### Registries -/

/-- The two halves of every transform stream belong together. A stream whose start has failed has
failed; the readable halves have one mark and count what is queued; a writable half that takes no
more writes leaves a readable half that takes no more chunks. -/
structure Registry.Couples (mark : UInt64) (streams : Registry E) : Prop where
  started : ∀ {id source}, streams.source? id = some source → source.start = .resolved ∨
    (∃ error, source.start = .rejected error) ∧ source.controller.state ≠ .readable
  marked : ∀ {id source}, streams.source? id = some source → source.IsTransform →
    source.controller.highWaterMark = mark ∧ source.controller.Measured
  paired : ∀ {id source name bridge sink}, streams.source? id = some source →
    source.backing = .transform name → streams.bridge? name = some bridge →
      streams.sink? bridge.writable = some sink → sink.backing = .transform name ∧
        (sink.controller.state ≠ .writable → ¬ source.controller.IsOpen)

namespace Registry

variable {streams : Registry E} {mark : UInt64} {id : ReadableId} {source : Source E}

/-- Work on a sink reaches no other sink. -/
theorem Composed.mem_sinkReach (hc : streams.Composed) {id other : WritableId}
    (hm : other ∈ (streams.sinkReach id).writables) : other = id := by
  rcases hm with hm | hm
  · exact hm
  · cases hs : streams.sink? id with
    | none => simp [hs] at hm
    | some sink =>
      rw [hs] at hm
      cases hback : sink.backing with
      | body handle | script guest => simp [hback, drainReach] at hm
      | transform name =>
        obtain ⟨bridge, hb, hid⟩ := hc.writable hs hback
        simp only [hback, drainReach, bridgeReach, hb] at hm
        exact hm.trans hid

/-- Work on a source reaches the writable half of its transform stream. -/
theorem mem_sourceReach {other : WritableId} (hm : other ∈ (streams.sourceReach id).writables) :
    ∃ source name bridge, streams.source? id = some source ∧ source.backing = .transform name ∧
      streams.bridge? name = some bridge ∧ bridge.writable = other := by
  rcases hm with hm | hm
  · exact hm.elim
  · cases hs : streams.source? id with
    | none => simp [hs] at hm
    | some source =>
      rw [hs] at hm
      cases hback : source.backing with
      | body handle size | script guest => simp [hback, backingReach] at hm
      | transform name =>
        cases hb : streams.bridge? name with
        | none => simp [hback, backingReach, bridgeReach, hb] at hm
        | some bridge =>
          simp only [hback, backingReach, bridgeReach, hb] at hm
          exact ⟨source, name, bridge, rfl, hback, hb, hm.symm⟩

/-- There is something to read in a transform stream that makes its writers wait. -/
theorem Couples.not_isDry_of_unready (h : streams.Couples mark) (hc : streams.Composed)
    (hroom : 0 < room mark 0) {name : BridgeId} {bridge : Bridge E}
    (hs : streams.source? id = some source) (hback : source.backing = .transform name)
    (hb : streams.bridge? name = some bridge) (hwait : streams.sinkReady bridge.writable = false) :
    ¬ source.controller.IsDry := by
  obtain ⟨hmark, hmeasured⟩ := h.marked hs ⟨name, hback⟩
  obtain ⟨found, hfound, rfl⟩ := hc.readable hs hback
  rw [hb] at hfound
  cases hfound
  cases hk : streams.sink? bridge.writable with
  | none => simp [sinkReady, hk] at hwait
  | some sink =>
    have hidle := hc.idle hk
    have hpressed : streams.backpressure name = true := by
      simpa [sinkReady, hk, hidle.inFlight, hidle.pending, (h.paired hs hback hb hk).1] using hwait
    simp only [backpressure, hb, hs, Option.bind_some, Bool.and_eq_true] at hpressed
    cases hsize : source.controller.desiredSize with
    | none => simp [hsize] at hpressed
    | some size =>
      refine ReadableController.not_isDry_of_full hmeasured (hmark ▸ hroom) hsize ?_
      simpa [hsize] using hpressed.2

end Registry

namespace Session

variable [Host H] {s t : Session H E} {mark : UInt64} {id : WritableId} {sink sink' : Sink E}
variable {name : BridgeId} {bridge : Bridge E} {source source' : Source E}

/-! ### What ends or fails a writable half -/

section Ends

variable (hc : s.streams.Composed) (hk : s.streams.sink? id = some sink)
variable (hw : sink.controller.state = .writable) (hback : sink.backing = .transform name)
variable (hb : s.streams.bridge? name = some bridge)
include hc hk hw hback hb

/-- A write that leaves the readable half open leaves the writable half open. -/
theorem writable_of_open_write {chunk : Bytes}
    (hs : s.streams.source? bridge.readable = some source)
    (hs' : (exec (writeUnchecked id chunk) s).2.streams.source? bridge.readable = some source')
    (hopen : source'.controller.IsOpen)
    (hk' : (exec (writeUnchecked id chunk) s).2.streams.sink? id = some sink') :
    sink'.controller.state = .writable := by
  have hleft := not_imp_not.mp (fun hends => not_open_write hc hk hw hback hb hs hends hs') hopen
  have hproceeds := proceedsTo_leftBy
    (TransformWork.keepsEnded_transform chunk bridge.transformer s.env
    { controller := source.controller })
  have hreadable : source.controller.state = .readable :=
    (not_imp_not.mp hproceeds.not_open hleft).state
  have hends := TransformWork.stops_transform chunk bridge.transformer s.env source.controller
  generalize hworked : TransformWork.transform chunk bridge.transformer s.env
    { controller := source.controller } = worked at hleft hends
  obtain ⟨hok, hfault⟩ := writableFault?_of_open hends hleft
  have hduring : (setSink id sink.working s).streams.sink? id = some sink.working := by
    simp [Registry.sink?_setSink, hk]
  have hfound : (setBridge name { bridge with pullRequested := false }
      (setSink id sink.working s)).streams.bridge? name =
        some { bridge with pullRequested := false } := by
    simp [setBridge, Registry.bridge?_setBridge, hb]
  have hwork : exec (writeAlgorithm id chunk) (setSink id sink.working s) =
      (.ok (), transformed { bridge with pullRequested := false } worked
        (setBridge name { bridge with pullRequested := false } (setSink id sink.working s)) name
        source) := by
    rw [exec_writeAlgorithm_transform hduring hback hb, exec_withTransformer, hfound]
    have hsource : (setBridge name { bridge with pullRequested := false }
        (setSink id sink.working s)).streams.source? bridge.readable = some source := hs
    have henv : (setBridge name { bridge with pullRequested := false }
        (setSink id sink.working s)).env = s.env := rfl
    simp only [hsource, hreadable, henv, hworked, hok]
  rw [exec_writeUnchecked_of_idle hk (hc.idle hk) hw hwork
    ((sink?_transformed_of_open hfault id).trans hduring) (.refl _)] at hk'
  rw [streams_setSink, Registry.sink?_setSink, if_pos rfl] at hk'
  obtain ⟨-, -, rfl⟩ := Option.map_eq_some_iff.mp hk'
  exact hw

/-- An abort leaves the readable half failed. -/
theorem not_open_abort {reason : Option String}
    (hs' : (exec (abortUnchecked id reason) s).2.streams.source? bridge.readable = some source') :
    ¬ source'.controller.IsOpen := by
  rw [exec_abortUnchecked_of_idle hk (hc.idle hk) hw, exec_noting] at hs'
  have hduring : (setSink id (sink.failing .aborted) s).streams.sink? id =
      some (sink.failing .aborted) := by simp [Registry.sink?_setSink, hk]
  have hfound : (setSink id (sink.failing .aborted) s).streams.bridge? name = some bridge := hb
  have hfailing : (sink.failing .aborted).backing = .transform name := hback
  simp only [abortAlgorithm, exec_bind, exec_sink, hduring, Registry.need_some,
    hfailing, exec_bridge, hfound, exec_modify, streams_note, streams_mapStreams,
    Registry.source?_modifySource, if_pos] at hs'
  obtain ⟨before, -, rfl⟩ := Option.map_eq_some_iff.mp hs'
  exact ReadableController.not_open_error _ _

end Ends

/-- A cancelled source is not readable. -/
theorem state_canceledSource (source : Source E) :
    (canceledSource source).controller.state ≠ .readable := by
  intro hstate
  unfold canceledSource ReadableController.cancel at hstate
  split at hstate
  · cases hstate
  · next hs => exact hs hstate

omit [Host H] in
/-- The end of a pipe changes no sink but in who holds it. -/
theorem sameSink_pipeFinished (name : PipeId) (state : PipeState) (s : Session H E)
    (id : WritableId) :
    Option.Rel Sink.Same (s.streams.sink? id) ((pipeFinished name state s).streams.sink? id) := by
  by_cases hrun : ∃ pipe, s.streams.pipe? name = some pipe ∧ pipe.isRunning
  · obtain ⟨pipe, hp, hr⟩ := hrun
    rw [pipeFinished, streams_mapStreams, Registry.sink?_finishPipe state hp hr]
    split
    · next he =>
      refine he ▸ SlotMap.rel_map (fun sink => ?_) _
      unfold Registry.unlockWriter
      split <;> exact ⟨rfl, rfl, rfl⟩
    · exact SlotMap.rel_refl Sink.Same.refl _
  · rw [pipeFinished, mapStreams, Registry.finishPipe_of_not_running]
    · exact SlotMap.rel_refl Sink.Same.refl _
    · exact fun pipe hp hr => hrun ⟨pipe, hp, hr⟩

omit [Host H] in
/-- The end of a pipe changes no source but in who holds it. -/
theorem controller_pipeFinished (name : PipeId) (state : PipeState) (s : Session H E)
    {id : ReadableId} {source : Source E} (hs : s.streams.source? id = some source) :
    ∃ source', (pipeFinished name state s).streams.source? id = some source' ∧
      source'.controller = source.controller := by
  by_cases hrun : ∃ pipe, s.streams.pipe? name = some pipe ∧ pipe.isRunning
  · obtain ⟨pipe, hp, hr⟩ := hrun
    rw [pipeFinished, streams_mapStreams, Registry.source?_finishPipe state hp hr]
    split
    · next he =>
      subst he
      rw [hs]
      refine ⟨_, rfl, ?_⟩
      dsimp only [Registry.unlockReader]
      split <;> rfl
    · exact ⟨source, hs, rfl⟩
  · rw [pipeFinished, mapStreams, Registry.finishPipe_of_not_running]
    · exact ⟨source, hs, rfl⟩
    · exact fun pipe hp hr => hrun ⟨pipe, hp, hr⟩

/-- The deeds that may end or fail a sink. -/
inductive EndingDeed (s : Session H E) (id : WritableId) : Session H E → Prop
  | write (chunk : Bytes) : EndingDeed s id (exec (writeUnchecked id chunk) s).2
  | close : EndingDeed s id (exec (closeUnchecked id) s).2
  | abort (reason : Option String) : EndingDeed s id (exec (abortUnchecked id reason) s).2
  | cancel {other : ReadableId} {source : Source E} {name : BridgeId} {bridge : Bridge E}
    (reason : Option String) : s.streams.source? other = some source →
      source.backing = .transform name → s.streams.bridge? name = some bridge →
      bridge.writable = id → EndingDeed s id (exec (cancelUnchecked other reason) s).2

/-- Every other deed leaves the sinks alone. -/
theorem Deed.endingDeed {made : List (WritableId × Bytes)} (hd : Deed s made t)
    (hc : s.streams.Composed) (id : WritableId) :
    Option.Rel Sink.Same (s.streams.sink? id) (t.streams.sink? id) ∨ EndingDeed s id t := by
  have hsame : t.streams.sink? id = s.streams.sink? id →
      Option.Rel Sink.Same (s.streams.sink? id) (t.streams.sink? id) :=
    fun he => he ▸ SlotMap.rel_refl Sink.Same.refl _
  cases hd with
  | @read fuel other source r hs hn hr =>
    have hp := hc.native hs hn
    refine .inl (hsame ?_)
    rcases revised_readUnchecked hs hn hp (hc.notAsked hs hp) hr with
      ⟨source', -, new, -, he⟩ | ⟨outcome, source', host, env, -, ⟨new, -, he⟩,
        -⟩ <;> rw [he] <;> rfl
  | disturb | ask | beginPull | endPull | request | drive => exact .inl (hsame rfl)
  | take hs ht =>
    refine .inl (hsame ?_)
    rw [exec_takeReady hs]
    simp
  | cancel other reason =>
    by_cases hm : id ∈ (s.streams.sourceReach other).writables
    · obtain ⟨source, name, bridge, hs, hback, hb, he⟩ := Registry.mem_sourceReach hm
      exact .inr (.cancel reason hs hback hb he)
    · exact .inl (hsame ((changesWithin_cancelUnchecked .refl reason s .refl).sink?_outside hm))
  | @write other token chunk htakes =>
    obtain ⟨sink, hk, rfl, -⟩ := htakes
    rw [exec_write_of_lock hk] at hsame ⊢
    by_cases he : id = other
    · exact .inr (he ▸ .write chunk)
    · exact .inl (hsame ((changesWithin_writeUnchecked .refl chunk s .refl).sink?_outside
        fun hm => he (hc.mem_sinkReach hm)))
  | refuse chunk hrefused =>
    obtain ⟨error, hwrite⟩ := exec_write_of_refused chunk hrefused
    rw [hwrite] at hsame ⊢
    exact .inl (hsame rfl)
  | close other =>
    by_cases he : id = other
    · exact .inr (he ▸ .close)
    · exact .inl (hsame ((changesWithin_closeUnchecked .refl s .refl).sink?_outside
        fun hm => he (hc.mem_sinkReach hm)))
  | abort other reason =>
    by_cases he : id = other
    · exact .inr (he ▸ .abort reason)
    · exact .inl (hsame ((changesWithin_abortUnchecked .refl reason s .refl).sink?_outside
        fun hm => he (hc.mem_sinkReach hm)))
  | finish name state => exact .inl (sameSink_pipeFinished name state s id)

/-- A deed that ends or fails the writable half of a transform stream leaves a readable half that
takes no more chunks. -/
theorem EndingDeed.not_open (h : EndingDeed s id t) (hc : s.streams.Composed)
    (hcouples : s.streams.Couples mark)
    (hs : s.streams.source? bridge.readable = some source)
    (hback : source.backing = .transform name) (hb : s.streams.bridge? name = some bridge)
    (he : bridge.writable = id) (hk : s.streams.sink? id = some sink)
    (hw : sink.controller.state = .writable)
    (hs' : t.streams.source? bridge.readable = some source') (hk' : t.streams.sink? id = some sink')
    (hended : sink'.controller.state ≠ .writable) :
    ¬ source'.controller.IsOpen := by
  have hsink := (hcouples.paired hs hback hb (he.symm ▸ hk)).1
  cases h with
  | write chunk =>
    exact fun hopen => hended (writable_of_open_write hc hk hw hsink hb hs hs' hopen hk')
  | close => exact not_open_close hc hk hw hsink hb hs hs'
  | abort reason => exact not_open_abort hc hk hw hsink hb hs'
  | @cancel other canceled otherName otherBridge reason hother hotherBack hotherBridge hwritable =>
    -- the writable half belongs to one transform stream only
    obtain ⟨hsame, -⟩ := hcouples.paired hother hotherBack hotherBridge (hwritable.symm ▸ hk)
    cases hsink.symm.trans hsame
    cases hb.symm.trans hotherBridge
    obtain ⟨found, hfound, rfl⟩ := hc.readable hother hotherBack
    cases hb.symm.trans hfound
    cases hs.symm.trans hother
    rcases cancelUnchecked_cases hc bridge.readable reason with
      ⟨-, heq⟩ | ⟨found, hfound, ⟨-, heq⟩ | ⟨-, -, outcome, hr, -⟩⟩
    · rw [heq, hk] at hk'
      cases hk'
      exact absurd hw hended
    · rw [heq] at hk'
      have hkept := hk.symm.trans hk'
      cases hkept
      exact absurd hw hended
    · rw [hs] at hfound
      cases hfound
      have hduring : (setSource bridge.readable (canceledSource source) s).streams.source?
          bridge.readable = some (canceledSource source) := by simp [Registry.source?_setSource, hs]
      obtain ⟨last, hlast, hrip⟩ := SlotMap.rel_some_left (hduring ▸ hr.source bridge.readable)
      cases hs'.symm.trans hlast
      exact hrip.controller.not_open fun hopen => state_canceledSource source hopen.state

/-- Every deed keeps the halves of the transform streams together. -/
theorem Deed.couples {made : List (WritableId × Bytes)} (hd : Deed s made t)
    (hc : s.streams.Composed) (h : s.streams.Couples mark) : t.streams.Couples mark := by
  have hadvances := hd.advancesTo hc
  have hbefore : ∀ {id source'}, t.streams.source? id = some source' →
      ∃ source, s.streams.source? id = some source ∧ source.Stays source' := fun hs' => by
    obtain ⟨source, demands, hs, hproceeds⟩ := hadvances.source_before hs'
    exact ⟨source, hs, (hc.source_proceedsTo hs hproceeds).1⟩
  constructor
  · intro id source' hs'
    obtain ⟨source, hs, hstays⟩ := hbefore hs'
    rw [hstays.start]
    refine (h.started hs).imp_right fun ⟨hrejected, hstate⟩ => ⟨hrejected, ?_⟩
    rwa [hstays.controller.state hstate]
  · intro id source' hs' ht'
    obtain ⟨source, hs, hstays⟩ := hbefore hs'
    obtain ⟨hmark, hmeasured⟩ := h.marked hs (hstays.isTransform_iff.mp ht')
    exact ⟨hstays.controller.mark.trans hmark, hstays.controller.measured hmeasured⟩
  · intro id source' name bridge' sink' hs' hback' hb' hk'
    obtain ⟨source, hs, hstays⟩ := hbefore hs'
    obtain ⟨sink, calls, hk, hproceeds⟩ := hadvances.sink_before hk'
    obtain ⟨bridge, hb, hkeeps⟩ := SlotMap.rel_some_right (hb' ▸ hadvances.bridge name)
    have hback := hstays.backing.symm.trans hback'
    rw [hkeeps.writable] at hk hk'
    obtain ⟨hsink, hopen⟩ := h.paired hs hback hb hk
    refine ⟨(hc.sink_proceedsTo hk hproceeds).1.trans hsink, fun hended => ?_⟩
    by_cases hw : sink.controller.state = .writable
    · rcases hd.endingDeed hc bridge.writable with hsame | hstrikes
      · rw [hk, hk'] at hsame
        cases hsame with
        | some hsame => exact absurd (hsame.controller ▸ hw) hended
      · obtain ⟨found, hfound, rfl⟩ := hc.readable hs hback
        cases hb.symm.trans hfound
        exact hstrikes.not_open hc h hs hback hb rfl hk hw hs' hk' hended
    · exact hstays.controller.not_open (hopen hw)

/-- By induction on the deeds. -/
theorem Course.couples {made : List (WritableId × Bytes)} (h : Course s made t)
    (hc : s.streams.Composed) (hcouples : s.streams.Couples mark) : t.streams.Couples mark := by
  induction h with
  | refl => exact hcouples
  | step hbefore hdeed ih => exact hdeed.couples (hbefore.composed hc) ih

theorem FlowsTo.couples (h : s.FlowsTo t) (hc : s.streams.Composed)
    (hcouples : s.streams.Couples mark) :
    t.streams.Couples mark := by
  obtain ⟨⟨made, hcourse⟩, -⟩ := h
  exact hcourse.couples hc hcouples

end Session

end EdgeStreams
