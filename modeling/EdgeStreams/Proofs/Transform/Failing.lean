import EdgeStreams.Proofs.Piping.Tying

/-!
# Transformers that fail

A transformer fails its stream by the outcome of its work, or by an error that it tells the
controller. A start or a write that comes to either fails both halves. An end of the stream does so
only if the outcome is a failure: an error that the transformer tells the controller while the
stream is being ended fails the readable half, and the writable half ends as if all had gone well.

## Main definitions

- `TransformWork.failure?`: the error that a transformer has failed its stream with
- `Registry.HalvesFail`: the writable half has failed, and so has the readable half
- `Session.FailsHalves`: what the work of a transformer comes to for the two halves

## Main statements

- `Session.createTransform_of_failure`, `Session.write_of_failure`: a start and a write
- `Session.close_of_failure`, `Session.close_of_ok`: an end that has failed, and one that has not
- `Client.fails_of_leads`: what is done to any transform stream that clients can reach
-/

namespace EdgeStreams

variable {H E : Type}

/-- The state of a readable half that has been told an error. One that has ended or failed stays
so. -/
def ReadableState.told (state : ReadableState) (error : StreamError) : ReadableState :=
  match state with
  | .readable => .errored error
  | state => state

theorem ReadableController.told_of_error (controller : ReadableController) (error : StreamError) :
    (controller.error error).state = controller.state.told error := by
  unfold ReadableController.error
  cases h : controller.state with
  | readable => rfl
  | closed | errored => exact h

namespace TransformWork

/-- The error that a transformer has failed its stream with: the failure that its work has come to,
or else the error that it has told the controller. -/
def failure? (worked : GuestResult E × TransformDesk) : Option StreamError :=
  match worked.1.1, worked.2.controller.state with
  | .error error, _ | .ok (), .errored error => some error
  | .ok (), _ => none

variable {worked : GuestResult E × TransformDesk} {error : StreamError}

/-- What the transformer leaves of the readable half. -/
theorem state_leftBy (h : failure? worked = some error) :
    (Session.leftBy worked).state = worked.2.controller.state.told error := by
  obtain ⟨⟨result, env⟩, desk⟩ := worked
  cases result with
  | error found =>
    cases h
    exact desk.controller.told_of_error error
  | ok =>
    cases hstate : desk.controller.state with
    | errored found => simp [Session.leftBy, ReadableState.told, hstate]
    | readable | closed => simp [failure?, hstate] at h

/-- Calls that fail the stream give the writable half the error. -/
theorem writableFault?_of_failure (program : Program TransformCall.Answer (GuestResult E))
    {controller : ReadableController} (hsound : ¬ controller.HasFailed)
    (h : failure? (program.run TransformDesk.perform { controller }) = some error) :
    Session.writableFault? (program.run TransformDesk.perform { controller }).1.1
      (program.run TransformDesk.perform { controller }).2 = some error := by
  have hterminated := TransformDesk.terminated_of_failed program hsound
  generalize program.run TransformDesk.perform { controller } = worked at h hterminated ⊢
  obtain ⟨⟨result, env⟩, desk⟩ := worked
  cases result with
  | error found => exact h
  | ok =>
    cases hstate : desk.controller.state with
    | errored found =>
      have hends : desk.terminated = true := hterminated ⟨found, hstate⟩
      simpa [failure?, Session.writableFault?, hstate, hends] using h
    | readable | closed => simp [failure?, hstate] at h

/-- Work that a failure has come to, or nothing but an error that the controller was told. -/
theorem result_of_failure (h : failure? worked = some error) :
    worked.1.1 = .ok () ∨ worked.1.1 = .error error := by
  obtain ⟨⟨result, env⟩, desk⟩ := worked
  cases result with
  | error found => exact .inr (congrArg _ (Option.some.inj h))
  | ok => exact .inl rfl

end TransformWork

namespace Sink

variable {sink : Sink E} {outcome : Except StreamError Unit} {error : StreamError}

/-- A sink that has failed at work says so, and stays so. -/
theorem failing_at_work (hw : sink.controller.state = .writable)
    (h : outcome = .ok () ∨ outcome = .error error) :
    (sink.failing error).verdict outcome = .error error ∧
      ((sink.failing error).rested outcome).controller.state = .errored error := by
  rw [failing_of_writable hw]
  rcases h with rfl | rfl
  · exact ⟨rfl, rfl⟩
  · exact ⟨rfl, by simp [rested, WritableController.error, WritableState.isTerminal]⟩

end Sink

/-- The writable half of a transform stream has failed with an error, which the readable half has
been told when its state was as given. -/
structure Registry.HalvesFail (streams : Registry E) (bridge : Bridge E) (state : ReadableState)
    (error : StreamError) : Prop where
  writable : streams.writableState? bridge.writable = some (.errored error)
  readable : streams.readableState? bridge.readable = some (state.told error)

namespace Session

variable {s : Session H E} {id : WritableId} {sink : Sink E} {name : BridgeId} {bridge : Bridge E}
variable {source : Source E} {worked : GuestResult E × TransformDesk} {error : StreamError}

/-- Starting a transformer that fails its stream leaves two halves that have failed. -/
theorem createTransform_of_failure (wf : s.streams.WellFormed) (transformer : Transformer E)
    (h : TransformWork.failure? (startWork transformer s) = some error) :
    (createTransform transformer s).1 = nextStream transformer s ∧
      (createTransform transformer s).2.streams.HalvesFail (newBridge transformer s)
        (startWork transformer s).2.controller.state error := by
  rw [createTransform_eq wf transformer]
  have hnew := (Registry.sink?_enterTransform wf transformer
    (nextStream transformer s).writable).trans (if_pos rfl)
  have hfault : writableFault? (startWork transformer s).1.1
      (startWork transformer s).2 = some error :=
    TransformWork.writableFault?_of_failure (transformer.start s.env) (by rintro ⟨_, ⟨⟩⟩) h
  have hstarted : (startedTransform transformer s).streams.sink?
    (nextStream transformer s).writable =
      some ((Registry.newWritable (nextStream transformer s).bridge .pending).failing error) :=
    sink?_transformed_of_fault (s := { s with streams := (enterTransform transformer s.streams).2 })
      (nextStream transformer s).bridge (newBridge transformer s) _ hfault hnew rfl
  refine ⟨rfl, ?_, ?_⟩
  · -- what fails the writable half during the start comes before the outcome of the start
    simp only [Registry.writableState?, streams_mapStreams, streams_note, sink?_settleTransform,
      newBridge, if_pos, hstarted, Option.map_some]
    cases (startWork transformer s).1.1 <;> rfl
  · simp only [Registry.readableState?, streams_mapStreams, streams_note, newBridge,
      source?_startSettled wf, if_pos, Option.map_some]
    exact congrArg some (TransformWork.state_leftBy h)

/-- A transformer works on a readable half that has not failed. -/
theorem exec_withTransformer_of_sound (work : TransformWork E)
    (hb : s.streams.bridge? name = some bridge)
    (hs : s.streams.source? bridge.readable = some source)
    (hsound : ¬ source.controller.HasFailed) :
    exec (withTransformer name work) s =
      ((work bridge.transformer s.env { controller := source.controller }).1.1,
        transformed bridge (work bridge.transformer s.env { controller := source.controller })
          s name source) := by
  rw [exec_withTransformer, hb]
  simp only [hs]
  cases hstate : source.controller.state with
  | errored error => exact absurd ⟨error, hstate⟩ hsound
  | readable | closed => rfl

/-- Nothing fails a writable half that is about to end. -/
theorem sink?_transformed_of_closing (worked : GuestResult E × TransformDesk) (name : BridgeId)
    (bridge : Bridge E) (source : Source E) (hk : s.streams.sink? id = some sink)
    (hclosing : sink.controller.state = .closing) :
    (transformed bridge worked s name source).streams.sink? id = some sink := by
  have hmarked : (marked bridge worked (fed bridge worked s source) name).streams.sink? id =
      some sink := by
    unfold marked
    split <;> exact hk
  unfold transformed spread
  split
  · rw [streams_mapStreams, Registry.sink?_modifySink]
    split
    · next he =>
      subst he
      simp [hmarked, hclosing]
    · exact hmarked
  · exact hmarked

/-- The writable half keeps a failure that the readable half has been told. -/
theorem halvesFail_setSink {during last : Sink E} {state : ReadableState}
    (hk : s.streams.sink? bridge.writable = some during)
    (hlast : last.controller.state = .errored error)
    (hs : s.streams.source? bridge.readable = some source)
    (hstate : source.controller.state = state.told error) (event : StreamEvent) :
    (setSink bridge.writable last (note event s)).streams.HalvesFail bridge state error where
  writable := by simp [Registry.writableState?, Registry.sink?_setSink, hk, hlast]
  readable := by simp [Registry.readableState?, hs, hstate]

section Operations

variable [Host H] (hc : s.streams.Composed) (hk : s.streams.sink? id = some sink)
variable (hback : sink.backing = .transform name) (hw : sink.controller.state = .writable)
variable (hb : s.streams.bridge? name = some bridge)
variable (hs : s.streams.source? bridge.readable = some source)
  (hsound : ¬ source.controller.HasFailed)
include hc hk hback hw hb hs hsound

/-- A write that makes the transformer fail its stream fails with the error, and so do both
halves. -/
theorem write_of_failure {chunk : Bytes}
    (hwork : TransformWork.transform chunk bridge.transformer s.env
      { controller := source.controller } = worked)
    (h : TransformWork.failure? worked = some error) :
    ∃ t, exec (write id chunk sink.writerLock) s = (.error error, t) ∧
      t.streams.HalvesFail bridge worked.2.controller.state error := by
  obtain ⟨found, hfound, rfl⟩ := hc.writable hk hback
  cases hb.symm.trans hfound
  obtain ⟨outcome, t, last, hexec, hlast, hwrite⟩ :=
    exec_writeUnchecked_transform hc hk hw hback hb chunk
  obtain ⟨asked, hasked⟩ : ∃ asked, asked = setBridge name { bridge with pullRequested := false }
      (setSink bridge.writable sink.working s) := ⟨_, rfl⟩
  have hduring : asked.streams.sink? bridge.writable = some sink.working := by
    simp [hasked, setBridge, Registry.sink?_setSink, hk]
  have hb' : asked.streams.bridge? name = some { bridge with pullRequested := false } := by
    simp [hasked, setBridge, Registry.bridge?_setBridge, hb]
  have hs' : asked.streams.source? bridge.readable = some source := by simpa [hasked] using hs
  have henv : asked.env = s.env := hasked ▸ rfl
  rw [← hasked, exec_withTransformer_of_sound _ hb' hs' hsound, henv] at hexec
  simp only [hwork] at hexec
  obtain ⟨rfl, rfl⟩ := Prod.mk.inj hexec
  have hfault : writableFault? worked.1.1 worked.2 = some error := by
    subst hwork
    exact TransformWork.writableFault?_of_failure _ hsound h
  -- the writable half has failed during the work, and so the outcome does not matter
  cases hlast.symm.trans
    (sink?_transformed_of_fault name { bridge with pullRequested := false } source
    hfault hduring hw)
  have hworking : sink.working.controller.state = .writable := hw
  obtain ⟨hverdict, hstate⟩ := Sink.failing_at_work hworking (TransformWork.result_of_failure h)
  exact ⟨_, (exec_write_of_lock hk).trans (hwrite.trans (by rw [hverdict])),
    halvesFail_setSink hlast hstate (lives_transformed hs') (TransformWork.state_leftBy h) _⟩

section Closing

variable (hwork : TransformWork.flush bridge.transformer s.env { controller := source.controller } =
  worked)
include hwork

/-- The end of the stream is the work of the transformer, of which the writable half learns nothing
but the outcome. -/
theorem exec_close_of_flush :
    ∃ t, exec (close id sink.writerLock) s =
        (worked.1.1, setSink id (sink.closedBy worked.1.1) (note (.closed id worked.1.1) t)) ∧
      t.streams.sink? id = some (sink.inState .closing).working ∧
      t.streams.source? bridge.readable = some { source with controller := leftBy worked } := by
  obtain ⟨outcome, t, hexec, hclose⟩ := exec_closeUnchecked_transform hc hk hw hback
  obtain ⟨closing, hclosing⟩ : ∃ closing, closing =
      setSink id (sink.inState .closing).working s := ⟨_, rfl⟩
  have hduring : closing.streams.sink? id = some (sink.inState .closing).working := by
    simp [hclosing, Registry.sink?_setSink, hk]
  have hb' : closing.streams.bridge? name = some bridge := by simpa [hclosing] using hb
  have hs' : closing.streams.source? bridge.readable = some source := by simpa [hclosing] using hs
  have henv : closing.env = s.env := hclosing ▸ rfl
  rw [← hclosing, exec_withTransformer_of_sound _ hb' hs' hsound, henv, hwork] at hexec
  obtain ⟨rfl, rfl⟩ := Prod.mk.inj hexec
  exact ⟨_, (exec_close_of_lock hk).trans hclose,
    sink?_transformed_of_closing worked name bridge source hduring rfl, lives_transformed hs'⟩

/-- An end of the stream at which the transformer fails, fails with the error, and so do both
halves. -/
theorem close_of_failure (h : worked.1.1 = .error error) :
    ∃ t, exec (close id sink.writerLock) s = (.error error, t) ∧
      t.streams.HalvesFail bridge worked.2.controller.state error := by
  obtain ⟨t, hclose, hduring, hleft⟩ := exec_close_of_flush hc hk hback hw hb hs hsound hwork
  obtain ⟨found, hfound, rfl⟩ := hc.writable hk hback
  cases hb.symm.trans hfound
  have hfails : TransformWork.failure? worked = some error := by rw [TransformWork.failure?, h]
  have hstate : (sink.closedBy (.error error)).controller.state = .errored error := rfl
  rw [h] at hclose
  exact ⟨_, hclose, halvesFail_setSink hduring hstate hleft (TransformWork.state_leftBy hfails) _⟩

/-- Where the work of the transformer does not fail at the end of the stream, the writable half
ends, whatever the transformer has told the controller of the readable half. -/
theorem close_of_ok (h : worked.1.1 = .ok ()) :
    ∃ t, exec (close id sink.writerLock) s = (.ok (), t) ∧
      t.streams.writableState? id = some .closed ∧
      t.streams.readableState? bridge.readable = some worked.2.controller.state := by
  obtain ⟨t, hclose, hduring, hleft⟩ := exec_close_of_flush hc hk hback hw hb hs hsound hwork
  rw [h] at hclose
  refine ⟨_, hclose, ?_, ?_⟩
  · simp [Registry.writableState?, Registry.sink?_setSink, hduring, Sink.closedBy, Sink.inState]
  · simp [Registry.readableState?, hleft, leftBy, h]

end Closing

end Operations

/-- What the work of a transformer comes to for the two halves of its stream. -/
structure FailsHalves [Host H] (s : Session H E) (id : WritableId) (sink : Sink E)
    (bridge : Bridge E) (source : Source E) : Prop where
  /-- A write at which the transformer fails the stream. -/
  write {chunk : Bytes} {worked : GuestResult E × TransformDesk} {error : StreamError} :
    TransformWork.transform chunk bridge.transformer s.env { controller := source.controller } =
      worked → TransformWork.failure? worked = some error →
        ∃ t, exec (Session.write id chunk sink.writerLock) s = (.error error, t) ∧
          t.streams.HalvesFail bridge worked.2.controller.state error
  /-- An end at which the work of the transformer fails. -/
  close {worked : GuestResult E × TransformDesk} {error : StreamError} :
    TransformWork.flush bridge.transformer s.env { controller := source.controller } = worked →
      worked.1.1 = .error error →
        ∃ t, exec (Session.close id sink.writerLock) s = (.error error, t) ∧
          t.streams.HalvesFail bridge worked.2.controller.state error
  /-- An end at which the transformer tells the controller of an error at most. -/
  told {worked : GuestResult E × TransformDesk} :
    TransformWork.flush bridge.transformer s.env { controller := source.controller } = worked →
      worked.1.1 = .ok () →
        ∃ t, exec (Session.close id sink.writerLock) s = (.ok (), t) ∧
          t.streams.writableState? id = some .closed ∧
          t.streams.readableState? bridge.readable = some worked.2.controller.state

end Session

/-- Whatever clients have done before: a start at which the transformer fails its stream leaves two
halves that have failed. So does a write, as long as both halves live and have not failed, and an
end at which the work of the transformer fails. Where it only tells the controller of an error at
the end, the readable half fails and the writable half ends. -/
theorem Client.fails_of_leads [Host H] {uses : H → List UInt32 → H → Prop}
    {allowed : Client H E → Client H E → Prop} {host : H} {env : E} {config : StreamConfig}
    {client : Client H E} (hclient : LeadsTo uses allowed (new host env config) client) :
    (∀ transformer error,
      TransformWork.failure? (Session.startWork transformer client.session) = some error →
        (Session.createTransform transformer client.session).2.streams.HalvesFail
          (Session.newBridge transformer client.session)
          (Session.startWork transformer client.session).2.controller.state error) ∧
    ∀ id sink name, client.session.streams.sink? id = some sink → sink.backing = .transform name →
      sink.controller.state = .writable →
        ∃ bridge, client.session.streams.bridge? name = some bridge ∧ bridge.writable = id ∧
          ∀ source, client.session.streams.source? bridge.readable = some source →
            ¬ source.controller.HasFailed → client.session.FailsHalves id sink bridge source := by
  obtain ⟨wf, hc, -, -⟩ := hclient.resting (Session.resting_new host env config)
  refine ⟨fun transformer error h => (Session.createTransform_of_failure wf transformer h).2,
    fun id sink name hk hback hw => ?_⟩
  obtain ⟨bridge, hb, hwritable⟩ := hc.writable hk hback
  exact ⟨bridge, hb, hwritable, fun source hs hsound =>
    ⟨fun hwork h => Session.write_of_failure hc hk hback hw hb hs hsound hwork h,
      fun hwork h => Session.close_of_failure hc hk hback hw hb hs hsound hwork h,
      fun hwork h => Session.close_of_ok hc hk hback hw hb hs hsound hwork h⟩⟩

end EdgeStreams
