import EdgeStreams.Proofs.Piping.Pressure

/-!
# What the halves of a transform stream are told of each other

The bridge of a transform stream remembers whether the stream has failed, and its writable half
takes writes only as long as its readable half takes chunks. Whatever fails or ends the readable
half is told to both.

## Main definitions

- `Registry.Tied`: a bridge knows of the failure of its readable half, and a writable half of the
  end
- `Registry.Onward`: what becomes of the bridge of a transform stream and of its halves
- `Session.Outlives`: a transform stream whose readable half outlives a change

## Main statements

- `Session.Deed.tied`: every deed leaves bridges and halves tied together
- `Session.Deed.onward`: what one deed makes of a bridge

## Design notes

One half may be gone, or both. A bridge whose readable half is gone is marked as failed only when
its writable half is aborted.
-/

namespace EdgeStreams

variable {H E : Type}

/-! ### Transformers -/

theorem ReadableController.IsOpen.enqueue {controller : ReadableController} (h : controller.IsOpen)
    (chunk : Bytes) : (controller.enqueue chunk).2.IsOpen := by
  unfold ReadableController.enqueue
  repeat' split
  · exact h
  · exact h
  · exact ⟨h.state, h.close⟩

/-- A reader ends no stream that is still fed. -/
theorem ReadableController.IsOpen.taken {controller : ReadableController} (h : controller.IsOpen) :
    controller.takeReady.2.IsOpen := by
  cases hqueue : controller.queue with
  | nil => simpa [ReadableController.takeReady, dequeue, h.state, hqueue] using h
  | cons chunk rest =>
    simp only [ReadableController.takeReady, dequeue, h.state, hqueue, h.close]
    exact ⟨by simp, rfl⟩

/-- A transformer ends or fails an open readable half only by a call. -/
theorem TransformDesk.terminated_of_not_open {α : Type} (program : Program TransformCall.Answer α)
    {controller : ReadableController} (hopen : controller.IsOpen)
    (h : ¬ (program.run TransformDesk.perform { controller }).2.controller.IsOpen) :
    (program.run TransformDesk.perform { controller }).2.terminated = true := by
  have hstart : ¬ ({ controller } : TransformDesk).controller.IsOpen →
      ({ controller } : TransformDesk).terminated = true := fun hends => absurd hopen hends
  refine program.run_preserves TransformDesk.perform
    (fun desk => ¬ desk.controller.IsOpen → desk.terminated = true)
      (fun call desk hdesk => ?_) _ hstart h
  cases call with
  | enqueue chunk => exact fun hends => hdesk fun hstill => hends (hstill.enqueue chunk)
  | error error => exact fun _ => rfl
  | terminate => exact fun _ => rfl
  | desiredSize => exact hdesk

/-! ### Sinks -/

namespace Sink

variable {sink : Sink E}

/-- A sink that takes no more writes takes none once its work is done. -/
theorem state_rested (h : sink.controller.state ≠ .writable) (outcome : Except StreamError Unit) :
    (sink.rested outcome).controller.state ≠ .writable := by
  cases outcome with
  | ok => exact h
  | error error =>
    intro hw
    have hterminal := sink.terminal_rested error
    rw [hw] at hterminal
    cases hterminal

/-- A sink that has been given an error takes no more writes. -/
theorem state_failing (sink : Sink E) (error : StreamError) :
    (sink.failing error).controller.state ≠ .writable := by
  unfold failing WritableController.error
  dsimp only
  split
  · next hterminal =>
    intro hw
    rw [hw] at hterminal
    cases hterminal
  · nofun

end Sink

/-! ### What transformers tell -/

namespace TransformWork

/-- Work that fails a stream marks its bridge. -/
def MarksBridge (work : TransformWork E) : Prop :=
  ∀ (transformer : Transformer E) (env : E) (controller : ReadableController),
    ¬ controller.HasFailed → (Session.leftBy (work transformer env { controller })).HasFailed →
      Session.bridgeFails (work transformer env { controller }).1.1
        (work transformer env { controller }).2 = true

/-- Work that ends or fails a stream gives the writable half an error. -/
def SpreadsEnds (work : TransformWork E) : Prop :=
  ∀ (transformer : Transformer E) (env : E) (controller : ReadableController),
    controller.IsOpen → ¬ (Session.leftBy (work transformer env { controller })).IsOpen →
      ∃ error, Session.writableFault? (work transformer env { controller }).1.1
        (work transformer env { controller }).2 = some error

end TransformWork

namespace Session

theorem bridgeFails_of_failed {worked : GuestResult E × TransformDesk}
    (hterminated : worked.2.controller.HasFailed → worked.2.terminated = true)
    (h : (leftBy worked).HasFailed) : bridgeFails worked.1.1 worked.2 = true := by
  obtain ⟨⟨result, env⟩, desk⟩ := worked
  cases result with
  | error error => rfl
  | ok =>
    have hends := hterminated h
    obtain ⟨error, herror⟩ := h
    have hstate : desk.controller.state = .errored error := herror
    simpa [bridgeFails, hstate] using hends

theorem writableFault?_of_not_open {worked : GuestResult E × TransformDesk}
    (hterminated : ¬ worked.2.controller.IsOpen → worked.2.terminated = true)
    (h : ¬ (leftBy worked).IsOpen) : ∃ error, writableFault? worked.1.1 worked.2 = some error := by
  obtain ⟨⟨result, env⟩, desk⟩ := worked
  cases result with
  | error error => exact ⟨error, rfl⟩
  | ok =>
    have hends : desk.terminated = true := hterminated h
    simp only [writableFault?, hends, if_true]
    split
    · exact ⟨_, rfl⟩
    · exact ⟨_, rfl⟩

end Session

namespace TransformWork

theorem marksBridge_start : (start : TransformWork E).MarksBridge := fun transformer env _ hsound =>
  Session.bridgeFails_of_failed (TransformDesk.terminated_of_failed (transformer.start env) hsound)

theorem marksBridge_transform (chunk : Bytes) : (transform chunk : TransformWork E).MarksBridge :=
  fun transformer env _ hsound =>
    Session.bridgeFails_of_failed
      (TransformDesk.terminated_of_failed (transformer.transform chunk env) hsound)

/-- The end of the stream is no failure. -/
theorem marksBridge_flush : (flush : TransformWork E).MarksBridge := by
  intro transformer env controller hsound
  refine Session.bridgeFails_of_failed ?_
  have hcalls := TransformDesk.terminated_of_failed (transformer.flush env) hsound
  unfold flush
  generalize (transformer.flush env).run TransformDesk.perform { controller } = worked at hcalls
  obtain ⟨⟨result, env'⟩, desk⟩ := worked
  cases result with
  | error error => exact hcalls
  | ok =>
    rintro ⟨error, herror⟩
    refine hcalls ⟨error, ?_⟩
    change desk.controller.finish.state = .errored error at herror
    unfold ReadableController.finish ReadableController.close at herror
    split at herror
    · exact herror
    · dsimp only at herror
      split at herror
      · cases herror
      · cases herror

theorem spreadsEnds_start : (start : TransformWork E).SpreadsEnds := fun transformer env _ hopen =>
  Session.writableFault?_of_not_open
    (TransformDesk.terminated_of_not_open (transformer.start env) hopen)

theorem spreadsEnds_transform (chunk : Bytes) : (transform chunk : TransformWork E).SpreadsEnds :=
  fun transformer env _ hopen =>
    Session.writableFault?_of_not_open
      (TransformDesk.terminated_of_not_open (transformer.transform chunk env) hopen)

end TransformWork

/-! ### Registries -/

namespace Registry

variable {streams streams' streams'' : Registry E} {bridge bridge' bridge'' : Bridge E}

/-- A bridge is marked if its readable half has failed, and its writable half takes writes only as
long as the readable half takes chunks. -/
structure TiesHalves (streams : Registry E) (bridge : Bridge E) (source : Source E) : Prop where
  marked : source.controller.HasFailed → bridge.errored = true
  opened : streams.Accepts bridge.writable → source.controller.IsOpen

/-- Every bridge is tied to its readable half. -/
def Tied (streams : Registry E) : Prop :=
  ∀ name bridge source, streams.SpansBridge name bridge source → streams.TiesHalves bridge source

/-- The readable half of a bridge is there, and has neither ended nor failed. -/
def IsReadable (streams : Registry E) (bridge : Bridge E) : Prop :=
  ∃ source, streams.source? bridge.readable = some source ∧ source.controller.state = .readable

/-- What becomes of a bridge and of its halves. A bridge is marked as failed only while its writable
half takes writes or its readable half is readable. -/
structure Onward (streams : Registry E) (bridge : Bridge E) (streams' : Registry E)
    (bridge' : Bridge E) : Prop where
  keeps : bridge.Keeps bridge'
  source : ∀ {source'}, streams'.source? bridge.readable = some source' →
    ∃ source, streams.source? bridge.readable = some source ∧
      source.controller.ProceedsTo source'.controller
  accepts : streams'.Accepts bridge.writable → streams.Accepts bridge.writable
  marked : bridge'.errored = true →
    bridge.errored = true ∨ streams.Accepts bridge.writable ∨ streams.IsReadable bridge

namespace Onward

theorem refl (streams : Registry E) (bridge : Bridge E) : streams.Onward bridge streams bridge :=
  ⟨.refl _, fun hs => ⟨_, hs, .refl _⟩, id, .inl⟩

theorem isReadable (h : streams.Onward bridge streams' bridge') (hr : streams'.IsReadable bridge') :
    streams.IsReadable bridge := by
  obtain ⟨source', hs', hstate⟩ := hr
  rw [h.keeps.readable] at hs'
  obtain ⟨source, hs, hproceeds⟩ := h.source hs'
  refine ⟨source, hs, ?_⟩
  by_contra hended
  exact hended ((hproceeds.state hended).symm.trans hstate)

theorem trans (h : streams.Onward bridge streams' bridge')
    (h' : streams'.Onward bridge' streams'' bridge'') :
    streams.Onward bridge streams'' bridge'' where
  keeps := h.keeps.trans h'.keeps
  source hs'' := by
    rw [← h.keeps.readable] at hs''
    obtain ⟨source', hs', hproceeds'⟩ := h'.source hs''
    rw [h.keeps.readable] at hs'
    obtain ⟨source, hs, hproceeds⟩ := h.source hs'
    exact ⟨source, hs, hproceeds.trans hproceeds'⟩
  accepts ha := by
    rw [← h.keeps.writable] at ha
    exact h.accepts (h.keeps.writable ▸ h'.accepts ha)
  marked hmarked := by
    rcases h'.marked hmarked with hbefore | ha | hr
    · exact h.marked hbefore
    · exact .inr (.inl (h.accepts (h.keeps.writable ▸ ha)))
    · exact .inr (.inr (h.isReadable hr))

/-- Nothing has become of a bridge and its halves. -/
theorem of_same
    (hs : ∀ {source'}, streams'.source? bridge.readable = some source' →
      ∃ source, streams.source? bridge.readable = some source ∧ source.Same source')
    (hk : ∀ {sink'}, streams'.sink? bridge.writable = some sink' →
      ∃ sink, streams.sink? bridge.writable = some sink ∧ sink.Same sink') :
    streams.Onward bridge streams' bridge where
  keeps := .refl _
  source hs' := by
    obtain ⟨source, hfound, hsame⟩ := hs hs'
    exact ⟨source, hfound, hsame.controller ▸ .refl _⟩
  accepts := by
    rintro ⟨sink', hk', hw⟩
    obtain ⟨sink, hfound, hsame⟩ := hk hk'
    exact ⟨sink, hfound, hsame.controller ▸ hw⟩
  marked := .inl

end Onward

/-- Nothing more has failed, and nothing that is still fed has ended. -/
theorem TiesHalves.kept {source source' : Source E} (h : streams.TiesHalves bridge source)
    (hkeeps : bridge.Keeps bridge')
    (haccepts : streams'.Accepts bridge.writable → streams.Accepts bridge.writable)
    (hfailed : source'.controller.HasFailed → source.controller.HasFailed)
    (hopen : source.controller.IsOpen → source'.controller.IsOpen) :
    streams'.TiesHalves bridge' source' where
  marked hf := hkeeps.errored (h.marked (hfailed hf))
  opened ha := hopen (h.opened (haccepts (hkeeps.writable ▸ ha)))

/-- One source is changed, which has neither failed nor ended by that. -/
theorem TiesHalves.kept_of_set {source source' found changed : Source E} {id : ReadableId}
    (h : streams.TiesHalves bridge source) (hkeeps : bridge.Keeps bridge')
    (haccepts : streams'.Accepts bridge.writable → streams.Accepts bridge.writable)
    (hlives : streams.source? bridge.readable = some source)
    (hlives' : (streams.setSource id changed).source? bridge.readable = some source')
    (hfound : streams.source? id = some found)
    (hfailed : changed.controller.HasFailed → found.controller.HasFailed)
    (hopen : found.controller.IsOpen → changed.controller.IsOpen) :
    streams'.TiesHalves bridge' source' := by
  rw [source?_setSource] at hlives'
  split at hlives'
  · next hid =>
    subst hid
    rw [hfound] at hlives'
    cases hfound.symm.trans hlives
    cases hlives'
    exact h.kept hkeeps haccepts hfailed hopen
  · cases hlives'.symm.trans hlives
    exact h.kept hkeeps haccepts (fun hf => hf) fun hopen => hopen

/-- The transform streams were there before, and nothing has become of them. -/
theorem Tied.of_same (h : streams.Tied)
    (hb : ∀ {name bridge}, streams'.bridge? name = some bridge →
      streams.bridge? name = some bridge ∧
        (∀ {source'}, streams'.source? bridge.readable = some source' →
          ∃ source, streams.source? bridge.readable = some source ∧ source.Same source') ∧
        ∀ {sink'}, streams'.sink? bridge.writable = some sink' →
          ∃ sink, streams.sink? bridge.writable = some sink ∧ sink.Same sink') :
    streams'.Tied := fun _ _ _ hspans => by
  obtain ⟨hbefore, hsource, hsink⟩ := hb hspans.joins
  obtain ⟨source, hs, hsame⟩ := hsource hspans.lives
  have honward := Onward.of_same hsource hsink
  have hties := h _ _ _ ⟨hbefore, hs⟩
  refine hties.kept (.refl _) honward.accepts (fun hf => ?_) fun hopen => ?_
  · rwa [hsame.controller] at hf
  · rwa [hsame.controller]

end Registry

namespace Session

variable {s t : Session H E} {mark : UInt64} {name : BridgeId} {bridge bridge' : Bridge E}
variable {source source' : Source E}

/-! ### What a transformer leaves -/

/-- The bridge is marked if the transformer has failed the stream. -/
theorem marked_transformed {worked : GuestResult E × TransformDesk}
    (hb : s.streams.bridge? name = some bridge)
    (hfails : bridgeFails worked.1.1 worked.2 = true)
    (hb' : (transformed bridge worked s name source).streams.bridge? name = some bridge') :
    bridge'.errored = true := by
  have hfed : (fed bridge worked s source).streams.bridge? name = some bridge := hb
  have hmarked : (marked bridge worked (fed bridge worked s source) name).streams.bridge? name =
      some { bridge with errored := true } := by
    rw [marked, if_pos hfails]
    simp [setBridge, Registry.bridge?_setBridge, hfed]
  have hspread : (transformed bridge worked s name source).streams.bridge? name =
      (marked bridge worked (fed bridge worked s source) name).streams.bridge? name := by
    unfold transformed spread
    split
    · rw [streams_mapStreams, Registry.bridge?_modifySink]
    · rfl
  cases hb'.symm.trans (hspread.trans hmarked)
  rfl

section Deeds

variable [Host H]

/-! ### What may mark a bridge -/

/-- A bridge that work on a sink may mark belongs to a sink that takes writes. -/
theorem marked_of_sink (hc : s.streams.Composed) {w : WritableId}
    (ht : ChangesWithin (s.streams.sinkReach w) s t) (hw : t = s ∨ s.streams.Accepts w)
    (hb : s.streams.bridge? name = some bridge) (hb' : t.streams.bridge? name = some bridge')
    (hmarked : bridge'.errored = true) :
    bridge.errored = true ∨ s.streams.Accepts bridge.writable := by
  by_cases hm : name ∈ (s.streams.sinkReach w).bridges
  · rcases hw with rfl | ha
    · cases hb.symm.trans hb'
      exact .inl hmarked
    · exact .inr (hc.writable_of_mem hb hm ▸ ha)
  · cases hb.symm.trans ((ht.bridge?_outside hm).symm.trans hb')
    exact .inl hmarked

/-- A bridge is marked while its writable half takes writes, or its readable half is readable. -/
theorem Deed.marked {made : List (WritableId × Bytes)} (hd : Deed s made t)
    (hc : s.streams.Composed) (hb : s.streams.bridge? name = some bridge)
    (hb' : t.streams.bridge? name = some bridge') (hmarked : bridge'.errored = true) :
    bridge.errored = true ∨ s.streams.Accepts bridge.writable ∨ s.streams.IsReadable bridge := by
  have hsame : t.streams.bridge? name = s.streams.bridge? name →
      bridge.errored = true := fun he => by
    cases hb.symm.trans (he.symm.trans hb')
    exact hmarked
  cases hd with
  | @read fuel other source r hs hn hr =>
    have hp := hc.native hs hn
    refine .inl (hsame ?_)
    rcases revised_readUnchecked hs hn hp (hc.notAsked hs hp) hr with
      ⟨source', -, new, -, he⟩ | ⟨outcome, source', host, env, -, ⟨new, -, he⟩,
        -⟩ <;> rw [he] <;> rfl
  | disturb | ask | beginPull | endPull | drive => exact .inl (hsame rfl)
  | take hs =>
    refine .inl (hsame ?_)
    rw [exec_takeReady hs]
    simp
  | @request other asked hasked =>
    rw [setBridge, streams_mapStreams, Registry.bridge?_setBridge] at hb'
    split at hb'
    · next he =>
      subst he
      rw [hasked] at hb'
      cases hb'
      cases hb.symm.trans hasked
      exact .inl hmarked
    · cases hb.symm.trans hb'
      exact .inl hmarked
  | cancel r reason =>
    by_cases hm : name ∈ (s.streams.sourceReach r).bridges
    · have he := hc.readable_of_mem hb hm
      rcases cancelUnchecked_cases hc r reason with ⟨-, heq⟩ |
        ⟨source, hs, ⟨-, heq⟩ | ⟨hstate, -, -⟩⟩
      · exact .inl (hsame (by rw [heq]))
      · exact .inl (hsame (by rw [heq]; rfl))
      · exact .inr (.inr ⟨source, he ▸ hs, hstate⟩)
    · exact .inl (hsame ((changesWithin_cancelUnchecked .refl reason s .refl).bridge?_outside hm))
  | @write w token chunk htakes =>
    obtain ⟨sink, hk, rfl, hw, -⟩ := htakes
    rw [exec_write_of_lock hk] at hb'
    exact (marked_of_sink hc (changesWithin_writeUnchecked .refl chunk s .refl)
      (.inr ⟨sink, hk, hw⟩) hb hb' hmarked).imp_right .inl
  | refuse chunk hrefused =>
    obtain ⟨error, hwrite⟩ := exec_write_of_refused chunk hrefused
    exact .inl (hsame (by rw [hwrite]))
  | close w =>
    refine (marked_of_sink hc (changesWithin_closeUnchecked .refl s .refl)
      ?_ hb hb' hmarked).imp_right .inl
    rcases closeUnchecked_cases hc w with heq | ⟨sink, -, -, hk, hw, -⟩
    · exact .inl heq
    · exact .inr ⟨sink, hk, hw⟩
  | abort w reason =>
    refine (marked_of_sink hc (changesWithin_abortUnchecked .refl reason s .refl) ?_ hb hb'
      hmarked).imp_right .inl
    rcases abortUnchecked_cases hc w reason with heq | ⟨sink, -, -, hk, hw, -⟩
    · exact .inl heq
    · exact .inr ⟨sink, hk, hw⟩
  | finish id state =>
    refine .inl (hsame ?_)
    rw [pipeFinished, streams_mapStreams, Registry.bridge?_finishPipe]

/-! ### What ends or fails a half -/

omit [Host H] in
/-- A transformer works on a readable half that takes chunks. -/
theorem exec_withTransformer_of_open (hspans : s.streams.SpansBridge name bridge source)
    (hopen : source.controller.IsOpen) (work : TransformWork E) :
    ∃ outcome, exec (withTransformer name work) s = (outcome, transformed bridge
      (work bridge.transformer s.env { controller := source.controller }) s name source) := by
  obtain ⟨outcome, t, hexec, -, ⟨⟨error, hfailed⟩, -⟩ | ⟨-, rfl⟩⟩ :=
    halves_withTransformer work hspans
  · cases hopen.state.symm.trans hfailed
  · exact ⟨outcome, hexec⟩

section Struck

variable {w : WritableId} {sink : Sink E}
variable (hc : s.streams.Composed) (hspans : s.streams.SpansBridge name bridge source)
variable (hk : s.streams.sink? bridge.writable = some sink) (hw : sink.controller.state = .writable)
variable (hback : sink.backing = .transform name)
include hc hspans hk hw hback

/-- A write tells bridge and writable half of what the transformer does. -/
theorem tiesHalves_write (hopen : source.controller.IsOpen) (chunk : Bytes)
    (hspans' : (exec (writeUnchecked bridge.writable chunk) s).2.streams.SpansBridge name
      bridge' source')
    (hkeeps : bridge.Keeps bridge') :
    (exec (writeUnchecked bridge.writable chunk) s).2.streams.TiesHalves bridge' source' := by
  obtain ⟨outcome, t, last, hwork, hlast, hwrite⟩ :=
    exec_writeUnchecked_transform hc hk hw hback hspans.joins chunk
  have hduring : (setBridge name { bridge with pullRequested := false }
      (setSink bridge.writable sink.working s)).streams.sink? bridge.writable =
        some sink.working := by
    simp [setBridge, Registry.sink?_setSink, hk]
  have hforgot : (setBridge name { bridge with pullRequested := false }
      (setSink bridge.writable sink.working s)).streams.SpansBridge name
        { bridge with pullRequested := false } source :=
    ⟨by simp [setBridge, Registry.bridge?_setBridge, hspans.joins], hspans.lives⟩
  obtain ⟨outcome', hwork'⟩ := exec_withTransformer_of_open hforgot hopen (.transform chunk)
  cases hwork.symm.trans hwork'
  rw [hwrite] at hspans' ⊢
  obtain ⟨hb', hs'⟩ := hspans'
  rw [hkeeps.readable] at hs'
  cases hs'.symm.trans (lives_transformed hforgot.lives)
  refine ⟨fun hfailed => ?_, fun ha => ?_⟩
  · refine marked_transformed hforgot.joins ?_ hb'
    refine TransformWork.marksBridge_transform chunk bridge.transformer s.env
      source.controller ?_ hfailed
    rintro ⟨error, herror⟩
    cases hopen.state.symm.trans herror
  · by_contra hended
    -- the writable half has been given an error
    obtain ⟨final, hfinal, hstill⟩ := ha
    obtain ⟨error, hfault⟩ :=
      TransformWork.spreadsEnds_transform chunk bridge.transformer s.env
        source.controller hopen hended
    cases hlast.symm.trans
      (sink?_transformed_of_fault name { bridge with pullRequested := false } source
      hfault hduring hw)
    rw [hkeeps.writable, streams_setSink, Registry.sink?_setSink, if_pos rfl, streams_note,
      hlast] at hfinal
    cases hfinal
    exact Sink.state_rested (Sink.state_failing _ error) outcome hstill

/-- The end of the writable half is the end of the readable half, which may fail at that. -/
theorem tiesHalves_close (hopen : source.controller.IsOpen)
    (hspans' : (exec (closeUnchecked bridge.writable) s).2.streams.SpansBridge name bridge' source')
    (hkeeps : bridge.Keeps bridge')
    (hrefuses : ¬ (exec (closeUnchecked bridge.writable) s).2.streams.Accepts bridge.writable) :
    (exec (closeUnchecked bridge.writable) s).2.streams.TiesHalves bridge' source' := by
  refine ⟨fun hfailed => ?_, fun ha => ?_⟩
  swap
  · rw [hkeeps.writable] at ha
    exact absurd ha hrefuses
  obtain ⟨outcome, t, hwork, hclose⟩ := exec_closeUnchecked_transform hc hk hw hback
  have hduring : (setSink bridge.writable (sink.inState .closing).working s).streams.SpansBridge
    name bridge
      source := ⟨hspans.joins, hspans.lives⟩
  obtain ⟨outcome', hwork'⟩ := exec_withTransformer_of_open hduring hopen .flush
  cases hwork.symm.trans hwork'
  rw [hclose] at hspans'
  obtain ⟨hb', hs'⟩ := hspans'
  rw [hkeeps.readable] at hs'
  cases hs'.symm.trans (lives_transformed hduring.lives)
  refine marked_transformed hduring.joins ?_ hb'
  refine TransformWork.marksBridge_flush bridge.transformer s.env source.controller ?_ hfailed
  rintro ⟨error, herror⟩
  cases hopen.state.symm.trans herror

/-- An abort marks the bridge. -/
theorem marked_abort (reason : Option String)
    (hb' : (exec (abortUnchecked bridge.writable reason) s).2.streams.bridge? name = some bridge') :
    bridge'.errored = true := by
  have hduring : (setSink bridge.writable (sink.failing .aborted) s).streams.sink? bridge.writable =
      some (sink.failing .aborted) := by simp [Registry.sink?_setSink, hk]
  rw [exec_abortUnchecked_of_idle hk (hc.idle hk) hw, exec_noting,
    exec_abortAlgorithm_transform reason hduring hback hspans.joins] at hb'
  simp [setBridge, Registry.bridge?_setBridge, hspans.joins] at hb'
  exact hb' ▸ rfl

end Struck

/-- A cancellation marks the bridge and fails the writable half. -/
theorem tiesHalves_cancel (hspans : s.streams.SpansBridge name bridge source)
    (hback : source.backing = .transform name) (hstate : source.controller.state = .readable)
    (hidle : source.canceled = false) (reason : Option String)
    (hspans' : (exec (cancelUnchecked bridge.readable reason) s).2.streams.SpansBridge name
      bridge' source') :
    (exec (cancelUnchecked bridge.readable reason) s).2.streams.TiesHalves bridge' source' := by
  have hduring : (setSource bridge.readable (canceledSource source) s).streams.source?
    bridge.readable =
      some (canceledSource source) := by simp [Registry.source?_setSource, hspans.lives]
  have hcancel : exec (cancelUnchecked bridge.readable reason) s =
      exec (noting (.canceled bridge.readable) (cancelAlgorithm bridge.readable reason))
        (setSource bridge.readable (canceledSource source) s) := by
    simp [cancelUnchecked, exec_bind, hspans.lives, hstate, hidle, canceledSource]
  have hkept : (canceledSource source).backing = .transform name := hback
  obtain ⟨hb', -⟩ := hspans'
  rw [hcancel, exec_noting, exec_cancelAlgorithm_transform hduring hkept hspans.joins] at hb' ⊢
  simp [setBridge, Registry.bridge?_setBridge, hspans.joins] at hb'
  subst hb'
  refine ⟨fun _ => rfl, fun ha => ?_⟩
  obtain ⟨last, hk, hw⟩ := ha
  simp only [streams_note, streams_mapStreams, Registry.sink?_modifySink, if_pos] at hk
  obtain ⟨found, -, rfl⟩ := Option.map_eq_some_iff.mp hk
  exact absurd hw (Sink.state_failing found .canceled)

/-! ### A transform stream before a change and after it -/

/-- A transform stream whose readable half outlives a change. It has been tied to it before. -/
structure Outlives (s : Session H E) (name : BridgeId) (bridge : Bridge E) (source : Source E)
    (t : Session H E) (bridge' : Bridge E) (source' : Source E) : Prop where
  before : s.streams.SpansBridge name bridge source
  after : t.streams.SpansBridge name bridge' source'
  keeps : bridge.Keeps bridge'
  accepts : t.streams.Accepts bridge.writable → s.streams.Accepts bridge.writable
  tiesHalves : s.streams.TiesHalves bridge source
  transform : source.backing = .transform name

namespace Outlives

omit [Host H] in
theorem lives (h : Outlives s name bridge source t bridge' source') :
    t.streams.source? bridge.readable = some source' := h.keeps.readable ▸ h.after.lives

omit [Host H] in
/-- The controller of the readable half is as it was. -/
theorem tiesHalves_of_controller (h : Outlives s name bridge source t bridge' source')
    (he : source'.controller = source.controller) : t.streams.TiesHalves bridge' source' :=
  h.tiesHalves.kept h.keeps h.accepts (he ▸ id) (he ▸ id)

omit [Host H] in
/-- The readable half is as it was. -/
theorem tiesHalves_of_source (h : Outlives s name bridge source t bridge' source')
    (he : t.streams.source? bridge.readable = s.streams.source? bridge.readable) :
    t.streams.TiesHalves bridge' source' := by
  cases h.lives.symm.trans (he.trans h.before.lives)
  exact h.tiesHalves_of_controller rfl

omit [Host H] in
/-- One source is changed, be it the readable half or another, which has neither failed nor ended by
that. -/
theorem tiesHalves_of_set (h : Outlives s name bridge source t bridge' source') {id : ReadableId}
    {found changed : Source E} (hfound : s.streams.source? id = some found)
    (hchanged : ∀ other, t.streams.source? other = (s.streams.setSource id changed).source? other)
    (hfailed : changed.controller.HasFailed → found.controller.HasFailed)
    (hopen : found.controller.IsOpen → changed.controller.IsOpen) :
    t.streams.TiesHalves bridge' source' :=
  h.tiesHalves.kept_of_set h.keeps h.accepts h.before.lives ((hchanged _).symm.trans h.lives)
    hfound hfailed hopen

variable (hc : s.streams.Composed)
include hc

/-- Work is done on the sink of another stream. -/
theorem tiesHalves_of_changesWithin (hm : s.streams.Mutual)
    (h : Outlives s name bridge source t bridge' source') {w : WritableId}
    (ht : ChangesWithin (s.streams.sinkReach w) s t) (hne : bridge.writable ≠ w) :
    t.streams.TiesHalves bridge' source' :=
  h.tiesHalves_of_source (ht.source?_outside (Registry.outside_sinkReach hc hm h.before hne).2)

/-- A source is read that is over a host body or a guest. -/
theorem tiesHalves_of_read {fuel : ℕ} {id : ReadableId} {found : Source E}
    {r : Except StreamError ReadOutcome × Session H E} (hs : s.streams.source? id = some found)
    (hn : ¬ found.IsTransform) (hr : attempt (readUnchecked fuel id) s = some r)
    (h : Outlives s name bridge source r.2 bridge' source') :
    r.2.streams.TiesHalves bridge' source' := by
  have hp := hc.native hs hn
  have hne : bridge.readable ≠ id := by
    rintro rfl
    cases hs.symm.trans h.before.lives
    exact hn ⟨name, h.transform⟩
  refine h.tiesHalves_of_source ?_
  rcases revised_readUnchecked hs hn hp (hc.notAsked hs hp) hr with
    ⟨_, -, hrev⟩ | ⟨_, _, _, _, -, hrev, -⟩ <;> exact hrev.source?_other hne

omit [Host H] hc in
/-- What is ready is taken, be it from the readable half or elsewhere. -/
theorem tiesHalves_of_take {id : ReadableId} {found : Source E}
    (hs : s.streams.source? id = some found)
    (h : Outlives s name bridge source (exec (takeReady id) s).2 bridge' source') :
    (exec (takeReady id) s).2.streams.TiesHalves bridge' source' := by
  have htaken : ∀ other, (exec (takeReady id) s).2.streams.source? other = (s.streams.setSource id
      { found with controller := found.controller.takeReady.2 }).source? other := fun other => by
    rw [exec_takeReady hs]
    simp
  exact h.tiesHalves_of_set hs htaken ReadableController.hasFailed_of_takeReady
    fun hopen => hopen.taken

/-- A stream is cancelled, be it the readable half or another. -/
theorem tiesHalves_of_cancel {id : ReadableId} {reason : Option String}
    (h : Outlives s name bridge source (exec (cancelUnchecked id reason) s).2 bridge' source') :
    (exec (cancelUnchecked id reason) s).2.streams.TiesHalves bridge' source' := by
  by_cases hne : bridge.readable = id
  · subst hne
    rcases cancelUnchecked_cases hc bridge.readable reason with
      ⟨-, heq⟩ | ⟨found, hfound, ⟨-, heq⟩ | ⟨hstate, hidle, -⟩⟩
    · exact h.tiesHalves_of_source (by rw [heq])
    · have hdisturbed : ∀ other, (exec (cancelUnchecked bridge.readable reason) s).2.streams.source?
          other = (s.streams.setSource bridge.readable
            { found with disturbed := true }).source? other := fun _ => by
        rw [heq]
        rfl
      exact h.tiesHalves_of_set hfound hdisturbed (fun hf => hf) fun hopen => hopen
    · cases h.before.lives.symm.trans hfound
      exact tiesHalves_cancel h.before h.transform hstate hidle reason h.after
  · exact h.tiesHalves_of_source
      ((changesWithin_cancelUnchecked .refl reason s .refl).source?_outside
      (Registry.outside_sourceReach hc h.before hne).2)

variable (hcouples : s.streams.Couples mark)
include hcouples

omit [Host H] hc in
theorem backing (h : Outlives s name bridge source t bridge' source') {sink : Sink E}
    (hk : s.streams.sink? bridge.writable = some sink) : sink.backing = .transform name :=
  (hcouples.paired h.before.lives h.transform h.before.joins hk).1

variable (hm : s.streams.Mutual)
include hm

/-- The writable half takes a write, or another sink does. -/
theorem tiesHalves_of_write {w : WritableId} {sink : Sink E} {chunk : Bytes}
    (hk : s.streams.sink? w = some sink) (hw : sink.controller.state = .writable)
    (h : Outlives s name bridge source (exec (writeUnchecked w chunk) s).2 bridge' source') :
    (exec (writeUnchecked w chunk) s).2.streams.TiesHalves bridge' source' := by
  by_cases hne : bridge.writable = w
  · subst hne
    exact tiesHalves_write hc h.before hk hw (h.backing hcouples hk)
      (h.tiesHalves.opened ⟨sink, hk, hw⟩) chunk
      h.after h.keeps
  · exact h.tiesHalves_of_changesWithin hc hm (changesWithin_writeUnchecked .refl chunk s .refl) hne

/-- The writable half is closed, or another sink is. -/
theorem tiesHalves_of_close {w : WritableId}
    (h : Outlives s name bridge source (exec (closeUnchecked w) s).2 bridge' source') :
    (exec (closeUnchecked w) s).2.streams.TiesHalves bridge' source' := by
  by_cases hne : bridge.writable = w
  · subst hne
    rcases closeUnchecked_cases hc bridge.writable with heq |
      ⟨sink, -, sink', hk, hw, -, -, hk', hended⟩
    · exact h.tiesHalves_of_source (by rw [heq])
    · refine tiesHalves_close hc h.before hk hw (h.backing hcouples hk)
        (h.tiesHalves.opened ⟨sink, hk, hw⟩)
        h.after h.keeps ?_
      rw [Registry.accepts_iff hk']
      intro hstill
      simp [hstill, WritableState.isTerminal] at hended
  · exact h.tiesHalves_of_changesWithin hc hm (changesWithin_closeUnchecked .refl s .refl) hne

/-- The writable half is aborted, or another sink is. -/
theorem tiesHalves_of_abort {w : WritableId} {reason : Option String}
    (h : Outlives s name bridge source (exec (abortUnchecked w reason) s).2 bridge' source') :
    (exec (abortUnchecked w reason) s).2.streams.TiesHalves bridge' source' := by
  by_cases hne : bridge.writable = w
  · subst hne
    rcases abortUnchecked_cases hc bridge.writable reason with
      heq | ⟨sink, -, sink', hk, hw, -, -, hk', hended⟩
    · exact h.tiesHalves_of_source (by rw [heq])
    · refine ⟨fun _ => marked_abort hc h.before hk hw (h.backing hcouples hk) reason h.after.joins,
        fun ha => ?_⟩
      rw [h.keeps.writable, Registry.accepts_iff hk'] at ha
      simp [ha, WritableState.isTerminal] at hended
  · exact h.tiesHalves_of_changesWithin hc hm (changesWithin_abortUnchecked .refl reason s .refl)
      hne

end Outlives

/-- Every deed leaves bridges tied to their halves. -/
theorem Deed.tied {made : List (WritableId × Bytes)} (hd : Deed s made t) (hc : s.streams.Composed)
    (hcouples : s.streams.Couples mark) (hm : s.streams.Mutual) (h : s.streams.Tied) :
    t.streams.Tied := fun name bridge' source' hspans' => by
  obtain ⟨bridge, source, hspans, hkeeps, -⟩ := hd.spansBridge_before hc hspans'
  have ho : Outlives s name bridge source t bridge' source' :=
    ⟨hspans, hspans', hkeeps, hd.accepts hc, h _ _ _ hspans, hm _ _ _ hspans⟩
  cases hd with
  | read hs hn hr => exact ho.tiesHalves_of_read hc hs hn hr
  | disturb hs | ask hs | beginPull hs | endPull hs =>
    exact ho.tiesHalves_of_set hs (fun _ => rfl) (fun hf => hf) fun hopen => hopen
  | take hs => exact ho.tiesHalves_of_take hs
  | request | drive => exact ho.tiesHalves_of_source rfl
  | cancel id reason => exact ho.tiesHalves_of_cancel hc
  | write chunk htakes =>
    obtain ⟨sink, hk, rfl, hw, -⟩ := htakes
    rw [exec_write_of_lock hk] at ho ⊢
    exact ho.tiesHalves_of_write hc hcouples hm hk hw
  | refuse chunk hrefused =>
    obtain ⟨error, hwrite⟩ := exec_write_of_refused chunk hrefused
    exact ho.tiesHalves_of_source (by rw [hwrite])
  | close w => exact ho.tiesHalves_of_close hc hcouples hm
  | abort w reason => exact ho.tiesHalves_of_abort hc hcouples hm
  | finish id state =>
    obtain ⟨found, hfound, he⟩ := controller_pipeFinished id state s hspans.lives
    cases ho.lives.symm.trans hfound
    exact ho.tiesHalves_of_controller he

/-- By induction on the deeds. -/
theorem Course.tied {made : List (WritableId × Bytes)} (h : Course s made t)
    (hc : s.streams.Composed) (hcouples : s.streams.Couples mark) (hm : s.streams.Mutual)
    (htied : s.streams.Tied) :
    t.streams.Tied := by
  induction h with
  | refl => exact htied
  | step hbefore hdeed ih =>
    exact hdeed.tied (hbefore.composed hc) (hbefore.couples hc hcouples) (hbefore.mutual hc hm) ih

/-! ### What becomes of a bridge -/

/-- What one deed makes of a bridge. -/
theorem Deed.onward {made : List (WritableId × Bytes)} (hd : Deed s made t)
    (hc : s.streams.Composed) (hb : s.streams.bridge? name = some bridge) :
    ∃ bridge', t.streams.bridge? name = some bridge' ∧
    s.streams.Onward bridge t.streams bridge' := by
  have hadvances := hd.advancesTo hc
  obtain ⟨bridge', hb', hkeeps⟩ := SlotMap.rel_some_left (hb ▸ hadvances.bridge name)
  refine ⟨bridge', hb', hkeeps, fun hs' => ?_, hd.accepts hc, hd.marked hc hb hb'⟩
  obtain ⟨source, demands, hs, hproceeds⟩ := hadvances.source_before hs'
  exact ⟨source, hs, (hc.source_proceedsTo hs hproceeds).1.controller⟩

/-- By induction on the deeds. -/
theorem Course.onward {made : List (WritableId × Bytes)} (h : Course s made t)
    (hc : s.streams.Composed) (hb : s.streams.bridge? name = some bridge) :
    ∃ bridge', t.streams.bridge? name = some bridge' ∧
    s.streams.Onward bridge t.streams bridge' := by
  induction h with
  | refl => exact ⟨bridge, hb, .refl _ _⟩
  | step hbefore hdeed ih =>
    obtain ⟨between, hbetween, honward⟩ := ih
    obtain ⟨bridge', hb', honward'⟩ := hdeed.onward (hbefore.composed hc) hbetween
    exact ⟨bridge', hb', honward.trans honward'⟩

end Deeds

end Session

end EdgeStreams
