import EdgeStreams.Proofs.Client.Sources
import EdgeStreams.Proofs.Session.Operating

/-!
# Names of sinks

No operation changes the settings. A name that a sink has been given is not given to another one
after the sink has been taken out, unless the generation of its slot runs over, and generations
change only where entries are taken out.

## Main definitions

- `Registry.SameNames`: no sink has been made or taken out
- `Registry.AddsNames`: no sink has been taken out
- `Registry.KeepsNames`: the names of sinks remain given out

## Main statements

- `StreamOp.addsNames`: every operation that takes out no entry
- `Session.OperationStep.keepsNames`: every operation
- `Client.LeadsTo.config_eq`: the settings in every state that clients can reach
-/

namespace EdgeStreams

variable {H E : Type}

namespace Registry

/-- The settings are as they were, and no sink has been made or taken out. -/
structure SameNames (streams streams' : Registry E) : Prop where
  config : streams'.config = streams.config
  outline : streams'.sinks.outline = streams.sinks.outline

/-- The settings are as they were, and no sink has been taken out. -/
structure AddsNames (streams streams' : Registry E) : Prop where
  config : streams'.config = streams.config
  issued : ∀ {key : SlotMap.Key}, streams.sinks.Issued key → streams'.sinks.Issued key
  ages : streams.sinks.Ages streams'.sinks

/-- The settings are as they were, and the names of sinks remain given out as long as no generation
has gone back. -/
structure KeepsNames (streams streams' : Registry E) : Prop where
  config : streams'.config = streams.config
  issued : ∀ {key : SlotMap.Key}, streams.sinks.Issued key → streams.sinks.Ages streams'.sinks →
    streams'.sinks.Issued key

variable {streams streams' streams'' : Registry E}

/-! ### Where no sink is made or taken out -/

namespace SameNames

theorem of_sinks (hconfig : streams'.config = streams.config)
    (hsinks : streams'.sinks = streams.sinks) :
    streams.SameNames streams' := ⟨hconfig, congrArg SlotMap.outline hsinks⟩

theorem refl (streams : Registry E) : streams.SameNames streams := ⟨rfl, rfl⟩

theorem trans (h : streams.SameNames streams') (h' : streams'.SameNames streams'') :
    streams.SameNames streams'' := ⟨h'.config.trans h.config, h'.outline.trans h.outline⟩

theorem modifySource (streams : Registry E) (id : ReadableId) (change : Source E → Source E) :
    streams.SameNames (streams.modifySource id change) := by
  refine .of_sinks (config_modifySource ..) ?_
  unfold Registry.modifySource
  split <;> rfl

theorem modifySink (streams : Registry E) (id : WritableId) (change : Sink E → Sink E) :
    streams.SameNames (streams.modifySink id change) := by
  refine ⟨config_modifySink .., ?_⟩
  unfold Registry.modifySink
  split
  · exact SlotMap.outline_set _ _ _
  · rfl

theorem releaseReader (streams : Registry E) (id : ReadableId) (token : ReaderToken) :
    streams.SameNames (quietly (Registry.releaseReader id token) streams) := by
  rw [quietly_releaseReader]
  repeat' split
  all_goals exact .of_sinks rfl rfl

theorem releaseWriter (streams : Registry E) (id : WritableId) (token : WriterToken) :
    streams.SameNames (quietly (Registry.releaseWriter id token) streams) := by
  rw [quietly_releaseWriter]
  repeat' split
  · exact ⟨rfl, SlotMap.outline_set _ _ _⟩
  · exact .refl streams
  · exact .refl streams

theorem getReader (streams : Registry E) (id : ReadableId) :
    streams.SameNames (exec (Registry.getReader id) streams).2 := by
  cases hs : streams.source? id with
  | none => simpa [Registry.getReader, exec_bind, hs] using refl streams
  | some source =>
    cases hl : source.readerLock with
    | some token => simpa [Registry.getReader, exec_bind, hs, hl] using refl streams
    | none =>
      rw [exec_getReader streams hs hl]
      exact .of_sinks rfl rfl

theorem getWriter (streams : Registry E) (id : WritableId) :
    streams.SameNames (exec (Registry.getWriter id) streams).2 := by
  cases hs : streams.sink? id with
  | none => simpa [Registry.getWriter, exec_bind, hs] using refl streams
  | some sink =>
    cases hl : sink.writerLock with
    | some token => simpa [Registry.getWriter, exec_bind, hs, hl] using refl streams
    | none =>
      rw [exec_getWriter streams hs hl]
      exact ⟨rfl, SlotMap.outline_set _ _ _⟩

theorem finishPipe (streams : Registry E) (id : PipeId) (state : PipeState) :
    streams.SameNames (streams.finishPipe id state) := by
  unfold Registry.finishPipe
  cases streams.pipe? id with
  | none => exact .refl streams
  | some pipe =>
    simp only
    split
    · refine SameNames.trans ?_ (modifySource _ _ _)
      refine SameNames.trans ?_ (releaseWriter _ _ _)
      refine SameNames.trans ?_ (releaseReader _ _ _)
      exact .of_sinks rfl rfl
    · exact .refl streams

theorem openPipe (streams : Registry E) (r : ReadableId) (w : WritableId) (options : PipeOptions) :
    streams.SameNames (exec (Registry.openPipe r w options) streams).2 := by
  rcases exec_openPipe_cases streams r w options with
    ⟨source, sink, -, -, hk, -, hopen⟩ | ⟨error, streams', hopen, hgives⟩
  · rw [hopen]
    exact ⟨rfl, SlotMap.outline_set _ _ _⟩
  · rw [hopen]
    cases hgives with
    | refused => exact .refl streams
    | unlocked hs hl =>
      refine SameNames.trans ?_ (releaseReader _ _ _)
      exact .of_sinks rfl rfl

theorem settleStart (stream : TransformStream) (settle : StartState → StartState)
    (streams : Registry E) : streams.SameNames (Session.settleStart stream settle streams) :=
  (modifySource _ _ _).trans (modifySink _ _ _)

theorem settleTransform (stream : TransformStream) (result : Except StreamError Unit)
    (streams : Registry E) : streams.SameNames (Session.settleTransform stream result streams) := by
  cases result with
  | ok => exact settleStart _ _ _
  | error error => exact (settleStart _ _ _).trans (modifySink _ _ _)

end SameNames

/-! ### Where sinks are made -/

namespace AddsNames

theorem of_same (h : streams.SameNames streams') : streams.AddsNames streams' where
  config := h.config
  issued hkey := hkey.of_outline h.outline
  ages := .of_outline h.outline

theorem andSame (h : streams.AddsNames streams') (h' : streams'.SameNames streams'') :
    streams.AddsNames streams'' where
  config := h'.config.trans h.config
  issued hkey := (h.issued hkey).of_outline h'.outline
  ages := h.ages.outline h'.outline

theorem addSink (wf : streams.WellFormed) (sink : Sink E) :
    streams.AddsNames (streams.addSink sink).2 where
  config := rfl
  issued hkey := hkey.insert wf.sinks sink
  ages := wf.sinks.ages_insert sink

theorem enterTransform (wf : streams.WellFormed) (transformer : Transformer E) :
    streams.AddsNames (Session.enterTransform transformer streams).2 := by
  rw [enterTransform_eq]
  exact ⟨rfl, fun hkey => hkey.insert wf.sinks _, wf.sinks.ages_insert _⟩

end AddsNames

/-! ### Where sinks are taken out -/

namespace KeepsNames

theorem of_adds (h : streams.AddsNames streams') : streams.KeepsNames streams' where
  config := h.config
  issued hkey _ := h.issued hkey

theorem sweep (streams : Registry E) : streams.KeepsNames streams.sweep.2 where
  config := rfl
  issued hkey hages := hkey.retain (fun _ sink => !(sink.released && sink.writerLock.isNone)) hages

theorem clear (streams : Registry E) : streams.KeepsNames streams.clear where
  config := rfl
  issued hkey hages := hkey.clear hages

end KeepsNames

end Registry

/-! ### Sessions -/

namespace Session

variable [Host H] {s t : Session H E}

theorem ChangesWithin.sameNames {f : Footprint} (h : ChangesWithin f s t) :
    s.streams.SameNames t.streams :=
  ⟨h.config_eq, h.outline_sinks⟩

/-- By induction on the moves. -/
theorem MovesTo.sameNames (h : MovesTo s t) : s.streams.SameNames t.streams := by
  induction h with
  | refl => exact .refl _
  | touch _ ht ih => exact ih.trans ht.sameNames
  | note _ _ ih => exact ih
  | drive _ _ _ ih => exact ih.trans (.of_sinks rfl rfl)
  | finish id _ _ ih => exact ih.trans (.finishPipe _ id _)

theorem addsNames_pipeTo {fuel : Nat} {source : ReadableId} {destination : WritableId}
    {options : PipeOptions} {r : Except StreamError PipeId × Session H E}
    (h : attempt (pipeTo fuel source destination options) s = some r) :
    s.streams.AddsNames r.2.streams :=
  .of_same ((Registry.SameNames.openPipe s.streams source destination options).trans
    (movesTo_pipeTo h).sameNames)

end Session

/-- An operation that takes out no entry takes out no sink. -/
theorem StreamOp.addsNames [Host H] {s t : Session H E} (wf : s.streams.WellFormed)
    {op : StreamOp E} {fuel : Nat} (h : op.after fuel s = some t) (hr : op.Retains) :
    s.streams.AddsNames t.streams := by
  cases effect_of_after h with
  | bodySource handle => exact .of_same (.of_sinks rfl rfl)
  | scriptSource guest highWaterMark =>
    rw [Session.streams_scriptSource]
    exact .of_same (.of_sinks rfl rfl)
  | bodySink handle => exact .addSink wf _
  | scriptSink guest => exact .addSink wf _
  | createTransform transformer =>
    obtain ⟨f, result, started, hstarted, hrun⟩ := Session.createTransform_run transformer s
    rw [hrun]
    exact (Registry.AddsNames.enterTransform wf transformer).andSame
      (hstarted.sameNames.trans (.settleTransform _ _ _))
  | setReadableOwner | releaseReadable => exact .of_same (.modifySource _ _ _)
  | setWritableOwner | releaseWritable => exact .of_same (.modifySink _ _ _)
  | releaseTransform stream =>
    exact .of_same ((Registry.SameNames.modifySource _ _ _).trans (.modifySink _ _ _))
  | movesTo hmoves => exact .of_same hmoves.sameNames
  | pipeTo hpipe => exact Session.addsNames_pipeTo hpipe
  | sweep | clear => exact hr.elim

namespace Session

theorem OperationStep.keepsNames [Host H] {s t : Session H E} (h : OperationStep s t)
    (wf : s.streams.WellFormed) :
    s.streams.KeepsNames t.streams := by
  cases h with
  | operate op fuel h =>
    by_cases hr : op.Retains
    · exact .of_adds (StreamOp.addsNames wf h hr)
    · cases op with
      | sweep => exact Option.some.inj h ▸ .sweep _
      | clear => exact Option.some.inj h ▸ .clear _
      | _ => exact absurd trivial hr
  | getReader id => exact .of_adds (.of_same (.getReader _ id))
  | getWriter id => exact .of_adds (.of_same (.getWriter _ id))
  | releaseReader id token => exact .of_adds (.of_same (.releaseReader _ id token))
  | releaseWriter id token => exact .of_adds (.of_same (.releaseWriter _ id token))
  | elsewhere host env nextOwner => exact .of_adds (.of_same (.refl _))

end Session

/-- The settings are what they were from the start. By induction on the operations. -/
theorem Client.LeadsTo.config_eq [Host H] {uses : H → List UInt32 → H → Prop}
    {allowed : Client H E → Client H E → Prop} {client later : Client H E}
    (h : LeadsTo uses allowed client later) (hr : client.session.Resting) :
    later.session.streams.config = client.session.streams.config := by
  induction h with
  | refl => rfl
  | step hbefore hstep _ ih =>
    exact (hstep.operationStep.keepsNames (hbefore.resting hr).wellFormed).config.trans ih

end EdgeStreams
