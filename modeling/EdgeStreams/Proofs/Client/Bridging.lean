import EdgeStreams.Host.Memory
import EdgeStreams.Proofs.Client.Lasting
import EdgeStreams.Proofs.Piping.Coupling
import EdgeStreams.Proofs.Piping.Tying

/-!
# Bridges only move forward, whatever clients do

A bridge is open until its readable half is ended, and then until that is read out; or it fails. It
never goes back. A bridge that has ended stays so, with one exception: where the readable half has
been taken out of the registry the bridge counts as ended, whether or not somebody still writes to
the writable half, and an abort of that half is reported as a failure.

## Main definitions

- `BridgeState.MayBecome`: the states that a bridge may come to from a state
- `Session.Joined`: what holds of bridges and their halves between two operations
- `Session.MovesOn`: what an operation makes of bridges

## Main statements

- `Session.OperationStep.movesOn`: every operation moves bridges on
- `Client.Calls.movesOn`: so do any calls
- `Client.bridges_move_forward`: the states of a bridge at any two times
- `Client.bridge_closed_under_writer`: the exception is met with
-/

namespace EdgeStreams

variable {H E : Type}

/-! ### States -/

/-- The states that a bridge may come to from a state. An ended bridge stays so, and so does a
failed one. -/
inductive BridgeState.MayBecome : BridgeState → BridgeState → Prop
  | stays (state : BridgeState) : MayBecome state state
  | leaves (state : BridgeState) : MayBecome .opened state
  | closes : MayBecome .readableClosing .readableClosed
  | fails : MayBecome .readableClosing .errored

namespace Registry

variable {streams streams' : Registry E} {id : BridgeId} {bridge bridge' : Bridge E}

section States

variable {state first second : BridgeState}

/-- A bridge that is tied to its readable half is reported as failed only if it is marked. -/
theorem Tied.bridgeState?_cases (h : streams.Tied) (hb : streams.bridge? id = some bridge)
    (hstate : streams.bridgeState? id = some state) :
    bridge.errored = true ∧ state = .errored ∨
    bridge.errored = false ∧
      (state = .readableClosed ∧ (∀ source, streams.source? bridge.readable = some source →
          source.controller.state = .closed) ∨
        ∃ source, streams.source? bridge.readable = some source ∧
          source.controller.state = .readable ∧
            (state = .opened ∧ source.controller.IsOpen ∨
              state = .readableClosing ∧ ¬ source.controller.IsOpen)) := by
  simp only [bridgeState?, hb, Option.map_some, Option.some.injEq] at hstate
  cases hmarked : bridge.errored with
  | true =>
    rw [if_pos hmarked] at hstate
    exact .inl ⟨rfl, hstate.symm⟩
  | false =>
    rw [hmarked, if_neg Bool.false_ne_true] at hstate
    refine .inr ⟨rfl, ?_⟩
    cases hs : streams.source? bridge.readable with
    | none =>
      simp only [hs] at hstate
      refine .inl ⟨hstate.symm, fun source hfound => ?_⟩
      cases hfound
    | some source =>
      simp only [hs] at hstate
      cases hsource : source.controller.state with
      | errored error =>
        cases hmarked.symm.trans ((h _ _ _ ⟨hb, hs⟩).marked ⟨error, hsource⟩)
      | closed =>
        simp only [hsource] at hstate
        refine .inl ⟨hstate.symm, fun found hfound => ?_⟩
        cases hfound
        exact hsource
      | readable =>
        simp only [hsource] at hstate
        refine .inr ⟨source, rfl, hsource, ?_⟩
        split at hstate
        · next hclose =>
          refine .inr ⟨hstate.symm, fun hopen => ?_⟩
          cases hclose.symm.trans hopen.close
        · next hclose => exact .inl ⟨hstate.symm, hsource, Bool.eq_false_iff.mpr hclose⟩

/-- A bridge counts as ended once its writable half takes no more writes, or its readable half is
gone. -/
theorem Tied.gone_of_closed (h : streams.Tied) (hb : streams.bridge? id = some bridge)
    (hstate : streams.bridgeState? id = some .readableClosed)
    (ha : streams.Accepts bridge.writable) :
    streams.source? bridge.readable = none := by
  rcases h.bridgeState?_cases hb hstate with ⟨-, ⟨⟩⟩ |
    ⟨-, ⟨-, hclosed⟩ | ⟨-, -, -, ⟨⟨⟩, -⟩ | ⟨⟨⟩, -⟩⟩⟩
  cases hs : streams.source? bridge.readable with
  | none => rfl
  | some source =>
    have hopen := (h _ _ _ ⟨hb, hs⟩).opened ha
    cases hopen.state.symm.trans (hclosed source hs)

/-- What the states of a bridge may be at two times. A bridge that counts as ended fails only if its
readable half was gone while its writable half still took writes. -/
theorem Onward.mayBecome (h : streams.Onward bridge streams' bridge') (htied : streams.Tied)
    (htied' : streams'.Tied) (hb : streams.bridge? id = some bridge)
    (hb' : streams'.bridge? id = some bridge') (hfirst : streams.bridgeState? id = some first)
    (hsecond : streams'.bridgeState? id = some second) :
    first.MayBecome second ∨ first = .readableClosed ∧ second = .errored ∧
      streams.source? bridge.readable = none ∧ streams.Accepts bridge.writable := by
  have hstates' := htied'.bridgeState?_cases hb' hsecond
  rw [h.keeps.readable] at hstates'
  rcases htied.bridgeState?_cases hb hfirst with
    ⟨hmarked, rfl⟩ | ⟨hunmarked, ⟨rfl, hclosed⟩ | ⟨source, hs, hreadable, ⟨rfl, -⟩ | ⟨rfl, hended⟩⟩⟩
  case inl =>
    rcases hstates' with ⟨-, rfl⟩ | ⟨hunmarked', -⟩
    · exact .inl (.stays _)
    · cases hunmarked'.symm.trans (h.keeps.errored hmarked)
  case inr.inr.inl => exact .inl (.leaves _)
  case inr.inl =>
    rcases hstates' with ⟨hmarked', rfl⟩ | ⟨-, ⟨rfl, -⟩ | ⟨source', hs', hreadable', -⟩⟩
    · rcases h.marked hmarked' with hmarked | ha | ⟨source, hs, hreadable⟩
      · cases hunmarked.symm.trans hmarked
      · exact .inr ⟨rfl, rfl, htied.gone_of_closed hb hfirst ha, ha⟩
      · cases hreadable.symm.trans (hclosed source hs)
    · exact .inl (.stays _)
    · -- what has ended is not readable again
      obtain ⟨source, hs, hproceeds⟩ := h.source hs'
      have hstate := hclosed source hs
      have hsame := hproceeds.state (hstate ▸ nofun)
      cases hreadable'.symm.trans (hsame.trans hstate)
  case inr.inr.inr =>
    rcases hstates' with ⟨-, rfl⟩ | ⟨-, ⟨rfl, -⟩ | ⟨source', hs', -, ⟨rfl, hopen⟩ | ⟨rfl, -⟩⟩⟩
    · exact .inl .fails
    · exact .inl .closes
    · -- a stream that has been ended is not fed again
      obtain ⟨found, hfound, hproceeds⟩ := h.source hs'
      cases hs.symm.trans hfound
      exact absurd hopen (hproceeds.not_open hended)
    · exact .inl (.stays _)

end States

/-- Nothing has become of any bridge or of its halves. -/
def Spares (streams streams' : Registry E) : Prop :=
  ∀ name bridge, streams.bridge? name = some bridge → streams'.bridge? name = some bridge ∧
    streams'.source? bridge.readable = streams.source? bridge.readable ∧
      streams'.sink? bridge.writable = streams.sink? bridge.writable

theorem Spares.onward (h : streams.Spares streams') {name : BridgeId} {bridge bridge' : Bridge E}
    (hb : streams.bridge? name = some bridge) (hb' : streams'.bridge? name = some bridge') :
    streams.Onward bridge streams' bridge' := by
  obtain ⟨hkept, hsource, hsink⟩ := h _ _ hb
  cases hkept.symm.trans hb'
  refine .of_same (fun {source} hs => ⟨source, hsource ▸ hs, .refl _⟩) fun {sink} hk => ?_
  exact ⟨sink, hsink ▸ hk, .refl _⟩

/-- What has been made is tied, and what was there before is still. -/
theorem Spares.tied (h : streams.Spares streams') (htied : streams.Tied)
    (hnew : ∀ {name bridge source}, streams.bridge? name = none →
      streams'.SpansBridge name bridge source →
      streams'.TiesHalves bridge source) : streams'.Tied := fun name bridge source hspans => by
  cases hb : streams.bridge? name with
  | none => exact hnew hb hspans
  | some old =>
    obtain ⟨hkept, hsource, -⟩ := h _ _ hb
    cases hkept.symm.trans hspans.joins
    have hbefore : streams.SpansBridge name bridge source := ⟨hb, hsource ▸ hspans.lives⟩
    exact (htied _ _ _ hbefore).kept (.refl _) (h.onward hb hspans.joins).accepts id id

theorem References.spares_addSource (h : streams.References) (wf : streams.WellFormed)
    (source : Source E) : streams.Spares (streams.addSource source).2 := fun _ bridge hb => by
  refine ⟨hb, ?_, rfl⟩
  have hkey : (streams.addSource source).1.key = streams.sources.nextKey := SlotMap.insert_fst ..
  rw [source?_addSource wf, if_neg]
  exact fun he => (h.bridge hb).1.ne_nextKey wf.sources ((congrArg EntryId.key he).trans hkey)

theorem References.spares_addSink (h : streams.References) (wf : streams.WellFormed)
    (sink : Sink E) : streams.Spares (streams.addSink sink).2 := fun _ bridge hb => by
  refine ⟨hb, rfl, ?_⟩
  have hkey : (streams.addSink sink).1.key = streams.sinks.nextKey := SlotMap.insert_fst ..
  rw [sink?_addSink wf, if_neg]
  exact fun he => (h.bridge hb).2.ne_nextKey wf.sinks ((congrArg EntryId.key he).trans hkey)

end Registry

namespace Session

variable {s t u : Session H E}

/-- What holds of bridges and their halves between two operations. -/
structure Joined (s : Session H E) : Prop where
  coupled : s.Coupled
  references : s.streams.References
  tied : s.streams.Tied

theorem Joined.mutual (h : s.Joined) : s.streams.Mutual := fun _ _ _ hspans =>
  h.references.readable hspans.joins hspans.lives

theorem joined_new (host : H) (env : E) (config : StreamConfig) :
    Joined { host, env, streams := .new config } where
  coupled := coupled_new host env config
  references := .new config
  tied _ _ _ hspans := by cases (SlotMap.get?_empty _).symm.trans hspans.joins

/-! ### New transform streams -/

section Transform

variable (h : s.Joined) (transformer : Transformer E)
include h

/-- The old transform streams are as they were. -/
theorem spares_createTransform :
    s.streams.Spares ((createTransform transformer : Step H E TransformStream) s).2.streams :=
  fun name bridge hb => by
    have wf := h.coupled.resting.wellFormed
    have hname : name ≠ (nextStream transformer s).bridge := by
      rintro rfl
      cases hb.symm.trans (Registry.none_enterTransform wf transformer).2.2
    have hreadable : bridge.readable ≠ (nextStream transformer s).readable := fun he => by
      refine (h.references.bridge hb).1.ne_nextKey wf.sources ((congrArg EntryId.key he).trans ?_)
      rw [nextStream, Registry.enterTransform_eq]
    have hwritable := h.coupled.ne_nextStream transformer hb
    rw [createTransform_eq wf, streams_mapStreams, streams_note]
    refine ⟨?_, ?_, ?_⟩
    · rw [bridge?_settleTransform, startedTransform, bridge?_transformed_other hname,
        Registry.bridge?_enterTransform wf, if_neg hname, hb]
    · rw [source?_startSettled wf, if_neg hreadable]
    · rw [sink?_settleTransform, if_neg hwritable,
        sink?_startedTransform_old wf transformer hwritable]

omit h in
/-- A start that has ended or failed the readable half leaves a writable half that takes no
writes. -/
theorem isOpen_newHalf (wf : s.streams.WellFormed)
    (ha : ((createTransform transformer : Step H E TransformStream) s).2.streams.Accepts
      (nextStream transformer s).writable) : (newHalf transformer s).controller.IsOpen := by
  by_contra hended
  obtain ⟨error, hfault⟩ : ∃ error, writableFault? (startWork transformer s).1.1
      (startWork transformer s).2 = some error :=
    TransformWork.spreadsEnds_start transformer s.env
      { highWaterMark := s.streams.config.transformHighWaterMark } ⟨rfl, rfl⟩ hended
  have hentered := (Registry.sink?_enterTransform wf transformer
    (nextStream transformer s).writable).trans (if_pos rfl)
  have hfailing := sink?_transformed_of_fault
    (s := { s with streams := (enterTransform transformer s.streams).2 })
      (nextStream transformer s).bridge
    (newBridge transformer s) (s.streams.newReadable (nextStream transformer s).bridge .pending)
    hfault hentered rfl
  obtain ⟨sink, hk, hw⟩ := ha
  rw [createTransform_eq wf, streams_mapStreams, streams_note, sink?_settleTransform,
    if_pos rfl] at hk
  obtain ⟨half, hhalf, rfl⟩ := Option.map_eq_some_iff.mp hk
  cases hhalf.symm.trans hfailing
  cases hresult : (startWork transformer s).1.1 with
  | ok =>
    rw [hresult] at hw
    exact Sink.state_failing _ error hw
  | error reason =>
    rw [hresult] at hw
    exact Sink.state_failing _ reason hw

/-- A new bridge is tied to its halves. -/
theorem tiesHalves_createTransform {name : BridgeId} {bridge : Bridge E} {source : Source E}
    (hnone : s.streams.bridge? name = none)
    (hspans : ((createTransform transformer : Step H E TransformStream) s).2.streams.SpansBridge
      name bridge source) :
    ((createTransform transformer : Step H E TransformStream) s).2.streams.TiesHalves
      bridge source := by
  have wf := h.coupled.resting.wellFormed
  obtain ⟨hb, hs⟩ := hspans
  rw [createTransform_eq wf, streams_mapStreams, streams_note, bridge?_settleTransform] at hb
  have hname : name = (nextStream transformer s).bridge := by
    by_contra hne
    rw [startedTransform, bridge?_transformed_other hne, Registry.bridge?_enterTransform wf,
      if_neg hne, hnone] at hb
    cases hb
  subst hname
  obtain ⟨found, hfound, hkeeps⟩ := bridge?_startedTransform_new wf transformer
  cases hfound.symm.trans hb
  have hreadable : bridge.readable = (nextStream transformer s).readable := hkeeps.readable
  rw [createTransform_eq wf, streams_mapStreams, streams_note, source?_startSettled wf,
    if_pos hreadable] at hs
  cases hs
  have hwritable : bridge.writable = (nextStream transformer s).writable := hkeeps.writable
  refine ⟨fun hfailed => ?_, fun ha => isOpen_newHalf transformer wf (hwritable ▸ ha)⟩
  have hentered := (Registry.bridge?_enterTransform wf transformer
    (nextStream transformer s).bridge).trans (if_pos rfl)
  refine marked_transformed hentered ?_ hb
  refine TransformWork.marksBridge_start transformer s.env
    { highWaterMark := s.streams.config.transformHighWaterMark } ?_ hfailed
  rintro ⟨error, herror⟩
  cases herror

end Transform

/-! ### Operations -/

section Operations

variable [Host H]

/-- Bridges and halves are joined still, names find what they found, and bridges have moved on. -/
structure MovesOn (s t : Session H E) : Prop where
  joined : t.Joined
  lasts : s.streams.Lasts t.streams
  onward : ∀ {name bridge bridge'}, s.streams.bridge? name = some bridge →
    t.streams.bridge? name = some bridge' → s.streams.Onward bridge t.streams bridge'

omit [Host H] in
theorem MovesOn.refl (h : s.Joined) : s.MovesOn s :=
  ⟨h, .refl _, fun hb hb' => by
    cases hb.symm.trans hb'
    exact .refl _ _⟩

omit [Host H] in
/-- A bridge that is there at the end was there in between. -/
theorem MovesOn.trans (h : s.MovesOn t) (h' : t.MovesOn u) : s.MovesOn u where
  joined := h'.joined
  lasts := h.lasts.trans h'.lasts
  onward {name bridge bridge'} hb hb' := by
    have hissued := h.lasts.bridges.issued (SlotMap.issued_of_get? hb)
    obtain ⟨between, hbetween, -⟩ := h'.lasts.bridges.back hissued hb'
    exact (h.onward hb hbetween).trans (h'.onward hbetween hb')

/-- What is done to streams that exist. -/
theorem movesOn_of_deeds {between : Session H E} (h : s.Joined) (hturnover : s.Turnover between)
    (hnone : s.streams.MakesNone between.streams) (hflows : between.FlowsTo t) :
    t.streams.Tied ∧ ∀ {name bridge bridge'}, s.streams.bridge? name = some bridge →
      t.streams.bridge? name = some bridge' → s.streams.Onward bridge t.streams bridge' := by
  have hc := hturnover.streams.composed h.coupled.resting.composed
  have hsource : ∀ {id source'}, between.streams.source? id = some source' →
      ∃ source, s.streams.source? id = some source ∧ source.Same source' :=
    fun hs' => hturnover.streams.source_before hnone hs'
  have hsink : ∀ {id sink'}, between.streams.sink? id = some sink' →
      ∃ sink, s.streams.sink? id = some sink ∧ sink.Same sink' :=
    fun hk' => hturnover.streams.sink_before hnone hk'
  have hm : between.streams.Mutual := fun _ _ _ hspans => by
    obtain ⟨source, hs, hsame⟩ := hsource hspans.lives
    exact hsame.backing.trans (h.mutual _ _ _ ⟨hnone.bridge hspans.joins, hs⟩)
  have htied : between.streams.Tied := h.tied.of_same fun hb => ⟨hnone.bridge hb, hsource, hsink⟩
  obtain ⟨made, hcourse⟩ := hflows.course
  refine ⟨hcourse.tied hc (h.coupled.couples.turnover hturnover.streams hnone) hm htied,
    fun {name bridge bridge'} hb hb' => ?_⟩
  obtain ⟨found, hfound, -⟩ := SlotMap.rel_some_right (hb' ▸ hcourse.bridge hc name)
  cases hb.symm.trans (hnone.bridge hfound)
  obtain ⟨last, hlast, honward⟩ := hcourse.onward hc hfound
  cases hb'.symm.trans hlast
  exact (Registry.Onward.of_same hsource hsink).trans honward

/-- Every operation moves bridges on, unless a generation runs over. -/
theorem OperationStep.movesOn (hd : OperationStep s t) (h : s.Joined)
    (hages : s.streams.sinks.Ages t.streams.sinks) (hlasts : s.streams.Lasts t.streams)
    (hreferences : t.streams.References) : s.MovesOn t := by
  have wf := h.coupled.resting.wellFormed
  -- a stream that has been made on its own joins no bridge
  have hspares : s.streams.Spares t.streams →
      (∀ name, t.streams.bridge? name = s.streams.bridge? name) → t.streams.Tied ∧
        ∀ {name bridge bridge'}, s.streams.bridge? name = some bridge →
          t.streams.bridge? name = some bridge' → s.streams.Onward bridge t.streams bridge' :=
    fun hspares hbridge => by
      refine ⟨hspares.tied h.tied fun hnone hspans => ?_, hspares.onward⟩
      cases ((hbridge _).trans hnone).symm.trans hspans.joins
  obtain ⟨htied, honward⟩ : t.streams.Tied ∧ ∀ {name bridge bridge'},
      s.streams.bridge? name = some bridge → t.streams.bridge? name = some bridge' →
        s.streams.Onward bridge t.streams bridge' := by
    cases hd.operationEffect h.coupled.resting with
    | deeds hturnover _ hnone _ hflows => exact movesOn_of_deeds h hturnover hnone hflows
    | bodySource handle => exact hspares (h.references.spares_addSource wf _) fun _ => rfl
    | scriptSource guest mark =>
      rw [streams_scriptSource] at hspares ⊢
      exact hspares (h.references.spares_addSource wf _) fun _ => rfl
    | bodySink handle => exact hspares (h.references.spares_addSink wf _) fun _ => rfl
    | scriptSink guest => exact hspares (h.references.spares_addSink wf _) fun _ => rfl
    | createTransform transformer =>
      have hkept := spares_createTransform h transformer
      exact ⟨hkept.tied h.tied (tiesHalves_createTransform h transformer), hkept.onward⟩
  exact ⟨⟨hd.coupled h.coupled hages, hreferences, htied⟩, hlasts, honward⟩

/-- So does every operation that takes out no entry. -/
theorem OperationStep.movesOn_of_growsTo (hd : OperationStep s t) (h : s.Joined)
    (hgrows : s.streams.GrowsTo t.streams) :
    s.MovesOn t := by
  have wf := h.coupled.resting.wellFormed
  exact hd.movesOn h (hgrows.sinks.ages wf.sinks) (hgrows.lasts wf)
    (hgrows.references wf h.references)

instance : Retentive fun s t : Session H E => s.Joined → s.MovesOn t where
  refl _ := .refl
  trans h h' hj :=
    have hfirst := h hj
    hfirst.trans (h' hfirst.joined)
  operate op fuel _ _ hop hr hj :=
    (OperationStep.operate op fuel hop).movesOn_of_growsTo hj (StreamOp.growsTo hop hr)
  elsewhere _ host env nextOwner hj :=
    (OperationStep.elsewhere host env nextOwner).movesOn_of_growsTo hj .refl
  underLock {s t id token streams} hget h hj := by
    have hlocked := (OperationStep.getReader (s := s) id).movesOn_of_growsTo hj (.getReader id)
    rw [hget] at hlocked
    have hworked := h hlocked.joined
    exact (hlocked.trans hworked).trans
      ((OperationStep.releaseReader id token).movesOn_of_growsTo hworked.joined
        (.releaseReader id token))

end Operations

end Session

/-! ### Calls -/

namespace Client

variable [Host H] {uses : H → List UInt32 → H → Prop} {client later : Client H E}

theorem Call.movesOn (h : Call uses client later) (hj : client.session.Joined)
    (hages : client.NoneBack later) : client.session.MovesOn later.session := by
  have wf := hj.coupled.resting.wellFormed
  have hlasts := h.lasts wf hages
  have hreferences := h.references wf hages hj.references
  cases h with
  | step hstep => exact hstep.operationStep.movesOn hj hages.sinks hlasts hreferences
  | action hpublic => exact hpublic.leads (R := fun s t => s.Joined → s.MovesOn t) _ hj
  | run hpublic hrun => exact hpublic.leads (R := fun s t => s.Joined → s.MovesOn t) _ _ hrun hj

/-- By induction on the calls. -/
theorem Calls.movesOn (h : Calls uses NoneBack client later) (hj : client.session.Joined) :
    client.session.MovesOn later.session := by
  induction h with
  | refl => exact .refl hj
  | call _ hcall hages ih => exact ih.trans (hcall.movesOn ih.joined hages)

/-- Bridges only move forward. For all hosts, guests and transformers and whatever clients do, at
any two times at which a bridge is there: an open bridge may come to any state, one that is about to
end may end or fail, and one that has ended or failed stays so. A bridge counts as ended only when
its writable half takes no more writes, or its readable half has been taken out; and in the latter
case, if the writable half still took writes, the bridge may yet fail.

The condition (`NoneBack`) is that no slot is freed 2 ^ 32 times: its generation would run over, and
the name be given to another bridge. -/
theorem bridges_move_forward {host : H} {env : E} {config : StreamConfig} {id : BridgeId}
    {first second : BridgeState} (hbefore : Calls uses NoneBack (new host env config) client)
    (hlater : Calls uses NoneBack client later)
    (hfirst : client.session.streams.bridgeState? id = some first)
    (hsecond : later.session.streams.bridgeState? id = some second) :
    ∃ bridge, client.session.streams.bridge? id = some bridge ∧
      (first = .readableClosed → client.session.streams.source? bridge.readable = none ∨
        ¬ client.session.streams.Accepts bridge.writable) ∧
      (first.MayBecome second ∨ first = .readableClosed ∧ second = .errored ∧
        client.session.streams.source? bridge.readable = none ∧
          client.session.streams.Accepts bridge.writable) := by
  have hjoined := (hbefore.movesOn (Session.joined_new host env config)).joined
  have hmoves := hlater.movesOn hjoined
  obtain ⟨bridge, hb, -⟩ := Option.map_eq_some_iff.mp hfirst
  obtain ⟨bridge', hb', -⟩ := Option.map_eq_some_iff.mp hsecond
  refine ⟨bridge, hb, ?_,
    (hmoves.onward hb hb').mayBecome hjoined.tied hmoves.joined.tied hb hb' hfirst hsecond⟩
  rintro rfl
  by_cases ha : client.session.streams.Accepts bridge.writable
  · exact .inl (hjoined.tied.gone_of_closed hb hfirst ha)
  · exact .inr ha

/-- Two octets are written to a transform stream that passes them on, and the stream is ended: its
bridge is about to end, and has ended once the octets have been read. -/
theorem bridges_move_forward_read :
    ∃ client later : Client MemoryHost Unit,
      Calls (fun _ _ _ => True) NoneBack (new {} () {}) client ∧
      Calls (fun _ _ _ => True) NoneBack client later ∧
      client.session.streams.bridgeState? ⟨0, 0⟩ = some .readableClosing ∧
      later.session.streams.bridgeState? ⟨0, 0⟩ = some .readableClosed ∧
      BridgeState.MayBecome .readableClosing .readableClosed := by
  obtain ⟨empty, hempty⟩ : ∃ empty : Client MemoryHost Unit, empty = new {} () {} := ⟨_, rfl⟩
  have hrun : ((StreamOp.createTransform .identity).after 0 empty.session).bind (fun made =>
      ((StreamOp.write ⟨0, 0⟩ [104, 105] none).after 0 made).bind fun written =>
        ((StreamOp.close ⟨0, 0⟩ none).after 0 written).bind fun closed =>
          ((StreamOp.read ⟨0, 0⟩ none).after 3 closed).map fun read =>
            decide ((empty.session.streams.Ages made.streams ∧ made.streams.Ages written.streams ∧
                written.streams.Ages closed.streams ∧ closed.streams.Ages read.streams) ∧
              closed.streams.bridgeState? ⟨0, 0⟩ = some .readableClosing ∧
                read.streams.bridgeState? ⟨0, 0⟩ = some .readableClosed)) = some true := by
    rw [hempty]
    decide +kernel
  obtain ⟨made, hmade, hrun⟩ := Option.bind_eq_some_iff.mp hrun
  obtain ⟨written, hwritten, hrun⟩ := Option.bind_eq_some_iff.mp hrun
  obtain ⟨closed, hclosed, hrun⟩ := Option.bind_eq_some_iff.mp hrun
  obtain ⟨read, hread, hseen⟩ := Option.map_eq_some_iff.mp hrun
  obtain ⟨⟨hages, hages', hages'', hages'''⟩, hfirst, hsecond⟩ := of_decide_eq_true hseen
  have hbefore : Calls (fun _ _ _ => True) NoneBack empty (empty.withSession closed) :=
    .call (.call (.call .refl (.step (.operate (.createTransform .identity) 0 hmade)) hages)
      (.step (.operate (.write ⟨0, 0⟩ [104, 105] none) 0 hwritten)) hages')
      (.step (.operate (.close ⟨0, 0⟩ none) 0 hclosed)) hages''
  have hlater : Calls (fun _ _ _ => True) NoneBack (empty.withSession closed)
      (empty.withSession read) :=
    .call .refl (.step (.operate (.read ⟨0, 0⟩ none) 3 hread)) hages'''
  rw [hempty] at hbefore hlater
  obtain ⟨bridge, -, -, hmay | ⟨⟨⟩, -⟩⟩ := bridges_move_forward hbefore hlater hfirst hsecond
  exact ⟨_, _, hbefore, hlater, hfirst, hsecond, hmay⟩

/-- The readable half of a transform stream is let go of and swept: the bridge counts as ended while
its writable half takes writes, and fails when that is aborted. -/
theorem bridge_closed_under_writer :
    ∃ client later : Client MemoryHost Unit,
      Calls (fun _ _ _ => True) NoneBack (new {} () {}) client ∧
      Calls (fun _ _ _ => True) NoneBack client later ∧
      client.session.streams.bridgeState? ⟨0, 0⟩ = some .readableClosed ∧
      client.session.streams.writableState? ⟨0, 0⟩ = some .writable ∧
      later.session.streams.bridgeState? ⟨0, 0⟩ = some .errored := by
  obtain ⟨empty, hempty⟩ : ∃ empty : Client MemoryHost Unit, empty = new {} () {} := ⟨_, rfl⟩
  have hrun : ((StreamOp.createTransform .identity).after 0 empty.session).bind (fun made =>
      ((StreamOp.releaseReadable ⟨0, 0⟩).after 0 made).bind fun released =>
        (StreamOp.sweep.after 0 released).bind fun swept =>
          ((StreamOp.abort ⟨0, 0⟩ none none).after 0 swept).map fun aborted =>
            decide ((empty.session.streams.Ages made.streams ∧ made.streams.Ages released.streams ∧
                released.streams.Ages swept.streams ∧ swept.streams.Ages aborted.streams) ∧
              swept.streams.bridgeState? ⟨0, 0⟩ = some .readableClosed ∧
                swept.streams.writableState? ⟨0, 0⟩ = some .writable ∧
                  aborted.streams.bridgeState? ⟨0, 0⟩ = some .errored)) = some true := by
    rw [hempty]
    decide +kernel
  obtain ⟨made, hmade, hrun⟩ := Option.bind_eq_some_iff.mp hrun
  obtain ⟨released, hreleased, hrun⟩ := Option.bind_eq_some_iff.mp hrun
  obtain ⟨swept, hswept, hrun⟩ := Option.bind_eq_some_iff.mp hrun
  obtain ⟨aborted, haborted, hseen⟩ := Option.map_eq_some_iff.mp hrun
  obtain ⟨⟨hages, hages', hages'', hages'''⟩, hseen⟩ := of_decide_eq_true hseen
  have hbefore : Calls (fun _ _ _ => True) NoneBack empty (empty.withSession swept) :=
    .call (.call (.call .refl (.step (.operate (.createTransform .identity) 0 hmade)) hages)
      (.step (.operate (.releaseReadable ⟨0, 0⟩) 0 hreleased)) hages')
      (.step (.operate .sweep 0 hswept)) hages''
  have hlater : Calls (fun _ _ _ => True) NoneBack (empty.withSession swept)
      (empty.withSession aborted) :=
    .call .refl (.step (.operate (.abort ⟨0, 0⟩ none none) 0 haborted)) hages'''
  rw [hempty] at hbefore hlater
  exact ⟨_, _, hbefore, hlater, hseen⟩

end Client

end EdgeStreams
