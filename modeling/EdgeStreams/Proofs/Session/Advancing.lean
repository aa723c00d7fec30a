import EdgeStreams.Proofs.Session.Deeds

/-!
# What a deed does

## Main definitions

- `Session.AdvancesTo`: what one deed does to each stream, and what it asks of it

## Main statements

- `Registry.Composed.advancesTo`: what holds between two deeds is kept
- `Session.WorkedInto.advancesTo`: work that asks nothing of any source
- `Session.workedInto_writeUnchecked`, `Session.workedInto_closeUnchecked`,
  `Session.workedInto_abortUnchecked`: the work on a sink that takes writes
-/

namespace EdgeStreams

variable {H E : Type}

/-- The chunks that some writes hand to a stream. -/
def chunksTo (id : WritableId) (made : List (WritableId × Bytes)) : List Bytes :=
  (made.filter fun write => write.1 = id).map Prod.snd

@[simp] theorem chunksTo_nil (id : WritableId) : chunksTo id [] = [] := rfl

@[simp] theorem chunksTo_append (id : WritableId) (made more : List (WritableId × Bytes)) :
    chunksTo id (made ++ more) = chunksTo id made ++ chunksTo id more := by
  simp [chunksTo]

namespace Source

variable {source source' source'' : Source E} {demands : List Demand}

theorem Stays.refl (source : Source E) : source.Stays source := ⟨rfl, rfl, .refl _⟩

theorem Stays.trans (h : source.Stays source') (h' : source'.Stays source'') :
    source.Stays source'' :=
  ⟨h'.backing.trans h.backing, h'.start.trans h.start, h.controller.trans h'.controller⟩

/-- A source that may be pulled could be pulled before. -/
theorem Stays.pullable (h : source.Stays source') (hc : source'.canceled = source.canceled)
    (hp : source'.Pullable) : source.Pullable where
  started := h.start ▸ hp.started
  uncanceled := hc ▸ hp.uncanceled
  unended := by
    cases hclose : source.controller.closeRequested with
    | false => rfl
    | true => exact (h.controller.close hclose).symm.trans hp.unended
  readable := by
    by_contra hs
    exact hs ((h.controller.state hs).symm.trans hp.readable)

theorem pullable_of_wantsPull {waits : Bool} (h : source.wantsPull waits = true) :
    source.Pullable := by
  simp only [wantsPull, StartState.isResolved, Bool.and_eq_true, decide_eq_true_eq,
    Bool.not_eq_true', beq_iff_eq] at h
  exact ⟨h.1.1.1.1, h.1.1.1.2, h.1.1.2, h.1.2⟩

theorem WorkedInto.stays (h : source.WorkedInto source') : source.Stays source' :=
  ⟨by rw [h.rest], by rw [h.rest], h.controller⟩

theorem WorkedInto.flags (h : source.WorkedInto source') :
    source'.canceled = source.canceled ∧ source'.pulling = source.pulling ∧
      source'.pullAgain = source.pullAgain := ⟨by rw [h.rest], by rw [h.rest], by rw [h.rest]⟩

/-- A source that has been fed, ended or failed besides. -/
theorem ProceedsTo.workedInto (h : source.ProceedsTo demands source')
    (hr : source'.WorkedInto source'') :
    source.ProceedsTo demands source'' := by
  obtain ⟨hcanceled, hpulling, hagain⟩ := hr.flags
  cases h with
  | stays hs hc hp ha =>
    exact .stays (hs.trans hr.stays) (hcanceled.trans hc) (hpulling.trans hp)
      fun h => ha (hagain ▸ h)
  | pulls outcome hw hidle hs hc hp ha hf =>
    refine .pulls outcome hw hidle (hs.trans hr.stays) (hcanceled.trans hc) (hpulling.trans hp)
      (hagain.trans ha) fun error he => ?_
    rw [hr.controller.state (hf error he)]
    exact hf error he
  | begins ht hw hidle hs hc hp =>
    exact .begins ht hw hidle (hs.trans hr.stays) (hcanceled.trans hc) (hpulling.trans hp)
  | ends hidle hs hc hp ha =>
    exact .ends hidle (hs.trans hr.stays) (hcanceled.trans hc) (hpulling.trans hp) (hagain.trans ha)
  | cancels outcome hstate hidle hs hc hp ha =>
    exact .cancels outcome hstate hidle (hs.trans hr.stays) (hcanceled.trans hc)
      (hpulling.trans hp) (hagain.trans ha)

/-- A source that has been pulled after something else has been done to it. -/
theorem ProceedsTo.pulls_after {outcome : Except StreamError Unit} (h : source.Stays source')
    (hc : source'.canceled = source.canceled) (hp : source'.pulling = source.pulling)
    (h' : source'.ProceedsTo [.pulled outcome, .pull] source'') :
    source.ProceedsTo [.pulled outcome, .pull] source'' := by
  cases h' with
  | pulls _ hpullable hidle hs hc' hp' ha hf =>
    exact .pulls _ (h.pullable hc hpullable) (hp ▸ hidle) (h.trans hs) (hc'.trans hc) hp' ha hf

theorem WorkedInto.proceedsTo (h : source.WorkedInto source') : source.ProceedsTo [] source' :=
  .stays h.stays h.flags.1 h.flags.2.1 fun ha => .inl (h.flags.2.2 ▸ ha)

section Performs

variable [Host H] {s t u : Session H E} {other last : Source E}

theorem Performs.congr (h : source.Performs s t source' demands)
    (hb : other.backing = source.backing)
    (hq : other.controller.queue = [] → source.controller.queue = [])
    (hhost : u.host = t.host) (henv : u.env = t.env)
    (hp : source'.controller.ProceedsTo last.controller) : other.Performs s u last demands := by
  cases h with
  | nothing => exact .nothing
  | read hback hsame hcall hend =>
    refine .read (hb.trans hback) (henv.trans hsame) (hhost ▸ hcall) fun he => ?_
    obtain ⟨hclosed, hempty⟩ := hend he
    refine ⟨hp.not_open hclosed, fun hqueue => ?_⟩
    rw [hp.state (hempty (hq hqueue))]
    exact hempty (hq hqueue)
  | abandon hback hsame hcall =>
    exact .abandon (hb.trans hback) (henv.trans hsame) (hhost ▸ hcall)
  | pull hback hsame hwork hend =>
    exact .pull (hb.trans hback) (hhost.trans hsame) (henv ▸ hwork) fun call hc he =>
      hp.not_open (hend call hc he)
  | cancel hback hsame hwork => exact .cancel (hb.trans hback) (hhost.trans hsame) (henv ▸ hwork)
  | relay ht hsame hsame' =>
    obtain ⟨name, hname⟩ := ht
    exact .relay ⟨name, hb.trans hname⟩ (hhost.trans hsame) (henv.trans hsame')

theorem Performs.workedInto (h : source.Performs s t source' demands)
    (hr : source'.WorkedInto source'') :
    source.Performs s t source'' demands := h.congr rfl id rfl rfl hr.controller

/-- Only a source over a host body calls the host. -/
theorem Performs.host (h : source.Performs s t source' demands) (hd : demands ≠ []) :
    (∃ handle size, source.backing = .body handle size) ∨ t.host = s.host := by
  cases h with
  | nothing => exact absurd rfl hd
  | read hback | abandon hback => exact .inl ⟨_, _, hback⟩
  | pull _ hsame | cancel _ hsame | relay _ hsame => exact .inr hsame

end Performs

end Source

namespace Sink

variable {sink sink' : Sink E}

/-- Only a sink over a host body calls the host. -/
theorem Performs.host [Host H] {s t : Session H E} {call : SinkCall} (h : sink.Performs s t call) :
    (∃ handle, sink.backing = .body handle) ∨ t.host = s.host := by
  cases h with
  | bodyWrite hback | bodyClose hback | bodyAbandon hback => exact .inl ⟨_, hback⟩
  | guestWrite _ hsame | guestClose _ hsame | guestAbort _ hsame | transform _ hsame | flush _ hsame
  | drop _ hsame => exact .inr hsame

theorem Performs.congr [Host H] {s t u : Session H E} {call : SinkCall} (h : sink.Performs s t call)
    (hb : sink'.backing = sink.backing) (hhost : u.host = t.host) (henv : u.env = t.env) :
    sink'.Performs s u call := by
  cases h with
  | bodyWrite hback hsame hcall =>
    exact .bodyWrite (hb.trans hback) (henv.trans hsame) (hhost ▸ hcall)
  | bodyClose hback hsame hcall =>
    exact .bodyClose (hb.trans hback) (henv.trans hsame) (hhost ▸ hcall)
  | bodyAbandon hback hsame hcall =>
    exact .bodyAbandon (hb.trans hback) (henv.trans hsame) (hhost ▸ hcall)
  | guestWrite hback hsame hwork =>
    exact .guestWrite (hb.trans hback) (hhost.trans hsame) (henv ▸ hwork)
  | guestClose hback hsame hwork =>
    exact .guestClose (hb.trans hback) (hhost.trans hsame) (henv ▸ hwork)
  | guestAbort hback hsame hwork =>
    exact .guestAbort (hb.trans hback) (hhost.trans hsame) (henv ▸ hwork)
  | transform hback hsame hwork =>
    exact .transform (hb.trans hback) (hhost.trans hsame) (henv ▸ hwork)
  | flush hback hsame hwork => exact .flush (hb.trans hback) (hhost.trans hsame) (henv ▸ hwork)
  | drop hback hsame hsame' => exact .drop (hb.trans hback) (hhost.trans hsame) (henv.trans hsame')

theorem Stays.refl (sink : Sink E) : sink.Stays sink := ⟨rfl, id, .inl rfl⟩

theorem ProceedsTo.toStays {calls : List SinkCall} (h : sink.ProceedsTo calls sink') :
    sink.Stays sink' := by
  cases h with
  | stays hstays | writes _ _ _ hstays _ | closes _ _ hstays _ | aborts _ _ hstays _ => exact hstays

theorem WorkedInto.stays (h : sink.WorkedInto sink') : sink.Stays sink' where
  backing := h.keeps.backing
  idle := h.idle
  controller := by
    rcases h with rfl | ⟨hs, hended⟩
    · exact .inl rfl
    · exact .inr ⟨hs, hended.terminal⟩

end Sink

namespace Session

/-- What one deed does to each stream, what it asks of the stream, and what is done for it. -/
structure AdvancesTo [Host H] (made : List (WritableId × Bytes)) (s t : Session H E) : Prop where
  source : ∀ {id source}, s.streams.source? id = some source →
    ∃ source' demands, t.streams.source? id = some source' ∧
      t.demands id = demands ++ s.demands id ∧ source.ProceedsTo demands source' ∧
        source.Performs s t source' demands
  noSource : ∀ {id}, s.streams.source? id = none →
    t.streams.source? id = none ∧ t.demands id = s.demands id
  sink : ∀ {id sink}, s.streams.sink? id = some sink →
    ∃ sink' calls, t.streams.sink? id = some sink' ∧ t.sinkCalls id = calls ++ s.sinkCalls id ∧
      sink.ProceedsTo calls sink' ∧ calls.filterMap SinkCall.chunk? = chunksTo id made ∧
        ∀ call ∈ calls, sink.Performs s t call
  noSink : ∀ {id}, s.streams.sink? id = none →
    t.streams.sink? id = none ∧ t.sinkCalls id = s.sinkCalls id
  bridge : ∀ id, Option.Rel Bridge.Keeps (s.streams.bridge? id) (t.streams.bridge? id)
  /-- The host is called only for a stream over a host body of which something is asked. -/
  host : t.host = s.host ∨
    (∃ id source handle size, s.streams.source? id = some source ∧
      source.backing = .body handle size ∧ t.demands id ≠ s.demands id) ∨
    ∃ id sink handle, s.streams.sink? id = some sink ∧ sink.backing = .body handle ∧
      t.sinkCalls id ≠ s.sinkCalls id

namespace AdvancesTo

variable [Host H] {s t : Session H E} {made : List (WritableId × Bytes)} (h : s.AdvancesTo made t)
include h

/-- Deeds make no source. -/
theorem source_before {id : ReadableId} {source' : Source E}
    (ht : t.streams.source? id = some source') :
    ∃ source demands, s.streams.source? id = some source ∧ source.ProceedsTo demands source' := by
  cases hs : s.streams.source? id with
  | none => simp [(h.noSource hs).1] at ht
  | some source =>
    obtain ⟨found, demands, hfound, -, hp, -⟩ := h.source hs
    rw [ht] at hfound
    cases hfound
    exact ⟨source, demands, rfl, hp⟩

/-- Deeds make no sink. -/
theorem sink_before {id : WritableId} {sink' : Sink E} (ht : t.streams.sink? id = some sink') :
    ∃ sink calls, s.streams.sink? id = some sink ∧ sink.ProceedsTo calls sink' := by
  cases hs : s.streams.sink? id with
  | none => simp [(h.noSink hs).1] at ht
  | some sink =>
    obtain ⟨found, calls, hfound, -, hp, -⟩ := h.sink hs
    rw [ht] at hfound
    cases hfound
    exact ⟨sink, calls, rfl, hp⟩

theorem source?_eq_none_iff {id : ReadableId} :
    t.streams.source? id = none ↔ s.streams.source? id = none := by
  refine ⟨fun ht => ?_, fun hs => (h.noSource hs).1⟩
  cases hs : s.streams.source? id with
  | none => rfl
  | some source =>
    obtain ⟨source', demands, hsource, -⟩ := h.source hs
    rw [ht] at hsource
    cases hsource

theorem sink?_eq_none_iff {id : WritableId} :
    t.streams.sink? id = none ↔ s.streams.sink? id = none := by
  refine ⟨fun ht => ?_, fun hs => (h.noSink hs).1⟩
  cases hs : s.streams.sink? id with
  | none => rfl
  | some sink =>
    obtain ⟨sink', calls, hsink, -⟩ := h.sink hs
    rw [ht] at hsink
    cases hsink

end AdvancesTo

end Session

namespace Registry.Composed

variable [Host H] {s t : Session H E} {made : List (WritableId × Bytes)}

omit [Host H] in
/-- A source may be being pulled afterwards only if it is the readable half of a transform
stream. -/
theorem source_proceedsTo {streams : Registry E} (h : streams.Composed) {id : ReadableId}
    {source source' : Source E} {demands : List Demand} (hs : streams.source? id = some source)
    (hp : source.ProceedsTo demands source') :
    source.Stays source' ∧ (source'.pullAgain = true → source'.pulling = true) ∧
      (¬ source'.IsTransform → source'.pulling = false) := by
  have hasked := h.asked hs
  have hnative := h.native hs
  cases hp with
  | stays hstays _ hpulling hagain =>
    refine ⟨hstays, fun ha => ?_, fun hn => ?_⟩
    · rw [hpulling]
      exact (hagain ha).elim hasked fun hp => hp
    · rw [hpulling]
      exact hnative fun ht => hn (hstays.isTransform_iff.mpr ht)
  | pulls _ _ _ hstays _ hpulling hagain =>
    exact ⟨hstays, fun ha => by simp [hagain] at ha, fun _ => hpulling⟩
  | begins htransform _ _ hstays _ hpulling =>
    exact ⟨hstays, fun _ => hpulling, fun hn => absurd (hstays.isTransform_iff.mpr htransform) hn⟩
  | ends _ hstays _ hpulling hagain =>
    exact ⟨hstays, fun ha => by simp [hagain] at ha, fun _ => hpulling⟩
  | cancels _ _ _ hstays _ hpulling hagain =>
    refine ⟨hstays, fun ha => ?_, fun hn => ?_⟩
    · rw [hpulling]
      exact hasked (hagain ▸ ha)
    · rw [hpulling]
      exact hnative fun ht => hn (hstays.isTransform_iff.mpr ht)

omit [Host H] in
/-- Another pull is wanted only of a source that is being pulled. -/
theorem notAsked {streams : Registry E} (h : streams.Composed) {id : ReadableId} {source : Source E}
    (hs : streams.source? id = some source) (hp : source.pulling = false) :
    source.pullAgain = false := by
  cases hasked : source.pullAgain with
  | false => rfl
  | true => exact (h.asked hs hasked).symm.trans hp

omit [Host H] in
theorem sink_proceedsTo {streams : Registry E} (h : streams.Composed) {id : WritableId}
    {sink sink' : Sink E} {calls : List SinkCall} (hs : streams.sink? id = some sink)
    (hp : sink.ProceedsTo calls sink') : sink'.backing = sink.backing ∧ sink'.Idle :=
  ⟨hp.toStays.backing, hp.toStays.idle (h.idle hs)⟩

/-- What holds between two deeds is kept by every deed. -/
theorem advancesTo (h : s.streams.Composed) (ha : s.AdvancesTo made t) : t.streams.Composed := by
  constructor
  · intro id source' name ht hback
    obtain ⟨source, demands, hs, hp⟩ := ha.source_before ht
    obtain ⟨bridge, hb, he⟩ := h.readable hs
      ((h.source_proceedsTo hs hp).1.backing.symm.trans hback)
    obtain ⟨bridge', hb', hk⟩ := SlotMap.rel_some_left (hb ▸ ha.bridge name)
    exact ⟨bridge', hb', hk.readable.trans he⟩
  · intro id sink' name ht hback
    obtain ⟨sink, calls, hs, hp⟩ := ha.sink_before ht
    obtain ⟨bridge, hb, he⟩ := h.writable hs ((h.sink_proceedsTo hs hp).1.symm.trans hback)
    obtain ⟨bridge', hb', hk⟩ := SlotMap.rel_some_left (hb ▸ ha.bridge name)
    exact ⟨bridge', hb', hk.writable.trans he⟩
  · intro id sink' ht
    obtain ⟨sink, calls, hs, hp⟩ := ha.sink_before ht
    exact (h.sink_proceedsTo hs hp).2
  · intro id source' ht
    obtain ⟨source, demands, hs, hp⟩ := ha.source_before ht
    exact (h.source_proceedsTo hs hp).2.1
  · intro id source' ht
    obtain ⟨source, demands, hs, hp⟩ := ha.source_before ht
    exact (h.source_proceedsTo hs hp).2.2

end Registry.Composed

namespace Session

variable {s t u : Session H E} {made : List (WritableId × Bytes)}

/-! ### What is done for a sink -/

theorem host_transformed {id : BridgeId} {bridge : Bridge E} {source : Source E}
    {worked : GuestResult E × TransformDesk} :
    (transformed bridge worked s id source).host = s.host ∧
      (transformed bridge worked s id source).env = worked.1.2 := by
  unfold transformed spread marked
  split <;> split <;> exact ⟨rfl, rfl⟩

theorem transforms_withTransformer {name : BridgeId} {bridge : Bridge E} (work : TransformWork E)
    (hb : s.streams.bridge? name = some bridge) :
    (exec (withTransformer name work) s).2.host = s.host ∧
      s.streams.Transforms name work s.env (exec (withTransformer name work) s).1
        (exec (withTransformer name work) s).2.env := by
  rw [exec_withTransformer, hb]
  dsimp only
  cases hs : s.streams.source? bridge.readable with
  | none => exact ⟨rfl, bridge, hb, by rw [hs]; exact ⟨rfl, rfl⟩⟩
  | some source =>
    dsimp only
    cases hstate : source.controller.state with
    | errored error => exact ⟨rfl, bridge, hb, by simp [hs, hstate]⟩
    | readable | closed =>
      refine ⟨host_transformed.1, bridge, hb, ?_⟩
      simp only [hs, hstate]
      rw [host_transformed.2]

section Algorithms

variable [Host H] {id : WritableId} {sink during : Sink E} (hc : s.streams.Composed)
  (hs : s.streams.sink? id = some sink) (hd : during.backing = sink.backing)
include hc hs hd

theorem performs_writeAlgorithm (chunk : Bytes) :
    sink.Performs s (exec (writeAlgorithm id chunk) (setSink id during s)).2
      (.write chunk (exec (writeAlgorithm id chunk) (setSink id during s)).1) := by
  have hfound : (setSink id during s).streams.sink? id = some during := by
    simp [Registry.sink?_setSink, hs]
  simp only [writeAlgorithm, exec_bind, exec_sink, hfound, Registry.need_some, hd]
  cases hback : sink.backing with
  | body handle => exact .bodyWrite hback rfl rfl
  | script guest => exact .guestWrite hback rfl rfl
  | transform name =>
    obtain ⟨bridge, hb, -⟩ := hc.writable hs hback
    have hb' : (setSink id during s).streams.bridge? name = some bridge := hb
    simp only [exec_bind, exec_bridge, hb', Registry.need_some, exec_modify]
    have hforgot : (setBridge name { bridge with pullRequested := false }
        (setSink id during s)).streams.bridge? name =
          some { bridge with pullRequested := false } := by
      simp [setBridge, Registry.bridge?_setBridge, hb]
    obtain ⟨hhost, bridge', hfound', hwork⟩ := transforms_withTransformer (.transform chunk) hforgot
    rw [hforgot] at hfound'
    cases hfound'
    exact .transform hback hhost ⟨bridge, hb, hwork⟩

theorem performs_closeAlgorithm :
    sink.Performs s (exec (closeAlgorithm id) (setSink id during s)).2
      (.close (exec (closeAlgorithm id) (setSink id during s)).1) := by
  have hfound : (setSink id during s).streams.sink? id = some during := by
    simp [Registry.sink?_setSink, hs]
  simp only [closeAlgorithm, exec_bind, exec_sink, hfound, Registry.need_some, hd]
  cases hback : sink.backing with
  | body handle => exact .bodyClose hback rfl rfl
  | script guest => exact .guestClose hback rfl rfl
  | transform name =>
    obtain ⟨bridge, hb, -⟩ := hc.writable hs hback
    have hb' : (setSink id during s).streams.bridge? name = some bridge := hb
    obtain ⟨hhost, hwork⟩ := transforms_withTransformer .flush hb'
    exact .flush hback hhost hwork

theorem performs_abortAlgorithm (reason : Option String) :
    sink.Performs s (exec (abortAlgorithm id reason) (setSink id during s)).2
      (.abort (exec (abortAlgorithm id reason) (setSink id during s)).1) := by
  have hfound : (setSink id during s).streams.sink? id = some during := by
    simp [Registry.sink?_setSink, hs]
  simp only [abortAlgorithm, exec_bind, exec_sink, hfound, Registry.need_some, hd]
  cases hback : sink.backing with
  | body handle => exact .bodyAbandon hback rfl rfl
  | script guest => exact .guestAbort hback rfl rfl
  | transform name =>
    obtain ⟨bridge, hb, -⟩ := hc.writable hs hback
    have hb' : (setSink id during s).streams.bridge? name = some bridge := hb
    simp only [exec_bind, exec_bridge, hb', Registry.need_some, exec_modify]
    exact .drop hback rfl rfl

end Algorithms

/-! ### Work on sinks -/

section Work

variable [Host H]

/-- Work that asks nothing, or that calls one sink. -/
theorem WorkedInto.advancesTo {events : List StreamEvent} (h : WorkedInto events s t)
    (hdemands : ∀ id, events.filterMap (StreamEvent.demand? id) = [])
    (hsink : ∀ {id sink sink'}, s.streams.sink? id = some sink →
      t.streams.sink? id = some sink' → sink.WorkedInto sink' →
        sink.ProceedsTo (events.filterMap (StreamEvent.sinkCall? id)) sink' ∧
          (events.filterMap (StreamEvent.sinkCall? id)).filterMap SinkCall.chunk? =
            chunksTo id made ∧
              ∀ call ∈ events.filterMap (StreamEvent.sinkCall? id), sink.Performs s t call)
    (hnone : ∀ {id}, s.streams.sink? id = none →
      events.filterMap (StreamEvent.sinkCall? id) = [])
    (hhost : t.host = s.host ∨ ∃ id sink handle, s.streams.sink? id = some sink ∧
      sink.backing = .body handle ∧ events.filterMap (StreamEvent.sinkCall? id) ≠ []) :
    s.AdvancesTo made t where
  source {id source} hs := by
    obtain ⟨source', ht, hr⟩ := SlotMap.rel_some_left (hs ▸ h.source id)
    exact ⟨source', [], ht, by rw [demands_append h.calls, hdemands], hr.proceedsTo, .nothing⟩
  noSource {id} hs := by
    have hrel := h.source id
    rw [hs] at hrel
    exact ⟨SlotMap.rel_none_left hrel, by rw [demands_append h.calls, hdemands, List.nil_append]⟩
  sink {id sink} hs := by
    obtain ⟨sink', ht, hr⟩ := SlotMap.rel_some_left (hs ▸ h.sink id)
    obtain ⟨hp, hmade⟩ := hsink hs ht hr
    exact ⟨sink', _, ht, sinkCalls_append h.calls id, hp, hmade⟩
  noSink {id} hs := by
    have hrel := h.sink id
    rw [hs] at hrel
    exact ⟨SlotMap.rel_none_left hrel, by rw [sinkCalls_append h.calls, hnone hs, List.nil_append]⟩
  bridge := h.bridge
  host := by
    rcases hhost with hsame | ⟨id, sink, handle, hs, hback, hcalls⟩
    · exact .inl hsame
    · refine .inr (.inr ⟨id, sink, handle, hs, hback, ?_⟩)
      rw [sinkCalls_append h.calls]
      simpa using hcalls

/-- Work in which one sink is called. -/
theorem WorkedInto.advancesTo_call {event : StreamEvent} {call : SinkCall} {id : WritableId}
    {sink : Sink E} (h : WorkedInto [event] s t) (hdemand : ∀ r, event.demand? r = none)
    (hcall : ∀ other, event.sinkCall? other = if id = other then some call else none)
    (hs : s.streams.sink? id = some sink)
    (hproceeds : ∀ sink', t.streams.sink? id = some sink' → sink.WorkedInto sink' →
      sink.ProceedsTo [call] sink') (hperforms : sink.Performs s t call) :
    s.AdvancesTo (call.chunk?.toList.map fun chunk => (id, chunk)) t := by
  refine h.advancesTo (fun r => by simp [hdemand]) (fun {other found last} hfound hlast hr => ?_)
    (fun {other} hnone => ?_) ?_
  · by_cases he : id = other
    · subst he
      rw [hs] at hfound
      cases hfound
      simp only [List.filterMap_cons, hcall, if_pos, List.filterMap_nil]
      refine ⟨hproceeds last hlast hr, ?_, ?_⟩
      · cases call.chunk? <;> simp [chunksTo]
      · simpa using hperforms
    · simp only [List.filterMap_cons, hcall, if_neg he, List.filterMap_nil]
      refine ⟨.stays hr.stays, ?_, nofun⟩
      cases call.chunk? <;> simp [chunksTo, he]
  · have hne : id ≠ other := by
      rintro rfl
      rw [hs] at hnone
      cases hnone
    simp [hcall, hne]
  · rcases hperforms.host with ⟨handle, hback⟩ | hsame
    · exact .inr ⟨id, sink, handle, hs, hback, by simp [hcall]⟩
    · exact .inl hsame

theorem WorkedInto.advancesTo_nil (h : s.AsksNothing t) (hhost : t.host = s.host) :
    s.AdvancesTo [] t :=
  h.advancesTo (fun _ => rfl) (fun _ _ hr => ⟨.stays hr.stays, rfl, nofun⟩)
    (fun _ => rfl) (.inl hhost)

theorem AdvancesTo.refl (s : Session H E) : s.AdvancesTo [] s :=
    (WorkedInto.refl s).advancesTo_nil rfl

end Work

/-- A sink has worked on something: before and after, it was changed by itself. -/
theorem WorkedInto.around {events : List StreamEvent} {id : WritableId} {sink during final : Sink E}
    (hs : s.streams.sink? id = some sink) (h : WorkedInto events (Session.setSink id during s) t)
    (hf : sink.WorkedInto final) : WorkedInto events s (Session.setSink id final t) where
  source := h.source
  sink other := by
    have hrel := h.sink other
    rw [streams_setSink, Registry.sink?_setSink] at hrel ⊢
    by_cases he : other = id
    · subst he
      rw [if_pos rfl, hs, Option.map_some] at hrel
      obtain ⟨sink', ht, -⟩ := SlotMap.rel_some_left hrel
      rw [if_pos rfl, hs, ht]
      exact .some hf
    · rwa [if_neg he] at hrel ⊢
  bridge := h.bridge
  pipes := h.pipes
  calls := h.calls

section Sinks

variable [Host H] {id : WritableId} {sink : Sink E} {token : Option WriterToken}

/-- A write to a sink that takes writes is one call, and succeeds only if the call does. -/
theorem workedInto_writeUnchecked (hc : s.streams.Composed) (hs : s.streams.sink? id = some sink)
    (hw : sink.controller.state = .writable) (chunk : Bytes) :
    ∃ outcome, WorkedInto [.written id chunk outcome] s (exec (writeUnchecked id chunk) s).2 ∧
      sink.Performs s (exec (writeUnchecked id chunk) s).2 (.write chunk outcome) ∧
      ((exec (writeUnchecked id chunk) s).1 = .ok () → outcome = .ok ()) ∧
      ∀ sink', (exec (writeUnchecked id chunk) s).2.streams.sink? id = some sink' →
        (∀ error, outcome = .error error → sink'.controller.state.isTerminal = true) := by
  have hsilent := asksNothing_writeAlgorithm id chunk (setSink id sink.working s)
  have hback : sink.working.backing = sink.backing := rfl
  have hperforms := performs_writeAlgorithm hc hs hback chunk
  cases hwork : exec (writeAlgorithm id chunk) (setSink id sink.working s) with
  | mk outcome s' =>
    rw [hwork] at hsilent hperforms
    have hduring : (setSink id sink.working s).streams.sink? id = some sink.working := by
      simp [Registry.sink?_setSink, hs]
    obtain ⟨sink', hworked, hr⟩ := SlotMap.rel_some_left (hduring ▸ hsilent.sink id)
    rw [exec_writeUnchecked_of_idle hs (hc.idle hs) hw hwork hworked hr]
    refine ⟨outcome, ?_, hperforms.congr rfl rfl rfl, Sink.eq_ok_of_verdict, ?_⟩
    · exact (hsilent.note rfl).around hs (hr.rested (hc.idle hs) hw outcome)
    · rintro final hfinal error rfl
      simp only [streams_setSink, Registry.sink?_setSink, if_pos, streams_note, hworked,
        Option.map_some, Option.some.injEq] at hfinal
      exact hfinal ▸ Sink.terminal_rested error

theorem workedInto_closeUnchecked (hc : s.streams.Composed) (hs : s.streams.sink? id = some sink)
    (hw : sink.controller.state = .writable) :
    ∃ outcome, WorkedInto [.closed id outcome] s (exec (closeUnchecked id) s).2 ∧
      sink.Performs s (exec (closeUnchecked id) s).2 (.close outcome) ∧
      (exec (closeUnchecked id) s).1 = outcome ∧
      ∃ sink', (exec (closeUnchecked id) s).2.streams.sink? id = some sink' ∧
        sink'.controller.state.isTerminal = true ∧
          (outcome = .ok () → sink'.controller.state = .closed) := by
  have hsilent := asksNothing_closeAlgorithm id (setSink id (sink.inState .closing).working s)
  have hback : (sink.inState .closing).working.backing = sink.backing := rfl
  have hperforms := performs_closeAlgorithm hc hs hback
  cases hwork : exec (closeAlgorithm id) (setSink id (sink.inState .closing).working s) with
  | mk outcome s' =>
    rw [hwork] at hsilent hperforms
    have hduring : (setSink id (sink.inState .closing).working s).streams.sink? id =
        some (sink.inState .closing).working := by simp [Registry.sink?_setSink, hs]
    -- nothing fails a sink that is about to end
    have hkept : s'.streams.sink? id = some (sink.inState .closing).working := by
      obtain ⟨sink', hworked, rfl | ⟨hwritable, -⟩⟩ :=
        SlotMap.rel_some_left (hduring ▸ hsilent.sink id)
      · exact hworked
      · cases hwritable
    rw [exec_closeUnchecked_of_idle hs (hc.idle hs) hw hwork hkept]
    obtain ⟨hended, hclosed⟩ := (hc.idle hs).closedBy outcome
    exact ⟨outcome, (hsilent.note rfl).around hs (.inr ⟨hw, hended⟩),
      hperforms.congr rfl rfl rfl, rfl, sink.closedBy outcome, by simp [Registry.sink?_setSink,
        hkept], hended.terminal, hclosed⟩

theorem workedInto_abortUnchecked (hc : s.streams.Composed) (hs : s.streams.sink? id = some sink)
    (hw : sink.controller.state = .writable) (reason : Option String) :
    ∃ outcome, WorkedInto [.aborted id outcome] s (exec (abortUnchecked id reason) s).2 ∧
      sink.Performs s (exec (abortUnchecked id reason) s).2 (.abort outcome) ∧
      (exec (abortUnchecked id reason) s).1 = outcome ∧
      ∃ sink', (exec (abortUnchecked id reason) s).2.streams.sink? id = some sink' ∧
        sink'.controller.state.isTerminal = true := by
  rw [exec_abortUnchecked_of_idle hs (hc.idle hs) hw, exec_noting]
  have hfails : s.AsksNothing (setSink id (sink.failing .aborted) s) :=
    (WorkedInto.refl s).setSink hs (.inr ⟨hw, Sink.ended_failing hw _⟩)
  have hsilent := asksNothing_abortAlgorithm id reason (setSink id (sink.failing .aborted) s)
  have hduring : (setSink id (sink.failing .aborted) s).streams.sink? id =
      some (sink.failing .aborted) := by simp [Registry.sink?_setSink, hs]
  obtain ⟨sink', hworked, hr⟩ := SlotMap.rel_some_left (hduring ▸ hsilent.sink id)
  have hback : (sink.failing .aborted).backing = sink.backing := rfl
  refine ⟨_, (hfails.trans hsilent).note rfl,
    (performs_abortAlgorithm hc hs hback reason).congr rfl rfl rfl, rfl, sink', hworked, ?_⟩
  rcases hr with rfl | ⟨-, hended⟩
  · exact (Sink.ended_failing hw _).terminal
  · exact hended.terminal

end Sinks

end Session

end EdgeStreams
