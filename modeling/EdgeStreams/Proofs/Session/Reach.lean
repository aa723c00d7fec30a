import EdgeStreams.Proofs.Session.Touching

/-!
# How far the work on a stream reaches

The work that an operation does on a stream touches no more than the stream's reach: the stream, the
bridge behind it with the two halves it joins, or the host body behind it. This holds of every
source and every sink, in whatever state it is.

## Main definitions

- `Registry.sourceReach`, `Registry.sinkReach`: the reach of a readable and of a writable stream
- `Session.Preserves`: a property that an action keeps

## Main statements

- `Session.changesWithin_write`, `Session.changesWithin_close`, `Session.changesWithin_abort`,
  `Session.changesWithin_cancel`: the operations of writers and readers
- `Session.changesWithin_pullBody`, `Session.changesWithin_pullScript`: the pulls that drive no pipe
-/

namespace EdgeStreams

variable {H E ε φ α β : Type}

namespace Registry

variable (streams : Registry E)

/-- A bridge with the two halves it joins. -/
def bridgeReach (id : BridgeId) : Footprint :=
  match streams.bridge? id with
  | some bridge =>
    { readables := {bridge.readable}, writables := {bridge.writable}, bridges := {id} }
  | none => {}

/-- What lies behind a source. -/
def backingReach : SourceBacking E → Footprint
  | .body handle _ => { bodies := {handle} }
  | .script _ => {}
  | .transform id => streams.bridgeReach id

/-- What lies behind a sink. -/
def drainReach : SinkBacking E → Footprint
  | .body handle => { bodies := {handle} }
  | .script _ => {}
  | .transform id => streams.bridgeReach id

def sourceReach (id : ReadableId) : Footprint :=
  { readables := {id} } ∪
    match streams.source? id with
    | some source => streams.backingReach source.backing
    | none => {}

def sinkReach (id : WritableId) : Footprint :=
  { writables := {id} } ∪
    match streams.sink? id with
    | some sink => streams.drainReach sink.backing
    | none => {}

end Registry

namespace Footprint

variable {f g h : Footprint}

theorem Within.left (hu : (f ∪ g).Within h) : f.Within h :=
  ⟨fun _ hm => hu.readables (.inl hm), fun _ hm => hu.writables (.inl hm),
    fun _ hm => hu.bridges (.inl hm), fun _ hm => hu.pipes (.inl hm),
    fun _ hm => hu.bodies (.inl hm)⟩

theorem Within.right (hu : (f ∪ g).Within h) : g.Within h :=
  ⟨fun _ hm => hu.readables (.inr hm), fun _ hm => hu.writables (.inr hm),
    fun _ hm => hu.bridges (.inr hm), fun _ hm => hu.pipes (.inr hm),
    fun _ hm => hu.bodies (.inr hm)⟩

end Footprint

namespace Session

/-! ### Properties that an action keeps -/

/-- Whatever an action comes to, it keeps a property of the session. -/
def Preserves (P : Session H E → Prop) (action : Action H E ε α) : Prop :=
  ∀ s, P s → P (exec action s).2

namespace Preserves

variable {P : Session H E → Prop}

theorem pure (a : α) : Preserves P (Pure.pure a : Action H E ε α) := fun _ h => h

theorem throw (e : ε) : Preserves P (MonadExcept.throw e : Action H E ε α) := fun _ h => h

theorem settled (result : Except ε α) : Preserves P (Session.settled result : Action H E ε α) :=
  fun _ h => h

/-- An action after one that has kept the property this time. -/
theorem after {action : Action H E ε α} {next : α → Action H E ε β}
    (h' : ∀ a, Preserves P (next a)) {s : Session H E} (h : P (exec action s).2) :
    P (exec (action >>= next) s).2 := by
  rw [exec_bind]
  cases (exec action s).1 with
  | ok a => exact h' a _ h
  | error e => exact h

theorem bind {action : Action H E ε α} {next : α → Action H E ε β} (h : Preserves P action)
    (h' : ∀ a, Preserves P (next a)) : Preserves P (action >>= next) :=
  fun s hs => after h' (h s hs)

theorem modify {f : Session H E → Session H E} (h : ∀ s, P s → P (f s)) :
    Preserves P (MonadState.modifyGet (fun s => ((), f s)) : Action H E ε Unit) :=
  fun s hs => h s hs

theorem checkWriter (id : WritableId) (token : Option WriterToken) :
    Preserves P (onStreams (Registry.checkWriter id token) : Action H E StreamError Unit) := by
  intro s hs
  simpa using hs

theorem checkReader (id : ReadableId) (token : Option ReaderToken) :
    Preserves P (onStreams (Registry.checkReader id token) : Action H E StreamError Unit) := by
  intro s hs
  simpa using hs

theorem caught {action : Action H E ε α} (h : Preserves P action) :
    Preserves P (Session.caught action : Action H E φ (Except ε α)) := h

theorem noting {event : Except StreamError Unit → StreamEvent}
    {action : Action H E StreamError Unit} (h : Preserves P action)
    (hnote : ∀ s outcome, P s → P (note (event outcome) s)) :
    Preserves P (Session.noting event action) := by
  intro s hs
  rw [exec_noting]
  exact hnote _ _ (h s hs)

/-- The source that an action goes on with is found in the session. -/
theorem source {id : ReadableId} {next : Source E → Action H E StreamError β}
    (h : ∀ s source, P s → s.streams.source? id = some source → P (exec (next source) s).2) :
    Preserves P (Session.source id >>= next) := by
  intro s hs
  rw [exec_bind, exec_source]
  cases hfound : s.streams.source? id with
  | none => exact hs
  | some source => exact h s source hs hfound

theorem sink {id : WritableId} {next : Sink E → Action H E StreamError β}
    (h : ∀ s sink, P s → s.streams.sink? id = some sink → P (exec (next sink) s).2) :
    Preserves P (Session.sink id >>= next) := by
  intro s hs
  rw [exec_bind, exec_sink]
  cases hfound : s.streams.sink? id with
  | none => exact hs
  | some sink => exact h s sink hs hfound

theorem bridge {id : BridgeId} {next : Bridge E → Action H E StreamError β}
    (h : ∀ s bridge, P s → s.streams.bridge? id = some bridge → P (exec (next bridge) s).2) :
    Preserves P (Session.bridge id >>= next) := by
  intro s hs
  rw [exec_bind, exec_bridge]
  cases hfound : s.streams.bridge? id with
  | none => exact hs
  | some bridge => exact h s bridge hs hfound

end Preserves

variable [Host H] {f : Footprint} {s t : Session H E}

/-! ### What a reach permits -/

theorem ChangesWithin.bridgeReach_eq (h : ChangesWithin f s t) (id : BridgeId) :
    t.streams.bridgeReach id = s.streams.bridgeReach id := by
  unfold Registry.bridgeReach
  cases ht : t.streams.bridge? id with
  | none =>
    cases hs : s.streams.bridge? id with
    | none => rfl
    | some bridge =>
      obtain ⟨bridge', ht', -⟩ := h.bridge_after hs
      rw [ht'] at ht
      cases ht
  | some bridge' =>
    obtain ⟨bridge, hs, hk⟩ := h.bridge_before ht
    simp only [hs, hk.readable, hk.writable]

theorem ChangesWithin.backingReach_eq (h : ChangesWithin f s t) (backing : SourceBacking E) :
    t.streams.backingReach backing = s.streams.backingReach backing := by
  cases backing with
  | body handle size => rfl
  | script guest => rfl
  | transform id => exact h.bridgeReach_eq id

theorem ChangesWithin.sourceReach_eq (h : ChangesWithin f s t) (id : ReadableId) :
    t.streams.sourceReach id = s.streams.sourceReach id := by
  unfold Registry.sourceReach
  cases ht : t.streams.source? id with
  | none =>
    cases hs : s.streams.source? id with
    | none => rfl
    | some source =>
      obtain ⟨source', ht', -⟩ := h.source_after hs
      rw [ht'] at ht
      cases ht
  | some source' =>
    obtain ⟨source, hs, hk⟩ := h.source_before ht
    simp only [hs, hk.backing, h.backingReach_eq]

/-- What lies behind a source stays in reach. -/
theorem ChangesWithin.backing_within (h : ChangesWithin f s t) {id : ReadableId} {source : Source E}
    (hr : (s.streams.sourceReach id).Within f) (ht : t.streams.source? id = some source) :
    (s.streams.backingReach source.backing).Within f := by
  obtain ⟨old, hs, hk⟩ := h.source_before ht
  have hback := hr.right
  simp only [hs] at hback
  rw [hk.backing]
  exact hback

theorem ChangesWithin.drain_within (h : ChangesWithin f s t) {id : WritableId} {sink : Sink E}
    (hr : (s.streams.sinkReach id).Within f) (ht : t.streams.sink? id = some sink) :
    (s.streams.drainReach sink.backing).Within f := by
  obtain ⟨old, hs, hk⟩ := h.sink_before ht
  have hback := hr.right
  simp only [hs] at hback
  rw [hk.backing]
  exact hback

theorem ChangesWithin.bridge_within (h : ChangesWithin f s t) {id : BridgeId} {bridge : Bridge E}
    (hr : (s.streams.bridgeReach id).Within f) (ht : t.streams.bridge? id = some bridge) :
    bridge.readable ∈ f.readables ∧ bridge.writable ∈ f.writables ∧ id ∈ f.bridges := by
  rw [← h.bridgeReach_eq, Registry.bridgeReach, ht] at hr
  exact ⟨hr.readables rfl, hr.writables rfl, hr.bridges rfl⟩

/-! ### Work behind the halves of a transform stream -/

theorem changesWithin_modifySink (h : ChangesWithin f s t) {id : WritableId}
    (hid : id ∈ f.writables) {change : Sink E → Sink E}
    (hk : ∀ sink, Sink.Keeps sink (change sink)) :
    ChangesWithin f s (mapStreams (fun streams => streams.modifySink id change) t) := by
  cases ht : t.streams.sink? id with
  | none =>
    have hsame : mapStreams (fun streams => streams.modifySink id change) t = t := by
      simp [mapStreams, Registry.modifySink, ht]
    rw [hsame]
    exact h
  | some sink =>
    have hset : mapStreams (fun streams => streams.modifySink id change) t =
        Session.setSink id (change sink) t := by
      simp [mapStreams, Registry.modifySink, ht, Session.setSink]
    rw [hset]
    exact h.setSink hid ht (hk sink)

/-- A change of the half that a bridge leads into. -/
theorem changesWithin_modifySource (h : ChangesWithin f s t) {id : ReadableId}
    (hid : id ∈ f.readables) (hj : t.streams.Joins id) {change : Source E → Source E}
    (hk : ∀ source, Source.Keeps source (change source)) :
    ChangesWithin f s (mapStreams (fun streams => streams.modifySource id change) t) := by
  cases ht : t.streams.source? id with
  | none =>
    have hsame : mapStreams (fun streams => streams.modifySource id change) t = t := by
      simp [mapStreams, Registry.modifySource, ht]
    rw [hsame]
    exact h
  | some source =>
    have hset : mapStreams (fun streams => streams.modifySource id change) t =
        Session.setSource id (change source) t := by
      simp [mapStreams, Registry.modifySource, ht, Session.setSource]
    rw [hset]
    exact h.setSource hid ht (hk source) (.inr hj)

/-- The writable half takes over the failure of a transformer, if there is one. -/
theorem changesWithin_spreadFault {id : WritableId} (hid : id ∈ f.writables)
    (fault? : Option StreamError) (result : Except StreamError Unit) :
    Preserves (ChangesWithin f s) (match fault? with
      | some error => do
        modify (mapStreams fun streams => streams.modifySink id fun sink =>
          if sink.controller.state = .writable then
            { sink with controller := sink.controller.error error }
          else sink)
        settled result
      | none => settled result : Action H E StreamError Unit) := by
  intro t h
  cases fault? with
  | none => exact h
  | some error =>
    refine changesWithin_modifySink h hid fun sink => ?_
    split
    · exact ⟨rfl, rfl, rfl, rfl, rfl⟩
    · exact .refl sink

/-- The transformer works on the readable half; the writable half and the bridge may fail. -/
theorem changesWithin_withTransformer {id : BridgeId} (hr : (s.streams.bridgeReach id).Within f)
    (work : TransformWork E) : Preserves (ChangesWithin f s) (withTransformer id work) := by
  intro t h
  simp only [withTransformer, exec_bind, exec_bridge]
  cases hb : t.streams.bridge? id with
  | none => exact h
  | some bridge =>
    obtain ⟨hreadable, hwritable, hbridge⟩ := h.bridge_within hr hb
    simp only [Registry.need_some, exec_source]
    cases hs : t.streams.source? bridge.readable with
    | none => exact h
    | some source =>
      simp only [Registry.need_some]
      split
      · exact h
      · simp only [exec_bind, exec_get, exec_modify]
        generalize work bridge.transformer t.env { controller := source.controller } = worked
        obtain ⟨⟨result, env⟩, desk⟩ := worked
        -- the chunks enter the journal, and the readable half its queue
        have hfed : ∀ controller, ChangesWithin f s (Session.setSource bridge.readable
            { source with controller }
              (noteEnqueued bridge.readable desk.accepted { t with env })) :=
          fun _ => ((h.env env).noteEnqueued hreadable desk.accepted).setSource hreadable hs
            ⟨rfl, rfl, rfl, rfl, rfl, rfl, fun h => h, fun h => h⟩ (.inr ⟨id, bridge, hb, rfl⟩)
        by_cases hfails : bridgeFails result desk = true
        · simp only [hfails, if_true, exec_bind, exec_modify]
          exact changesWithin_spreadFault hwritable _ result _
            ((hfed _).setBridge hbridge hb ⟨rfl, rfl, rfl, fun _ => rfl⟩)
        · simp only [hfails]
          exact changesWithin_spreadFault hwritable _ result _ (hfed _)

/-! ### Writers -/

section Writers

variable {id : WritableId} (hr : (s.streams.sinkReach id).Within f)
include hr

theorem changesWithin_writeAlgorithm (chunk : Bytes) :
    Preserves (ChangesWithin f s) (writeAlgorithm id chunk) := by
  refine .sink fun t sink h hs => ?_
  have hback := h.drain_within hr hs
  cases hb : sink.backing with
  | body handle =>
    rw [hb] at hback
    exact h.call (hback.bodies rfl) (.write chunk)
  | script guest => exact h.env _
  | transform bridgeId =>
    rw [hb] at hback
    refine Preserves.bridge (fun u bridge h hbridge => ?_) t h
    have hpulled : ChangesWithin f s
        (setBridge bridgeId { bridge with pullRequested := false } u) :=
      h.setBridge (h.bridge_within hback hbridge).2.2 hbridge ⟨rfl, rfl, rfl, fun h => h⟩
    exact changesWithin_withTransformer hback (.transform chunk) _ hpulled

theorem changesWithin_closeAlgorithm : Preserves (ChangesWithin f s) (closeAlgorithm id) := by
  refine .sink fun t sink h hs => ?_
  have hback := h.drain_within hr hs
  cases hb : sink.backing with
  | body handle =>
    rw [hb] at hback
    exact h.call (hback.bodies rfl) .close
  | script guest => exact h.env _
  | transform bridgeId =>
    rw [hb] at hback
    exact changesWithin_withTransformer hback .flush t h

theorem changesWithin_abortAlgorithm (reason : Option String) :
    Preserves (ChangesWithin f s) (abortAlgorithm id reason) := by
  refine .sink fun t sink h hs => ?_
  have hback := h.drain_within hr hs
  cases hb : sink.backing with
  | body handle =>
    rw [hb] at hback
    exact h.call (hback.bodies rfl) .abandon
  | script guest => exact h.env _
  | transform bridgeId =>
    rw [hb] at hback
    refine Preserves.bridge (fun u bridge h hbridge => ?_) t h
    obtain ⟨hreadable, -, hid⟩ := h.bridge_within hback hbridge
    have hfailed : ChangesWithin f s (setBridge bridgeId { bridge with errored := true } u) :=
      h.setBridge hid hbridge ⟨rfl, rfl, rfl, fun _ => rfl⟩
    refine changesWithin_modifySource hfailed hreadable ?_ fun source =>
      ⟨rfl, rfl, rfl, rfl, rfl, rfl, fun h => h, fun h => h⟩
    exact hfailed.joins_iff.mpr (h.joins_iff.mp ⟨bridgeId, bridge, hbridge, rfl⟩)

/-- The sink's controller changes. -/
theorem ChangesWithin.setController (h : ChangesWithin f s t) {sink : Sink E}
    (hs : t.streams.sink? id = some sink) (controller : WritableController) :
    ChangesWithin f s (Session.setSink id { sink with controller } t) :=
  h.setSink (hr.left.writables rfl) hs ⟨rfl, rfl, rfl, rfl, rfl⟩

theorem changesWithin_settle (result : Except StreamError Unit) :
    Preserves (ChangesWithin f s) (settle id result) := by
  refine .sink fun t sink h hs => ?_
  simp only []
  split
  · -- an abort has come meanwhile
    refine Preserves.bind
      (.caught (.noting (changesWithin_abortAlgorithm hr none) fun u outcome h => ?_))
      (fun _ => .throw _) _ (h.setController hr hs _)
    exact h.note (hr.left.writables rfl) fun _ hd => hd.elim
  · cases result with
    | ok => exact h.setController hr hs _
    | error error => exact h.setController hr hs _

theorem changesWithin_engage {t : Session H E} (h : ChangesWithin f s t) {sink : Sink E}
    (hs : t.streams.sink? id = some sink) (controller : WritableController)
    {work : Action H E StreamError Unit} (hwork : Preserves (ChangesWithin f s) work) :
    ChangesWithin f s (exec (engage id sink controller work) t).2 :=
  Preserves.bind (.caught hwork) (fun result => changesWithin_settle hr result) _
    (h.setController hr hs _)

/-- By induction on the rounds that are left. -/
theorem changesWithin_advanceRounds (rounds : Nat) :
    Preserves (ChangesWithin f s) (advanceRounds id rounds) := by
  induction rounds with
  | zero => exact .pure ()
  | succ rounds ih =>
    refine .sink fun t sink h hs => ?_
    split
    · exact h
    · split
      · exact h
      · exact h
      · split
        · next chunk controller _ =>
          exact Preserves.after (fun _ => ih) (changesWithin_engage hr h hs controller
            (.noting (changesWithin_writeAlgorithm hr chunk) fun u outcome h =>
              h.note (hr.left.writables rfl) fun _ hd => hd.elim))
        · split
          · refine Preserves.after (fun _ => .sink fun t sink h hs => ?_)
              (changesWithin_engage hr h hs
              sink.controller (.noting (changesWithin_closeAlgorithm hr) fun u outcome h =>
                h.note (hr.left.writables rfl) fun _ hd => hd.elim))
            split
            · exact h.setController hr hs _
            · exact h
          · exact h

theorem changesWithin_advance : Preserves (ChangesWithin f s) (advance id) :=
  .sink fun t _ h _ => changesWithin_advanceRounds hr _ t h

theorem changesWithin_writeUnchecked (chunk : Bytes) :
    Preserves (ChangesWithin f s) (writeUnchecked id chunk) := by
  refine .sink fun t sink h hs => ?_
  split
  · exact h
  · exact h
  · exact h
  · split
    · exact h
    · exact changesWithin_advance hr _ (h.setController hr hs _)

theorem changesWithin_closeUnchecked : Preserves (ChangesWithin f s) (closeUnchecked id) := by
  refine .sink fun t sink h hs => ?_
  split
  · exact h
  · exact h
  · exact h
  · exact h
  · exact changesWithin_advance hr _ (h.setController hr hs _)

theorem changesWithin_abortUnchecked (reason : Option String) :
    Preserves (ChangesWithin f s) (abortUnchecked id reason) := by
  refine .sink fun t sink h hs => ?_
  split
  · exact h
  · simp only []
    split
    · exact h.setController hr hs _
    · refine Preserves.noting (changesWithin_abortAlgorithm hr reason) (fun u outcome h => ?_) _
        (h.setController hr hs _)
      exact h.note (hr.left.writables rfl) fun _ hd => hd.elim

end Writers

/-! ### Readers -/

section Readers

variable {id : ReadableId}

/-- A source that counts as disturbed changes. -/
theorem ChangesWithin.setDisturbed (h : ChangesWithin f s t) (hid : id ∈ f.readables)
    (hd : s.streams.isDisturbed id = true) {source source' : Source E}
    (hs : t.streams.source? id = some source) (hk : source.Keeps source') :
    ChangesWithin f s (Session.setSource id source' t) := by
  refine h.setSource hid hs hk (.inl (hk.disturbed ?_))
  have ht := h.disturbed hd
  rw [Registry.isDisturbed, hs] at ht
  exact ht

theorem changesWithin_pullBody (hid : id ∈ f.readables) (hd : s.streams.isDisturbed id = true)
    {handle : BodyHandle} (hb : handle ∈ f.bodies) (size : UInt64) :
    Preserves (ChangesWithin f s) (pullBody id handle size) := by
  refine .bind (fun t h => h.call hb (.read size)) fun chunk => .source fun t source h hs => ?_
  split
  · exact h.setDisturbed hid hd hs ⟨rfl, rfl, rfl, rfl, rfl, rfl, fun h => h, fun h => h⟩
  · refine ChangesWithin.noteEnqueued ?_ hid _
    exact h.setDisturbed hid hd hs ⟨rfl, rfl, rfl, rfl, rfl, rfl, fun h => h, fun h => h⟩

theorem changesWithin_pullScript (hid : id ∈ f.readables) (hd : s.streams.isDisturbed id = true)
    (guest : UnderlyingSource E) : Preserves (ChangesWithin f s) (pullScript id guest) := by
  refine .source fun t source h hs => ?_
  refine ChangesWithin.noteEnqueued ?_ hid _
  exact (h.env _).setDisturbed hid hd hs ⟨rfl, rfl, rfl, rfl, rfl, rfl, fun h => h, fun h => h⟩

variable (hr : (s.streams.sourceReach id).Within f)
include hr

theorem changesWithin_cancelAlgorithm (reason : Option String) :
    Preserves (ChangesWithin f s) (cancelAlgorithm id reason) := by
  refine .source fun t source h hs => ?_
  have hback := h.backing_within hr hs
  cases hb : source.backing with
  | body handle size =>
    rw [hb] at hback
    exact h.call (hback.bodies rfl) .abandon
  | script guest => exact h.env _
  | transform bridgeId =>
    rw [hb] at hback
    refine Preserves.bridge (fun u bridge h hbridge => ?_) t h
    obtain ⟨-, hwritable, hid⟩ := h.bridge_within hback hbridge
    have hfailed : ChangesWithin f s (setBridge bridgeId { bridge with errored := true } u) :=
      h.setBridge hid hbridge ⟨rfl, rfl, rfl, fun _ => rfl⟩
    exact changesWithin_modifySink hfailed hwritable fun sink => ⟨rfl, rfl, rfl, rfl, rfl⟩

theorem changesWithin_cancelUnchecked (reason : Option String) :
    Preserves (ChangesWithin f s) (cancelUnchecked id reason) := by
  refine .source fun t source h hs => ?_
  have hid : id ∈ f.readables := hr.left.readables rfl
  have hset : ∀ controller canceled, (source.canceled = true → canceled = true) →
      ChangesWithin f s (setSource id { source with disturbed := true, controller, canceled } t) :=
    fun controller canceled hc =>
      h.setSource hid hs ⟨rfl, rfl, rfl, rfl, rfl, rfl, fun _ => rfl, hc⟩ (.inl rfl)
  simp only []
  split
  · exact hset _ _ fun h => h
  · exact hset _ _ fun h => h
  · split
    · exact hset _ _ fun h => h
    · -- the stream counts as disturbed before its source is told
      have hmark := hset source.controller.cancel true fun _ => rfl
      have hdisturbed : (setSource id { source with
          disturbed := true, controller := source.controller.cancel, canceled := true }
            t).streams.isDisturbed id = true := by
        simp [Registry.isDisturbed, Registry.source?_setSource, hs]
      rw [exec_bind, exec_modify]
      dsimp only
      generalize setSource id _ t = marked at hmark hdisturbed ⊢
      have hreach : (marked.streams.sourceReach id).Within f := by
        rwa [hmark.sourceReach_eq]
      have htold : Preserves (ChangesWithin f marked) (cancelAlgorithm id reason) :=
        changesWithin_cancelAlgorithm hreach reason
      refine hmark.trans (htold.noting (fun u outcome hu => ?_) marked .refl)
      refine hu.note hid fun other hd => ?_
      cases hd
      exact hu.disturbed hdisturbed

end Readers

/-! ### Operations -/

theorem changesWithin_write (s : Session H E) (id : WritableId) (chunk : Bytes)
    (token : Option WriterToken) :
    ChangesWithin (s.streams.sinkReach id) s (exec (write id chunk token) s).2 :=
  Preserves.bind (.checkWriter id token) (fun _ => changesWithin_writeUnchecked .refl chunk) s .refl

theorem changesWithin_close (s : Session H E) (id : WritableId) (token : Option WriterToken) :
    ChangesWithin (s.streams.sinkReach id) s (exec (close id token) s).2 :=
  Preserves.bind (.checkWriter id token) (fun _ => changesWithin_closeUnchecked .refl) s .refl

theorem changesWithin_abort (s : Session H E) (id : WritableId) (reason : Option String)
    (token : Option WriterToken) :
    ChangesWithin (s.streams.sinkReach id) s (exec (abort id reason token) s).2 :=
  Preserves.bind (.checkWriter id token) (fun _ => changesWithin_abortUnchecked .refl reason)
    s .refl

theorem changesWithin_cancel (s : Session H E) (id : ReadableId) (reason : Option String)
    (token : Option ReaderToken) :
    ChangesWithin (s.streams.sourceReach id) s (exec (cancel id reason token) s).2 :=
  Preserves.bind (.checkReader id token) (fun _ => changesWithin_cancelUnchecked .refl reason)
    s .refl

end Session

end EdgeStreams
