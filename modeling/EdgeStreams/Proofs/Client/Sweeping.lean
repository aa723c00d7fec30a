import EdgeStreams.Proofs.Client.Lasting

/-!
# Sweeping

A sweep takes out the pipes that have come to an end, the streams that are released and that nobody
holds, and then the bridges that neither half is left of. Nothing else changes, and another sweep
right after it finds nothing to take out. Whatever is left finds what it refers to: a running pipe
its ends, and the half of a transform stream its bridge.

## Main definitions

- `Registry.SweepContract`: what a sweep takes out, and what it leaves
- `Registry.Bridged`: the halves of transform streams find their bridges
- `Registry.Linked`: entries find what they refer to
- `Session.FindsBridges`: no half of a transform stream fails for want of its bridge

## Main statements

- `Registry.sweepContract`: every sweep is like that
- `Registry.GrowsTo.bridged`, `Registry.Bridged.sweep`: the halves of transform streams keep their
  bridges
- `Client.sweeps_of_calls`: sweeping, in every state that can be reached

## Design notes

The halves that a bridge has are the streams that it names. A name that has been given out finds its
stream or nothing, as long as no generation of a slot runs over.
-/

namespace EdgeStreams

variable {H E α : Type}

namespace SlotMap

variable (map : SlotMap α) (keep : Key → α → Bool)

/-- What is retained stays in its order. -/
theorem toList_retain :
    (map.retain keep).2.toList = map.toList.filter fun entry => keep entry.1 entry.2 := by
  have hnodup : ∀ map : SlotMap α, map.toList.Nodup := fun map => .of_map _ map.nodup_toList
  refine List.Perm.eq_of_pairwise (fun entry other _ _ h h' => absurd h' (Nat.lt_asymm h))
    (ordered_toList _) (map.ordered_toList.filter _) ?_
  refine (List.perm_ext_iff_of_nodup (hnodup _) ((hnodup map).filter _)).mpr ?_
  rintro ⟨key, value⟩
  simp only [List.mem_filter, mem_toList, get?_retain, Option.filter_eq_some_iff]

/-- Every value is either taken out or retained. -/
theorem length_retain :
    map.toList.length = (map.retain keep).1 + (map.retain keep).2.toList.length := by
  rw [toList_retain, List.length_eq_length_filter_add fun entry =>
    keep entry.1 entry.2, Nat.add_comm]
  simp only [retain, List.length_map]

/-- Where every value passes the test, nothing happens. -/
theorem retain_of_all {map : SlotMap α} {keep : Key → α → Bool}
    (h : ∀ key value, map.get? key = some value → keep key value = true) :
    map.retain keep = (0, map) := by
  have hnone : (map.toList.filter fun entry => !keep entry.1 entry.2) = [] := by
    refine List.filter_eq_nil_iff.mpr fun entry hentry => ?_
    simp [h entry.1 entry.2 (mem_toList.mp hentry)]
  simp [retain, hnone]

end SlotMap

namespace Registry

variable {streams streams' : Registry E}

/-! ### What a sweep does -/

/-- The number of all entries. -/
def population (streams : Registry E) : Nat :=
  streams.pipes.toList.length + streams.sources.toList.length + streams.sinks.toList.length +
    streams.bridges.toList.length

/-- One of the streams that a bridge names lives. -/
def HalfLives (streams : Registry E) (bridge : Bridge E) : Prop :=
  (∃ source, streams.source? bridge.readable = some source) ∨
    ∃ sink, streams.sink? bridge.writable = some sink

/-- What a sweep takes out, and what it leaves as it was. -/
structure SweepContract (streams : Registry E) : Prop where
  /-- The pipes that are running stay. -/
  pipe : ∀ id pipe, streams.sweep.2.pipe? id = some pipe ↔
    streams.pipe? id = some pipe ∧ pipe.state = .running
  /-- The readable streams stay that are not released, or locked. -/
  source : ∀ id source, streams.sweep.2.source? id = some source ↔
    streams.source? id = some source ∧ ¬ (source.released = true ∧ source.readerLock = none)
  sink : ∀ id sink, streams.sweep.2.sink? id = some sink ↔
    streams.sink? id = some sink ∧ ¬ (sink.released = true ∧ sink.writerLock = none)
  /-- The bridges stay that a half has stayed of. -/
  bridge : ∀ id bridge, streams.sweep.2.bridge? id = some bridge ↔
    streams.bridge? id = some bridge ∧ streams.sweep.2.HalfLives bridge
  /-- The answer is the number of entries that have been taken out. -/
  number : streams.population = streams.sweep.1 + streams.sweep.2.population
  nextToken : streams.sweep.2.nextToken = streams.nextToken
  config : streams.sweep.2.config = streams.config
  /-- Another sweep takes nothing out. -/
  again : streams.sweep.2.sweep = (0, streams.sweep.2)

theorem halfLives_iff (bridge : Bridge E) :
    (streams.containsReadable bridge.readable || streams.containsWritable bridge.writable) = true ↔
      streams.HalfLives bridge := by
  simp [containsReadable, containsWritable, HalfLives, Option.isSome_iff_exists]

/-- Another sweep finds every entry as the first one has found it. -/
theorem sweep_sweep (streams : Registry E) : streams.sweep.2.sweep = (0, streams.sweep.2) := by
  have hpipes : (streams.sweep.2.pipes.retain fun _ pipe => pipe.isRunning) =
      (0, streams.sweep.2.pipes) := by
    refine SlotMap.retain_of_all fun key pipe hp => ?_
    have hp := (streams.pipe?_sweep ⟨key⟩).symm.trans hp
    exact (Option.filter_eq_some_iff.mp hp).2
  have hsources : (streams.sweep.2.sources.retain fun _ source =>
      !(source.released && source.readerLock.isNone)) = (0, streams.sweep.2.sources) := by
    refine SlotMap.retain_of_all fun key source hs => ?_
    have hs := (streams.source?_sweep ⟨key⟩).symm.trans hs
    exact (Option.filter_eq_some_iff.mp hs).2
  have hsinks : (streams.sweep.2.sinks.retain fun _ sink =>
      !(sink.released && sink.writerLock.isNone)) = (0, streams.sweep.2.sinks) := by
    refine SlotMap.retain_of_all fun key sink hk => ?_
    have hk := (streams.sink?_sweep ⟨key⟩).symm.trans hk
    exact (Option.filter_eq_some_iff.mp hk).2
  -- the streams are as they were, and so the test of the bridges is the same one
  have hbridges : (streams.sweep.2.bridges.retain fun _ bridge =>
      streams.sweep.2.sources.contains bridge.readable.key ||
        streams.sweep.2.sinks.contains bridge.writable.key) = (0, streams.sweep.2.bridges) := by
    refine SlotMap.retain_of_all fun key bridge hb => ?_
    have hb := (streams.bridge?_sweep ⟨key⟩).symm.trans hb
    exact (Option.filter_eq_some_iff.mp hb).2
  rw [sweep]
  simp only [hpipes, hsources, hsinks, hbridges]

theorem population_sweep (streams : Registry E) :
    streams.population = streams.sweep.1 + streams.sweep.2.population := by
  have hpipes := streams.pipes.length_retain fun _ pipe => pipe.isRunning
  have hsources := streams.sources.length_retain fun _ source =>
    !(source.released && source.readerLock.isNone)
  have hsinks := streams.sinks.length_retain fun _ sink =>
    !(sink.released && sink.writerLock.isNone)
  have hbridges := streams.bridges.length_retain fun _ bridge =>
    streams.sweep.2.sources.contains bridge.readable.key ||
      streams.sweep.2.sinks.contains bridge.writable.key
  have hnumber : streams.sweep.1 =
      (streams.pipes.retain fun _ pipe => pipe.isRunning).1 +
        (streams.sources.retain fun _ source =>
          !(source.released && source.readerLock.isNone)).1 +
        (streams.sinks.retain fun _ sink => !(sink.released && sink.writerLock.isNone)).1 +
        (streams.bridges.retain fun _ bridge =>
          streams.sweep.2.sources.contains bridge.readable.key ||
            streams.sweep.2.sinks.contains bridge.writable.key).1 := rfl
  have hleft : streams.sweep.2.population =
      (streams.pipes.retain fun _ pipe => pipe.isRunning).2.toList.length +
        (streams.sources.retain fun _ source =>
          !(source.released && source.readerLock.isNone)).2.toList.length +
        (streams.sinks.retain fun _ sink =>
          !(sink.released && sink.writerLock.isNone)).2.toList.length +
        (streams.bridges.retain fun _ bridge =>
          streams.sweep.2.sources.contains bridge.readable.key ||
            streams.sweep.2.sinks.contains bridge.writable.key).2.toList.length := rfl
  rw [population, hnumber, hleft]
  omega

/-- A sweep takes out what has come to its end, and nothing else. -/
theorem sweepContract (streams : Registry E) : streams.SweepContract where
  pipe id pipe := by
    rw [pipe?_sweep, Option.filter_eq_some_iff, isRunning_iff]
  source id source := by
    rw [source?_sweep, Option.filter_eq_some_iff, Bool.not_eq_true', Bool.and_eq_false_iff]
    cases source.released <;> cases source.readerLock <;> simp
  sink id sink := by
    rw [sink?_sweep, Option.filter_eq_some_iff, Bool.not_eq_true', Bool.and_eq_false_iff]
    cases sink.released <;> cases sink.writerLock <;> simp
  bridge id bridge := by
    rw [bridge?_sweep, Option.filter_eq_some_iff, halfLives_iff]
  number := population_sweep streams
  nextToken := rfl
  config := rfl
  again := sweep_sweep streams

/-! ### Bridges -/

/-- The halves of transform streams find their bridges, which name them. -/
structure Bridged (streams : Registry E) : Prop where
  readable : ∀ {id source name}, streams.source? id = some source →
    source.backing = .transform name →
      ∃ bridge, streams.bridge? name = some bridge ∧ bridge.readable = id
  writable : ∀ {id sink name}, streams.sink? id = some sink → sink.backing = .transform name →
    ∃ bridge, streams.bridge? name = some bridge ∧ bridge.writable = id

namespace Bridged

theorem new (config : StreamConfig) : (Registry.new config : Registry E).Bridged := by
  have hsource : ∀ id, (Registry.new config : Registry E).source? id = none :=
    fun _ => SlotMap.get?_empty _
  have hsink : ∀ id, (Registry.new config : Registry E).sink? id = none :=
    fun _ => SlotMap.get?_empty _
  refine ⟨fun hs => ?_, fun hk => ?_⟩
  · rw [hsource] at hs
    cases hs
  · rw [hsink] at hk
    cases hk

/-- No half has been made, and every bridge is there still. -/
theorem later (h : streams.Bridged)
    (hsource : ∀ {id source' name}, streams'.source? id = some source' →
      source'.backing = .transform name →
        ∃ source, streams.source? id = some source ∧ source.backing = .transform name)
    (hsink : ∀ {id sink' name}, streams'.sink? id = some sink' → sink'.backing = .transform name →
      ∃ sink, streams.sink? id = some sink ∧ sink.backing = .transform name)
    (hbridge : ∀ {name bridge}, streams.bridge? name = some bridge →
      ∃ bridge', streams'.bridge? name = some bridge' ∧ bridge'.made = bridge.made) :
    streams'.Bridged where
  readable hs' hback' := by
    obtain ⟨source, hs, hback⟩ := hsource hs' hback'
    obtain ⟨bridge, hb, he⟩ := h.readable hs hback
    obtain ⟨bridge', hb', hmade⟩ := hbridge hb
    exact ⟨bridge', hb', (congrArg Prod.fst hmade).trans he⟩
  writable hk' hback' := by
    obtain ⟨sink, hk, hback⟩ := hsink hk' hback'
    obtain ⟨bridge, hb, he⟩ := h.writable hk hback
    obtain ⟨bridge', hb', hmade⟩ := hbridge hb
    exact ⟨bridge', hb', (congrArg (·.2.1) hmade).trans he⟩

/-- A new transform stream has halves that find its bridge, and no bridge is lost. -/
theorem enterTransform (h : streams.Bridged) (wf : streams.WellFormed)
    (transformer : Transformer E) :
    (Session.enterTransform transformer streams).2.Bridged := by
  have hfound : ∀ {name bridge}, streams.bridge? name = some bridge →
      (Session.enterTransform transformer streams).2.bridge? name = some bridge := by
    intro name bridge hb
    rw [bridge?_enterTransform wf, if_neg, hb]
    rintro rfl
    rw [enterTransform_eq] at hb
    cases (wf.bridges.get?_nextKey).symm.trans hb
  refine ⟨fun {id source name} hs hback => ?_, fun {id sink name} hk hback => ?_⟩
  · rw [source?_enterTransform wf] at hs
    split at hs
    · next he =>
      cases hs
      cases hback
      exact ⟨_, (bridge?_enterTransform wf transformer _).trans (if_pos rfl), he.symm⟩
    · obtain ⟨bridge, hb, he⟩ := h.readable hs hback
      exact ⟨bridge, hfound hb, he⟩
  · rw [sink?_enterTransform wf] at hk
    split at hk
    · next he =>
      cases hk
      cases hback
      exact ⟨_, (bridge?_enterTransform wf transformer _).trans (if_pos rfl), he.symm⟩
    · obtain ⟨bridge, hb, he⟩ := h.writable hk hback
      exact ⟨bridge, hfound hb, he⟩

/-- The bridge of a half that is left is left too. -/
theorem sweep (h : streams.Bridged) : streams.sweep.2.Bridged where
  readable {id source name} hs hback := by
    have hold := ((sweepContract streams).source id source).mp hs
    obtain ⟨bridge, hb, rfl⟩ := h.readable hold.1 hback
    exact ⟨bridge, ((sweepContract streams).bridge name bridge).mpr ⟨hb, .inl ⟨source, hs⟩⟩, rfl⟩
  writable {id sink name} hk hback := by
    have hold := ((sweepContract streams).sink id sink).mp hk
    obtain ⟨bridge, hb, rfl⟩ := h.writable hold.1 hback
    exact ⟨bridge, ((sweepContract streams).bridge name bridge).mpr ⟨hb, .inr ⟨sink, hk⟩⟩, rfl⟩

theorem clear : streams.clear.Bridged where
  readable hs := by cases hs.symm.trans (SlotMap.get?_clear _ _)
  writable hk := by cases hk.symm.trans (SlotMap.get?_clear _ _)

end Bridged

/-- By induction on the changes. -/
theorem GrowsTo.bridged (h : streams.GrowsTo streams') (wf : streams.WellFormed)
    (hb : streams.Bridged) : streams'.Bridged := by
  induction h with
  | refl => exact hb
  | number nextToken _ ih => exact ⟨ih.readable, ih.writable⟩
  | @setSource between id source source' _ hs hback ih =>
    refine ih.later (fun {other found name} hfound hname => ?_) (fun hk hname => ⟨_, hk, hname⟩)
      fun hb => ⟨_, hb, rfl⟩
    rw [source?_setSource] at hfound
    split at hfound
    · next he =>
      subst he
      rw [hs] at hfound
      cases hfound
      exact ⟨source, hs, hback.symm.trans hname⟩
    · exact ⟨found, hfound, hname⟩
  | @setSink between id sink sink' _ hk hback ih =>
    refine ih.later (fun hs hname => ⟨_, hs, hname⟩) (fun {other found name} hfound hname => ?_)
      fun hb => ⟨_, hb, rfl⟩
    rw [sink?_setSink] at hfound
    split at hfound
    · next he =>
      subst he
      rw [hk] at hfound
      cases hfound
      exact ⟨sink, hk, hback.symm.trans hname⟩
    · exact ⟨found, hfound, hname⟩
  | @setBridge between id bridge bridge' _ hb hmade ih =>
    refine ih.later (fun hs hname => ⟨_, hs, hname⟩) (fun hk hname => ⟨_, hk, hname⟩)
      fun {name found} hfound => ?_
    rw [bridge?_setBridge]
    split
    · next he =>
      subst he
      rw [hb] at hfound
      cases hfound
      exact ⟨bridge', by rw [hb]; rfl, hmade⟩
    · exact ⟨found, hfound, rfl⟩
  | setPipe _ _ _ ih | addPipe _ _ _ ih => exact ⟨ih.readable, ih.writable⟩
  -- a new stream of this kind is over no bridge
  | @addSource between source hg hnative ih =>
    refine ih.later (fun {other found name} hfound hname => ?_) (fun hk hname => ⟨_, hk, hname⟩)
      fun hb => ⟨_, hb, rfl⟩
    have hinsert : (between.addSource source).2.source? other = _ :=
      (hg.wellFormed wf).sources.get?_insert source other.key
    rw [hinsert] at hfound
    split at hfound
    · cases hfound
      exact absurd hname (hnative name)
    · exact ⟨found, hfound, hname⟩
  | @addSink between sink hg hnative ih =>
    refine ih.later (fun hs hname => ⟨_, hs, hname⟩) (fun {other found name} hfound hname => ?_)
      fun hb => ⟨_, hb, rfl⟩
    have hinsert : (between.addSink sink).2.sink? other = _ :=
      (hg.wellFormed wf).sinks.get?_insert sink other.key
    rw [hinsert] at hfound
    split at hfound
    · cases hfound
      exact absurd hname (hnative name)
    · exact ⟨found, hfound, hname⟩
  | enterTransform transformer hg ih => exact ih.enterTransform (hg.wellFormed wf) transformer

/-- Entries find what they refer to: a running pipe its ends, and the half of a transform stream its
bridge, which names it. -/
structure Linked (streams : Registry E) : Prop where
  ends : ∀ id pipe, streams.pipe? id = some pipe → pipe.state = .running →
    (∃ source, streams.source? pipe.source = some source) ∧
      ∃ sink, streams.sink? pipe.destination = some sink
  bridged : streams.Bridged

theorem InOrder.linked (h : streams.InOrder) (hb : streams.Bridged) : streams.Linked where
  ends id pipe hp hr := by
    obtain ⟨source, sink, hs, hk, -⟩ := h.running id pipe hp hr
    exact ⟨⟨source, hs⟩, sink, hk⟩
  bridged := hb

end Registry

/-! ### What is done for a half of a transform stream -/

namespace Session

/-- No half of a transform stream fails for want of its bridge. Pulling, cancelling and aborting do
not fail at all; what is written, and the end, come to what the transformer makes of it, unless the
readable half is gone or has failed. -/
structure FindsBridges [Host H] (t : Session H E) : Prop where
  pull : ∀ {fuel id source name} {r : Except StreamError Unit × Session H E},
    t.streams.source? id = some source → source.backing = .transform name →
      attempt (Session.pull fuel id) t = some r → r.1 = .ok ()
  cancel : ∀ {id source name}, t.streams.source? id = some source →
    source.backing = .transform name → ∀ reason,
      (exec (cancelAlgorithm id reason) t).1 = .ok ()
  write : ∀ {id sink name}, t.streams.sink? id = some sink → sink.backing = .transform name →
    ∀ chunk, t.streams.Transforms name (.transform chunk) t.env
      (exec (writeAlgorithm id chunk) t).1 (exec (writeAlgorithm id chunk) t).2.env
  close : ∀ {id sink name}, t.streams.sink? id = some sink → sink.backing = .transform name →
    t.streams.Transforms name .flush t.env
      (exec (closeAlgorithm id) t).1 (exec (closeAlgorithm id) t).2.env
  abort : ∀ {id sink name}, t.streams.sink? id = some sink → sink.backing = .transform name →
    ∀ reason, (exec (abortAlgorithm id reason) t).1 = .ok ()

variable [Host H] {s t : Session H E}

/-- Where halves find their bridges, none fails for want of it. -/
theorem findsBridges (h : t.streams.Bridged) : t.FindsBridges where
  pull {fuel id source name r} hs hback hpull := by
    obtain ⟨bridge, hb, -⟩ := h.readable hs hback
    cases fuel with
    | zero => cases hpull
    | succ fuel =>
      simp only [attempt_pull, hs, hback, hb] at hpull
      split at hpull
      · obtain ⟨driven, -, rfl⟩ := Option.map_eq_some_iff.mp hpull
        rfl
      · cases hpull
        rfl
  cancel {id source name} hs hback reason := by
    obtain ⟨bridge, hb, -⟩ := h.readable hs hback
    rw [exec_cancelAlgorithm_transform hs hback hb]
  write {id sink name} hk hback chunk := by
    obtain ⟨bridge, hb, -⟩ := h.writable hk hback
    have hforgot : (setBridge name { bridge with pullRequested := false } t).streams.bridge? name =
        some { bridge with pullRequested := false } := by
      simp [setBridge, Registry.bridge?_setBridge, hb]
    have hrun : exec (writeAlgorithm id chunk) t =
        exec (withTransformer name (.transform chunk))
          (setBridge name { bridge with pullRequested := false } t) := by
      simp [writeAlgorithm, exec_bind, hk, hback, hb]
    obtain ⟨-, found, hfound, hwork⟩ := transforms_withTransformer (.transform chunk) hforgot
    rw [hforgot] at hfound
    cases hfound
    rw [hrun]
    exact ⟨bridge, hb, hwork⟩
  close {id sink name} hk hback := by
    obtain ⟨bridge, hb, -⟩ := h.writable hk hback
    have hrun : exec (closeAlgorithm id) t = exec (withTransformer name .flush) t := by
      simp [closeAlgorithm, exec_bind, hk, hback]
    rw [hrun]
    exact (transforms_withTransformer .flush hb).2
  abort {id sink name} hk hback reason := by
    obtain ⟨bridge, hb, -⟩ := h.writable hk hback
    rw [exec_abortAlgorithm_transform reason hk hback hb]

end Session

namespace Client

variable [Host H] {uses : H → List UInt32 → H → Prop}
variable {allowed : Client H E → Client H E → Prop} {client later : Client H E}

theorem Call.bridged (h : Call uses client later) (wf : client.session.streams.WellFormed)
    (hb : client.session.streams.Bridged) : later.session.streams.Bridged := by
  rcases h.growsTo with hgrows | he | he
  · exact hgrows.bridged wf hb
  · exact he ▸ hb.sweep
  · exact he ▸ Registry.Bridged.clear

/-- By induction on the calls. -/
theorem Calls.bridged (h : Calls uses allowed client later) (hs : client.Sound)
    (hb : client.session.streams.Bridged) : later.session.streams.Bridged := by
  induction h with
  | refl => exact hb
  | call hbefore hcall _ ih => exact hcall.bridged (hbefore.sound hs).orderly.wellFormed ih

/-- In every state that clients can reach, a sweep takes out the pipes that have come to an end, the
streams that are released and unlocked, and the bridges that neither half is left of; it answers
with their number, leaves everything else as it was, and leaves nothing for a second sweep. Before
it, after it, and while an operation is under way, running pipes find their ends, the halves of
transform streams find their bridges, and so none of them fails for want of its bridge. -/
theorem sweeps_of_calls {host : H} {env : E} {config : StreamConfig}
    (h : Calls uses allowed (new host env config) client) :
    client.session.streams.SweepContract ∧ client.session.streams.sweep.2.Linked ∧
      (∀ t, client.session.MovesTo t → t.streams.Linked ∧ t.FindsBridges) ∧
      ∀ t, (client.session.mapStreams fun streams => streams.sweep.2).MovesTo t →
        t.streams.Linked ∧ t.FindsBridges := by
  have hsound := h.sound (sound_new host env config)
  have hbridged : client.session.streams.Bridged :=
    h.bridged (sound_new host env config) (.new config)
  have hstep : Step uses client
      (client.withSession (client.session.mapStreams fun streams => streams.sweep.2)) :=
    .operate .sweep 0 rfl
  have hswept := (hstep.keeps hsound).sound
  refine ⟨client.session.streams.sweepContract, hswept.orderly.inOrder.linked hbridged.sweep,
    fun t hm => ?_, fun t hm => ?_⟩
  · have hnow := hm.growsTo.bridged hsound.orderly.wellFormed hbridged
    exact ⟨(hm.orderly hsound.orderly).inOrder.linked hnow, Session.findsBridges hnow⟩
  · have hnow := hm.growsTo.bridged hswept.orderly.wellFormed hbridged.sweep
    exact ⟨(hm.orderly hswept.orderly).inOrder.linked hnow, Session.findsBridges hnow⟩

/-- A pipe waits before a transform stream without room. All three streams are released, and so is a
writable stream that nobody holds. Of these the sweep takes out the last, and the readable half. -/
theorem sweeps_of_calls_parked :
    ∃ client : Client MemoryHost Unit,
      Calls (fun _ _ _ => True) (fun _ _ => True)
        (new {} () { transformHighWaterMark := 0 }) client ∧
      client.session.streams.sweep.1 = 2 ∧ client.session.streams.SweepContract ∧
      ∀ t, (client.session.mapStreams fun streams => streams.sweep.2).MovesTo t →
        t.streams.Linked ∧ t.FindsBridges := by
  have hmade : Calls (H := MemoryHost) (E := Unit) (fun _ _ _ => True) (fun _ _ => True)
      (new {} () { transformHighWaterMark := 0 }) _ :=
    .call (.call (.call .refl (.step (.operate (.createTransform .identity) 0 rfl)) trivial)
      (.step (.operate (.bodySource ⟨1⟩) 0 rfl)) trivial)
      (.step (.operate (.bodySink ⟨2⟩) 0 rfl)) trivial
  have hpiped := hmade.call (.step (.operate (.pipeTo ⟨1, 0⟩ ⟨0, 0⟩ {}) 3 rfl)) trivial
  have hreleased := ((hpiped.call (.step (.operate (.releaseReadable ⟨1, 0⟩) 0 rfl)) trivial).call
    (.step (.operate (.releaseTransform ⟨⟨0, 0⟩, ⟨0, 0⟩, ⟨0, 0⟩⟩) 0 rfl)) trivial).call
      (.step (.operate (.releaseWritable ⟨1, 0⟩) 0 rfl)) trivial
  obtain ⟨hsweeps, -, -, hafter⟩ := sweeps_of_calls hreleased
  exact ⟨_, hreleased, by decide +kernel, hsweeps, hafter⟩

end Client

end EdgeStreams
