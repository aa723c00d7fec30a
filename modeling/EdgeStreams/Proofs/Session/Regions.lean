import EdgeStreams.Proofs.Session.Reach

/-!
# Runs within a region

Reading, pulling and driving pipes call each other to any depth. They follow the pipes and bridges,
and so they stay within any region that no pipe and no bridge leaves.

## Main definitions

- `Region`: streams with what lies behind them, and pipes
- `Region.Sealed`: reading and driving pipes within the region leads to nothing outside
- `Region.Closed`: no pipe and no bridge leaves the region
- `Session.MovesWithin`: one move after another, all of them within a region

## Main statements

- `Session.MovesWithin.sealed`: no move opens a sealed region
- `Session.flowMovesWithin`: reading, pulling and driving a pipe
- `Session.movesWithin_pipeTo`, `Session.movesWithin_abortCorrelated`: operations on pipes
- `Session.MovesWithin.source?_outside` and its like: what lies outside the region

## Design notes

A move may work on any streams of the region, whoever holds their locks. That is more than a run
ever does, so that what every move preserves is preserved by every run and holds in all its states
on the way.
-/

namespace EdgeStreams

variable {H E : Type}

/-- Streams with what lies behind them, and pipes. -/
structure Region where
  reach : Footprint
  pipes : Set PipeId

namespace Region

/-- Everything. -/
def all : Region where
  reach := ⟨Set.univ, Set.univ, Set.univ, Set.univ, Set.univ⟩
  pipes := Set.univ

/-- Both ends of a pipe lie in a region. -/
structure Joins (region : Region) (pipe : Pipe) : Prop where
  source : pipe.source ∈ region.reach.readables
  destination : pipe.destination ∈ region.reach.writables

/-- Whatever reading and driving pipes within the region comes to belongs to it: what lies behind
its streams, the running pipes into them, and both ends of its pipes. -/
structure Sealed (region : Region) (streams : Registry E) : Prop where
  backing : ∀ {id source}, id ∈ region.reach.readables → streams.source? id = some source →
    (streams.backingReach source.backing).Within region.reach
  drain : ∀ {id sink}, id ∈ region.reach.writables → streams.sink? id = some sink →
    (streams.drainReach sink.backing).Within region.reach
  into : ∀ {name pipe}, streams.pipe? name = some pipe → pipe.isRunning →
    pipe.destination ∈ region.reach.writables → name ∈ region.pipes
  joins : ∀ {name pipe}, name ∈ region.pipes → streams.pipe? name = some pipe → pipe.isRunning →
    region.Joins pipe

/-- No running pipe and no bridge leaves the region, and what lies behind its streams belongs to
it. -/
structure Closed (region : Region) (streams : Registry E) : Prop extends region.Sealed streams where
  outOf : ∀ {name pipe}, streams.pipe? name = some pipe → pipe.isRunning →
    pipe.source ∈ region.reach.readables → name ∈ region.pipes

variable {region : Region} {streams streams' : Registry E}

theorem within_all (f : Footprint) : f.Within all.reach :=
  ⟨fun _ _ => trivial, fun _ _ => trivial, fun _ _ => trivial, fun _ _ => trivial,
    fun _ _ => trivial⟩

theorem joins_all (pipe : Pipe) : all.Joins pipe := ⟨trivial, trivial⟩

theorem closed_all (streams : Registry E) : all.Closed streams :=
  ⟨⟨fun _ _ => within_all _, fun _ _ => within_all _, fun _ _ _ => trivial,
    fun _ _ _ => joins_all _⟩, fun _ _ _ => trivial⟩

namespace Sealed

theorem sourceReach (h : region.Sealed streams) {id : ReadableId}
    (hid : id ∈ region.reach.readables) : (streams.sourceReach id).Within region.reach := by
  have hself : ({ readables := {id} } : Footprint).Within region.reach :=
    ⟨Set.singleton_subset_iff.mpr hid, Set.empty_subset _, Set.empty_subset _, Set.empty_subset _,
      Set.empty_subset _⟩
  refine hself.union ?_
  cases hs : streams.source? id with
  | none => exact Footprint.empty_within
  | some source => exact h.backing hid hs

theorem sinkReach (h : region.Sealed streams) {id : WritableId}
    (hid : id ∈ region.reach.writables) : (streams.sinkReach id).Within region.reach := by
  have hself : ({ writables := {id} } : Footprint).Within region.reach :=
    ⟨Set.empty_subset _, Set.singleton_subset_iff.mpr hid, Set.empty_subset _, Set.empty_subset _,
      Set.empty_subset _⟩
  refine hself.union ?_
  cases hk : streams.sink? id with
  | none => exact Footprint.empty_within
  | some sink => exact h.drain hid hk

/-- A region stays sealed where streams and bridges are not made and a running pipe is an old one or
one of the region. -/
theorem later (h : region.Sealed streams)
    (hsource : ∀ {id source'}, streams'.source? id = some source' →
      ∃ source, streams.source? id = some source ∧ source'.backing = source.backing)
    (hsink : ∀ {id sink'}, streams'.sink? id = some sink' →
      ∃ sink, streams.sink? id = some sink ∧ sink'.backing = sink.backing)
    (hbridge : ∀ id, streams'.bridgeReach id = streams.bridgeReach id)
    (hpipe : ∀ {name pipe'}, streams'.pipe? name = some pipe' → pipe'.isRunning →
      name ∈ region.pipes ∧ region.Joins pipe' ∨
        ∃ pipe, streams.pipe? name = some pipe ∧ pipe.isRunning ∧ pipe'.source = pipe.source ∧
          pipe'.destination = pipe.destination) : region.Sealed streams' where
  backing hid hs' := by
    obtain ⟨source, hs, hback⟩ := hsource hs'
    have hreach := h.backing hid hs
    rw [hback]
    unfold Registry.backingReach at hreach ⊢
    simpa only [hbridge] using hreach
  drain hid hk' := by
    obtain ⟨sink, hk, hback⟩ := hsink hk'
    have hreach := h.drain hid hk
    rw [hback]
    unfold Registry.drainReach at hreach ⊢
    simpa only [hbridge] using hreach
  into hp' hr' hid := by
    rcases hpipe hp' hr' with ⟨hname, -⟩ | ⟨pipe, hp, hr, -, hdestination⟩
    · exact hname
    · exact h.into hp hr (hdestination ▸ hid)
  joins hid hp' hr' := by
    rcases hpipe hp' hr' with ⟨-, hjoins⟩ | ⟨pipe, hp, hr, hsource, hdestination⟩
    · exact hjoins
    · obtain ⟨hread, hwrite⟩ := h.joins hid hp hr
      exact ⟨hsource ▸ hread, hdestination ▸ hwrite⟩

theorem setPipe (h : region.Sealed streams) {id : PipeId} {pipe : Pipe}
    (hp : streams.pipe? id = some pipe) (pumping : Bool) :
    region.Sealed (streams.setPipe id { pipe with pumping }) := by
  refine h.later (fun hs => ⟨_, hs, rfl⟩) (fun hk => ⟨_, hk, rfl⟩) (fun _ => rfl)
    fun {name pipe'} hp' hr' => ?_
  rw [Registry.pipe?_setPipe] at hp'
  split at hp'
  · next he =>
    rw [hp] at hp'
    cases hp'
    exact .inr ⟨pipe, he ▸ hp, hr', rfl, rfl⟩
  · exact .inr ⟨pipe', hp', hr', rfl, rfl⟩

theorem finishPipe (h : region.Sealed streams) (id : PipeId) (state : PipeState)
    (hs : state ≠ .running) : region.Sealed (streams.finishPipe id state) := by
  by_cases hrun : ∃ pipe, streams.pipe? id = some pipe ∧ pipe.isRunning
  · obtain ⟨pipe, hp, hr⟩ := hrun
    refine h.later (fun {name source'} hs' => ?_) (fun {name sink'} hk' => ?_) (fun name => ?_)
      fun {name pipe'} hp' hr' => ?_
    · rw [Registry.source?_finishPipe state hp hr] at hs'
      split at hs'
      · next he =>
        obtain ⟨source, hs, rfl⟩ := Option.map_eq_some_iff.mp hs'
        refine ⟨source, he ▸ hs, ?_⟩
        simp only [Registry.unlockReader]
        split <;> rfl
      · exact ⟨source', hs', rfl⟩
    · rw [Registry.sink?_finishPipe state hp hr] at hk'
      split at hk'
      · next he =>
        obtain ⟨sink, hk, rfl⟩ := Option.map_eq_some_iff.mp hk'
        refine ⟨sink, he ▸ hk, ?_⟩
        simp only [Registry.unlockWriter]
        split <;> rfl
      · exact ⟨sink', hk', rfl⟩
    · simp only [Registry.bridgeReach, Registry.bridge?_finishPipe]
    · rw [Registry.pipe?_finishPipe state hp hr] at hp'
      split at hp'
      · cases hp'
        exact absurd (beq_iff_eq.mp hr') hs
      · exact .inr ⟨pipe', hp', hr', rfl, rfl⟩
  · rwa [Registry.finishPipe_of_not_running]
    exact fun pipe hp hr => hrun ⟨pipe, hp, hr⟩

end Sealed

end Region

namespace Session

variable [Host H]

/-- One move after another, all of them within a region. -/
inductive MovesWithin (region : Region) (s : Session H E) : Session H E → Prop
  | refl : MovesWithin region s s
  | touch {t u : Session H E} : MovesWithin region s t → ChangesWithin region.reach t u →
      MovesWithin region s u
  | note {t : Session H E} (event : StreamEvent) : MovesWithin region s t →
      MovesWithin region s (note event t)
  /-- A pipe starts or stops being driven. -/
  | drive {t : Session H E} {id : PipeId} {pipe : Pipe} (pumping : Bool) :
    MovesWithin region s t → id ∈ region.pipes → t.streams.pipe? id = some pipe →
      MovesWithin region s (mapStreams (fun streams => streams.setPipe id { pipe with pumping }) t)
  | finish {t : Session H E} {id : PipeId} {state : PipeState} :
    MovesWithin region s t → id ∈ region.pipes → state ≠ .running →
      MovesWithin region s (pipeFinished id state t)

namespace MovesWithin

variable {region : Region} {s t u : Session H E}

theorem trans (h : MovesWithin region s t) (h' : MovesWithin region t u) :
    MovesWithin region s u := by
  induction h' with
  | refl => exact h
  | touch _ ht ih => exact ih.touch ht
  | note event _ ih => exact ih.note event
  | drive pumping _ hid hp ih => exact ih.drive pumping hid hp
  | finish _ hid hs ih => exact ih.finish hid hs

theorem of_changesWithin (h : ChangesWithin region.reach s t) :
    MovesWithin region s t := refl.touch h

/-- No move opens a sealed region. -/
theorem sealed (h : MovesWithin region s t) (hc : region.Sealed s.streams) :
    region.Sealed t.streams := by
  induction h with
  | refl => exact hc
  | touch _ ht ih =>
    refine ih.later (fun hs' => ?_) (fun hk' => ?_) (fun id => ht.bridgeReach_eq id)
      fun {name pipe'} hp' hr' => ?_
    · obtain ⟨source, hs, hk⟩ := ht.source_before hs'
      exact ⟨source, hs, hk.backing⟩
    · obtain ⟨sink, hs, hk⟩ := ht.sink_before hk'
      exact ⟨sink, hs, hk.backing⟩
    · rw [Registry.pipe?_congr ht.pipes_eq] at hp'
      exact .inr ⟨pipe', hp', hr', rfl, rfl⟩
  | note _ _ ih => exact ih
  | drive pumping _ _ hp ih => exact ih.setPipe hp pumping
  | finish _ _ hs ih => exact ih.finishPipe _ _ hs

/-- A source that counts as disturbed does so for ever. -/
theorem disturbed (h : MovesWithin region s t) {id : ReadableId}
    (hd : s.streams.isDisturbed id = true) : t.streams.isDisturbed id = true := by
  induction h with
  | refl => exact hd
  | touch _ ht ih => exact ht.disturbed ih
  | note _ _ ih | drive _ _ _ _ ih => exact ih
  | @finish t pid state _ _ _ ih =>
    by_cases hrun : ∃ pipe, t.streams.pipe? pid = some pipe ∧ pipe.isRunning
    · obtain ⟨pipe, hp, hr⟩ := hrun
      simp only [Registry.isDisturbed, pipeFinished, streams_mapStreams,
        Registry.source?_finishPipe state hp hr] at ih ⊢
      by_cases hid : id = pipe.source
      · rw [if_pos hid]
        subst hid
        cases hs : t.streams.source? pipe.source with
        | none => simp [hs] at ih
        | some source =>
          rw [hs] at ih
          simp only [Option.map_some, Registry.unlockReader] at ih ⊢
          split <;> exact ih
      · rw [if_neg hid]
        exact ih
    · rw [pipeFinished, streams_mapStreams, Registry.finishPipe_of_not_running]
      · exact ih
      · exact fun pipe hp hr => hrun ⟨pipe, hp, hr⟩

/-- A source is marked as disturbed. -/
theorem disturb (h : MovesWithin region s t) {id : ReadableId} {source : Source E}
    (hid : id ∈ region.reach.readables) (hs : t.streams.source? id = some source) :
    MovesWithin region s (disturb id source t) :=
  h.touch (ChangesWithin.refl.setSource hid hs
    ⟨rfl, rfl, rfl, rfl, rfl, rfl, fun _ => rfl, fun h => h⟩ (.inl rfl))

/-- A source that counts as disturbed changes. -/
theorem setSource (h : MovesWithin region s t) {id : ReadableId} {source source' : Source E}
    (hid : id ∈ region.reach.readables) (hd : s.streams.isDisturbed id = true)
    (hs : t.streams.source? id = some source) (hk : source.Keeps source') :
    MovesWithin region s (setSource id source' t) :=
  h.touch (ChangesWithin.refl.setDisturbed hid (h.disturbed hd) hs hk)

/-! ### What lies outside the region -/

theorem source?_outside (h : MovesWithin region s t) (hc : region.Sealed s.streams)
    {id : ReadableId} (hid : id ∉ region.reach.readables) :
    t.streams.source? id = s.streams.source? id := by
  induction h with
  | refl => rfl
  | touch _ ht ih => exact (ht.source?_outside hid).trans ih
  | note _ _ ih | drive _ _ _ _ ih => exact ih
  | @finish t name state hbefore hname _ ih =>
    by_cases hrun : ∃ pipe, t.streams.pipe? name = some pipe ∧ pipe.isRunning
    · obtain ⟨pipe, hp, hr⟩ := hrun
      have hjoins := (hbefore.sealed hc).joins hname hp hr
      have hne : id ≠ pipe.source := fun he => hid (he ▸ hjoins.source)
      rw [pipeFinished, streams_mapStreams, Registry.source?_finishPipe state hp hr, if_neg hne]
      exact ih
    · rwa [pipeFinished, streams_mapStreams, Registry.finishPipe_of_not_running]
      exact fun pipe hp hr => hrun ⟨pipe, hp, hr⟩

theorem sink?_outside (h : MovesWithin region s t) (hc : region.Sealed s.streams) {id : WritableId}
    (hid : id ∉ region.reach.writables) : t.streams.sink? id = s.streams.sink? id := by
  induction h with
  | refl => rfl
  | touch _ ht ih => exact (ht.sink?_outside hid).trans ih
  | note _ _ ih | drive _ _ _ _ ih => exact ih
  | @finish t name state hbefore hname _ ih =>
    by_cases hrun : ∃ pipe, t.streams.pipe? name = some pipe ∧ pipe.isRunning
    · obtain ⟨pipe, hp, hr⟩ := hrun
      have hjoins := (hbefore.sealed hc).joins hname hp hr
      have hne : id ≠ pipe.destination := fun he => hid (he ▸ hjoins.destination)
      rw [pipeFinished, streams_mapStreams, Registry.sink?_finishPipe state hp hr, if_neg hne]
      exact ih
    · rwa [pipeFinished, streams_mapStreams, Registry.finishPipe_of_not_running]
      exact fun pipe hp hr => hrun ⟨pipe, hp, hr⟩

theorem bridge?_outside (h : MovesWithin region s t) {id : BridgeId}
    (hid : id ∉ region.reach.bridges) : t.streams.bridge? id = s.streams.bridge? id := by
  induction h with
  | refl => rfl
  | touch _ ht ih => exact (ht.bridge?_outside hid).trans ih
  | note _ _ ih | drive _ _ _ _ ih => exact ih
  | finish _ _ _ ih =>
    rw [pipeFinished, streams_mapStreams, Registry.bridge?_finishPipe]
    exact ih

theorem pipe?_outside (h : MovesWithin region s t) {id : PipeId} (hid : id ∉ region.pipes) :
    t.streams.pipe? id = s.streams.pipe? id := by
  induction h with
  | refl => rfl
  | touch _ ht ih => exact (Registry.pipe?_congr ht.pipes_eq id).trans ih
  | note _ _ ih => exact ih
  | @drive t name pipe _ _ hname _ ih =>
    have hne : id ≠ name := fun he => hid (he ▸ hname)
    rw [streams_mapStreams, Registry.pipe?_setPipe, if_neg hne]
    exact ih
  | @finish t name state _ hname _ ih =>
    by_cases hrun : ∃ pipe, t.streams.pipe? name = some pipe ∧ pipe.isRunning
    · obtain ⟨pipe, hp, hr⟩ := hrun
      have hne : id ≠ name := fun he => hid (he ▸ hname)
      rw [pipeFinished, streams_mapStreams, Registry.pipe?_finishPipe state hp hr, if_neg hne]
      exact ih
    · rwa [pipeFinished, streams_mapStreams, Registry.finishPipe_of_not_running]
      exact fun pipe hp hr => hrun ⟨pipe, hp, hr⟩

/-- The host has been asked about nothing but bodies of the region. -/
theorem calls (h : MovesWithin region s t) : BodyCalls region.reach.bodies s.host t.host := by
  induction h with
  | refl => exact .refl
  | touch _ ht ih => exact ih.trans ht.calls
  | note _ _ ih | drive _ _ _ _ ih | finish _ _ _ ih => exact ih

end MovesWithin

variable {region : Region} {s t : Session H E}

/-! ### What a pipe does to its ends -/

theorem changesWithin_cancelSource (pipe : Pipe) (s : Session H E) :
    ChangesWithin (s.streams.sourceReach pipe.source) s (cancelSource pipe s).2 := by
  cases h : pipe.options.preventCancel with
  | false =>
    rw [cancelSource_snd h]
    exact changesWithin_cancel s _ _ _
  | true =>
    rw [cancelSource_of_prevented h]
    exact .refl

theorem changesWithin_abortDestination (pipe : Pipe) (s : Session H E) :
    ChangesWithin (s.streams.sinkReach pipe.destination) s (abortDestination pipe s).2 := by
  cases h : pipe.options.preventAbort with
  | false =>
    rw [abortDestination_snd h]
    exact changesWithin_abort s _ _ _
  | true =>
    rw [abortDestination_of_prevented h]
    exact .refl

theorem changesWithin_closeDestination (pipe : Pipe) (s : Session H E) :
    ChangesWithin (s.streams.sinkReach pipe.destination) s (closeDestination pipe s).2 ∧
      (closeDestination pipe s).1 ≠ .running := by
  cases h : pipe.options.preventClose with
  | false =>
    rw [closeDestination_eq h]
    refine ⟨changesWithin_close s _ _, ?_⟩
    cases (exec (close pipe.destination (some pipe.writer)) s).1 <;> simp [closedState]
  | true =>
    rw [closeDestination_of_prevented h]
    exact ⟨.refl, by simp⟩

/-- A pipe that fails on account of its destination ends, after work on its source. -/
theorem failPipe_eq (id : PipeId) (pipe : Pipe) (error : StreamError) (s : Session H E) :
    ∃ t, ChangesWithin (s.streams.sourceReach pipe.source) s t ∧
      (failPipe id pipe error s).2 = pipeFinished id (.failed error) t := by
  cases h : s.streams.containsWritable pipe.destination with
  | true =>
    rw [failPipe_snd h]
    exact ⟨_, changesWithin_cancelSource pipe s, rfl⟩
  | false =>
    exact ⟨s, .refl, failPipe_snd_of_gone h⟩

section Ends

variable (hc : region.Sealed s.streams) {pipe : Pipe} (hj : region.Joins pipe)
include hc hj

theorem movesWithin_cancelSource : MovesWithin region s (cancelSource pipe s).2 :=
  .of_changesWithin ((changesWithin_cancelSource pipe s).mono (hc.sourceReach hj.source))

theorem movesWithin_abortDestination : MovesWithin region s (abortDestination pipe s).2 :=
  .of_changesWithin ((changesWithin_abortDestination pipe s).mono (hc.sinkReach hj.destination))

theorem movesWithin_closeDestination : MovesWithin region s (closeDestination pipe s).2 :=
  .of_changesWithin ((changesWithin_closeDestination pipe s).1.mono (hc.sinkReach hj.destination))

theorem movesWithin_failPipe {id : PipeId} (hid : id ∈ region.pipes) (error : StreamError) :
    MovesWithin region s (failPipe id pipe error s).2 := by
  obtain ⟨t, htouches, heq⟩ := failPipe_eq id pipe error s
  rw [heq]
  exact (MovesWithin.of_changesWithin (htouches.mono (hc.sourceReach hj.source))).finish hid
    (by simp)

end Ends

/-! ### What a reader finds -/

omit [Host H] in
theorem isDisturbed_disturb {id : ReadableId} {source : Source E}
    (hs : s.streams.source? id = some source) :
    (disturb id source s).streams.isDisturbed id = true := by
  simp [disturb, Registry.isDisturbed, Registry.source?_setSource, hs]

theorem movesWithin_takeReady {id : ReadableId} (hid : id ∈ region.reach.readables)
    (hd : s.streams.isDisturbed id = true) : MovesWithin region s (exec (takeReady id) s).2 := by
  obtain ⟨source, hs⟩ : ∃ source, s.streams.source? id = some source := by
    cases hs : s.streams.source? id with
    | none => simp [Registry.isDisturbed, hs] at hd
    | some source => exact ⟨source, rfl⟩
  rw [exec_takeReady hs]
  have hset : MovesWithin region s (setSource id
      { source with controller := source.controller.takeReady.2 } s) :=
    MovesWithin.refl.setSource hid hd hs ⟨rfl, rfl, rfl, rfl, rfl, rfl, fun h => h, fun h => h⟩
  unfold noteDelivered
  split
  · exact hset.note _
  · exact hset

/-! ### The functions that call each other -/

/-- What leads to every outcome that there is with some fuel. -/
structure FlowMovesWithin (H E : Type) [Host H] (region : Region) (fuel : Nat) : Prop where
  readUnchecked {s : Session H E} {id : ReadableId}
    {r : Except StreamError ReadOutcome × Session H E} :
    region.Sealed s.streams → id ∈ region.reach.readables →
      attempt (Session.readUnchecked fuel id) s = some r → MovesWithin region s r.2
  pullIfNeeded {s : Session H E} {id : ReadableId} {readerWaits : Bool} {r : Unit × Session H E} :
    region.Sealed s.streams → id ∈ region.reach.readables → s.streams.isDisturbed id = true →
      EdgeStreams.drive (Session.pullIfNeeded fuel id readerWaits) s = some r →
        MovesWithin region s r.2
  pull {s : Session H E} {id : ReadableId} {r : Except StreamError Unit × Session H E} :
    region.Sealed s.streams → id ∈ region.reach.readables → s.streams.isDisturbed id = true →
      attempt (Session.pull fuel id) s = some r → MovesWithin region s r.2
  pumpPipe {s : Session H E} {id : PipeId} {r : Nat × Session H E} :
    region.Sealed s.streams → id ∈ region.pipes →
      EdgeStreams.drive (Session.pumpPipe fuel id) s = some r → MovesWithin region s r.2
  pumpSteps {s : Session H E} {id : PipeId} {pipe : Pipe} {steps : Nat} {r : Nat × Session H E} :
    region.Sealed s.streams → id ∈ region.pipes → region.Joins pipe →
      EdgeStreams.drive (Session.pumpSteps fuel id pipe steps) s = some r → MovesWithin region s r.2

namespace FlowMovesWithin

theorem zero : FlowMovesWithin H E region 0 where
  readUnchecked _ _ h := by cases h
  pullIfNeeded _ _ _ h := by cases h
  pull _ _ _ h := by cases h
  pumpPipe _ _ h := by cases h
  pumpSteps _ _ _ h := by cases h

variable {fuel : Nat} (ih : FlowMovesWithin H E region fuel) (hc : region.Sealed s.streams)
include ih hc

theorem readUnchecked_succ {id : ReadableId} {r : Except StreamError ReadOutcome × Session H E}
    (hid : id ∈ region.reach.readables)
    (h : attempt (Session.readUnchecked (fuel + 1) id) s = some r) : MovesWithin region s r.2 := by
  cases hs : s.streams.source? id with
  | none => exact readUnchecked_of_gone hs h ▸ .refl
  | some source =>
    have hmarks : MovesWithin region s (Session.disturb id source s) :=
      MovesWithin.refl.disturb hid hs
    have hmark := isDisturbed_disturb hs
    have htaken := movesWithin_takeReady (E := E) hid hmark
    rcases readUnchecked_keeps (MovesWithin region (Session.disturb id source s)) hs h .refl
      (fun t hmoves => hmoves.trans (movesWithin_takeReady hid (hmoves.disturbed hmark)))
      fun waits t _ hpull => htaken.trans (ih.pullIfNeeded ((hmarks.trans htaken).sealed hc) hid
        (htaken.disturbed hmark) hpull) with heq | hread
    · exact heq ▸ .refl
    · exact hmarks.trans hread

theorem pullIfNeeded_succ {id : ReadableId} {readerWaits : Bool} {r : Unit × Session H E}
    (hid : id ∈ region.reach.readables) (hd : s.streams.isDisturbed id = true)
    (h : EdgeStreams.drive (Session.pullIfNeeded (fuel + 1) id readerWaits) s = some r) :
    MovesWithin region s r.2 := by
  cases hs : s.streams.source? id with
  | none => exact pullIfNeeded_of_gone hs h ▸ .refl
  | some source =>
    have hkeep : ∀ pulling pullAgain,
        Source.Keeps source { source with pulling, pullAgain } := fun _ _ =>
      ⟨rfl, rfl, rfl, rfl, rfl, rfl, fun h => h, fun h => h⟩
    rcases pullIfNeeded_cases hs h with ⟨-, rfl⟩ | ⟨-, ⟨-, rfl⟩ | ⟨-, result, t, hpull, hafter⟩⟩
    · exact .refl
    · exact MovesWithin.refl.setSource hid hd hs (hkeep _ _)
    have hbegan : MovesWithin region s (Session.note (.pullBegan id)
        (Session.setSource id { source with pulling := true } s)) :=
      (MovesWithin.refl.setSource hid hd hs (hkeep _ _)).note _
    have hpulled := ih.pull (hbegan.sealed hc) hid (hbegan.disturbed hd) hpull
    have hended := (hbegan.trans hpulled).note (.pullEnded id result)
    cases hafter with
    | gone => exact hended
    | failed error last ht =>
      exact hended.setSource hid hd ht ⟨rfl, rfl, rfl, rfl, rfl, rfl, fun h => h, fun h => h⟩
    | settled last ht =>
      exact hended.setSource hid hd ht ⟨rfl, rfl, rfl, rfl, rfl, rfl, fun h => h, fun h => h⟩
    | again last ht _ hrest =>
      have hagain : MovesWithin region s
          (Session.setSource id { last with pulling := false, pullAgain := false }
            (Session.note (.pullEnded id (.ok ())) t)) :=
        hended.setSource hid hd ht ⟨rfl, rfl, rfl, rfl, rfl, rfl, fun h => h, fun h => h⟩
      exact hagain.trans (ih.pullIfNeeded (hagain.sealed hc) hid (hagain.disturbed hd) hrest)

theorem pull_succ {id : ReadableId} {r : Except StreamError Unit × Session H E}
    (hid : id ∈ region.reach.readables) (hd : s.streams.isDisturbed id = true)
    (h : attempt (Session.pull (fuel + 1) id) s = some r) : MovesWithin region s r.2 := by
  rw [attempt_pull] at h
  cases hs : s.streams.source? id with
  | none =>
    simp only [hs, Option.some.injEq] at h
    exact h ▸ .refl
  | some source =>
    have hreach := hc.backing hid hs
    simp only [hs] at h
    cases hb : source.backing with
    | body handle size =>
      rw [hb] at hreach
      simp only [hb, Option.some.injEq] at h
      exact h ▸ .of_changesWithin (changesWithin_pullBody hid hd (hreach.bodies rfl) size s .refl)
    | script guest =>
      simp only [hb, Option.some.injEq] at h
      exact h ▸ .of_changesWithin (changesWithin_pullScript hid hd guest s .refl)
    | transform bridgeId =>
      rw [hb] at hreach
      simp only [hb] at h
      cases hbridge : s.streams.bridge? bridgeId with
      | none =>
        simp only [hbridge, Option.some.injEq] at h
        exact h ▸ .refl
      | some bridge =>
        simp only [Registry.backingReach, Registry.bridgeReach, hbridge] at hreach
        simp only [hbridge] at h
        have hasked : MovesWithin region s
            (Session.setBridge bridgeId { bridge with pullRequested := true } s) :=
          .of_changesWithin (ChangesWithin.refl.setBridge (hreach.bridges rfl)
            hbridge ⟨rfl, rfl, rfl, fun h => h⟩)
        split at h
        · next name hinto =>
          -- the pipe that runs into the writable half leads to a stream of the region
          obtain ⟨pumped, hpump, rfl⟩ := Option.map_eq_some_iff.mp h
          obtain ⟨pipe, hp, hr, hdestination⟩ := Registry.of_pipeInto?_eq_some _ hinto
          have hname := (hasked.sealed hc).into hp hr (hdestination ▸ hreach.writables rfl)
          exact hasked.trans (ih.pumpPipe (hasked.sealed hc) hname hpump)
        · simp only [Option.some.injEq] at h
          exact h ▸ hasked

theorem pumpPipe_succ {id : PipeId} {r : Nat × Session H E} (hid : id ∈ region.pipes)
    (h : EdgeStreams.drive (Session.pumpPipe (fuel + 1) id) s = some r) :
    MovesWithin region s r.2 := by
  rcases pumpPipe_cases h with ⟨-, rfl⟩ | ⟨pipe, steps, t, hp, hr, -, hsteps, rfl⟩
  · exact .refl
  have hdrive : MovesWithin region s _ := MovesWithin.refl.drive true hid hp
  have hdriven := hdrive.trans (ih.pumpSteps (hdrive.sealed hc) hid (hc.joins hid hp hr) hsteps)
  simp only [mapStreams, parked]
  cases ht : t.streams.pipe? id with
  | none => exact hdriven
  | some pipe' => exact hdriven.drive false hid ht

theorem pumpSteps_succ {id : PipeId} {pipe : Pipe} {steps : Nat} {r : Nat × Session H E}
    (hid : id ∈ region.pipes) (hj : region.Joins pipe)
    (h : EdgeStreams.drive (Session.pumpSteps (fuel + 1) id pipe steps) s = some r) :
    MovesWithin region s r.2 := by
  rcases pumpSteps_cases h with ⟨error, -, rfl⟩ | ⟨-, ⟨-, rfl⟩ | ⟨-, found, t, hread, hfound⟩⟩
  · exact movesWithin_failPipe hc hj hid error
  · exact .refl
  have hmoved : MovesWithin region s t := by
    rcases readByPipe_cases hread with hread | ⟨rfl, -⟩
    · exact ih.readUnchecked hc hj.source hread
    · exact .refl
  have hct := hmoved.sealed hc
  have hwrites : ∀ {data outcome u}, exec (write pipe.destination data (some pipe.writer)) t =
      (outcome, u) → MovesWithin region s u := by
    intro data outcome u hwrite
    have htouches := changesWithin_write t pipe.destination data (some pipe.writer)
    rw [hwrite] at htouches
    exact hmoved.trans (.of_changesWithin (htouches.mono (hct.sinkReach hj.destination)))
  cases hfound with
  | starved => exact hmoved
  | failed error => exact (hmoved.trans (movesWithin_abortDestination hct hj)).finish hid (by simp)
  | drained =>
    exact (hmoved.trans (movesWithin_closeDestination hct hj)).finish hid
      (changesWithin_closeDestination pipe t).2
  | refused data error u hwrite =>
    have hwritten := hwrites hwrite
    exact (hwritten.trans (movesWithin_cancelSource (hwritten.sealed hc) hj)).finish hid (by simp)
  | carried data u hwrite hrest =>
    have hwritten := hwrites hwrite
    exact hwritten.trans (ih.pumpSteps (hwritten.sealed hc) hid hj hrest)

end FlowMovesWithin

/-- By induction on the fuel. -/
theorem flowMovesWithin (region : Region) (fuel : Nat) : FlowMovesWithin H E region fuel := by
  induction fuel with
  | zero => exact .zero
  | succ fuel ih =>
    exact ⟨fun hc => ih.readUnchecked_succ hc, fun hc => ih.pullIfNeeded_succ hc,
      fun hc => ih.pull_succ hc, fun hc => ih.pumpPipe_succ hc, fun hc => ih.pumpSteps_succ hc⟩

/-! ### Operations -/

variable {fuel : Nat}

theorem movesWithin_read (hc : region.Sealed s.streams) {id : ReadableId}
    (hid : id ∈ region.reach.readables) {token : Option ReaderToken}
    {r : Except StreamError ReadOutcome × Session H E}
    (h : attempt (read fuel id token) s = some r) : MovesWithin region s r.2 := by
  simp only [read, attempt_bind, attempt_finite, exec_onStreams, Registry.exec_checkReader,
    Option.bind_some] at h
  split at h
  · exact (flowMovesWithin region fuel).readUnchecked hc hid h
  · simp only [Option.some.injEq] at h
    exact h ▸ .refl

/-- A pipe has been opened or refused, and then driven as far as it goes. -/
theorem movesWithin_pipeTo {source : ReadableId} {destination : WritableId} {options : PipeOptions}
    {r : Except StreamError PipeId × Session H E}
    (hc : region.Sealed (exec (Registry.openPipe source destination options) s.streams).2)
    (hid : ∀ {id streams}, exec (Registry.openPipe source destination options) s.streams =
      (.ok id, streams) → id ∈ region.pipes)
    (h : attempt (pipeTo fuel source destination options) s = some r) :
    MovesWithin region
      { s with streams := (exec (Registry.openPipe source destination options) s.streams).2 }
        r.2 := by
  rw [attempt_pipeTo] at h
  generalize exec (Registry.openPipe source destination options) s.streams = opened at h hc hid ⊢
  obtain ⟨result, streams⟩ := opened
  cases result with
  | error error =>
    simp only [Option.some.injEq] at h
    exact h ▸ .refl
  | ok id =>
    obtain ⟨pumped, hpump, rfl⟩ := Option.map_eq_some_iff.mp h
    exact (flowMovesWithin region fuel).pumpPipe hc (hid rfl) hpump

/-- A stream that no pipe runs out of may be piped to a stream of the region only. -/
theorem movesWithin_abortCorrelated (hc : region.Closed s.streams) {source : ReadableId}
    (hid : source ∈ region.reach.readables)
    (hpiped : s.streams.pipeFrom? source = none → ∀ destination,
      s.streams.pipedTo? source = some destination → destination ∈ region.reach.writables)
    (reason : Option String) :
    MovesWithin region s (exec (abortCorrelated source reason) s).2 := by
  simp only [abortCorrelated, exec_bind, exec_get]
  cases hfrom : s.streams.pipeFrom? source with
  | some found =>
    obtain ⟨name, pipe⟩ := found
    obtain ⟨hp, hr, rfl⟩ := Registry.of_pipeFrom?_eq_some _ hfrom
    have hname := hc.outOf hp hr hid
    simp only [exec_bind, exec_caught, exec_modify]
    refine MovesWithin.finish ?_ hname (by simp)
    have haborted : MovesWithin region s
        (exec (abort pipe.destination reason (some pipe.writer)) s).2 :=
      .of_changesWithin ((changesWithin_abort s _ _ _).mono
        (hc.sinkReach (hc.joins hname hp hr).destination))
    exact haborted.touch
      ((changesWithin_cancel _ _ _ _).mono ((haborted.sealed hc.toSealed).sourceReach hid))
  | none =>
    -- an unlocked stream is cancelled once what it is piped to has been aborted
    have hcancel : Preserves (MovesWithin region s) (do
        if (← get).streams.isLocked source then pure ()
        else cancelUnchecked source reason : Action H E StreamError Unit) := by
      intro t ht
      simp only [exec_bind, exec_get]
      split
      · exact ht
      · exact ht.touch (changesWithin_cancelUnchecked ((ht.sealed hc.toSealed).sourceReach hid)
          reason t .refl)
    dsimp only
    rw [exec_bind, exec_get]
    dsimp only
    cases hto : s.streams.pipedTo? source with
    | none => exact hcancel s .refl
    | some destination =>
      exact Preserves.after (fun _ => hcancel) (.of_changesWithin
        (changesWithin_abortUnchecked (hc.sinkReach (hpiped hfrom destination hto)) reason s .refl))

end Session

end EdgeStreams
