import EdgeStreams.Proofs.Session.Creating
import EdgeStreams.Proofs.Session.Leftovers
import Mathlib.Data.Set.Card

/-!
# How streams are wired

Octets wait in host bodies and in the queues of readable streams. A source draws on the host body
behind it. A running pipe carries what it reads into a host body, or over a bridge into the readable
half of a transform stream. No other octets move from one of these places to another.

## Main definitions

- `Place`: where octets wait
- `Registry.FillsPlace`: where writes come to
- `Registry.FeedsInto`: octets move from one place to another
- `Registry.ways`: from where to where octets move, computed
- `Registry.Acyclic`: no octets come back to where they were
- `Registry.Guestless`: no guest supplies a source, a sink or a transformer
- `Registry.KeepsWiring`: the wiring is as it was, but for pipes that have finished

## Main statements

- `Session.MovesTo.keepsWiring`: a run rewires nothing
- `Registry.Acyclic.of_feedsInto`, `Registry.Acyclic.insert`: wirings that are acyclic as another is
- `Registry.Acyclic.bodySource`: a new source over a host body closes no circle
- `Registry.Acyclic.of_height`: a wiring is acyclic if octets only move down
- `Registry.Acyclic.exists_height`: the places of an acyclic wiring have heights
-/

namespace EdgeStreams

variable {H E : Type}

/-- Where octets wait. -/
inductive Place where
  /-- In the queue of a readable stream. -/
  | queue (id : ReadableId)
  | body (handle : BodyHandle)
deriving DecidableEq

namespace Registry

variable (streams : Registry E)

/-- What is written to a stream comes to a place. -/
inductive FillsPlace : WritableId → Place → Prop
  | body {id : WritableId} {sink : Sink E} {handle : BodyHandle} :
    streams.sink? id = some sink → sink.backing = .body handle → FillsPlace id (.body handle)
  | bridge {name : BridgeId} {bridge : Bridge E} :
    streams.bridge? name = some bridge → FillsPlace bridge.writable (.queue bridge.readable)

/-- Octets move from one place to another. -/
inductive FeedsInto : Place → Place → Prop
  /-- A source draws on a host body. -/
  | source {id : ReadableId} {source : Source E} {handle : BodyHandle} {size : UInt64} :
    streams.source? id = some source → source.backing = .body handle size →
      FeedsInto (.body handle) (.queue id)
  /-- A running pipe carries what it reads to where its destination leads. -/
  | pipe {id : PipeId} {pipe : Pipe} {place : Place} :
    streams.pipe? id = some pipe → pipe.isRunning → streams.FillsPlace pipe.destination place →
      FeedsInto (.queue pipe.source) place

/-- No octets come back to where they were. -/
def Acyclic : Prop := ∀ place, ¬ Relation.TransGen streams.FeedsInto place place

/-- No guest supplies a source, a sink or a transformer. -/
structure Guestless : Prop where
  source : ∀ {id source guest}, streams.source? id = some source → source.backing ≠ .script guest
  sink : ∀ {id sink guest}, streams.sink? id = some sink → sink.backing ≠ .script guest
  bridge : ∀ {name bridge}, streams.bridge? name = some bridge → bridge.transformer = .identity

variable {streams} {streams' streams'' : Registry E}

theorem guestless_new (config : StreamConfig) : (new config : Registry E).Guestless where
  source h := by cases (SlotMap.get?_empty _).symm.trans h
  sink h := by cases (SlotMap.get?_empty _).symm.trans h
  bridge h := by cases (SlotMap.get?_empty _).symm.trans h

/-! ### Wirings that stay -/

variable (streams streams') in
/-- The wiring is as it was, but for pipes that have finished. -/
structure KeepsWiring : Prop where
  source : ∀ id, Option.Rel (fun source source' => source'.backing = source.backing)
    (streams.source? id) (streams'.source? id)
  sink : ∀ id, Option.Rel (fun sink sink' => sink'.backing = sink.backing)
    (streams.sink? id) (streams'.sink? id)
  bridge : ∀ id, Option.Rel (fun bridge bridge' => bridge'.readable = bridge.readable ∧
    bridge'.writable = bridge.writable ∧ bridge'.transformer = bridge.transformer)
    (streams.bridge? id) (streams'.bridge? id)
  pipe : ∀ {id pipe'}, streams'.pipe? id = some pipe' → pipe'.isRunning →
    ∃ pipe, streams.pipe? id = some pipe ∧ pipe.isRunning ∧ pipe'.source = pipe.source ∧
      pipe'.destination = pipe.destination

namespace KeepsWiring

/-- Sources, sinks and bridges are wired as they were, and the pipes are the same. -/
theorem of_pipes (hsource : ∀ id, Option.Rel (fun source source' =>
      source'.backing = source.backing) (streams.source? id) (streams'.source? id))
    (hsink : ∀ id, Option.Rel (fun sink sink' => sink'.backing = sink.backing)
      (streams.sink? id) (streams'.sink? id))
    (hbridge : ∀ id, Option.Rel (fun bridge bridge' => bridge'.readable = bridge.readable ∧
      bridge'.writable = bridge.writable ∧ bridge'.transformer = bridge.transformer)
      (streams.bridge? id) (streams'.bridge? id))
    (hpipes : streams'.pipes = streams.pipes) : streams.KeepsWiring streams' :=
  ⟨hsource, hsink, hbridge, fun hp hr =>
    ⟨_, (pipe?_congr hpipes _).symm.trans hp, hr, rfl, rfl⟩⟩

theorem refl (streams : Registry E) : streams.KeepsWiring streams :=
  of_pipes (fun _ => SlotMap.rel_refl (fun _ => by rfl) _)
    (fun _ => SlotMap.rel_refl (fun _ => by rfl) _)
    (fun _ => SlotMap.rel_refl (fun _ => ⟨rfl, rfl, rfl⟩) _) rfl

theorem trans (h : streams.KeepsWiring streams') (h' : streams'.KeepsWiring streams'') :
    streams.KeepsWiring streams'' where
  source id := SlotMap.rel_trans (fun hab hbc => hbc.trans hab) (h.source id) (h'.source id)
  sink id := SlotMap.rel_trans (fun hab hbc => hbc.trans hab) (h.sink id) (h'.sink id)
  bridge id := SlotMap.rel_trans (fun hab hbc => ⟨hbc.1.trans hab.1, hbc.2.1.trans hab.2.1,
    hbc.2.2.trans hab.2.2⟩) (h.bridge id) (h'.bridge id)
  pipe hp hr := by
    obtain ⟨between, hbetween, hrunning, hsource, hdestination⟩ := h'.pipe hp hr
    obtain ⟨pipe, hpipe, hfirst, hsource', hdestination'⟩ := h.pipe hbetween hrunning
    exact ⟨pipe, hpipe, hfirst, hsource.trans hsource', hdestination.trans hdestination'⟩

/-- A source changes, but not what is behind it. -/
theorem modifySource (streams : Registry E) (id : ReadableId) {f : Source E → Source E}
    (hf : ∀ source, (f source).backing = source.backing) :
    streams.KeepsWiring (streams.modifySource id f) := by
  refine of_pipes (fun other => ?_) (fun other => ?_) (fun other => ?_)
    (pipes_modifySource streams id f)
  · rw [source?_modifySource]
    split
    · next he => exact he ▸ SlotMap.rel_map hf _
    · exact (refl streams).source other
  · rw [sink?_modifySource]
    exact (refl streams).sink other
  · rw [bridge?_modifySource]
    exact (refl streams).bridge other

/-- The lock of a source is taken. -/
theorem readerLocked {id : ReadableId} {source : Source E} (hs : streams.source? id = some source) :
    streams.KeepsWiring (streams.readerLocked id source) := by
  refine of_pipes (fun other => ?_) (refl streams).sink (refl streams).bridge rfl
  rw [source?_readerLocked hs]
  split
  · next he =>
    rw [he, hs]
    exact .some rfl
  · exact (refl streams).source other

theorem getReader (streams : Registry E) (id : ReadableId) :
    streams.KeepsWiring (exec (Registry.getReader id) streams).2 := by
  cases hs : streams.source? id with
  | none => simpa [Registry.getReader, exec_bind, hs] using refl streams
  | some source =>
    cases hl : source.readerLock with
    | some token => simpa [Registry.getReader, exec_bind, hs, hl] using refl streams
    | none =>
      rw [exec_getReader streams hs hl]
      exact readerLocked hs

/-- The lock of a source is given back. -/
theorem releaseReader (streams : Registry E) (id : ReadableId) (token : ReaderToken) :
    streams.KeepsWiring (quietly (Registry.releaseReader id token) streams) := by
  refine of_pipes (fun other => ?_) (fun other => ?_) (fun other => ?_)
    (pipes_releaseReader streams id token)
  · rw [source?_releaseReader]
    split
    · next he =>
      refine he ▸ SlotMap.rel_map (fun source => ?_) _
      unfold unlockReader
      split <;> rfl
    · exact (refl streams).source other
  · rw [sink?_releaseReader]
    exact (refl streams).sink other
  · rw [bridge?_releaseReader]
    exact (refl streams).bridge other

/-- A pipe starts or stops being driven. -/
theorem setPipe {id : PipeId} {pipe : Pipe} (hp : streams.pipe? id = some pipe) (pumping : Bool) :
    streams.KeepsWiring (streams.setPipe id { pipe with pumping }) where
  source := (refl streams).source
  sink := (refl streams).sink
  bridge := (refl streams).bridge
  pipe {other found} hfound hr := by
    rw [pipe?_setPipe, hp, Option.map_some] at hfound
    split at hfound
    · next he =>
      cases hfound
      exact ⟨pipe, he ▸ hp, hr, rfl, rfl⟩
    · exact ⟨found, hfound, hr, rfl, rfl⟩

/-- A pipe finishes. -/
theorem finishPipe (streams : Registry E) (id : PipeId) {state : PipeState}
    (hstate : state ≠ .running) : streams.KeepsWiring (streams.finishPipe id state) := by
  by_cases hrun : ∃ pipe, streams.pipe? id = some pipe ∧ pipe.isRunning
  · obtain ⟨pipe, hp, hr⟩ := hrun
    refine ⟨fun other => ?_, fun other => ?_, fun other => ?_, fun {other found} hfound hr' => ?_⟩
    · rw [source?_finishPipe state hp hr]
      split
      · next he =>
        refine he ▸ SlotMap.rel_map (fun source => ?_) _
        unfold unlockReader
        split <;> rfl
      · exact (refl streams).source other
    · rw [sink?_finishPipe state hp hr]
      split
      · next he =>
        refine he ▸ SlotMap.rel_map (fun sink => ?_) _
        unfold unlockWriter
        split <;> rfl
      · exact (refl streams).sink other
    · rw [bridge?_finishPipe]
      exact (refl streams).bridge other
    · rw [pipe?_finishPipe state hp hr] at hfound
      split at hfound
      · cases hfound
        exact absurd (eq_of_beq hr') hstate
      · exact ⟨found, hfound, hr', rfl, rfl⟩
  · rw [finishPipe_of_not_running _ fun pipe hp hr => hrun ⟨pipe, hp, hr⟩]
    exact refl streams

/-- What is written comes to where it came to. -/
theorem fillsPlace (h : streams.KeepsWiring streams') {id : WritableId} {place : Place}
    (hfills : streams'.FillsPlace id place) : streams.FillsPlace id place := by
  cases hfills with
  | body hs hback =>
    obtain ⟨sink, hsink, hsame⟩ := SlotMap.rel_some_right (hs ▸ h.sink _)
    exact .body hsink (hsame.symm.trans hback)
  | bridge hb =>
    obtain ⟨bridge, hbridge, hreadable, hwritable, -⟩ := SlotMap.rel_some_right (hb ▸ h.bridge _)
    rw [hreadable, hwritable]
    exact .bridge hbridge

/-- Octets come from where they came from. -/
theorem feedsInto (h : streams.KeepsWiring streams') {place place' : Place}
    (hfeeds : streams'.FeedsInto place place') : streams.FeedsInto place place' := by
  cases hfeeds with
  | source hs hback =>
    obtain ⟨source, hsource, hsame⟩ := SlotMap.rel_some_right (hs ▸ h.source _)
    exact .source hsource (hsame.symm.trans hback)
  | pipe hp hr hfills =>
    obtain ⟨pipe, hpipe, hrunning, hsource, hdestination⟩ := h.pipe hp hr
    rw [hdestination] at hfills
    rw [hsource]
    exact .pipe hpipe hrunning (h.fillsPlace hfills)

theorem guestless (h : streams.KeepsWiring streams') (hg : streams.Guestless) :
    streams'.Guestless where
  source hs := by
    obtain ⟨source, hsource, hsame⟩ := SlotMap.rel_some_right (hs ▸ h.source _)
    exact hsame ▸ hg.source hsource
  sink hs := by
    obtain ⟨sink, hsink, hsame⟩ := SlotMap.rel_some_right (hs ▸ h.sink _)
    exact hsame ▸ hg.sink hsink
  bridge hb := by
    obtain ⟨bridge, hbridge, -, -, hsame⟩ := SlotMap.rel_some_right (hb ▸ h.bridge _)
    exact hsame.trans (hg.bridge hbridge)

end KeepsWiring

/-! ### Heights -/

/-- A wiring with no more ways than an acyclic one. -/
theorem Acyclic.of_feedsInto (h : streams.Acyclic)
    (hfeeds : ∀ {place place'}, streams'.FeedsInto place place' → streams.FeedsInto place place') :
    streams'.Acyclic := fun place hcycle => h place (hcycle.lift id fun _ _ => hfeeds)

/-- A wiring with ways into one more place, from which nothing moves on. -/
theorem Acyclic.insert (h : streams.Acyclic) (last : Place)
    (hfeeds : ∀ {place place'}, streams'.FeedsInto place place' →
      place ≠ last ∧ (streams.FeedsInto place place' ∨ place' = last)) : streams'.Acyclic := by
  -- a way that does not end in the last place has never been there
  have hold : ∀ {place place'}, Relation.TransGen streams'.FeedsInto place place' → place' ≠ last →
      Relation.TransGen streams.FeedsInto place place' := by
    intro place place' hway hne
    induction hway with
    | single hstep => exact .single ((hfeeds hstep).2.resolve_right hne)
    | tail _ hstep ih => exact (ih (hfeeds hstep).1).tail ((hfeeds hstep).2.resolve_right hne)
  intro place hcycle
  by_cases hlast : place = last
  · obtain ⟨next, hstep, -⟩ := Relation.TransGen.head'_iff.mp hcycle
    exact (hfeeds hstep).1 hlast
  · exact h place (hold hcycle hlast)

/-- A new source draws on a host body, and nothing draws on it. -/
theorem Acyclic.bodySource (h : streams.Acyclic) (wf : streams.WellFormed)
    (hlive : ∀ {id pipe}, streams.pipe? id = some pipe → pipe.isRunning →
      streams.containsReadable pipe.source = true) (handle : BodyHandle) :
    (streams.bodySource handle).2.Acyclic := by
  have hfilled : ∀ {destination place}, (streams.bodySource handle).2.FillsPlace destination place →
      streams.FillsPlace destination place := by
    rintro destination place (⟨hk, hback⟩ | hb)
    · exact .body hk hback
    · exact .bridge hb
  refine h.insert (.queue (streams.bodySource handle).1) fun {place place'} hfeeds => ?_
  cases hfeeds with
  | source hs hback =>
    refine ⟨by simp, ?_⟩
    rw [source?_bodySource wf] at hs
    split at hs
    · next he => exact .inr (congrArg Place.queue he)
    · exact .inl (.source hs hback)
  | @pipe id pipe _ hp hr hfills =>
    refine ⟨fun he => ?_, .inl (.pipe hp hr (hfilled hfills))⟩
    -- the source of a pipe has been there before
    have hold := hlive (show streams.pipe? id = some pipe from hp) hr
    have hnew : streams.source? (streams.bodySource handle).1 = none := source?_addSource_fst wf _
    simp [Registry.containsReadable, Place.queue.inj he, hnew] at hold

theorem Guestless.bodySource (h : streams.Guestless) (wf : streams.WellFormed)
    (handle : BodyHandle) : (streams.bodySource handle).2.Guestless where
  source {id source guest} hs := by
    rw [source?_bodySource wf] at hs
    split at hs
    · cases hs
      nofun
    · exact h.source hs
  sink := h.sink
  bridge := h.bridge

/-- A new pipe brings no guest. -/
theorem Guestless.openPipe (h : streams.Guestless) (source : ReadableId) (destination : WritableId)
    (options : PipeOptions) :
    (exec (Registry.openPipe source destination options) streams).2.Guestless := by
  rcases exec_openPipe_cases streams source destination options with
    ⟨entry, sink, hs, -, hk, -, hopen⟩ | ⟨error, streams', hopen, hgives⟩
  · rw [hopen]
    refine ⟨fun {id found guest} hfound => ?_, fun {id found guest} hfound => ?_, h.bridge⟩
    · rw [source?_withPipe destination sink options hs] at hfound
      split at hfound
      · cases hfound
        exact fun hback => h.source hs hback
      · exact h.source hfound
    · rw [sink?_withPipe source entry options hk] at hfound
      split at hfound
      · cases hfound
        exact fun hback => h.sink hk hback
      · exact h.sink hfound
  · rw [hopen]
    cases hgives with
    | refused => exact h
    | @unlocked entry hs hl =>
      -- the lock of the source has been taken and given back
      exact ((KeepsWiring.readerLocked hs).trans (.releaseReader _ source _)).guestless h

/-! ### Wirings, computed -/

/-- Where what is written to a stream comes to. -/
def filled (streams : Registry E) (id : WritableId) : List Place :=
  (streams.sinkBodyHandle? id).toList.map Place.body ++
    (streams.bridges.toList.filter fun entry => entry.2.writable == id).map fun entry =>
      Place.queue entry.2.readable

theorem mem_filled {id : WritableId} {place : Place} :
    place ∈ streams.filled id ↔ streams.FillsPlace id place := by
  simp only [filled, List.mem_append, List.mem_map, Option.mem_toList, List.mem_filter, beq_iff_eq]
  constructor
  · rintro (⟨handle, hk, rfl⟩ | ⟨⟨key, bridge⟩, ⟨hb, rfl⟩, rfl⟩)
    · obtain ⟨sink, hs, hhandle⟩ := Option.bind_eq_some_iff.mp hk
      refine .body hs ?_
      unfold Sink.bodyHandle? at hhandle
      split at hhandle
      · next hback => exact hback.trans (congrArg _ (Option.some.inj hhandle))
      · cases hhandle
    · exact .bridge (show streams.bridge? ⟨key⟩ = some bridge from SlotMap.mem_toList.mp hb)
  · rintro (⟨hs, hback⟩ | @⟨name, bridge, hb⟩)
    · exact .inl ⟨_, by simp [sinkBodyHandle?, hs, Sink.bodyHandle?, hback], rfl⟩
    · exact .inr ⟨(name.key, bridge), ⟨SlotMap.mem_toList.mpr hb, rfl⟩, rfl⟩

/-- From where to where octets move. -/
def ways (streams : Registry E) : List (Place × Place) :=
  (streams.sources.toList.filterMap fun entry => entry.2.bodyHandle?.map fun handle =>
    (Place.body handle, Place.queue ⟨entry.1⟩)) ++
  streams.runningPipes.flatMap fun entry => (streams.filled entry.2.destination).map fun place =>
    (Place.queue entry.2.source, place)

theorem mem_ways {place place' : Place} :
    (place, place') ∈ streams.ways ↔ streams.FeedsInto place place' := by
  simp only [ways, List.mem_append, List.mem_filterMap, Option.map_eq_some_iff, List.mem_flatMap,
    List.mem_map, mem_filled]
  constructor
  · rintro (⟨⟨key, source⟩, hs, handle, hhandle, he⟩ | ⟨⟨id, pipe⟩, hp, place, hfills, he⟩)
    · cases he
      unfold Source.bodyHandle? at hhandle
      split at hhandle
      · next hback =>
        cases hhandle
        exact .source (show streams.source? ⟨key⟩ = some source from SlotMap.mem_toList.mp hs) hback
      · cases hhandle
    · cases he
      obtain ⟨hpipe, hr⟩ := streams.mem_runningPipes.mp hp
      exact .pipe hpipe hr hfills
  · rintro (@⟨id, source, handle, size, hs, hback⟩ | @⟨id, pipe, _, hp, hr, hfills⟩)
    · exact .inl ⟨(id.key, source), SlotMap.mem_toList.mpr hs, handle,
        by simp [Source.bodyHandle?, hback], rfl⟩
    · exact .inr ⟨(id, pipe), streams.mem_runningPipes.mpr ⟨hp, hr⟩, place', hfills, rfl⟩

/-- A wiring is acyclic if places have heights and octets only move down. -/
theorem Acyclic.of_height (height : Place → ℕ)
    (h : ∀ way ∈ streams.ways, height way.2 < height way.1) : streams.Acyclic := by
  have hdown : ∀ {place place'}, Relation.TransGen streams.FeedsInto place place' →
      height place' < height place := by
    intro place place' hway
    induction hway with
    | single hstep => exact h _ (mem_ways.mpr hstep)
    | tail _ hstep ih => exact (h _ (mem_ways.mpr hstep)).trans ih
  exact fun place hcycle => lt_irrefl _ (hdown hcycle)

/-- Only finitely many streams, sinks and bridges live. -/
theorem finite_targets (streams : Registry E) :
    {place | ∃ other, streams.FeedsInto other place}.Finite := by
  refine (streams.ways.map Prod.snd).finite_toSet.subset ?_
  rintro place ⟨other, hfeeds⟩
  exact List.mem_map.mpr ⟨(other, place), mem_ways.mpr hfeeds, rfl⟩

/-- The places of an acyclic wiring have heights: octets only move down. The height of a place is
the number of places that can be reached from it. -/
theorem Acyclic.exists_height (h : streams.Acyclic) :
    ∃ height : Place → ℕ, ∀ {place place'}, streams.FeedsInto place place' →
      height place' < height place := by
  let below (place : Place) : Set Place := {lower | Relation.TransGen streams.FeedsInto place lower}
  have hfinite : ∀ place, (below place).Finite := fun place =>
    streams.finite_targets.subset fun lower hway => by
      obtain ⟨before, -, hstep⟩ := Relation.TransGen.tail'_iff.mp hway
      exact ⟨before, hstep⟩
  refine ⟨fun place => (below place).ncard, fun {place place'} hstep =>
    Set.ncard_lt_ncard ⟨fun lower hway => .head hstep hway, fun hall => ?_⟩ (hfinite place)⟩
  exact h place' (hall (.single hstep))

end Registry

/-! ### Runs -/

namespace Session

variable [Host H] {s t : Session H E} {f : Footprint}

theorem ChangesWithin.keepsWiring (h : ChangesWithin f s t) : s.streams.KeepsWiring t.streams :=
  .of_pipes (fun id => SlotMap.rel_imp (fun _ _ hk => hk.backing) (h.source? id))
    (fun id => SlotMap.rel_imp (fun _ _ hk => hk.backing) (h.sink? id))
    (fun id => SlotMap.rel_imp (fun _ _ hk => ⟨hk.readable, hk.writable, hk.transformer⟩)
      (h.bridge? id)) h.pipes_eq

/-- A run rewires nothing. By induction on the moves. -/
theorem MovesTo.keepsWiring (h : MovesTo s t) : s.streams.KeepsWiring t.streams := by
  induction h with
  | refl => exact .refl _
  | touch _ ht ih => exact ih.trans ht.keepsWiring
  | note _ _ ih => exact ih
  | drive pumping _ hp ih => exact ih.trans (.setPipe hp pumping)
  | finish id _ hstate ih => exact ih.trans (.finishPipe _ id hstate)

omit [Host H] in
/-- A transform stream that passes every chunk on brings no guest. -/
theorem Gains.guestless {stage : TransformStream} (h : Gains stage s t)
    (hg : s.streams.Guestless) : t.streams.Guestless where
  source {id source guest} hs := by
    rw [h.source] at hs
    split at hs
    · cases hs
      nofun
    · exact hg.source hs
  sink {id sink guest} hk := by
    rw [h.sink] at hk
    split at hk
    · cases hk
      nofun
    · exact hg.sink hk
  bridge {name bridge} hb := by
    rw [h.bridge] at hb
    split at hb
    · cases hb
      rfl
    · exact hg.bridge hb

theorem guestless_pipeTo (hg : s.streams.Guestless) {fuel : Nat} {source : ReadableId}
    {destination : WritableId} {options : PipeOptions}
    {r : Except StreamError PipeId × Session H E}
    (h : attempt (pipeTo fuel source destination options) s = some r) : r.2.streams.Guestless :=
  (movesTo_pipeTo h).keepsWiring.guestless (hg.openPipe source destination options)

end Session

end EdgeStreams
