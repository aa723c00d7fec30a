import EdgeStreams.Proofs.Session.Locking

/-!
# What a sweep leaves of new entries

A piece of work adds some streams to a registry and lets go of them in the end. Then a sweep takes
all of them out again, save those that are the ends of running pipes.

## Main definitions

- `Registry.ContinuesAs`: nothing has been added, and nothing that was let go of has been taken up
  again
- `Registry.Since`: which of the entries added since some time have not been let go of
- `Registry.LeavesRunning`: all that has been added and is still there belongs to running pipes

## Main statements

- `Registry.Since.sweep`: what a sweep leaves
- `Registry.Since.movesTo`, `Registry.Since.createTransform`, `Registry.Since.pipeTo` and its like:
  what each operation adds
-/

namespace EdgeStreams

variable {H E : Type}

/-! ### Changes that add nothing -/

/-- The source is the same stream. Its lock may have been given back, or taken with a token whose
number is at least `number`. -/
structure Source.ContinuesAs (number : Nat) (source source' : Source E) : Prop where
  released : source.released = true → source'.released = true
  lock : ∀ token, source'.readerLock = some token →
    source.readerLock = some token ∨ number ≤ token.number

/-- The sink is the same stream. -/
structure Sink.ContinuesAs (number : Nat) (sink sink' : Sink E) : Prop where
  released : sink.released = true → sink'.released = true
  lock : ∀ token, sink'.writerLock = some token →
    sink.writerLock = some token ∨ number ≤ token.number

/-- The bridge joins the same streams. -/
structure Bridge.ContinuesAs (bridge bridge' : Bridge E) : Prop where
  readable : bridge'.readable = bridge.readable
  writable : bridge'.writable = bridge.writable

variable {number number' : Nat}

theorem Source.ContinuesAs.refl (source : Source E) : source.ContinuesAs number source :=
  ⟨id, fun _ => .inl⟩

theorem Source.ContinuesAs.trans {first second third : Source E} (hn : number ≤ number')
    (h : first.ContinuesAs number second) (h' : second.ContinuesAs number' third) :
    first.ContinuesAs number third :=
  ⟨h'.released ∘ h.released, fun token hlock =>
    (h'.lock token hlock).elim (h.lock token) fun hle => .inr (hn.trans hle)⟩

theorem Source.Keeps.continuesAs {source source' : Source E} (h : source.Keeps source') :
    source.ContinuesAs number source' :=
  ⟨fun hr => h.released.trans hr, fun _ hlock => .inl (h.readerLock ▸ hlock)⟩

theorem Sink.ContinuesAs.refl (sink : Sink E) : sink.ContinuesAs number sink := ⟨id, fun _ => .inl⟩

theorem Sink.ContinuesAs.trans {first second third : Sink E} (hn : number ≤ number')
    (h : first.ContinuesAs number second) (h' : second.ContinuesAs number' third) :
    first.ContinuesAs number third :=
  ⟨h'.released ∘ h.released, fun token hlock =>
    (h'.lock token hlock).elim (h.lock token) fun hle => .inr (hn.trans hle)⟩

theorem Sink.Keeps.continuesAs {sink sink' : Sink E} (h : sink.Keeps sink') :
    sink.ContinuesAs number sink' :=
  ⟨fun hr => h.released.trans hr, fun _ hlock => .inl (h.writerLock ▸ hlock)⟩

theorem Bridge.Keeps.continuesAs {bridge bridge' : Bridge E} (h : bridge.Keeps bridge') :
    bridge.ContinuesAs bridge' := ⟨h.readable, h.writable⟩

theorem Bridge.ContinuesAs.refl (bridge : Bridge E) : bridge.ContinuesAs bridge := ⟨rfl, rfl⟩

theorem Bridge.ContinuesAs.trans {first second third : Bridge E} (h : first.ContinuesAs second)
    (h' : second.ContinuesAs third) : first.ContinuesAs third :=
  ⟨h'.readable.trans h.readable, h'.writable.trans h.writable⟩

namespace SlotMap

variable {α : Type} {R R' : α → α → Prop} {old found new : Option α}

theorem rel_trans (hR : ∀ {a b c : α}, R a b → R' b c → R a c) (h : Option.Rel R old found)
    (h' : Option.Rel R' found new) : Option.Rel R old new := by
  cases h with
  | none =>
    cases h'
    exact .none
  | some hab =>
    cases h' with
    | some hbc => exact .some (hR hab hbc)

theorem rel_map {f : α → α} (hR : ∀ a, R a (f a)) (found : Option α) :
    Option.Rel R found (found.map f) := by
  cases found with
  | none => exact .none
  | some a => exact .some (hR a)

end SlotMap

namespace Registry

/-- No entry but pipes has been added or taken out. What had been let go of still is, and locks have
been given back or taken with new tokens. -/
structure ContinuesAs (streams streams' : Registry E) : Prop where
  nextToken : streams.nextToken ≤ streams'.nextToken
  source : ∀ id, Option.Rel (Source.ContinuesAs streams.nextToken) (streams.source? id)
    (streams'.source? id)
  sink : ∀ id, Option.Rel (Sink.ContinuesAs streams.nextToken) (streams.sink? id)
    (streams'.sink? id)
  bridge : ∀ id, Option.Rel Bridge.ContinuesAs (streams.bridge? id) (streams'.bridge? id)

variable {streams streams' streams'' : Registry E}

namespace ContinuesAs

/-- A change that concerns pipes only. -/
theorem of_eq (hn : streams'.nextToken = streams.nextToken)
    (hs : ∀ id, streams'.source? id = streams.source? id)
    (hk : ∀ id, streams'.sink? id = streams.sink? id)
    (hb : ∀ id, streams'.bridge? id = streams.bridge? id) : streams.ContinuesAs streams' where
  nextToken := hn.ge
  source id := hs id ▸ SlotMap.rel_refl Source.ContinuesAs.refl _
  sink id := hk id ▸ SlotMap.rel_refl Sink.ContinuesAs.refl _
  bridge id := hb id ▸ SlotMap.rel_refl Bridge.ContinuesAs.refl _

theorem refl (streams : Registry E) : streams.ContinuesAs streams :=
  .of_eq rfl (fun _ => rfl) (fun _ => rfl) fun _ => rfl

theorem trans (h : streams.ContinuesAs streams') (h' : streams'.ContinuesAs streams'') :
    streams.ContinuesAs streams'' where
  nextToken := h.nextToken.trans h'.nextToken
  source id := SlotMap.rel_trans (Source.ContinuesAs.trans h.nextToken) (h.source id) (h'.source id)
  sink id := SlotMap.rel_trans (Sink.ContinuesAs.trans h.nextToken) (h.sink id) (h'.sink id)
  bridge id := SlotMap.rel_trans Bridge.ContinuesAs.trans (h.bridge id) (h'.bridge id)

theorem modifySource (id : ReadableId) {f : Source E → Source E}
    (h : ∀ source : Source E, source.ContinuesAs streams.nextToken (f source)) :
    streams.ContinuesAs (streams.modifySource id f) where
  nextToken := (SameLocks.nextToken_modifySource _ _).ge
  source other := by
    rw [source?_modifySource]
    split
    · next he => exact he ▸ SlotMap.rel_map h _
    · exact SlotMap.rel_refl Source.ContinuesAs.refl _
  sink other := by
    rw [sink?_modifySource]
    exact SlotMap.rel_refl Sink.ContinuesAs.refl _
  bridge other := by
    rw [bridge?_modifySource]
    exact SlotMap.rel_refl Bridge.ContinuesAs.refl _

theorem modifySink (id : WritableId) {f : Sink E → Sink E}
    (h : ∀ sink : Sink E, sink.ContinuesAs streams.nextToken (f sink)) :
    streams.ContinuesAs (streams.modifySink id f) where
  nextToken := (SameLocks.nextToken_modifySink _ _).ge
  source other := by
    rw [source?_modifySink]
    exact SlotMap.rel_refl Source.ContinuesAs.refl _
  sink other := by
    rw [sink?_modifySink]
    split
    · next he => exact he ▸ SlotMap.rel_map h _
    · exact SlotMap.rel_refl Sink.ContinuesAs.refl _
  bridge other := by
    rw [bridge?_modifySink]
    exact SlotMap.rel_refl Bridge.ContinuesAs.refl _

theorem releaseReadable (id : ReadableId) : streams.ContinuesAs (streams.releaseReadable id) :=
  .modifySource id fun _ => ⟨fun _ => rfl, fun _ => .inl⟩

theorem releaseWritable (id : WritableId) : streams.ContinuesAs (streams.releaseWritable id) :=
  .modifySink id fun _ => ⟨fun _ => rfl, fun _ => .inl⟩

theorem unlockReader (token : ReaderToken) (source : Source E) :
    source.ContinuesAs number (Registry.unlockReader token source) := by
  unfold Registry.unlockReader
  split
  · exact ⟨id, fun _ hlock => by cases hlock⟩
  · exact .refl source

theorem unlockWriter (token : WriterToken) (sink : Sink E) :
    sink.ContinuesAs number (Registry.unlockWriter token sink) := by
  unfold Registry.unlockWriter
  split
  · exact ⟨id, fun _ hlock => by cases hlock⟩
  · exact .refl sink

/-- The end of a pipe gives back both its locks. -/
theorem finishPipe (id : PipeId) (state : PipeState) :
    streams.ContinuesAs (streams.finishPipe id state) := by
  by_cases hrun : ∃ pipe, streams.pipe? id = some pipe ∧ pipe.isRunning
  · obtain ⟨pipe, hp, hr⟩ := hrun
    refine ⟨(nextToken_finishPipe id state).ge, fun other => ?_, fun other => ?_, fun other => ?_⟩
    · rw [source?_finishPipe state hp hr]
      split
      · next he =>
        refine he ▸ SlotMap.rel_map (fun source => ?_) _
        have hunlocked : source.ContinuesAs streams.nextToken _ := unlockReader pipe.reader source
        exact ⟨hunlocked.released, hunlocked.lock⟩
      · exact SlotMap.rel_refl Source.ContinuesAs.refl _
    · rw [sink?_finishPipe state hp hr]
      split
      · next he => exact he ▸ SlotMap.rel_map (fun sink => unlockWriter pipe.writer sink) _
      · exact SlotMap.rel_refl Sink.ContinuesAs.refl _
    · rw [bridge?_finishPipe]
      exact SlotMap.rel_refl Bridge.ContinuesAs.refl _
  · rw [finishPipe_of_not_running state fun pipe hp hr => hrun ⟨pipe, hp, hr⟩]
    exact .refl streams

/-- A new pipe locks both its ends with new tokens. -/
theorem openPipe (r : ReadableId) (w : WritableId) (options : PipeOptions) :
    streams.ContinuesAs (exec (Registry.openPipe r w options) streams).2 := by
  rcases exec_openPipe_cases streams r w options with
    ⟨source, sink, hs, -, hk, -, hopen⟩ | ⟨error, streams', hopen, hgives⟩
  · rw [hopen]
    refine ⟨Nat.le_add_right _ 2, fun other => ?_, fun other => ?_, fun other => ?_⟩
    · rw [source?_withPipe w sink options hs]
      split
      · next he =>
        rw [he, hs]
        exact .some ⟨id, fun token hlock => .inr (by cases hlock; exact Nat.le_refl _)⟩
      · exact SlotMap.rel_refl Source.ContinuesAs.refl _
    · rw [sink?_withPipe r source options hk]
      split
      · next he =>
        rw [he, hk]
        exact .some ⟨id, fun token hlock => .inr (by cases hlock; exact Nat.le_succ _)⟩
      · exact SlotMap.rel_refl Sink.ContinuesAs.refl _
    · exact SlotMap.rel_refl Bridge.ContinuesAs.refl _
  · rw [hopen]
    cases hgives with
    | refused => exact .refl streams
    | @unlocked source hs _ =>
      refine ⟨?_, fun other => ?_, fun other => ?_, fun other => ?_⟩
      · rw [nextToken_releaseReader]
        exact Nat.le_succ _
      · rw [source?_releaseReader, source?_readerLocked hs, source?_readerLocked hs, if_pos rfl]
        split
        · next he =>
          rw [he, hs]
          have hlocked : source.ContinuesAs streams.nextToken
              { source with readerLock := some ⟨streams.nextToken⟩ } :=
            ⟨id, fun token hlock => .inr (by cases hlock; exact Nat.le_refl _)⟩
          exact .some (hlocked.trans le_rfl (unlockReader _ _))
        · exact SlotMap.rel_refl Source.ContinuesAs.refl _
      · rw [sink?_releaseReader]
        exact SlotMap.rel_refl Sink.ContinuesAs.refl _
      · rw [bridge?_releaseReader]
        exact SlotMap.rel_refl Bridge.ContinuesAs.refl _

/-- A stream that lives stays. -/
theorem containsReadable (h : streams.ContinuesAs streams') {id : ReadableId}
    (hs : streams.containsReadable id = true) : streams'.containsReadable id = true := by
  obtain ⟨source, hs⟩ := Option.isSome_iff_exists.mp hs
  obtain ⟨source', hs', -⟩ := SlotMap.rel_some_left (hs ▸ h.source id)
  exact Option.isSome_iff_exists.mpr ⟨source', hs'⟩

end ContinuesAs

/-! ### What has been added -/

/-- What has been added since the registry was `old`: no new stream is held by a client, and all but
those named have been let go of. -/
structure Since (held spent : Set Nat) (old : Registry E) (rs : Set ReadableId)
    (ws : Set WritableId) (streams : Registry E) : Prop where
  orderly : streams.Orderly held spent
  source_gone : ∀ id, streams.source? id = none → old.source? id = none
  sink_gone : ∀ id, streams.sink? id = none → old.sink? id = none
  source : ∀ id source, streams.source? id = some source → old.source? id = none →
    (source.released = true ∨ id ∈ rs) ∧
      ∀ token, source.readerLock = some token → token.number ∉ held
  sink : ∀ id sink, streams.sink? id = some sink → old.sink? id = none →
    (sink.released = true ∨ id ∈ ws) ∧ ∀ token, sink.writerLock = some token → token.number ∉ held
  bridge : ∀ id bridge, streams.bridge? id = some bridge → old.bridge? id = none →
    old.source? bridge.readable = none ∧ old.sink? bridge.writable = none

/-- A sweep has left nothing but what was there before and what running pipes need. -/
structure LeavesRunning (old streams : Registry E) : Prop where
  pipe : ∀ id pipe, streams.pipe? id = some pipe → pipe.isRunning
  source : ∀ id source, streams.source? id = some source → old.source? id = none →
    ∃ name pipe, streams.pipe? name = some pipe ∧ pipe.source = id
  sink : ∀ id sink, streams.sink? id = some sink → old.sink? id = none →
    ∃ name pipe, streams.pipe? name = some pipe ∧ pipe.destination = id
  bridge : ∀ id bridge, streams.bridge? id = some bridge → old.bridge? id = none →
    ∃ name pipe, streams.pipe? name = some pipe ∧
      (pipe.source = bridge.readable ∨ pipe.destination = bridge.writable)

variable {held spent : Set Nat} {old : Registry E} {rs rs' : Set ReadableId}
variable {ws ws' : Set WritableId}

namespace Since

theorem refl (h : old.Orderly held spent) : old.Since held spent rs ws old where
  orderly := h
  source_gone _ := id
  sink_gone _ := id
  source _ _ hs hnone := by cases hs.symm.trans hnone
  sink _ _ hk hnone := by cases hk.symm.trans hnone
  bridge _ _ hb hnone := by cases hb.symm.trans hnone

theorem mono (h : old.Since held spent rs ws streams) (hrs : rs ⊆ rs') (hws : ws ⊆ ws') :
    old.Since held spent rs' ws' streams :=
  { h with
    source := fun id source hs hnone =>
      (h.source id source hs hnone).imp_left (Or.imp_right (@hrs id))
    sink := fun id sink hk hnone => (h.sink id sink hk hnone).imp_left (Or.imp_right (@hws id)) }

/-- A client's token is older than any that is still to come. -/
theorem not_held (h : old.Since held spent rs ws streams) {number : Nat}
    (hn : streams.nextToken ≤ number) : number ∉ held :=
  fun hheld => absurd (h.orderly.held_old number hheld) hn.not_gt

/-- Nothing has been added. -/
theorem continuesAs (h : old.Since held spent rs ws streams) (hc : streams.ContinuesAs streams')
    (ho : streams'.Orderly held spent) : old.Since held spent rs ws streams' where
  orderly := ho
  source_gone id hnone := by
    have hrel := hc.source id
    rw [hnone] at hrel
    cases hfound : streams.source? id with
    | none => exact h.source_gone id hfound
    | some source =>
      rw [hfound] at hrel
      cases hrel
  sink_gone id hnone := by
    have hrel := hc.sink id
    rw [hnone] at hrel
    cases hfound : streams.sink? id with
    | none => exact h.sink_gone id hfound
    | some sink =>
      rw [hfound] at hrel
      cases hrel
  source id source' hs' hnone := by
    obtain ⟨source, hs, hcont⟩ := SlotMap.rel_some_right (hs' ▸ hc.source id)
    obtain ⟨hlet, hlock⟩ := h.source id source hs hnone
    exact ⟨hlet.imp_left hcont.released, fun token htoken =>
      (hcont.lock token htoken).elim (hlock token) h.not_held⟩
  sink id sink' hk' hnone := by
    obtain ⟨sink, hk, hcont⟩ := SlotMap.rel_some_right (hk' ▸ hc.sink id)
    obtain ⟨hlet, hlock⟩ := h.sink id sink hk hnone
    exact ⟨hlet.imp_left hcont.released, fun token htoken =>
      (hcont.lock token htoken).elim (hlock token) h.not_held⟩
  bridge id bridge' hb' hnone := by
    obtain ⟨bridge, hb, hcont⟩ := SlotMap.rel_some_right (hb' ▸ hc.bridge id)
    rw [hcont.readable, hcont.writable]
    exact h.bridge id bridge hb hnone

/-! ### New streams -/

theorem addSource (h : old.Since held spent rs ws streams) {source : Source E}
    (hs : source.IsFree) :
    old.Since held spent (insert (streams.addSource source).1 rs) ws
      (streams.addSource source).2 where
  orderly := h.orderly.of_sameLocks (.addSource h.orderly.wellFormed hs)
  source_gone id hnone := by
    rw [source?_addSource h.orderly.wellFormed] at hnone
    split at hnone
    · cases hnone
    · exact h.source_gone id hnone
  sink_gone id hnone := h.sink_gone id hnone
  source id found hfound hnone := by
    rw [source?_addSource h.orderly.wellFormed] at hfound
    split at hfound
    · next he =>
      cases hfound
      exact ⟨.inr (.inl he), fun token hlock => by cases hs.lock.symm.trans hlock⟩
    · exact (h.source id found hfound hnone).imp_left (Or.imp_right .inr)
  sink id found hfound hnone := h.sink id found hfound hnone
  bridge id found hfound hnone := h.bridge id found hfound hnone

theorem addSink (h : old.Since held spent rs ws streams) {sink : Sink E}
    (hk : sink.writerLock = none) :
    old.Since held spent rs (insert (streams.addSink sink).1 ws) (streams.addSink sink).2 where
  orderly := h.orderly.of_sameLocks (.addSink h.orderly.wellFormed hk)
  source_gone id hnone := h.source_gone id hnone
  sink_gone id hnone := by
    rw [sink?_addSink h.orderly.wellFormed] at hnone
    split at hnone
    · cases hnone
    · exact h.sink_gone id hnone
  source id found hfound hnone := h.source id found hfound hnone
  sink id found hfound hnone := by
    rw [sink?_addSink h.orderly.wellFormed] at hfound
    split at hfound
    · next he =>
      cases hfound
      exact ⟨.inr (.inl he), fun token hlock => by cases hk.symm.trans hlock⟩
    · exact (h.sink id found hfound hnone).imp_left (Or.imp_right .inr)
  bridge id found hfound hnone := h.bridge id found hfound hnone

theorem enterTransform (h : old.Since held spent rs ws streams) (transformer : Transformer E) :
    old.Since held spent (insert (Session.enterTransform transformer streams).1.readable rs)
      (insert (Session.enterTransform transformer streams).1.writable ws)
      (Session.enterTransform transformer streams).2 := by
  have wf := h.orderly.wellFormed
  obtain ⟨hreadable, hwritable, -⟩ := none_enterTransform wf transformer
  refine ⟨h.orderly.of_sameLocks (.enterTransform wf transformer), fun id hnone => ?_,
    fun id hnone => ?_, fun id found hfound hnone => ?_, fun id found hfound hnone => ?_,
    fun id found hfound hnone => ?_⟩
  · rw [source?_enterTransform wf] at hnone
    split at hnone
    · cases hnone
    · exact h.source_gone id hnone
  · rw [sink?_enterTransform wf] at hnone
    split at hnone
    · cases hnone
    · exact h.sink_gone id hnone
  · rw [source?_enterTransform wf] at hfound
    split at hfound
    · next he =>
      cases hfound
      exact ⟨.inr (.inl he), fun token hlock => by cases hlock⟩
    · exact (h.source id found hfound hnone).imp_left (Or.imp_right .inr)
  · rw [sink?_enterTransform wf] at hfound
    split at hfound
    · next he =>
      cases hfound
      exact ⟨.inr (.inl he), fun token hlock => by cases hlock⟩
    · exact (h.sink id found hfound hnone).imp_left (Or.imp_right .inr)
  · rw [bridge?_enterTransform wf] at hfound
    split at hfound
    · cases hfound
      exact ⟨h.source_gone _ hreadable, h.sink_gone _ hwritable⟩
    · exact h.bridge id found hfound hnone

/-! ### Letting go -/

theorem releaseReadable {id : ReadableId} (h : old.Since held spent (insert id rs) ws streams) :
    old.Since held spent rs ws (streams.releaseReadable id) := by
  have hafter := h.continuesAs (.releaseReadable id) (h.orderly.of_sameLocks (.releaseReadable id))
  refine { hafter with source := fun other source hs hnone => ?_ }
  obtain ⟨hlet, hlock⟩ := hafter.source other source hs hnone
  refine ⟨?_, hlock⟩
  rcases hlet with hreleased | rfl | hmem
  · exact .inl hreleased
  · rw [Registry.releaseReadable, source?_modifySource, if_pos rfl] at hs
    obtain ⟨before, -, rfl⟩ := Option.map_eq_some_iff.mp hs
    exact .inl rfl
  · exact .inr hmem

theorem releaseWritable {id : WritableId} (h : old.Since held spent rs (insert id ws) streams) :
    old.Since held spent rs ws (streams.releaseWritable id) := by
  have hafter := h.continuesAs (.releaseWritable id) (h.orderly.of_sameLocks (.releaseWritable id))
  refine { hafter with sink := fun other sink hk hnone => ?_ }
  obtain ⟨hlet, hlock⟩ := hafter.sink other sink hk hnone
  refine ⟨?_, hlock⟩
  rcases hlet with hreleased | rfl | hmem
  · exact .inl hreleased
  · rw [Registry.releaseWritable, sink?_modifySink, if_pos rfl] at hk
    obtain ⟨before, -, rfl⟩ := Option.map_eq_some_iff.mp hk
    exact .inl rfl
  · exact .inr hmem

/-- What has been let go of and is not locked goes. A lock that is left is a running pipe's. -/
theorem sweep (h : old.Since held spent ∅ ∅ streams) : old.LeavesRunning streams.sweep.2 := by
  have hpipe : ∀ {name pipe}, streams.pipe? name = some pipe → pipe.isRunning →
      streams.sweep.2.pipe? name = some pipe := fun hp hr => by
    rw [pipe?_sweep]
    exact Option.filter_eq_some_iff.mpr ⟨hp, hr⟩
  have hsource : ∀ id source, streams.sweep.2.source? id = some source → old.source? id = none →
      ∃ name pipe, streams.sweep.2.pipe? name = some pipe ∧ pipe.source = id := by
    intro id source hs hnone
    rw [source?_sweep] at hs
    obtain ⟨hs, hkept⟩ := Option.filter_eq_some_iff.mp hs
    obtain ⟨hlet, hlock⟩ := h.source id source hs hnone
    have hreleased : source.released = true := hlet.resolve_right (Set.notMem_empty id)
    cases hreader : source.readerLock with
    | none => simp [hreleased, hreader] at hkept
    | some token =>
      obtain ⟨name, pipe, hp, hr, he, -⟩ :=
        (h.orderly.readers id source token hs hreader).resolve_left (hlock token hreader)
      exact ⟨name, pipe, hpipe hp hr, he⟩
  have hsink : ∀ id sink, streams.sweep.2.sink? id = some sink → old.sink? id = none →
      ∃ name pipe, streams.sweep.2.pipe? name = some pipe ∧ pipe.destination = id := by
    intro id sink hk hnone
    rw [sink?_sweep] at hk
    obtain ⟨hk, hkept⟩ := Option.filter_eq_some_iff.mp hk
    obtain ⟨hlet, hlock⟩ := h.sink id sink hk hnone
    have hreleased : sink.released = true := hlet.resolve_right (Set.notMem_empty id)
    cases hwriter : sink.writerLock with
    | none => simp [hreleased, hwriter] at hkept
    | some token =>
      obtain ⟨name, pipe, hp, hr, he, -⟩ :=
        (h.orderly.writers id sink token hk hwriter).resolve_left (hlock token hwriter)
      exact ⟨name, pipe, hpipe hp hr, he⟩
  refine ⟨fun id pipe hp => ?_, hsource, hsink, fun id bridge hb hnone => ?_⟩
  · rw [pipe?_sweep] at hp
    exact (Option.filter_eq_some_iff.mp hp).2
  · -- a half of the bridge is left, and it is as new as the bridge
    rw [bridge?_sweep] at hb
    obtain ⟨hb, hkept⟩ := Option.filter_eq_some_iff.mp hb
    obtain ⟨hreadable, hwritable⟩ := h.bridge id bridge hb hnone
    rcases Bool.or_eq_true_iff.mp hkept with hleft | hleft
    · obtain ⟨source, hs⟩ := Option.isSome_iff_exists.mp hleft
      obtain ⟨name, pipe, hp, he⟩ := hsource _ source hs hreadable
      exact ⟨name, pipe, hp, .inl he⟩
    · obtain ⟨sink, hk⟩ := Option.isSome_iff_exists.mp hleft
      obtain ⟨name, pipe, hp, he⟩ := hsink _ sink hk hwritable
      exact ⟨name, pipe, hp, .inr he⟩

end Since

end Registry

namespace Session

variable [Host H] {s t : Session H E} {f : Footprint}

/-- Work on streams makes no entry and takes none away. -/
theorem ChangesWithin.continuesAs (h : ChangesWithin f s t) : s.streams.ContinuesAs t.streams where
  nextToken := h.nextToken_eq.ge
  source id := SlotMap.rel_imp (fun _ _ hk => hk.continuesAs) (h.source? id)
  sink id := SlotMap.rel_imp (fun _ _ hk => hk.continuesAs) (h.sink? id)
  bridge id := SlotMap.rel_imp (fun _ _ hk => hk.continuesAs) (h.bridge? id)

/-- By induction on the moves. -/
theorem MovesTo.continuesAs (h : MovesTo s t) : s.streams.ContinuesAs t.streams := by
  induction h with
  | refl => exact .refl _
  | touch _ ht ih => exact ih.trans ht.continuesAs
  | note _ _ ih => exact ih
  | drive pumping _ _ ih =>
    exact ih.trans (.of_eq rfl (fun _ => rfl) (fun _ => rfl) fun _ => rfl)
  | finish id _ _ ih => exact ih.trans (.finishPipe id _)

theorem continuesAs_pipeTo {fuel : Nat} {source : ReadableId} {destination : WritableId}
    {options : PipeOptions} {r : Except StreamError PipeId × Session H E}
    (h : attempt (pipeTo fuel source destination options) s = some r) :
    s.streams.ContinuesAs r.2.streams :=
  (Registry.ContinuesAs.openPipe source destination options).trans (movesTo_pipeTo h).continuesAs

omit [Host H] in
theorem continuesAs_settleTransform (streams : Registry E) (stream : TransformStream)
    (result : Except StreamError Unit) :
    streams.ContinuesAs (settleTransform stream result streams) := by
  have hstart : ∀ settle, streams.ContinuesAs (settleStart stream settle streams) := by
    intro settle
    have hreadable : streams.ContinuesAs (streams.modifySource stream.readable fun source =>
        { source with start := settle source.start }) :=
      .modifySource _ fun _ => ⟨id, fun _ => .inl⟩
    exact hreadable.trans (.modifySink _ fun _ => ⟨id, fun _ => .inl⟩)
  cases result with
  | ok => exact hstart _
  | error error => exact (hstart _).trans (.modifySink _ fun _ => ⟨id, fun _ => .inl⟩)

/-- The new transform stream lives. -/
theorem containsReadable_createTransform (wf : s.streams.WellFormed) (transformer : Transformer E) :
    let made := (createTransform transformer : Step H E TransformStream) s
    made.2.streams.containsReadable made.1.readable = true := by
  obtain ⟨f, result, started, htouches, hrun⟩ := createTransform_run transformer s
  rw [hrun]
  refine (htouches.continuesAs.trans (continuesAs_settleTransform _ _ _)).containsReadable ?_
  exact Option.isSome_iff_exists.mpr
    ⟨_, (Registry.source?_enterTransform wf transformer _).trans (if_pos rfl)⟩

end Session

namespace Registry.Since

variable [Host H] {s t : Session H E} {held spent : Set Nat} {old : Registry E}
variable {rs : Set ReadableId} {ws : Set WritableId}

theorem movesTo (h : old.Since held spent rs ws s.streams) (hm : Session.MovesTo s t) :
    old.Since held spent rs ws t.streams := h.continuesAs hm.continuesAs (hm.orderly h.orderly)

theorem pipeTo (h : old.Since held spent rs ws s.streams) {fuel : Nat} {source : ReadableId}
    {destination : WritableId} {options : PipeOptions}
    {r : Except StreamError PipeId × Session H E}
    (hr : attempt (Session.pipeTo fuel source destination options) s = some r) :
    old.Since held spent rs ws r.2.streams :=
  h.continuesAs (Session.continuesAs_pipeTo hr) (Session.orderly_pipeTo h.orderly hr)

/-- A transform stream has been made, whatever its transformer has done at its start. -/
theorem createTransform (h : old.Since held spent rs ws s.streams) (transformer : Transformer E) :
    let made := (Session.createTransform transformer : Step H E TransformStream) s
    old.Since held spent (insert made.1.readable rs) (insert made.1.writable ws)
      made.2.streams := by
  obtain ⟨f, result, started, htouches, hrun⟩ := Session.createTransform_run transformer s
  rw [hrun]
  have hentered := h.enterTransform transformer
  have hstarted := hentered.continuesAs htouches.continuesAs
    (hentered.orderly.of_sameLocks htouches.sameLocks)
  exact hstarted.continuesAs (Session.continuesAs_settleTransform _ _ _)
    (Session.orderly_settleTransform hstarted.orderly _ _)

end Registry.Since

end EdgeStreams
