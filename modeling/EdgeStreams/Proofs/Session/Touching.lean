import EdgeStreams.Proofs.Session.Frame
import EdgeStreams.Proofs.SlotMap.Issued

/-!
# What work on streams may touch

Work on a stream changes the stream, the streams that a bridge joins to it and the host bodies
behind them. Whatever the work is, it consists of a few kinds of changes, and none of them makes an
entry, removes one, or gives one another backing, owner or lock.

## Main definitions

- `Source.Keeps`, `Sink.Keeps`, `Bridge.Keeps`: what a change of an entry leaves as it was
- `BodyCall`, `BodyCalls`: calls about host bodies
- `Registry.Joins`: a bridge joins a readable half to a writable one
- `Session.ChangesWithin`: changes within a footprint, one after the other

## Main statements

- `Session.ChangesWithin.source?`, `Session.ChangesWithin.sink?`, `Session.ChangesWithin.bridge?`:
  what remains of each entry
- `Session.ChangesWithin.source?_undisturbed`: a source that nobody has read, piped or cancelled
- `Session.ChangesWithin.source?_outside` and its like: what lies outside the footprint
- `Session.ChangesWithin.calls`: what the host has been asked
-/

namespace EdgeStreams

variable {H E : Type}

namespace SlotMap

variable {α : Type} {map : SlotMap α} {key other : Key} {old : Option α} {value value' : α}
variable {R : α → α → Prop}

theorem rel_refl (hR : ∀ value, R value value) (found : Option α) : Option.Rel R found found := by
  cases found with
  | none => exact .none
  | some value => exact .some (hR value)

theorem rel_imp {R' : α → α → Prop} {found : Option α} (hR : ∀ a b, R a b → R' a b)
    (h : Option.Rel R old found) : Option.Rel R' old found := by
  cases h with
  | none => exact .none
  | some h => exact .some (hR _ _ h)

/-- Replacing a value by one that is related to it relates no key to anything else. -/
theorem rel_set (hR : ∀ {a b c : α}, R a b → R b c → R a c) (h : Option.Rel R old (map.get? key))
    (hv : map.get? other = some value) (hvv : R value value') :
    Option.Rel R old ((map.set other value').get? key) := by
  rw [get?_set]
  by_cases he : key = other
  · subst he
    rw [hv] at h ⊢
    cases h with
    | some ha => simpa using Option.Rel.some (hR ha hvv)
  · simpa [he] using h

theorem rel_some_left {found : Option α} (h : Option.Rel R (some value) found) :
    ∃ value', found = some value' ∧ R value value' := by
  cases h with
  | some h => exact ⟨_, rfl, h⟩

theorem rel_some_right {found : Option α} (h : Option.Rel R found (some value')) :
    ∃ value, found = some value ∧ R value value' := by
  cases h with
  | some h => exact ⟨_, rfl, h⟩

end SlotMap

/-! ### What a change of an entry leaves as it was -/

/-- A source has been worked on. -/
structure Source.Keeps (source source' : Source E) : Prop where
  backing : source'.backing = source.backing
  start : source'.start = source.start
  owner : source'.owner = source.owner
  readerLock : source'.readerLock = source.readerLock
  pipedTo : source'.pipedTo = source.pipedTo
  released : source'.released = source.released
  disturbed : source.disturbed = true → source'.disturbed = true
  canceled : source.canceled = true → source'.canceled = true

/-- A sink has been worked on. -/
structure Sink.Keeps (sink sink' : Sink E) : Prop where
  backing : sink'.backing = sink.backing
  start : sink'.start = sink.start
  owner : sink'.owner = sink.owner
  writerLock : sink'.writerLock = sink.writerLock
  released : sink'.released = sink.released

/-- A bridge has been worked on. -/
structure Bridge.Keeps (bridge bridge' : Bridge E) : Prop where
  readable : bridge'.readable = bridge.readable
  writable : bridge'.writable = bridge.writable
  transformer : bridge'.transformer = bridge.transformer
  errored : bridge.errored = true → bridge'.errored = true

theorem Source.Keeps.refl (source : Source E) : source.Keeps source :=
  ⟨rfl, rfl, rfl, rfl, rfl, rfl, id, id⟩

theorem Source.Keeps.trans {first second third : Source E} (h : first.Keeps second)
    (h' : second.Keeps third) : first.Keeps third :=
  ⟨h'.backing.trans h.backing, h'.start.trans h.start, h'.owner.trans h.owner,
    h'.readerLock.trans h.readerLock, h'.pipedTo.trans h.pipedTo, h'.released.trans h.released,
    h'.disturbed ∘ h.disturbed, h'.canceled ∘ h.canceled⟩

theorem Sink.Keeps.refl (sink : Sink E) : sink.Keeps sink := ⟨rfl, rfl, rfl, rfl, rfl⟩

theorem Sink.Keeps.trans {first second third : Sink E} (h : first.Keeps second)
    (h' : second.Keeps third) : first.Keeps third :=
  ⟨h'.backing.trans h.backing, h'.start.trans h.start, h'.owner.trans h.owner,
    h'.writerLock.trans h.writerLock, h'.released.trans h.released⟩

theorem Bridge.Keeps.refl (bridge : Bridge E) : bridge.Keeps bridge := ⟨rfl, rfl, rfl, id⟩

theorem Bridge.Keeps.trans {first second third : Bridge E} (h : first.Keeps second)
    (h' : second.Keeps third) : first.Keeps third :=
  ⟨h'.readable.trans h.readable, h'.writable.trans h.writable,
    h'.transformer.trans h.transformer, h'.errored ∘ h.errored⟩

/-! ### Calls and events -/

/-- A call about a host body that work on a stream may make. -/
inductive BodyCall [Host H] (handle : BodyHandle) (host : H) : H → Prop
  | read (limit : UInt64) : BodyCall handle host (exec (Host.bodyRead handle limit) host).2
  | write (chunk : Bytes) : BodyCall handle host (exec (Host.bodyWrite handle chunk) host).2
  | close : BodyCall handle host (exec (Host.bodyClose handle) host).2
  | abandon : BodyCall handle host (exec (Host.bodyAbandon handle) host).2

/-- One call after another, all of them about some bodies. -/
inductive BodyCalls [Host H] (handles : Set BodyHandle) (host : H) : H → Prop
  | refl : BodyCalls handles host host
  | call {between later : H} {handle : BodyHandle} : BodyCalls handles host between →
    handle ∈ handles → BodyCall handle between later → BodyCalls handles host later

theorem BodyCalls.trans [Host H] {handles : Set BodyHandle} {host between later : H}
    (h : BodyCalls handles host between) (h' : BodyCalls handles between later) :
    BodyCalls handles host later := by
  induction h' with
  | refl => exact h
  | call _ hmem hcall ih => exact ih.call hmem hcall

namespace StreamEvent

/-- The event is about a stream of a footprint, and is not the delivery of a chunk. -/
def Concerns (f : Footprint) : StreamEvent → Prop
  | sourceStarted id _ | pullBegan id | pullEnded id _ | canceled id _ | enqueued id _ =>
    id ∈ f.readables
  | sinkStarted id _ | written id _ _ | closed id _ | aborted id _ => id ∈ f.writables
  | delivered _ _ => False

/-- The event tells that something was demanded from a source, or that it was cancelled. -/
def Demands (id : ReadableId) : StreamEvent → Prop
  | pullBegan other | pullEnded other _ | canceled other _ | delivered other _ => other = id
  | _ => False

theorem Concerns.mono {f g : Footprint} {event : StreamEvent} (h : event.Concerns f)
    (hfg : f.Within g) : event.Concerns g := by
  cases event with
  | sourceStarted | pullBegan | pullEnded | canceled | enqueued => exact hfg.readables h
  | sinkStarted | written | closed | aborted => exact hfg.writables h
  | delivered => exact h

end StreamEvent

/-- A bridge joins a readable stream to a writable one. -/
def Registry.Joins (streams : Registry E) (id : ReadableId) : Prop :=
  ∃ name bridge, streams.bridge? name = some bridge ∧ bridge.readable = id

namespace Session

variable [Host H]

/-- Changes within a footprint, one after the other. Nothing is demanded from a source that does not
count as disturbed, and nothing comes into it but over a bridge. -/
inductive ChangesWithin (f : Footprint) (s : Session H E) : Session H E → Prop
  | refl : ChangesWithin f s s
  | setSource {t : Session H E} {id : ReadableId} {source source' : Source E} :
    ChangesWithin f s t → id ∈ f.readables → t.streams.source? id = some source →
      source.Keeps source' → source'.disturbed = true ∨ t.streams.Joins id →
      ChangesWithin f s (setSource id source' t)
  | setSink {t : Session H E} {id : WritableId} {sink sink' : Sink E} :
    ChangesWithin f s t → id ∈ f.writables → t.streams.sink? id = some sink → sink.Keeps sink' →
      ChangesWithin f s (setSink id sink' t)
  | setBridge {t : Session H E} {id : BridgeId} {bridge bridge' : Bridge E} :
    ChangesWithin f s t → id ∈ f.bridges → t.streams.bridge? id = some bridge →
      bridge.Keeps bridge' → ChangesWithin f s (setBridge id bridge' t)
  | env {t : Session H E} (env : E) : ChangesWithin f s t → ChangesWithin f s { t with env }
  | note {t : Session H E} {event : StreamEvent} :
    ChangesWithin f s t → event.Concerns f →
      (∀ id, event.Demands id → t.streams.isDisturbed id = true) →
      ChangesWithin f s (note event t)
  | call {t : Session H E} {handle : BodyHandle} {host : H} :
    ChangesWithin f s t → handle ∈ f.bodies → BodyCall handle t.host host →
      ChangesWithin f s { t with host }

namespace ChangesWithin

variable {f g : Footprint} {s t u : Session H E}

theorem trans (h : ChangesWithin f s t) (h' : ChangesWithin f t u) : ChangesWithin f s u := by
  induction h' with
  | refl => exact h
  | setSource _ hid hs hk hj ih => exact ih.setSource hid hs hk hj
  | setSink _ hid hs hk ih => exact ih.setSink hid hs hk
  | setBridge _ hid hs hk ih => exact ih.setBridge hid hs hk
  | env e _ ih => exact ih.env e
  | note _ hf hd ih => exact ih.note hf hd
  | call _ hid hc ih => exact ih.call hid hc

theorem mono (h : ChangesWithin f s t) (hfg : f.Within g) : ChangesWithin g s t := by
  induction h with
  | refl => exact .refl
  | setSource _ hid hs hk hj ih => exact ih.setSource (hfg.readables hid) hs hk hj
  | setSink _ hid hs hk ih => exact ih.setSink (hfg.writables hid) hs hk
  | setBridge _ hid hs hk ih => exact ih.setBridge (hfg.bridges hid) hs hk
  | env e _ ih => exact ih.env e
  | note _ hf hd ih => exact ih.note (hf.mono hfg) hd
  | call _ hid hc ih => exact ih.call (hfg.bodies hid) hc

/-- Chunks enter the journal one by one. -/
theorem noteEnqueued (h : ChangesWithin f s t) {id : ReadableId} (hid : id ∈ f.readables)
    (chunks : List Bytes) : ChangesWithin f s (Session.noteEnqueued id chunks t) := by
  induction chunks with
  | nil => exact h
  | cons chunk chunks ih =>
    have hconcerns : (StreamEvent.enqueued id chunk).Concerns f := hid
    exact ih.note hconcerns fun _ hd => hd.elim

/-! ### What remains of the entries -/

theorem pipes_eq (h : ChangesWithin f s t) : t.streams.pipes = s.streams.pipes := by
  induction h with
  | refl => rfl
  | setSource _ _ _ _ _ ih | setSink _ _ _ _ ih | setBridge _ _ _ _ ih | env _ _ ih
  | note _ _ _ ih | call _ _ _ ih => exact ih

theorem config_eq (h : ChangesWithin f s t) : t.streams.config = s.streams.config := by
  induction h with
  | refl => rfl
  | setSource _ _ _ _ _ ih | setSink _ _ _ _ ih | setBridge _ _ _ _ ih | env _ _ ih
  | note _ _ _ ih | call _ _ _ ih => exact ih

theorem nextToken_eq (h : ChangesWithin f s t) : t.streams.nextToken = s.streams.nextToken := by
  induction h with
  | refl => rfl
  | setSource _ _ _ _ _ ih | setSink _ _ _ _ ih | setBridge _ _ _ _ ih | env _ _ ih
  | note _ _ _ ih | call _ _ _ ih => exact ih

theorem outline_sources (h : ChangesWithin f s t) :
    t.streams.sources.outline = s.streams.sources.outline := by
  induction h with
  | refl => rfl
  | setSource _ _ _ _ _ ih => exact (SlotMap.outline_set _ _ _).trans ih
  | setSink _ _ _ _ ih | setBridge _ _ _ _ ih | env _ _ ih | note _ _ _ ih | call _ _ _ ih =>
    exact ih

theorem outline_sinks (h : ChangesWithin f s t) :
    t.streams.sinks.outline = s.streams.sinks.outline := by
  induction h with
  | refl => rfl
  | setSink _ _ _ _ ih => exact (SlotMap.outline_set _ _ _).trans ih
  | setSource _ _ _ _ _ ih | setBridge _ _ _ _ ih | env _ _ ih | note _ _ _ ih | call _ _ _ ih =>
    exact ih

theorem outline_bridges (h : ChangesWithin f s t) :
    t.streams.bridges.outline = s.streams.bridges.outline := by
  induction h with
  | refl => rfl
  | setBridge _ _ _ _ ih => exact (SlotMap.outline_set _ _ _).trans ih
  | setSource _ _ _ _ _ ih | setSink _ _ _ _ ih | env _ _ ih | note _ _ _ ih | call _ _ _ ih =>
    exact ih

theorem source? (h : ChangesWithin f s t) (id : ReadableId) :
    Option.Rel Source.Keeps (s.streams.source? id) (t.streams.source? id) := by
  induction h with
  | refl => exact SlotMap.rel_refl Source.Keeps.refl _
  | setSource _ _ hs hk _ ih => exact SlotMap.rel_set Source.Keeps.trans ih hs hk
  | setSink _ _ _ _ ih | setBridge _ _ _ _ ih | env _ _ ih | note _ _ _ ih | call _ _ _ ih =>
    exact ih

theorem sink? (h : ChangesWithin f s t) (id : WritableId) :
    Option.Rel Sink.Keeps (s.streams.sink? id) (t.streams.sink? id) := by
  induction h with
  | refl => exact SlotMap.rel_refl Sink.Keeps.refl _
  | setSink _ _ hs hk ih => exact SlotMap.rel_set Sink.Keeps.trans ih hs hk
  | setSource _ _ _ _ _ ih | setBridge _ _ _ _ ih | env _ _ ih | note _ _ _ ih | call _ _ _ ih =>
    exact ih

theorem bridge? (h : ChangesWithin f s t) (id : BridgeId) :
    Option.Rel Bridge.Keeps (s.streams.bridge? id) (t.streams.bridge? id) := by
  induction h with
  | refl => exact SlotMap.rel_refl Bridge.Keeps.refl _
  | setBridge _ _ hs hk ih => exact SlotMap.rel_set Bridge.Keeps.trans ih hs hk
  | setSource _ _ _ _ _ ih | setSink _ _ _ _ ih | env _ _ ih | note _ _ _ ih | call _ _ _ ih =>
    exact ih

theorem source_after (h : ChangesWithin f s t) {id : ReadableId} {source : Source E}
    (hs : s.streams.source? id = some source) :
    ∃ source', t.streams.source? id = some source' ∧ source.Keeps source' :=
  SlotMap.rel_some_left (hs ▸ h.source? id)

theorem source_before (h : ChangesWithin f s t) {id : ReadableId} {source' : Source E}
    (ht : t.streams.source? id = some source') :
    ∃ source, s.streams.source? id = some source ∧ source.Keeps source' :=
  SlotMap.rel_some_right (ht ▸ h.source? id)

theorem sink_after (h : ChangesWithin f s t) {id : WritableId} {sink : Sink E}
    (hs : s.streams.sink? id = some sink) :
    ∃ sink', t.streams.sink? id = some sink' ∧ sink.Keeps sink' :=
  SlotMap.rel_some_left (hs ▸ h.sink? id)

theorem sink_before (h : ChangesWithin f s t) {id : WritableId} {sink' : Sink E}
    (ht : t.streams.sink? id = some sink') :
    ∃ sink, s.streams.sink? id = some sink ∧ sink.Keeps sink' :=
  SlotMap.rel_some_right (ht ▸ h.sink? id)

theorem bridge_after (h : ChangesWithin f s t) {id : BridgeId} {bridge : Bridge E}
    (hs : s.streams.bridge? id = some bridge) :
    ∃ bridge', t.streams.bridge? id = some bridge' ∧ bridge.Keeps bridge' :=
  SlotMap.rel_some_left (hs ▸ h.bridge? id)

theorem bridge_before (h : ChangesWithin f s t) {id : BridgeId} {bridge' : Bridge E}
    (ht : t.streams.bridge? id = some bridge') :
    ∃ bridge, s.streams.bridge? id = some bridge ∧ bridge.Keeps bridge' :=
  SlotMap.rel_some_right (ht ▸ h.bridge? id)

theorem disturbed (h : ChangesWithin f s t) {id : ReadableId}
    (hd : s.streams.isDisturbed id = true) :
    t.streams.isDisturbed id = true := by
  unfold Registry.isDisturbed at hd ⊢
  cases hs : s.streams.source? id with
  | none => simp [hs] at hd
  | some source =>
    obtain ⟨source', ht, hk⟩ := h.source_after hs
    rw [hs] at hd
    rw [ht]
    exact hk.disturbed hd

/-- No bridge is made, and none is taken down. -/
theorem joins_iff (h : ChangesWithin f s t) {id : ReadableId} :
    t.streams.Joins id ↔ s.streams.Joins id := by
  constructor
  · rintro ⟨name, bridge', ht, rfl⟩
    obtain ⟨bridge, hs, hk⟩ := h.bridge_before ht
    exact ⟨name, bridge, hs, hk.readable.symm⟩
  · rintro ⟨name, bridge, hs, rfl⟩
    obtain ⟨bridge', ht, hk⟩ := h.bridge_after hs
    exact ⟨name, bridge', ht, hk.readable⟩

/-- A source that does not count as disturbed is as it was, unless a bridge leads into it. -/
theorem source?_undisturbed (h : ChangesWithin f s t) {id : ReadableId} {source : Source E}
    (ht : t.streams.source? id = some source) (hd : source.disturbed = false)
    (hj : ¬ s.streams.Joins id) : s.streams.source? id = some source := by
  induction h generalizing source with
  | refl => exact ht
  | @setSource t other old new htouched _ hold _ hsanction ih =>
    rw [streams_setSource, Registry.source?_setSource] at ht
    by_cases hid : id = other
    · subst hid
      rw [if_pos rfl, hold, Option.map_some, Option.some.injEq] at ht
      subst ht
      rcases hsanction with hdisturbed | hjoins
      · exact absurd hdisturbed (by rw [hd]; decide)
      · exact absurd (htouched.joins_iff.mp hjoins) hj
    · rw [if_neg hid] at ht
      exact ih ht hd
  | setSink _ _ _ _ ih | setBridge _ _ _ _ ih | env _ _ ih | note _ _ _ ih | call _ _ _ ih =>
    exact ih ht hd

/-! ### What lies outside the footprint -/

theorem source?_outside (h : ChangesWithin f s t) {id : ReadableId} (hid : id ∉ f.readables) :
    t.streams.source? id = s.streams.source? id := by
  induction h with
  | refl => rfl
  | @setSource t other _ _ _ hother _ _ _ ih =>
    have hne : id ≠ other := fun he => hid (he ▸ hother)
    rw [streams_setSource, Registry.source?_setSource, if_neg hne]
    exact ih
  | setSink _ _ _ _ ih | setBridge _ _ _ _ ih | env _ _ ih | note _ _ _ ih | call _ _ _ ih =>
    exact ih

theorem sink?_outside (h : ChangesWithin f s t) {id : WritableId} (hid : id ∉ f.writables) :
    t.streams.sink? id = s.streams.sink? id := by
  induction h with
  | refl => rfl
  | @setSink t other _ _ _ hother _ _ ih =>
    have hne : id ≠ other := fun he => hid (he ▸ hother)
    rw [streams_setSink, Registry.sink?_setSink, if_neg hne]
    exact ih
  | setSource _ _ _ _ _ ih | setBridge _ _ _ _ ih | env _ _ ih | note _ _ _ ih | call _ _ _ ih =>
    exact ih

theorem bridge?_outside (h : ChangesWithin f s t) {id : BridgeId} (hid : id ∉ f.bridges) :
    t.streams.bridge? id = s.streams.bridge? id := by
  induction h with
  | refl => rfl
  | @setBridge t other _ _ _ hother _ _ ih =>
    have hne : id ≠ other := fun he => hid (he ▸ hother)
    rw [streams_setBridge, Registry.bridge?_setBridge, if_neg hne]
    exact ih
  | setSource _ _ _ _ _ ih | setSink _ _ _ _ ih | env _ _ ih | note _ _ _ ih | call _ _ _ ih =>
    exact ih

/-- The host has been asked about nothing but bodies of the footprint. -/
theorem calls (h : ChangesWithin f s t) : BodyCalls f.bodies s.host t.host := by
  induction h with
  | refl => exact .refl
  | call _ hid hc ih => exact ih.call hid hc
  | setSource _ _ _ _ _ ih | setSink _ _ _ _ ih | setBridge _ _ _ _ ih | env _ _ ih
  | note _ _ _ ih => exact ih

end ChangesWithin

end Session

end EdgeStreams
