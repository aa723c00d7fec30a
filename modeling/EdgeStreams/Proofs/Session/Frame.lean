import EdgeStreams.Proofs.Host.Bodies
import EdgeStreams.Proofs.Session.Flow
import Mathlib.Data.Set.Insert

/-!
# What an operation leaves alone

An operation on some streams leaves all others as they are. A footprint names what may change;
`Frame` says that nothing else does. While a response is sent the host is asked for nothing but to
read, to write and, at the end, to close; `Confined` says that as well.

## Main definitions

- `Footprint`: the entries and host bodies that may change
- `Footprint.Apart`: nothing of the one footprint is in the other
- `Frame`: two sessions agree outside a footprint
- `MemoryHost.Calm`: no call fails
- `Confined`: what may have changed, and what the host has been asked for

## Main statements

- `Frame.refl`, `Frame.trans`, `Frame.mono`
- `Frame.setSource` and its like: the footprint of one change
- `Confined.of_frame`: work that asks nothing of the host
- `Confined.putBody`: one call
-/

namespace EdgeStreams

variable {E : Type}

/-- The entries and host bodies that may change. -/
structure Footprint where
  readables : Set ReadableId := ∅
  writables : Set WritableId := ∅
  bridges : Set BridgeId := ∅
  /-- The streams whose incoming pipes may change. -/
  pipes : Set WritableId := ∅
  bodies : Set BodyHandle := ∅

namespace Footprint

/-- Nothing changes outside the second footprint if nothing does outside the first. -/
structure Within (f g : Footprint) : Prop where
  readables : f.readables ⊆ g.readables
  writables : f.writables ⊆ g.writables
  bridges : f.bridges ⊆ g.bridges
  pipes : f.pipes ⊆ g.pipes
  bodies : f.bodies ⊆ g.bodies

instance : Union Footprint where
  union f g :=
    { readables := f.readables ∪ g.readables
      writables := f.writables ∪ g.writables
      bridges := f.bridges ∪ g.bridges
      pipes := f.pipes ∪ g.pipes
      bodies := f.bodies ∪ g.bodies }

variable {f g h : Footprint}

theorem union_eq (f g : Footprint) : f ∪ g =
    { readables := f.readables ∪ g.readables
      writables := f.writables ∪ g.writables
      bridges := f.bridges ∪ g.bridges
      pipes := f.pipes ∪ g.pipes
      bodies := f.bodies ∪ g.bodies } := rfl

theorem Within.refl : f.Within f := ⟨subset_rfl, subset_rfl, subset_rfl, subset_rfl, subset_rfl⟩

theorem empty_within : ({} : Footprint).Within f :=
  ⟨Set.empty_subset _, Set.empty_subset _, Set.empty_subset _, Set.empty_subset _,
    Set.empty_subset _⟩

theorem within_union_left : f.Within (f ∪ g) :=
  ⟨Set.subset_union_left, Set.subset_union_left, Set.subset_union_left, Set.subset_union_left,
    Set.subset_union_left⟩

theorem within_union_right : g.Within (f ∪ g) :=
  ⟨Set.subset_union_right, Set.subset_union_right, Set.subset_union_right, Set.subset_union_right,
    Set.subset_union_right⟩

theorem Within.union (hf : f.Within h) (hg : g.Within h) : (f ∪ g).Within h :=
  ⟨Set.union_subset hf.1 hg.1, Set.union_subset hf.2 hg.2, Set.union_subset hf.3 hg.3,
    Set.union_subset hf.4 hg.4, Set.union_subset hf.5 hg.5⟩

theorem Within.trans (hfg : f.Within g) (hgh : g.Within h) : f.Within h :=
  ⟨hfg.1.trans hgh.1, hfg.2.trans hgh.2, hfg.3.trans hgh.3, hfg.4.trans hgh.4, hfg.5.trans hgh.5⟩

/-- Nothing of the one footprint is in the other. -/
structure Apart (f g : Footprint) : Prop where
  readables : ∀ id ∈ f.readables, id ∉ g.readables
  writables : ∀ id ∈ f.writables, id ∉ g.writables
  bridges : ∀ id ∈ f.bridges, id ∉ g.bridges
  pipes : ∀ id ∈ f.pipes, id ∉ g.pipes
  bodies : ∀ id ∈ f.bodies, id ∉ g.bodies

theorem apart_empty : Apart f {} :=
  ⟨fun _ _ h => h, fun _ _ h => h, fun _ _ h => h, fun _ _ h => h, fun _ _ h => h⟩

theorem Apart.symm (hfg : f.Apart g) : g.Apart f :=
  ⟨fun _ hg hf => hfg.readables _ hf hg, fun _ hg hf => hfg.writables _ hf hg,
    fun _ hg hf => hfg.bridges _ hf hg, fun _ hg hf => hfg.pipes _ hf hg,
    fun _ hg hf => hfg.bodies _ hf hg⟩

theorem Apart.within (hfg : f.Apart g) (hh : h.Within f) : h.Apart g :=
  ⟨fun _ hm => hfg.readables _ (hh.readables hm), fun _ hm => hfg.writables _ (hh.writables hm),
    fun _ hm => hfg.bridges _ (hh.bridges hm), fun _ hm => hfg.pipes _ (hh.pipes hm),
    fun _ hm => hfg.bodies _ (hh.bodies hm)⟩

end Footprint

/-- Two sessions agree outside a footprint. -/
structure Frame (f : Footprint) (s s' : Session MemoryHost E) : Prop where
  source : ∀ id, id ∉ f.readables → s'.streams.source? id = s.streams.source? id
  sink : ∀ id, id ∉ f.writables → s'.streams.sink? id = s.streams.sink? id
  bridge : ∀ id, id ∉ f.bridges → s'.streams.bridge? id = s.streams.bridge? id
  pipe : ∀ id pipe, pipe.destination ∉ f.pipes →
    (s'.streams.pipe? id = some pipe ↔ s.streams.pipe? id = some pipe)
  body : ∀ handle, handle ∉ f.bodies →
    s'.host.bodies.find? handle.raw = s.host.bodies.find? handle.raw
  chunkSize : s'.host.chunkSize = s.host.chunkSize
  /-- No operation sets a fault. -/
  faultless : s.host.faults = {} → s'.host.faults = {}
  /-- No other body has been read too far. -/
  overrun : ∀ handle, handle ∉ f.bodies → s'.host.overrun = some handle →
    s.host.overrun = some handle
  wellFormed : s.streams.pipes.WellFormed → s'.streams.pipes.WellFormed

namespace Frame

variable {f g : Footprint} {s s' s'' : Session MemoryHost E}

theorem refl (f : Footprint) (s : Session MemoryHost E) : Frame f s s :=
  ⟨fun _ _ => rfl, fun _ _ => rfl, fun _ _ => rfl, fun _ _ _ => Iff.rfl, fun _ _ => rfl, rfl, id,
    fun _ _ => id, id⟩

theorem trans (h : Frame f s s') (h' : Frame f s' s'') : Frame f s s'' where
  source id hid := (h'.source id hid).trans (h.source id hid)
  sink id hid := (h'.sink id hid).trans (h.sink id hid)
  bridge id hid := (h'.bridge id hid).trans (h.bridge id hid)
  pipe id pipe hp := (h'.pipe id pipe hp).trans (h.pipe id pipe hp)
  body handle hb := (h'.body handle hb).trans (h.body handle hb)
  chunkSize := h'.chunkSize.trans h.chunkSize
  faultless hf := h'.faultless (h.faultless hf)
  overrun handle hb ho := h.overrun handle hb (h'.overrun handle hb ho)
  wellFormed hw := h'.wellFormed (h.wellFormed hw)

theorem mono (h : Frame f s s') (hfg : f.Within g) : Frame g s s' where
  source id hid := h.source id fun hm => hid (hfg.readables hm)
  sink id hid := h.sink id fun hm => hid (hfg.writables hm)
  bridge id hid := h.bridge id fun hm => hid (hfg.bridges hm)
  pipe id pipe hp := h.pipe id pipe fun hm => hp (hfg.pipes hm)
  body handle hb := h.body handle fun hm => hb (hfg.bodies hm)
  chunkSize := h.chunkSize
  faultless := h.faultless
  overrun handle hb := h.overrun handle fun hm => hb (hfg.bodies hm)
  wellFormed := h.wellFormed

/-- Nothing that a frame speaks of is in the journal or in the environment. -/
theorem congr (h : Frame f s s') (hs : s''.streams = s'.streams) (hh : s''.host = s'.host) :
    Frame f s s'' where
  source id hid := by rw [hs]; exact h.source id hid
  sink id hid := by rw [hs]; exact h.sink id hid
  bridge id hid := by rw [hs]; exact h.bridge id hid
  pipe id pipe hp := by rw [hs]; exact h.pipe id pipe hp
  body handle hb := by rw [hh]; exact h.body handle hb
  chunkSize := by rw [hh]; exact h.chunkSize
  faultless hf := by rw [hh]; exact h.faultless hf
  overrun handle hb ho := h.overrun handle hb (hh ▸ ho)
  wellFormed hw := by rw [hs]; exact h.wellFormed hw

/-! ### Single changes -/

variable (s)

theorem setSource (id : ReadableId) (source : Source E) :
    Frame { readables := {id} } s (Session.setSource id source s) where
  source other ho := by
    simp only [Set.mem_singleton_iff] at ho
    simp [Registry.source?_setSource, ho]
  sink _ _ := rfl
  bridge _ _ := rfl
  pipe _ _ _ := Iff.rfl
  body _ _ := rfl
  chunkSize := rfl
  faultless h := h
  overrun _ _ h := h
  wellFormed h := h

theorem setSink (id : WritableId) (sink : Sink E) :
    Frame { writables := {id} } s (Session.setSink id sink s) where
  source _ _ := rfl
  sink other ho := by
    simp only [Set.mem_singleton_iff] at ho
    simp [Registry.sink?_setSink, ho]
  bridge _ _ := rfl
  pipe _ _ _ := Iff.rfl
  body _ _ := rfl
  chunkSize := rfl
  faultless h := h
  overrun _ _ h := h
  wellFormed h := h

theorem setBridge (id : BridgeId) (bridge : Bridge E) :
    Frame { bridges := {id} } s (Session.setBridge id bridge s) where
  source _ _ := rfl
  sink _ _ := rfl
  bridge other ho := by
    simp only [Set.mem_singleton_iff] at ho
    simp [Registry.bridge?_setBridge, ho]
  pipe _ _ _ := Iff.rfl
  body _ _ := rfl
  chunkSize := rfl
  faultless h := h
  overrun _ _ h := h
  wellFormed h := h

theorem note (event : StreamEvent) : Frame {} s (Session.note event s) :=
  ⟨fun _ _ => rfl, fun _ _ => rfl, fun _ _ => rfl, fun _ _ _ => Iff.rfl, fun _ _ => rfl, rfl,
    fun h => h, fun _ _ h => h, fun h => h⟩

theorem noteEnqueued (id : ReadableId) (chunks : List Bytes) :
    Frame {} s (Session.noteEnqueued id chunks s) :=
  ⟨fun _ _ => rfl, fun _ _ => rfl, fun _ _ => rfl, fun _ _ _ => Iff.rfl, fun _ _ => rfl, rfl,
    fun h => h, fun _ _ h => h, fun h => h⟩

theorem modifySink (id : WritableId) (change : Sink E → Sink E) :
    Frame { writables := {id} } s
      (Session.mapStreams (fun streams => streams.modifySink id change) s) where
  source _ _ := by simp
  sink other ho := by
    simp only [Set.mem_singleton_iff] at ho
    simp [Registry.sink?_modifySink, ho]
  bridge _ _ := by simp
  pipe _ _ _ := by simp [Registry.pipe?_congr (Registry.pipes_modifySink _ _ _)]
  body _ _ := rfl
  chunkSize := rfl
  faultless h := h
  overrun _ _ h := h
  wellFormed h := by simpa using h

theorem modifySource (id : ReadableId) (change : Source E → Source E) :
    Frame { readables := {id} } s
      (Session.mapStreams (fun streams => streams.modifySource id change) s) where
  source other ho := by
    simp only [Set.mem_singleton_iff] at ho
    simp [Registry.source?_modifySource, ho]
  sink _ _ := by simp
  bridge _ _ := by simp
  pipe _ _ _ := by simp [Registry.pipe?_congr (Registry.pipes_modifySource _ _ _)]
  body _ _ := rfl
  chunkSize := rfl
  faultless h := h
  overrun _ _ h := h
  wellFormed h := by simpa using h

/-- A change of one entry of a pipe into `pipe.destination`. -/
theorem setPipe {id : PipeId} {old new : Pipe} (h : s.streams.pipe? id = some old)
    (hd : new.destination = old.destination) :
    Frame { pipes := {old.destination} } s
      (Session.mapStreams (fun streams => streams.setPipe id new) s) where
  source _ _ := rfl
  sink _ _ := rfl
  bridge _ _ := rfl
  pipe other pipe hp := by
    simp only [Set.mem_singleton_iff] at hp
    simp only [Session.streams_mapStreams, Registry.pipe?_setPipe]
    by_cases ho : other = id
    · subst ho
      rw [if_pos rfl, h]
      constructor
      · rintro ⟨⟩
        exact absurd hd hp
      · rintro ⟨⟩
        exact absurd rfl hp
    · rw [if_neg ho]
  body _ _ := rfl
  chunkSize := rfl
  faultless hf := hf
  overrun _ _ ho := ho
  wellFormed hw := hw.set _ _

/-- The end of a pipe. -/
theorem finishPipe {id : PipeId} {pipe : Pipe} (state : PipeState)
    (h : s.streams.pipe? id = some pipe) (hr : pipe.isRunning) :
    Frame
      { readables := {pipe.source}, writables := {pipe.destination}, pipes := {pipe.destination} }
      s (Session.pipeFinished id state s) where
  source other ho := by
    simp only [Set.mem_singleton_iff] at ho
    simp [Session.pipeFinished, Registry.source?_finishPipe state h hr, ho]
  sink other ho := by
    simp only [Set.mem_singleton_iff] at ho
    simp [Session.pipeFinished, Registry.sink?_finishPipe state h hr, ho]
  bridge other _ := by simp [Session.pipeFinished]
  pipe other q hq := by
    simp only [Set.mem_singleton_iff] at hq
    simp only [Session.pipeFinished, Session.streams_mapStreams,
      Registry.pipe?_finishPipe state h hr]
    by_cases ho : other = id
    · subst ho
      rw [if_pos rfl, h]
      constructor
      · rintro ⟨⟩
        exact absurd rfl hq
      · rintro ⟨⟩
        exact absurd rfl hq
    · rw [if_neg ho]
  body _ _ := rfl
  chunkSize := rfl
  faultless hf := hf
  overrun _ _ ho := ho
  wellFormed hw := by
    simp only [Session.pipeFinished, Session.streams_mapStreams,
      Registry.pipes_finishPipe state h hr]
    exact hw.set _ _

/-- A new pipe changes its two ends only. -/
theorem openPipe {s : Session MemoryHost E} {streams : Registry E} {r : ReadableId}
    {w : WritableId} {source : Source E} {sink : Sink E} {pipe : Pipe}
    (hwf : s.streams.pipes.WellFormed) (hd : pipe.destination = w)
    (hpipes : streams.pipes = (s.streams.pipes.insert pipe).2)
    (hsources : ∀ id, streams.source? id = if id = r then some source else s.streams.source? id)
    (hsinks : ∀ id, streams.sink? id = if id = w then some sink else s.streams.sink? id)
    (hbridges : ∀ id, streams.bridge? id = s.streams.bridge? id) :
    Frame { readables := {r}, writables := {w}, pipes := {w} } s { s with streams } where
  source id hid := by
    simp only [Set.mem_singleton_iff] at hid
    simp [hsources, hid]
  sink id hid := by
    simp only [Set.mem_singleton_iff] at hid
    simp [hsinks, hid]
  bridge id _ := hbridges id
  pipe id other ho := by
    simp only [Set.mem_singleton_iff] at ho
    simp only [Registry.pipe?, hpipes, hwf.get?_insert]
    split
    · next hid =>
      rw [hid, hwf.get?_nextKey]
      constructor
      · rintro ⟨⟩
        exact absurd hd ho
      · rintro ⟨⟩
    · rfl
  body _ _ := rfl
  chunkSize := rfl
  faultless h := h
  overrun _ _ h := h
  wellFormed _ := hpipes ▸ hwf.insert pipe

/-! ### Calls on host bodies -/

/-- A call that changes no body. -/
theorem received (operation : HostOperation) (about : Option AnyHandle) (handle : BodyHandle) :
    Frame { bodies := {handle} } s { s with host := s.host.received operation about } where
  source _ _ := rfl
  sink _ _ := rfl
  bridge _ _ := rfl
  pipe _ _ _ := Iff.rfl
  body _ _ := rfl
  chunkSize := rfl
  faultless h := by simp [h]
  overrun _ _ ho := ho
  wellFormed h := h

/-- A call that changes one body. -/
theorem putBody (operation : HostOperation) (about : Option AnyHandle) (handle : BodyHandle)
    (body : MemoryBody) :
    Frame { bodies := {handle} } s
      { s with host := (s.host.received operation about).putBody handle body } where
  source _ _ := rfl
  sink _ _ := rfl
  bridge _ _ := rfl
  pipe _ _ _ := Iff.rfl
  body other ho := by
    have hne : other.raw ≠ handle.raw := by
      intro h
      apply ho
      cases other
      cases handle
      simp_all
    simp [MemoryHost.find?_putBody, hne]
  chunkSize := rfl
  faultless h := by simp [h]
  overrun _ _ ho := ho
  wellFormed h := h

variable (handle : BodyHandle)

/-- A read of one body, wherever it ends. -/
theorem reaching (host : MemoryHost) (place : Nat) :
    Frame { bodies := {handle} } { s with host } { s with host := host.reaching handle place } where
  source _ _ := rfl
  sink _ _ := rfl
  bridge _ _ := rfl
  pipe _ _ _ := Iff.rfl
  body _ _ := rfl
  chunkSize := rfl
  faultless h := h
  overrun other hne ho := by
    by_contra hkept
    apply hne
    simp only [MemoryHost.reaching] at ho
    split at ho
    · rcases Option.or_eq_some_iff.mp ho with hold | ⟨-, hnew⟩
      · exact absurd hold hkept
      · exact (Option.some_inj.mp hnew).symm
    · exact absurd ho hkept
  wellFormed h := h

theorem bodyRead (limit : UInt64) :
    Frame { bodies := {handle} } s
      { s with host := (exec (Host.bodyRead handle limit) s.host).2 } := by
  rw [MemoryHost.exec_bodyRead]
  cases (s.host.faults.take .bodyRead).1 with
  | some error => exact received s _ _ handle
  | none =>
    cases s.host.bodies.find? handle.raw with
    | none => exact received s _ _ handle
    | some body =>
      by_cases h : body.state = .abandoned
      · simpa [h] using received s _ _ handle
      · simp only [h, if_false]
        exact (putBody s _ _ handle _).trans (reaching s handle _ _)

theorem bodyWrite (chunk : Bytes) :
    Frame { bodies := {handle} } s
      { s with host := (exec (Host.bodyWrite handle chunk) s.host).2 } := by
  rw [MemoryHost.exec_bodyWrite]
  cases (s.host.faults.take .bodyWrite).1 with
  | some error => exact received s _ _ handle
  | none =>
    cases s.host.bodies.find? handle.raw with
    | none => exact received s _ _ handle
    | some body =>
      by_cases h : body.state = .opened
      · simpa [h] using putBody s _ _ handle _
      · simpa [h] using received s _ _ handle

theorem bodyClose :
    Frame { bodies := {handle} } s
      { s with host := (exec (Host.bodyClose handle) s.host).2 } := by
  rw [MemoryHost.exec_bodyClose]
  cases (s.host.faults.take .bodyClose).1 with
  | some error => exact received s _ _ handle
  | none =>
    cases s.host.bodies.find? handle.raw with
    | none => exact received s _ _ handle
    | some body =>
      by_cases h : body.state = .opened
      · simpa [h] using putBody s _ _ handle _
      · simpa [h] using received s _ _ handle

theorem bodyAbandon :
    Frame { bodies := {handle} } s
      { s with host := (exec (Host.bodyAbandon handle) s.host).2 } := by
  rw [MemoryHost.exec_bodyAbandon]
  cases (s.host.faults.take .bodyAbandon).1 with
  | some error => exact received s _ _ handle
  | none =>
    cases s.host.bodies.find? handle.raw with
    | none => exact received s _ _ handle
    | some body =>
      by_cases h : body.state = .abandoned
      · simpa [h] using received s _ _ handle
      · simpa [h] using putBody s _ _ handle _

end Frame

/-! ### What is asked of the host -/

namespace MemoryHost

/-- No fault is set, and a read may answer with something. -/
structure Calm (host : MemoryHost) : Prop where
  faultless : host.faults = {}
  chunkSize : 0 < host.chunkSize

theorem callCount_received (host : MemoryHost) (operation other : HostOperation)
    (about : Option AnyHandle) :
    (host.received operation about).callCount other =
      host.callCount other + if other = operation then 1 else 0 := by
  by_cases h : operation = other
  · simp [callCount, received, h]
  · simp [callCount, received, h, Ne.symm h]

@[simp] theorem callCount_putBody (host : MemoryHost) (handle : BodyHandle) (body : MemoryBody)
    (operation : HostOperation) :
    (host.putBody handle body).callCount operation = host.callCount operation := rfl

end MemoryHost

/-- Two sessions agree outside a footprint. In between the host has been asked to close so many
bodies, and for nothing else but to read and to write. -/
structure Confined (f : Footprint) (closings : Nat) (s s' : Session MemoryHost E) : Prop
    extends Frame f s s' where
  /-- No body has been read too far, not even one of the footprint. -/
  intact : s.host.overrun = none → s'.host.overrun = none
  tally : ∀ operation, operation ≠ .bodyRead → operation ≠ .bodyWrite →
    s'.host.callCount operation =
      s.host.callCount operation + if operation = .bodyClose then closings else 0

namespace Confined

variable {f g : Footprint} {closings more : Nat} {s s' s'' : Session MemoryHost E}

/-- Work that asks nothing of the host. -/
theorem of_frame (h : Frame f s s') (hh : s'.host = s.host) : Confined f 0 s s' where
  toFrame := h
  intact hi := hh ▸ hi
  tally _ _ _ := by simp [hh]

theorem refl (f : Footprint) (s : Session MemoryHost E) : Confined f 0 s s :=
  .of_frame (.refl f s) rfl

/-- More work after work that has closed no body. -/
theorem trans (h : Confined f 0 s s') (h' : Confined f closings s' s'') :
    Confined f closings s s'' where
  toFrame := h.toFrame.trans h'.toFrame
  intact hi := h'.intact (h.intact hi)
  tally operation hr hw := by
    rw [h'.tally operation hr hw, h.tally operation hr hw]
    simp

/-- More work, which closes no body. -/
theorem followed (h : Confined f closings s s') (h' : Confined f 0 s' s'') :
    Confined f closings s s'' where
  toFrame := h.toFrame.trans h'.toFrame
  intact hi := h'.intact (h.intact hi)
  tally operation hr hw := by
    rw [h'.tally operation hr hw, h.tally operation hr hw]
    simp

theorem mono (h : Confined f closings s s') (hfg : f.Within g) : Confined g closings s s' where
  toFrame := h.toFrame.mono hfg
  intact := h.intact
  tally := h.tally

/-- An entry in the journal concerns nothing that is confined. -/
theorem noted (h : Confined f closings s s') (event : StreamEvent) :
    Confined f closings s (Session.note event s') where
  toFrame := h.toFrame.congr rfl rfl
  intact := h.intact
  tally := h.tally

theorem notedEnqueued (h : Confined f closings s s') (id : ReadableId) (chunks : List Bytes) :
    Confined f closings s (Session.noteEnqueued id chunks s') where
  toFrame := h.toFrame.congr rfl rfl
  intact := h.intact
  tally := h.tally

theorem calm (h : Confined f closings s s') (hc : s.host.Calm) : s'.host.Calm :=
  ⟨h.faultless hc.faultless, h.chunkSize ▸ hc.chunkSize⟩

variable (s)

theorem setSource (id : ReadableId) (source : Source E) :
    Confined { readables := {id} } 0 s (Session.setSource id source s) :=
  .of_frame (.setSource s id source) rfl

theorem setSink (id : WritableId) (sink : Sink E) :
    Confined { writables := {id} } 0 s (Session.setSink id sink s) :=
  .of_frame (.setSink s id sink) rfl

theorem setBridge (id : BridgeId) (bridge : Bridge E) :
    Confined { bridges := {id} } 0 s (Session.setBridge id bridge s) :=
  .of_frame (.setBridge s id bridge) rfl

/-- A read or a write. -/
theorem putBody (operation : HostOperation) (ho : operation = .bodyRead ∨ operation = .bodyWrite)
    (about : Option AnyHandle) (handle : BodyHandle) (body : MemoryBody) :
    Confined { bodies := {handle} } 0 s
      { s with host := (s.host.received operation about).putBody handle body } where
  toFrame := .putBody s operation about handle body
  intact hi := hi
  tally other hr hw := by
    have hne : other ≠ operation := by
      rintro rfl
      exact ho.elim hr hw
    simp [MemoryHost.callCount_received, hne]

theorem closeBody (about : Option AnyHandle) (handle : BodyHandle) (body : MemoryBody) :
    Confined { bodies := {handle} } 1 s
      { s with host := (s.host.received .bodyClose about).putBody handle body } where
  toFrame := .putBody s .bodyClose about handle body
  intact hi := hi
  tally other _ _ := by simp [MemoryHost.callCount_received]

/-- A mark on a pipe. -/
theorem setPipe {id : PipeId} {old new : Pipe} (h : s.streams.pipe? id = some old)
    (hd : new.destination = old.destination) :
    Confined { pipes := {old.destination} } 0 s
      (Session.mapStreams (fun streams => streams.setPipe id new) s) :=
  .of_frame (.setPipe s h hd) rfl

/-- The end of a pipe. -/
theorem finishPipe {id : PipeId} {pipe : Pipe} (state : PipeState)
    (h : s.streams.pipe? id = some pipe) (hr : pipe.isRunning) :
    Confined
      { readables := {pipe.source}, writables := {pipe.destination}, pipes := {pipe.destination} }
      0 s (Session.pipeFinished id state s) :=
  .of_frame (.finishPipe s state h hr) rfl

end Confined

end EdgeStreams
