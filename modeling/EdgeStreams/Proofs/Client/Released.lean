import EdgeStreams.Proofs.Client.Lasting
import EdgeStreams.Proofs.Session.Leftovers

/-!
# Streams that have been let go of

A stream that has been let go of is not taken up again. Whatever clients do, it stays let go of
until it is taken out; and a sweep that finds it unlocked takes it out.

## Main definitions

- `Registry.KeepsReleased`: what has been let go of is still there, and still let go of
- `Registry.ReadableLeft`, `Registry.WritableLeft`: a stream has been let go of, or is gone

## Main statements

- `StreamOp.keepsReleased`: operations that take out no entry
- `Client.Calls.readableLeft`, `Client.Calls.writableLeft`: any calls
- `Registry.ReadableLeft.swept`, `Registry.WritableLeft.swept`: what a sweep makes of such a stream
-/

namespace EdgeStreams

variable {H E : Type}

namespace Registry

variable {streams streams' streams'' : Registry E} {id : ReadableId} {w : WritableId}

/-- What has been let go of is still there, and still let go of. -/
structure KeepsReleased (streams streams' : Registry E) : Prop where
  readable : ∀ {id source}, streams.source? id = some source → source.released = true →
    ∃ source', streams'.source? id = some source' ∧ source'.released = true
  writable : ∀ {id sink}, streams.sink? id = some sink → sink.released = true →
    ∃ sink', streams'.sink? id = some sink' ∧ sink'.released = true

theorem ContinuesAs.keepsReleased (h : streams.ContinuesAs streams') :
    streams.KeepsReleased streams' where
  readable {id source} hs hr := by
    obtain ⟨source', hs', hcontinues⟩ := SlotMap.rel_some_left (hs ▸ h.source id)
    exact ⟨source', hs', hcontinues.released hr⟩
  writable {id sink} hk hr := by
    obtain ⟨sink', hk', hcontinues⟩ := SlotMap.rel_some_left (hk ▸ h.sink id)
    exact ⟨sink', hk', hcontinues.released hr⟩

namespace KeepsReleased

theorem refl (streams : Registry E) : streams.KeepsReleased streams :=
    ContinuesAs.refl streams |>.keepsReleased

theorem trans (h : streams.KeepsReleased streams') (h' : streams'.KeepsReleased streams'') :
    streams.KeepsReleased streams'' where
  readable hs hr := by
    obtain ⟨source', hs', hr'⟩ := h.readable hs hr
    exact h'.readable hs' hr'
  writable hk hr := by
    obtain ⟨sink', hk', hr'⟩ := h.writable hk hr
    exact h'.writable hk' hr'

/-- Entries may be added, and others keep their marks. -/
theorem of_added (hs : ∀ {id source}, streams.source? id = some source →
      streams'.source? id = some source)
    (hk : ∀ {id sink}, streams.sink? id = some sink → streams'.sink? id = some sink) :
    streams.KeepsReleased streams' :=
  ⟨fun {_ source} hfound hr => ⟨source, hs hfound, hr⟩,
    fun {_ sink} hfound hr => ⟨sink, hk hfound, hr⟩⟩

theorem addSource (wf : streams.WellFormed) (source : Source E) :
    streams.KeepsReleased (streams.addSource source).2 := by
  refine of_added (fun {id found} hs => ?_) id
  rw [source?_addSource wf, if_neg, hs]
  rintro rfl
  cases hs.symm.trans (source?_addSource_fst wf source)

theorem addSink (wf : streams.WellFormed) (sink : Sink E) :
    streams.KeepsReleased (streams.addSink sink).2 := by
  refine of_added id fun {w found} hk => ?_
  rw [sink?_addSink wf, if_neg, hk]
  rintro rfl
  cases hk.symm.trans (sink?_addSink_fst wf sink)

theorem enterTransform (wf : streams.WellFormed) (transformer : Transformer E) :
    streams.KeepsReleased (Session.enterTransform transformer streams).2 := by
  obtain ⟨hreadable, hwritable, -⟩ := none_enterTransform wf transformer
  refine of_added (fun {id found} hs => ?_) fun {w found} hk => ?_
  · rw [source?_enterTransform wf, if_neg, hs]
    rintro rfl
    cases hs.symm.trans hreadable
  · rw [sink?_enterTransform wf, if_neg, hk]
    rintro rfl
    cases hk.symm.trans hwritable

theorem getReader (id : ReadableId) :
    streams.KeepsReleased (exec (Registry.getReader id) streams).2 := by
  cases hs : streams.source? id with
  | none => simpa [Registry.getReader, exec_bind, hs] using .refl streams
  | some source =>
    cases hl : source.readerLock with
    | some token => simpa [Registry.getReader, exec_bind, hs, hl] using .refl streams
    | none =>
      rw [exec_getReader streams hs hl]
      refine ⟨fun {other found} hfound hr => ?_, fun {w sink} hk hr => ⟨sink, hk, hr⟩⟩
      have hlocked := source?_readerLocked hs other
      split at hlocked
      · next he =>
        rw [he, hs] at hfound
        cases hfound
        exact ⟨_, hlocked, hr⟩
      · exact ⟨found, hlocked.trans hfound, hr⟩

theorem getWriter (w : WritableId) :
    streams.KeepsReleased (exec (Registry.getWriter w) streams).2 := by
  cases hk : streams.sink? w with
  | none => simpa [Registry.getWriter, exec_bind, hk] using .refl streams
  | some sink =>
    cases hl : sink.writerLock with
    | some token => simpa [Registry.getWriter, exec_bind, hk, hl] using .refl streams
    | none =>
      rw [exec_getWriter streams hk hl]
      refine ⟨fun {id source} hs hr => ⟨source, hs, hr⟩, fun {other found} hfound hr => ?_⟩
      have hlocked : ∀ number, ({ streams with nextToken := number }.setSink w
          { sink with writerLock := some ⟨streams.nextToken⟩ }).sink? other =
            if other = w then some { sink with writerLock := some ⟨streams.nextToken⟩ }
            else streams.sink? other := fun number => by
        rw [sink?_setSink, sink?_nextToken, sink?_nextToken, hk]
        rfl
      rw [hlocked]
      split
      · next he =>
        rw [he, hk] at hfound
        cases hfound
        exact ⟨_, rfl, hr⟩
      · exact ⟨found, hfound, hr⟩

theorem releaseReader (id : ReadableId) (token : ReaderToken) :
    streams.KeepsReleased (quietly (Registry.releaseReader id token) streams) where
  readable {other source} hs hr := by
    rw [source?_releaseReader]
    split
    · next he =>
      subst he
      rw [hs]
      have hunlocked : source.ContinuesAs 0 (unlockReader token source) :=
        ContinuesAs.unlockReader token source
      exact ⟨_, rfl, hunlocked.released hr⟩
    · exact ⟨source, hs, hr⟩
  writable {w sink} hk hr := ⟨sink, by rwa [sink?_releaseReader], hr⟩

theorem releaseWriter (w : WritableId) (token : WriterToken) :
    streams.KeepsReleased (quietly (Registry.releaseWriter w token) streams) where
  readable {id source} hs hr := ⟨source, by rwa [source?_releaseWriter], hr⟩
  writable {other sink} hk hr := by
    rw [sink?_releaseWriter]
    split
    · next he =>
      subst he
      rw [hk]
      have hunlocked : sink.ContinuesAs 0 (unlockWriter token sink) :=
        ContinuesAs.unlockWriter token sink
      exact ⟨_, rfl, hunlocked.released hr⟩
    · exact ⟨sink, hk, hr⟩

end KeepsReleased

end Registry

/-! ### Operations -/

/-- An operation that takes out no entry. -/
theorem StreamOp.keepsReleased [Host H] {s t : Session H E} (wf : s.streams.WellFormed)
    {op : StreamOp E} {fuel : Nat} (h : op.after fuel s = some t) (hr : op.Retains) :
    s.streams.KeepsReleased t.streams := by
  cases effect_of_after h with
  | bodySource handle => exact .addSource wf _
  | scriptSource guest highWaterMark =>
    rw [Session.streams_scriptSource]
    exact .addSource wf _
  | bodySink handle => exact .addSink wf _
  | scriptSink guest => exact .addSink wf _
  | createTransform transformer =>
    obtain ⟨f, result, started, hstarted, hrun⟩ := Session.createTransform_run transformer s
    rw [hrun]
    exact (Registry.KeepsReleased.enterTransform wf transformer).trans
      (hstarted.continuesAs.trans (Session.continuesAs_settleTransform _ _ _)).keepsReleased
  | setReadableOwner id owner =>
    have howned : s.streams.ContinuesAs
        (s.streams.modifySource id fun source => { source with owner := some owner }) :=
      .modifySource id fun _ => ⟨fun h => h, fun _ => .inl⟩
    exact howned.keepsReleased
  | setWritableOwner id owner =>
    have howned : s.streams.ContinuesAs
        (s.streams.modifySink id fun sink => { sink with owner := some owner }) :=
      .modifySink id fun _ => ⟨fun h => h, fun _ => .inl⟩
    exact howned.keepsReleased
  | releaseReadable id => exact (Registry.ContinuesAs.releaseReadable id).keepsReleased
  | releaseWritable id => exact (Registry.ContinuesAs.releaseWritable id).keepsReleased
  | releaseTransform stream =>
    exact ((Registry.ContinuesAs.releaseReadable stream.readable).trans
      (.releaseWritable stream.writable)).keepsReleased
  | movesTo hmoves => exact hmoves.continuesAs.keepsReleased
  | pipeTo hpipe => exact (Session.continuesAs_pipeTo hpipe).keepsReleased
  | sweep | clear => exact hr.elim

namespace Session

/-- Nothing is under way before and after, and what has been let go of is let go of still. -/
structure KeepsReleased [Host H] (s t : Session H E) : Prop where
  resting : t.Resting
  streams : s.streams.KeepsReleased t.streams

instance [Host H] : Retentive fun s t : Session H E => s.Resting → s.KeepsReleased t where
  refl _ hr := ⟨hr, .refl _⟩
  trans h h' hr :=
    have hfirst := h hr
    have hsecond := h' hfirst.resting
    ⟨hsecond.resting, hfirst.streams.trans hsecond.streams⟩
  operate op fuel _ _ h hretains hr :=
    ⟨(OperationStep.operate op fuel h).resting hr, StreamOp.keepsReleased hr.wellFormed h hretains⟩
  elsewhere _ host env nextOwner hr :=
    ⟨(OperationStep.elsewhere host env nextOwner).resting hr, .refl _⟩
  underLock {s t id token streams} hget h hr := by
    have hlocks := (OperationStep.getReader (s := s) id).resting hr
    have hlocked : s.streams.KeepsReleased (exec (Registry.getReader id) s.streams).2 :=
      .getReader id
    rw [hget] at hlocks hlocked
    have hworked := h hlocks
    exact ⟨(OperationStep.releaseReader id token).resting hworked.resting,
      (hlocked.trans hworked.streams).trans (.releaseReader id token)⟩

end Session

/-! ### Calls -/

namespace Registry

variable {streams : Registry E} {id : ReadableId} {w : WritableId}

/-- The stream has been let go of, or is gone. -/
def ReadableLeft (streams : Registry E) (id : ReadableId) : Prop :=
  ∀ source, streams.source? id = some source → source.released = true

/-- The stream has been let go of, or is gone. -/
def WritableLeft (streams : Registry E) (w : WritableId) : Prop :=
  ∀ sink, streams.sink? w = some sink → sink.released = true

/-- A sweep takes out what has been let go of, unless somebody holds it. -/
theorem ReadableLeft.swept (h : streams.ReadableLeft id)
    (hfree : streams.holder? (.readable id) = none) :
    streams.sweep.2.source? id = none := by
  rw [source?_sweep]
  cases hs : streams.source? id with
  | none => rfl
  | some source =>
    have hlock : source.readerLock = none := by
      cases hl : source.readerLock with
      | none => rfl
      | some token => simp [holder?, hs, hl] at hfree
    simp [h source hs, hlock, Option.filter]

/-- A sweep takes out what has been let go of, unless somebody holds it. -/
theorem WritableLeft.swept (h : streams.WritableLeft w)
    (hfree : streams.holder? (.writable w) = none) :
    streams.sweep.2.sink? w = none := by
  rw [sink?_sweep]
  cases hk : streams.sink? w with
  | none => rfl
  | some sink =>
    have hlock : sink.writerLock = none := by
      cases hl : sink.writerLock with
      | none => rfl
      | some token => simp [holder?, hk, hl] at hfree
    simp [h sink hk, hlock, Option.filter]

end Registry

namespace Client

variable [Host H] {uses : H → List UInt32 → H → Prop} {client later : Client H E}

/-- A call takes entries out by sweeping or clearing, or leaves what has been let go of as it is. -/
theorem Call.keepsReleased (h : Call uses client later) (hr : client.session.Resting) :
    client.session.streams.KeepsReleased later.session.streams ∨
      later.session.streams = client.session.streams.sweep.2 ∨
        later.session.streams = client.session.streams.clear := by
  cases h with
  | action hpublic =>
    exact .inl (hpublic.leads (R := fun s t => s.Resting → s.KeepsReleased t) _ hr).streams
  | run hpublic hrun =>
    exact .inl (hpublic.leads (R := fun s t => s.Resting → s.KeepsReleased t) _ _ hrun hr).streams
  | step hstep =>
    cases hstep with
    | operate op fuel hop =>
      by_cases hretains : op.Retains
      · exact .inl (StreamOp.keepsReleased hr.wellFormed hop hretains)
      · cases op with
        | sweep =>
          cases hop
          exact .inr (.inl rfl)
        | clear =>
          cases hop
          exact .inr (.inr rfl)
        | _ => exact absurd trivial hretains
    | @getReader id token streams hget =>
      have hlocked : client.session.streams.KeepsReleased
          (exec (Registry.getReader id) client.session.streams).2 := .getReader id
      rw [hget] at hlocked
      exact .inl hlocked
    | @getWriter id token streams hget =>
      have hlocked : client.session.streams.KeepsReleased
          (exec (Registry.getWriter id) client.session.streams).2 := .getWriter id
      rw [hget] at hlocked
      exact .inl hlocked
    | releaseReader id => exact .inl (.releaseReader id _)
    | releaseWriter id => exact .inl (.releaseWriter id _)
    | callHost | visitGuest | nextOwner => exact .inl (.refl _)

namespace Calls

/-- Whatever is done with a stream that has been let go of, it is not taken up again. By induction
on the calls: an entry that is there is let go of still, and one that is gone stays gone. -/
theorem readableLeft {id : ReadableId} (h : Calls uses NoneBack client later) (hs : client.Sound)
    (hr : client.session.Resting) (hi : client.session.streams.sources.Issued id.key)
    (hl : client.session.streams.ReadableLeft id) : later.session.streams.ReadableLeft id := by
  induction h with
  | refl => exact hl
  | @call between later hbefore hcall hages ih =>
    have hissued := (hbefore.lasts hs).sources.issued hi
    have hlasts := hcall.lasts (hbefore.sound hs).orderly.wellFormed hages
    intro source' hs'
    obtain ⟨source, hfound, -⟩ := hlasts.sources.back hissued hs'
    rcases hcall.keepsReleased (hbefore.leads.resting hr) with hforsakes | he | he
    · obtain ⟨found, hfound', hr'⟩ := hforsakes.readable hfound (ih source hfound)
      cases hs'.symm.trans hfound'
      exact hr'
    · rw [he, Registry.source?_sweep] at hs'
      exact ih source' (Option.filter_eq_some_iff.mp hs').1
    · rw [he] at hs'
      cases (SlotMap.get?_clear ..).symm.trans hs'

/-- By induction on the calls. -/
theorem writableLeft {w : WritableId} (h : Calls uses NoneBack client later) (hs : client.Sound)
    (hr : client.session.Resting) (hi : client.session.streams.sinks.Issued w.key)
    (hl : client.session.streams.WritableLeft w) : later.session.streams.WritableLeft w := by
  induction h with
  | refl => exact hl
  | @call between later hbefore hcall hages ih =>
    have hissued := (hbefore.lasts hs).sinks.issued hi
    have hlasts := hcall.lasts (hbefore.sound hs).orderly.wellFormed hages
    intro sink' hk'
    obtain ⟨sink, hfound, -⟩ := hlasts.sinks.back hissued hk'
    rcases hcall.keepsReleased (hbefore.leads.resting hr) with hforsakes | he | he
    · obtain ⟨found, hfound', hr'⟩ := hforsakes.writable hfound (ih sink hfound)
      cases hk'.symm.trans hfound'
      exact hr'
    · rw [he, Registry.sink?_sweep] at hk'
      exact ih sink' (Option.filter_eq_some_iff.mp hk').1
    · rw [he] at hk'
      cases (SlotMap.get?_clear ..).symm.trans hk'

end Calls

end Client

end EdgeStreams
