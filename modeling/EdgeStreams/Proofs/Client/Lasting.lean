import EdgeStreams.Proofs.Client.Exclusion
import EdgeStreams.Proofs.Registry.Growing

/-!
# Names that last, whatever clients do

Every call leaves a registry in which the names that have been given out find what they found
before, or nothing. Only sweeping and clearing take entries out; all other calls let the registry
grow.

## Main statements

- `StreamOp.growsTo`, `Client.Call.growsTo`: operations and calls that take out no entry
- `Client.Calls.lasts`: names that have been given out, after any calls
- `Client.Calls.references`: what entries refer to, after any calls
-/

namespace EdgeStreams

variable {H E : Type}

namespace Session

variable [Host H] {s t : Session H E} {f : Footprint}

theorem ChangesWithin.growsTo (h : ChangesWithin f s t) : s.streams.GrowsTo t.streams := by
  induction h with
  | refl => exact .refl
  | setSource _ _ hs hkeeps _ ih => exact ih.setSource hs hkeeps.backing
  | setSink _ _ hk hkeeps ih => exact ih.setSink hk hkeeps.backing
  | setBridge _ _ hb hkeeps ih =>
    refine ih.setBridge hb ?_
    rw [Bridge.made, hkeeps.readable, hkeeps.writable, hkeeps.transformer]
    rfl
  | env _ _ ih | note _ _ _ ih | call _ _ _ ih => exact ih

/-- By induction on the moves. -/
theorem MovesTo.growsTo (h : MovesTo s t) : s.streams.GrowsTo t.streams := by
  induction h with
  | refl => exact .refl
  | touch _ ht ih => exact ih.trans ht.growsTo
  | note _ _ ih => exact ih
  | drive pumping _ hp ih => exact ih.setPipe hp rfl
  | finish id _ _ ih => exact ih.trans (.finishPipe id _)

theorem growsTo_pipeTo {fuel : Nat} {source : ReadableId} {destination : WritableId}
    {options : PipeOptions} {r : Except StreamError PipeId × Session H E}
    (h : attempt (pipeTo fuel source destination options) s = some r) :
    s.streams.GrowsTo r.2.streams :=
  Registry.GrowsTo.trans (.openPipe source destination options) (movesTo_pipeTo h).growsTo

theorem growsTo_createTransform (transformer : Transformer E) (s : Session H E) :
    s.streams.GrowsTo ((createTransform transformer : Step H E TransformStream) s).2.streams := by
  obtain ⟨f, result, started, hstarted, hrun⟩ := createTransform_run transformer s
  have hmade := (Registry.GrowsTo.refl.enterTransform transformer).trans hstarted.growsTo
  rw [hrun]
  refine hmade.trans ?_
  cases result with
  | ok => exact .settleStart _ _
  | error error => exact .trans (.settleStart _ _) (.modifySink _ fun _ => rfl)

end Session

/-- An operation that takes out no entry. -/
theorem StreamOp.growsTo [Host H] {s t : Session H E} {op : StreamOp E} {fuel : Nat}
    (h : op.after fuel s = some t) (hr : op.Retains) : s.streams.GrowsTo t.streams := by
  cases effect_of_after h with
  | bodySource handle => exact .addSource .refl (by rintro name ⟨⟩)
  | scriptSource guest highWaterMark =>
    rw [Session.streams_scriptSource]
    exact .addSource .refl (by rintro name ⟨⟩)
  | bodySink handle => exact .addSink .refl (by rintro name ⟨⟩)
  | scriptSink guest => exact .addSink .refl (by rintro name ⟨⟩)
  | createTransform transformer => exact Session.growsTo_createTransform transformer s
  | setReadableOwner id owner => exact .modifySource id fun _ => rfl
  | setWritableOwner id owner => exact .modifySink id fun _ => rfl
  | releaseReadable id => exact .releaseReadable id
  | releaseWritable id => exact .releaseWritable id
  | releaseTransform stream =>
    exact .trans (.releaseReadable stream.readable) (.releaseWritable stream.writable)
  | movesTo hmoves => exact hmoves.growsTo
  | pipeTo hpipe => exact Session.growsTo_pipeTo hpipe
  | sweep | clear => exact hr.elim

instance [Host H] : Retentive fun s t : Session H E => s.streams.GrowsTo t.streams where
  refl _ := .refl
  trans := .trans
  operate _ _ _ _ h hr := StreamOp.growsTo h hr
  elsewhere _ _ _ _ := .refl
  underLock {s t id token streams} hget h := by
    have hlocked : s.streams.GrowsTo (exec (Registry.getReader id) s.streams).2 := .getReader id
    rw [hget] at hlocked
    exact (hlocked.trans h).trans (.releaseReader id token)

namespace Client

variable [Host H] {uses : H → List UInt32 → H → Prop} {client later : Client H E}

/-- No generation of a slot has gone back between two states, which it would do only where it runs
over: where an entry has been taken out of the slot for the 2^32nd time. -/
def NoneBack (before after : Client H E) : Prop := before.session.streams.Ages after.session.streams

instance (before after : Client H E) : Decidable (before.NoneBack after) :=
  inferInstanceAs (Decidable (before.session.streams.Ages after.session.streams))

/-- A call takes entries out by sweeping or clearing, or not at all. -/
theorem Call.growsTo (h : Call uses client later) :
    client.session.streams.GrowsTo later.session.streams ∨
      later.session.streams = client.session.streams.sweep.2 ∨
        later.session.streams = client.session.streams.clear := by
  cases h with
  | action hpublic =>
    exact .inl (hpublic.leads (R := fun s t => s.streams.GrowsTo t.streams) client.session)
  | run hpublic hrun =>
    exact .inl (hpublic.leads (R := fun s t => s.streams.GrowsTo t.streams) client.session _ hrun)
  | step hstep =>
    cases hstep with
    | operate op fuel hop =>
      by_cases hr : op.Retains
      · exact .inl (StreamOp.growsTo hop hr)
      · cases op with
        | sweep =>
          cases hop
          exact .inr (.inl rfl)
        | clear =>
          cases hop
          exact .inr (.inr rfl)
        | _ => exact absurd trivial hr
    | @getReader id token streams hget =>
      have hgrows : client.session.streams.GrowsTo
          (exec (Registry.getReader id) client.session.streams).2 := .getReader id
      rw [hget] at hgrows
      exact .inl hgrows
    | @getWriter id token streams hget =>
      have hgrows : client.session.streams.GrowsTo
          (exec (Registry.getWriter id) client.session.streams).2 := .getWriter id
      rw [hget] at hgrows
      exact .inl hgrows
    | releaseReader id => exact .inl (.releaseReader id _)
    | releaseWriter id => exact .inl (.releaseWriter id _)
    | callHost | visitGuest | nextOwner => exact .inl .refl

theorem Call.lasts (h : Call uses client later) (wf : client.session.streams.WellFormed)
    (hages : client.NoneBack later) :
    client.session.streams.Lasts later.session.streams := by
  rcases h.growsTo with hgrows | he | he
  · exact hgrows.lasts wf
  · rw [NoneBack, he] at hages
    exact he ▸ .sweep hages
  · rw [NoneBack, he] at hages
    exact he ▸ .clear hages

theorem Call.references (h : Call uses client later) (wf : client.session.streams.WellFormed)
    (hages : client.NoneBack later) (hr : client.session.streams.References) :
    later.session.streams.References := by
  rcases h.growsTo with hgrows | he | he
  · exact hgrows.references wf hr
  · rw [NoneBack, he] at hages
    exact he ▸ hr.sweep hages
  · rw [NoneBack, he] at hages
    exact he ▸ hr.clear hages

namespace Calls

/-- By induction on the calls. -/
theorem lasts (h : Calls uses NoneBack client later) (hs : client.Sound) :
    client.session.streams.Lasts later.session.streams := by
  induction h with
  | refl => exact .refl _
  | call hbefore hcall hages ih =>
    exact ih.trans (hcall.lasts (hbefore.sound hs).orderly.wellFormed hages)

/-- By induction on the calls. -/
theorem references (h : Calls uses NoneBack client later) (hs : client.Sound)
    (hr : client.session.streams.References) : later.session.streams.References := by
  induction h with
  | refl => exact hr
  | call hbefore hcall hages ih =>
    exact hcall.references (hbefore.sound hs).orderly.wellFormed hages ih

theorem trans {allowed : Client H E → Client H E → Prop} {between : Client H E}
    (h : Calls uses allowed client between) (h' : Calls uses allowed between later) :
    Calls uses allowed client later := by
  induction h' with
  | refl => exact h
  | call _ hcall hallowed ih => exact ih.call hcall hallowed

/-- Calls are operations on streams, and whatever goes on elsewhere. -/
theorem leads {allowed : Client H E → Client H E → Prop} (h : Calls uses allowed client later) :
    client.session.LeadsTo later.session := by
  induction h with
  | refl => exact .refl
  | call _ hcall _ ih =>
    refine ih.trans ?_
    cases hcall with
    | step hstep => exact Session.LeadsTo.operationStep hstep.operationStep
    | action hpublic => exact hpublic.leads (R := Session.LeadsTo) _
    | run hpublic hrun => exact hpublic.leads (R := Session.LeadsTo) _ _ hrun

end Calls

end Client

end EdgeStreams
