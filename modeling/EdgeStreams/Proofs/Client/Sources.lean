import EdgeStreams.Proofs.Client.Locks
import EdgeStreams.Proofs.Host.Handles
import EdgeStreams.Proofs.Session.Untouched

/-!
# Sources and handles, whatever clients do

In every state that clients of a host in memory can reach, a source that nobody has read is as it
was made, and the next handle of the host has never been given out.

## Main definitions

- `Client.Ascends`: no number has run over
- `Client.RunsTo`: operations on streams and on a host in memory, one after the other

## Main statements

- `Client.LeadsTo.pristine`: over any host, a source that nobody has read is as it was made
- `Client.RunsTo.pristine`, `Client.RunsTo.numbered`: what holds in every state that can be reached

## Design notes

The names of streams and the handles of the host are numbers of 32 bits. Both come back once their
counters have run over, and then nothing of the kind holds.
-/

namespace EdgeStreams

variable {H E : Type}

/-! ### The host -/

theorem BodyCall.quiet {handle : BodyHandle} {host host' : MemoryHost}
    (h : BodyCall handle host host') : host.Quiet host' := by
  cases h with
  | read limit => exact host.quiet_bodyRead handle limit
  | write chunk => exact host.quiet_bodyWrite handle chunk
  | close => exact host.quiet_bodyClose handle
  | abandon => exact host.quiet_bodyAbandon handle

namespace Session

variable {s t : Session MemoryHost E} {f : Footprint}

/-- Work on streams makes no host body. -/
theorem ChangesWithin.quiet (h : ChangesWithin f s t) : s.host.Quiet t.host := by
  induction h with
  | refl => exact .refl _
  | setSource _ _ _ _ _ ih | setSink _ _ _ _ ih | setBridge _ _ _ _ ih | env _ _ ih
  | note _ _ _ ih => exact ih
  | call _ _ hcall ih => exact ih.trans hcall.quiet

theorem MovesTo.quiet (h : MovesTo s t) : s.host.Quiet t.host := by
  induction h with
  | refl => exact .refl _
  | touch _ ht ih => exact ih.trans ht.quiet
  | note _ _ ih | drive _ _ _ ih | finish _ _ _ ih => exact ih

/-- Starting a guest asks nothing of the host. -/
theorem host_scriptSource (s : Session MemoryHost E) (guest : UnderlyingSource E)
    (highWaterMark : UInt64) :
    ((scriptSource guest highWaterMark : Step MemoryHost E ReadableId) s).2.host = s.host := by
  change (StateT.run (scriptSource guest highWaterMark : Step MemoryHost E ReadableId) s).2.host = _
  simp only [scriptSource, StateT.run_bind, StateT.run_get, pure_bind]
  obtain ⟨⟨result, env⟩, desk⟩ :=
    (guest.start s.env).run SourceDesk.perform { controller := { highWaterMark } }
  cases result <;> rfl

theorem quiet_createTransform (s : Session MemoryHost E) (transformer : Transformer E) :
    s.host.Quiet ((createTransform transformer : Step MemoryHost E TransformStream) s).2.host := by
  obtain ⟨f, result, started, hstarted, hrun⟩ := createTransform_run transformer s
  rw [hrun]
  exact hstarted.quiet

theorem quiet_pipeTo {fuel : Nat} {source : ReadableId} {destination : WritableId}
    {options : PipeOptions} {r : Except StreamError PipeId × Session MemoryHost E}
    (h : attempt (pipeTo fuel source destination options) s = some r) :
    s.host.Quiet r.2.host := (movesTo_pipeTo h).quiet

end Session

namespace StreamOp

/-- An operation on streams reads no source without marking it as disturbed. -/
theorem pristine [Host H] {s t : Session H E} (hp : s.streams.Pristine) (wf : s.streams.WellFormed)
    {op : StreamOp E} {fuel : Nat} (h : op.after fuel s = some t)
    (hages : s.streams.sources.Ages t.streams.sources) : t.streams.Pristine := by
  have hreadable : ∀ {streams : Registry E} (id : ReadableId), streams.Pristine →
      (streams.releaseReadable id).Pristine := fun id hp =>
    hp.modifySource id fun _ => ⟨rfl, rfl, rfl, rfl, rfl, rfl, fun h => h⟩
  cases effect_of_after h with
  | bodySource handle => exact Session.pristine_bodySource hp wf handle
  | scriptSource guest highWaterMark =>
    exact Session.pristine_scriptSource hp wf guest highWaterMark
  | bodySink | scriptSink => exact hp.of_eq rfl rfl rfl
  | createTransform transformer => exact Session.pristine_createTransform hp wf transformer
  | setReadableOwner id owner =>
    exact hp.modifySource id fun _ => ⟨rfl, rfl, rfl, rfl, rfl, rfl, fun h => h⟩
  | setWritableOwner id owner => exact hp.modifySink id _
  | releaseReadable id => exact hreadable id hp
  | releaseWritable id => exact hp.modifySink id _
  | releaseTransform stream => exact (hreadable stream.readable hp).modifySink stream.writable _
  | movesTo hmoves => exact hmoves.pristine hp
  | pipeTo hpipe => exact Session.pristine_pipeTo hp hpipe
  | sweep => exact hp.sweep hages
  | clear => exact hp.clear

/-- An operation on streams makes no host body. -/
theorem quiet {s t : Session MemoryHost E} {op : StreamOp E} {fuel : Nat}
    (h : op.after fuel s = some t) : s.host.Quiet t.host := by
  cases effect_of_after h with
  | bodySource | bodySink | scriptSink | setReadableOwner | setWritableOwner | releaseReadable
  | releaseWritable | releaseTransform | sweep | clear => exact .refl _
  | scriptSource guest highWaterMark =>
    rw [Session.host_scriptSource]
    exact .refl _
  | createTransform transformer => exact Session.quiet_createTransform s transformer
  | movesTo hmoves => exact hmoves.quiet
  | pipeTo hpipe => exact Session.quiet_pipeTo hpipe

end StreamOp

namespace Client

/-- No number has run over between two moments. -/
structure Ascends (client later : Client MemoryHost E) : Prop where
  sources : client.session.streams.sources.Ages later.session.streams.sources
  handles : client.session.host.nextHandle ≤ later.session.host.nextHandle

/-- Operations on streams and on a host in memory, one after the other. -/
abbrev RunsTo (client later : Client MemoryHost E) : Prop :=
  LeadsTo (fun host handles host' => host.Acts handles host') Ascends client later

section Pristine

variable [Host H] {uses : H → List UInt32 → H → Prop}
variable {allowed : Client H E → Client H E → Prop} {client later : Client H E}

/-- One operation reads no source without marking it as disturbed. -/
theorem Step.pristine (h : Step uses client later)
    (hp : client.session.streams.Pristine) (wf : client.session.streams.WellFormed)
    (hages : client.session.streams.sources.Ages later.session.streams.sources) :
    later.session.streams.Pristine := by
  cases h with
  | operate op fuel hop => exact StreamOp.pristine hp wf hop hages
  | @getReader id token streams hget =>
    obtain ⟨rfl, source, hs, hl⟩ := Registry.of_exec_getReader hget
    rw [Registry.exec_getReader _ hs hl] at hget
    obtain ⟨-, rfl⟩ := Prod.mk.inj hget
    have hnumbered : ({ client.session.streams with
        nextToken := client.session.streams.nextToken + 1 } : Registry E).Pristine :=
      hp.of_eq rfl rfl rfl
    exact hnumbered.alike hs ⟨rfl, rfl, rfl, rfl, rfl, rfl, fun h => h⟩
  | @getWriter id token streams hget =>
    obtain ⟨rfl, sink, hs, hl⟩ := Registry.of_exec_getWriter hget
    rw [Registry.exec_getWriter _ hs hl] at hget
    obtain ⟨-, rfl⟩ := Prod.mk.inj hget
    exact hp.of_eq rfl rfl rfl
  | releaseReader id => exact hp.releaseReader id _
  | releaseWriter id => exact hp.releaseWriter id _
  | callHost | visitGuest | nextOwner => exact hp

/-- By induction on the operations. -/
theorem LeadsTo.pristine (h : LeadsTo uses allowed client later)
    (hages : ∀ {before after}, allowed before after →
      before.session.streams.sources.Ages after.session.streams.sources)
    (hp : client.session.streams.Pristine) {spent : Set Nat}
    (ho : client.session.streams.Orderly client.held spent) : later.session.streams.Pristine := by
  induction h with
  | refl => exact hp
  | step hbefore hstep hallowed ih =>
    exact hstep.pristine ih (hbefore.orderly ho).wellFormed (hages hallowed)

end Pristine

variable {client later : Client MemoryHost E}

/-- One operation leaves the numbers in use below the next one. -/
theorem Step.numbered (h : Step (fun host handles host' => host.Acts handles host') client later)
    (hn : client.session.host.Numbered client.handles)
    (hroom : client.session.host.nextHandle ≤ later.session.host.nextHandle) :
    later.session.host.Numbered later.handles := by
  cases h with
  | operate op fuel hop => exact hn.quiet (StreamOp.quiet hop)
  | callHost hacts => exact hn.acts hacts hroom
  | getReader | getWriter | releaseReader | releaseWriter | visitGuest | nextOwner => exact hn

/-- By induction on the operations. -/
theorem RunsTo.numbered (h : client.RunsTo later)
    (hn : client.session.host.Numbered client.handles) :
    later.session.host.Numbered later.handles := by
  induction h with
  | refl => exact hn
  | step _ hstep hascends ih => exact hstep.numbered ih hascends.handles

theorem RunsTo.pristine (h : client.RunsTo later) (hp : client.session.streams.Pristine)
    {spent : Set Nat} (ho : client.session.streams.Orderly client.held spent) :
    later.session.streams.Pristine := LeadsTo.pristine h Ascends.sources hp ho

/-- What holds in every state that can be reached over a new host. -/
structure InTime (client : Client MemoryHost E) : Prop where
  wellFormed : client.session.streams.WellFormed
  pristine : client.session.streams.Pristine
  numbered : client.session.host.Numbered client.handles

theorem RunsTo.inTime {size : UInt64} {env : E} {config : StreamConfig}
    (h : (new (.withChunkSize size) env config).RunsTo client) : client.InTime where
  wellFormed := (h.orderly (orderly_new _ env config)).wellFormed
  pristine := h.pristine (Registry.pristine_new config) (orderly_new _ env config)
  numbered := h.numbered (.withChunkSize size)

end Client

end EdgeStreams
