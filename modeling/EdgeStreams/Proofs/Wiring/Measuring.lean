import EdgeStreams.Proofs.Body.Steps
import EdgeStreams.Proofs.Breaking.Faring
import EdgeStreams.Proofs.Wiring.Basic

/-!
# How far bodies are read

A read asks for octets up to a place, and the program ends where no word can name it. So it does
only where a body is overfull: it holds so many octets that a read from its end goes too far.

## Main definitions

- `MemoryHost.GrowsTo`: what calls leave of the bodies of a host
- `Session.Overfull`: a read from the end of a body goes too far
- `Session.Measured`: only overfull bodies have been read too far

## Main statements

- `BodyCall.growsTo`, `MemoryHost.overrun_bodyRead`: what a call does to the bodies, and where it
  goes too far
- `Session.AdvancesTo.measured`, `Session.FlowsTo.measured`: one deed, and one after another

## Design notes

How far a read goes is up to the stream over the body as much as to the host. The stream stays as
long as deeds are done, and the body loses nothing, so a body that is overfull stays so.
-/

namespace EdgeStreams

variable {E : Type}

/-! ### What becomes of the bodies -/

/-- A body loses nothing, and is not read past its end. -/
structure MemoryBody.GrowsTo (body body' : MemoryBody) : Prop where
  size : body.contents.size ≤ body'.contents.size
  placed : body.position ≤ body.contents.size → body'.position ≤ body'.contents.size

namespace MemoryBody.GrowsTo

variable (body : MemoryBody)

theorem refl : body.GrowsTo body := ⟨le_rfl, id⟩

theorem advance (limit : ℕ) : body.GrowsTo (body.advance limit) :=
    ⟨le_rfl, fun _ => Nat.min_le_right _ _⟩

theorem append (chunk : Bytes) : body.GrowsTo (body.append chunk) := by
  have hsize : body.contents.size ≤ (body.append chunk).contents.size := by
    rw [← Array.length_toList, ← Array.length_toList, MemoryBody.contents_append,
      List.length_append]
    exact Nat.le_add_right _ _
  exact ⟨hsize, fun hplaced => hplaced.trans hsize⟩

theorem inState (state : BodyState) : body.GrowsTo { body with state } := ⟨le_rfl, id⟩

end MemoryBody.GrowsTo

/-- The bodies stay, and grow if they change. -/
structure MemoryHost.GrowsTo (host host' : MemoryHost) : Prop where
  chunkSize : host'.chunkSize = host.chunkSize
  bodies : ∀ raw, Option.Rel MemoryBody.GrowsTo (host.bodies.find? raw) (host'.bodies.find? raw)

namespace MemoryHost

variable {host host' : MemoryHost} {handle : BodyHandle} {operation : HostOperation}

theorem GrowsTo.of_bodies (hchunk : host'.chunkSize = host.chunkSize)
    (hbodies : host'.bodies = host.bodies) :
    host.GrowsTo host' :=
  ⟨hchunk, fun _ => hbodies ▸ SlotMap.rel_refl MemoryBody.GrowsTo.refl _⟩

theorem GrowsTo.putBody {body body' : MemoryBody} (hb : host.bodies.find? handle.raw = some body)
    (hg : body.GrowsTo body') (hchunk : host'.chunkSize = host.chunkSize)
    (hbodies : host'.bodies = (host.putBody handle body').bodies) : host.GrowsTo host' := by
  refine ⟨hchunk, fun raw => ?_⟩
  rw [hbodies, find?_putBody]
  split
  · next he => exact he ▸ hb ▸ .some hg
  · exact SlotMap.rel_refl MemoryBody.GrowsTo.refl _

end MemoryHost

/-- Whatever is asked of a host body, all bodies stay. -/
theorem BodyCall.growsTo {handle : BodyHandle} {host host' : MemoryHost}
    (h : BodyCall handle host host') : host.GrowsTo host' := by
  cases h with
  | read limit =>
    rw [MemoryHost.exec_bodyRead]
    repeat' split
    case h_2.isFalse => exact .putBody ‹_› (.advance _ _) rfl rfl
    all_goals exact .of_bodies rfl rfl
  | write chunk =>
    rw [MemoryHost.exec_bodyWrite]
    repeat' split
    case h_2.isTrue => exact .putBody ‹_› (.append _ _) rfl rfl
    all_goals exact .of_bodies rfl rfl
  | close =>
    rw [MemoryHost.exec_bodyClose]
    repeat' split
    case h_2.isTrue => exact .putBody ‹_› (.inState _ _) rfl rfl
    all_goals exact .of_bodies rfl rfl
  | abandon =>
    rw [MemoryHost.exec_bodyAbandon]
    repeat' split
    case h_2.isFalse => exact .putBody ‹_› (.inState _ _) rfl rfl
    all_goals exact .of_bodies rfl rfl

namespace MemoryHost

variable {host : MemoryHost} {handle other : BodyHandle} {size : UInt64}

/-- A read goes too far from no other place than one close to the last that a word can name. -/
theorem overrun_bodyRead (h : (exec (Host.bodyRead handle size) host).2.overrun = some other) :
    host.overrun = some other ∨ other = handle ∧ ∃ body, host.bodies.find? handle.raw = some body ∧
      UInt64.size ≤ body.position + host.readLimit size := by
  rw [exec_bodyRead] at h
  repeat' split at h
  case h_2.isFalse body hbody _ =>
    unfold reaching at h
    split at h
    · next hfar =>
      cases hover : host.overrun with
      | some first => exact .inl (by simpa [hover] using h)
      | none => exact .inr ⟨by simpa [hover] using h.symm, body, hbody, hfar⟩
    · exact .inl h
  all_goals exact .inl h

end MemoryHost

section Performs

variable {s t : Session MemoryHost E}

/-- What is asked of a sink reads no body. -/
theorem Sink.Performs.overrun {sink : Sink E} {call : SinkCall} (h : sink.Performs s t call) :
    t.host.overrun = s.host.overrun := by
  cases h with
  | bodyWrite _ _ hcall =>
    exact (congrArg (·.2.overrun) hcall).symm.trans (MemoryHost.overrun_bodyWrite _ _ _)
  | bodyClose _ _ hcall =>
    exact (congrArg (·.2.overrun) hcall).symm.trans (MemoryHost.overrun_bodyClose _ _)
  | bodyAbandon _ _ hcall =>
    exact (congrArg (·.2.overrun) hcall).symm.trans (MemoryHost.overrun_bodyAbandon _ _)
  | guestWrite _ hhost | guestClose _ hhost | guestAbort _ hhost | transform _ hhost | flush _ hhost
  | drop _ hhost => rw [hhost]

/-- What is asked of a source reads its own body, so many octets at a time. -/
theorem Source.Performs.overrun {source source' : Source E} {demands : List Demand}
    {handle other : BodyHandle} {size : UInt64} (h : source.Performs s t source' demands)
    (hback : source.backing = .body handle size) (hd : demands ≠ [])
    (hover : t.host.overrun = some other) :
    s.host.overrun = some other ∨ other = handle ∧
    ∃ body, s.host.bodies.find? handle.raw = some body ∧
      UInt64.size ≤ body.position + s.host.readLimit size := by
  cases h with
  | nothing => exact absurd rfl hd
  | read hother _ hcall =>
    cases hback.symm.trans hother
    exact MemoryHost.overrun_bodyRead ((congrArg (·.2.overrun) hcall).trans hover)
  | abandon hother _ hcall =>
    exact .inl ((MemoryHost.overrun_bodyAbandon _ _).symm.trans
      ((congrArg (·.2.overrun) hcall).trans hover))
  | pull hother | cancel hother => cases hback.symm.trans hother
  | relay ht =>
    obtain ⟨name, hname⟩ := ht
    cases hback.symm.trans hname

end Performs

/-! ### What has been read too far -/

namespace Session

variable {s t : Session MemoryHost E}

/-- There is a stream over the body that reads so many octets at a time that a read from its end
asks for one past the last place that a word can name. -/
def Overfull (handle : BodyHandle) (s : Session MemoryHost E) : Prop :=
  ∃ id source size body, s.streams.source? id = some source ∧ source.backing = .body handle size ∧
    s.host.bodies.find? handle.raw = some body ∧
    UInt64.size ≤ body.contents.size + s.host.readLimit size

/-- No body has been read past its end, and only an overfull one has been read too far. -/
structure Measured (s : Session MemoryHost E) : Prop where
  placed : ∀ raw body, s.host.bodies.find? raw = some body → body.position ≤ body.contents.size
  overfull : ∀ handle, s.host.overrun = some handle → s.Overfull handle

/-- Where bodies grow and streams stay over them, an overfull body stays overfull. -/
theorem Overfull.growsTo {handle : BodyHandle} (h : s.Overfull handle)
    (hgrows : s.host.GrowsTo t.host) (hback : ∀ {id source}, s.streams.source? id = some source →
      ∃ source', t.streams.source? id = some source' ∧ source'.backing = source.backing) :
    t.Overfull handle := by
  obtain ⟨id, source, size, body, hs, hsource, hbody, hfull⟩ := h
  obtain ⟨source', hs', hsame⟩ := hback hs
  obtain ⟨body', hbody', hmore⟩ := SlotMap.rel_some_left (hbody ▸ hgrows.bodies handle.raw)
  refine ⟨id, source', size, body', hs', hsame.trans hsource, hbody', hfull.trans ?_⟩
  rw [MemoryHost.readLimit_congr s.host hgrows.chunkSize]
  exact Nat.add_le_add_right hmore.size _

/-- The streams are over the same bodies as before, and the host has not been called. -/
theorem Measured.of_backing (h : s.Measured) (hhost : t.host = s.host)
    (hback : ∀ {id source}, s.streams.source? id = some source →
      ∃ source', t.streams.source? id = some source' ∧ source'.backing = source.backing) :
      t.Measured where
  placed := hhost ▸ h.placed
  overfull handle hover :=
    (h.overfull handle (hhost ▸ hover)).growsTo (.of_bodies (by rw [hhost]) (by rw [hhost])) hback

theorem Measured.keepsWiring (h : s.Measured) (hhost : t.host = s.host)
    (hw : s.streams.KeepsWiring t.streams) : t.Measured :=
  h.of_backing hhost fun hs => SlotMap.rel_some_left (hs ▸ hw.source _)

theorem Measured.openPipe (h : s.Measured) (source : ReadableId) (destination : WritableId)
    (options : PipeOptions) :
    Measured { s with streams := (exec (Registry.openPipe source destination options)
      s.streams).2 } := by
  rcases Registry.exec_openPipe_cases s.streams source destination options with
    ⟨entry, sink, hs, -, -, -, hopen⟩ | ⟨error, streams, hopen, hgives⟩
  · rw [hopen]
    refine h.of_backing rfl fun {id found} hfound => ?_
    rw [Registry.source?_withPipe destination sink options hs]
    split
    · next he =>
      subst he
      cases hs.symm.trans hfound
      exact ⟨_, rfl, rfl⟩
    · exact ⟨found, hfound, rfl⟩
  · rw [hopen]
    cases hgives with
    | refused => exact h
    | unlocked hs hl =>
      exact h.keepsWiring rfl ((Registry.KeepsWiring.readerLocked hs).trans (.releaseReader _ _ _))

/-- Whatever is asked of a body leaves only overfull ones read too far. -/
theorem AdvancesTo.measured {made : List (WritableId × Bytes)} (ha : s.AdvancesTo made t)
    (h : s.Measured) : t.Measured := by
  have hgrows : s.host.GrowsTo t.host := by
    rcases ha.bodyCall with hsame | ⟨handle, hcall, -⟩
    · exact .of_bodies (by rw [hsame]) (by rw [hsame])
    · exact hcall.growsTo
  have hback : ∀ {id source}, s.streams.source? id = some source →
      ∃ source', t.streams.source? id = some source' ∧ source'.backing = source.backing := by
    intro id source hs
    obtain ⟨source', demands, hs', -, hp, -⟩ := ha.source hs
    exact ⟨source', hs', hp.backing⟩
  refine ⟨fun raw body' hbody' => ?_, fun other hover => ?_⟩
  · obtain ⟨body, hbody, hmore⟩ := SlotMap.rel_some_right (hbody' ▸ hgrows.bodies raw)
    exact hmore.placed (h.placed raw body hbody)
  · suffices hbefore : s.host.overrun = some other ∨ s.Overfull other from
      (hbefore.elim (h.overfull other) id).growsTo hgrows hback
    rcases ha.host with hsame | ⟨id, source, handle, size, hs, hsource, hasked⟩ |
      ⟨id, sink, handle, hk, -, hasked⟩
    · exact .inl (hsame ▸ hover)
    · obtain ⟨source', demands, -, hdemands, -, hperforms⟩ := ha.source hs
      have hsome : demands ≠ [] := by
        rintro rfl
        exact hasked hdemands
      refine (hperforms.overrun hsource hsome hover).imp_right ?_
      rintro ⟨rfl, body, hbody, hfar⟩
      have hplaced := h.placed _ body hbody
      exact ⟨id, source, size, body, hs, hsource, hbody, by omega⟩
    · obtain ⟨sink', calls, -, hcalls, -, -, hperforms⟩ := ha.sink hk
      cases calls with
      | nil => exact absurd hcalls hasked
      | cons call calls => exact .inl ((hperforms call List.mem_cons_self).overrun ▸ hover)

/-- By induction on the deeds. -/
theorem Course.measured {made : List (WritableId × Bytes)} (hcourse : Course s made t)
    (hc : s.streams.Composed) (h : s.Measured) : t.Measured := by
  induction hcourse with
  | refl => exact h
  | step hbefore hdeed ih => exact (hdeed.advancesTo (hbefore.composed hc)).measured ih

theorem FlowsTo.measured (hf : s.FlowsTo t) (hc : s.streams.Composed) (h : s.Measured) :
    t.Measured := by
  obtain ⟨made, hcourse⟩ := hf.course
  exact hcourse.measured hc h

/-! ### Operations -/

/-- A body is given a stream without a call on the host, and all other streams stay. -/
theorem measured_stream (hm : s.Measured) (wf : s.streams.WellFormed) (body : Body) :
    (exec (body.stream : Action MemoryHost E BodyError _) s).2.Measured := by
  obtain ⟨owner, handle, readable, released, used⟩ := body
  cases released with
  | true => exact hm
  | false =>
    cases readable with
    | some id =>
      simp only [Body.stream, exec_bind, exec_get, Bool.false_eq_true, if_false]
      split <;> exact hm
    | none =>
      cases handle with
      | none => exact hm
      | some handle =>
        rw [Body.exec_stream_new wf rfl rfl rfl]
        refine hm.of_backing rfl fun {id source} hs => ?_
        have hnew : s.streams.source? (s.streams.bodySource handle).1 = none :=
          Registry.source?_addSource_fst wf _
        have hold : id ≠ (s.streams.bodySource handle).1 := by
          rintro rfl
          cases hnew.symm.trans hs
        exact ⟨source, ((Body.source?_opened wf _ handle id).trans (if_neg hold)).trans hs, rfl⟩

theorem measured_pipeTo (hr : s.Resting) (hm : s.Measured) {source : ReadableId}
    {destination : WritableId} {options : PipeOptions}
    {r : Except StreamError PipeId × Session MemoryHost E}
    (h : attempt (pipeTo fuel source destination options) s = some r) : r.2.Measured := by
  have hresting := hr.openPipe source destination options
  have hmeasured := hm.openPipe source destination options
  rw [attempt_pipeTo] at h
  generalize exec (Registry.openPipe source destination options) s.streams =
    opened at h hresting hmeasured
  obtain ⟨result, streams⟩ := opened
  cases result with
  | error error =>
    cases h
    exact hmeasured
  | ok id =>
    obtain ⟨driven, hdriven, rfl⟩ := Option.map_eq_some_iff.mp h
    exact (flowsTo_pumpPipe hresting.composed hdriven).measured hresting.composed hmeasured

end Session

end EdgeStreams
