import EdgeStreams.Proofs.Body.Chain
import EdgeStreams.Proofs.Body.OneShot
import EdgeStreams.Proofs.Client.Public

/-!
# What a body gives does not depend on how it comes

A body can be piped through any number of transform streams that pass every chunk on, and pipes can
be driven and streams swept in between. Drained in the end, it still gives the octets of its host
body, cut into whatever chunks they come in, decoded as if they had been read at once.

A body that somebody has read from is not drained. But it can be piped through a transform stream,
and nobody has read from the stream that it has then: so it is drained of what the others have left.

## Main definitions

- `BodyOp`: what may be done to a body before it is drained
- `Body.drainAfter`: all of that, and then the drain
- `Body.Whole`: a body from which nobody has read
- `Body.Remains`: a body that has something left, whoever has read from it

## Main statements

- `Well.OffersOctets.readAll`: a stream is read to its end
- `Body.Whole.runAll`: a body stays whole
- `Body.drainAfter_decodes`: the drain returns what the octets decode to
- `Body.Remains.reexposed`: a body that somebody has read from, before and after it is piped through
  a transform stream
-/

namespace EdgeStreams

/-! ### What is done to a body -/

/-- What may be done to a body before it is drained. -/
inductive BodyOp where
  | pipeThroughIdentity
  | pump
  | sweep
deriving DecidableEq, Repr

section RunsTo

variable {H E : Type} [Host H]

/-- One operation. The answer is the body that is left. -/
def BodyOp.run (fuel : Nat) (body : Body) : BodyOp → Run H E (Except BodyError Body)
  | .pipeThroughIdentity => do
    let (piped, body) ← body.pipeThroughIdentity fuel
    return piped.map fun _ => body
  | .pump => do
    let _ ← Session.pump fuel
    return .ok body
  | .sweep => do
    let _ ← modifyGet Session.sweep
    return .ok body

/-- One operation after the other, until one fails. -/
def BodyOp.runAll (fuel : Nat) (body : Body) : List BodyOp → Run H E (Except BodyError Body)
  | [] => return .ok body
  | op :: ops => do
    match ← op.run fuel body with
    | .error error => return .error error
    | .ok body => runAll fuel body ops

/-- One operation after the other, and then the drain. -/
def Body.drainAfter (decoders : Decoders) (fuel : Nat) (ops : List BodyOp) (body : Body)
    (target : TargetType) : Run H E (Except BodyError Representation) := do
  match ← BodyOp.runAll fuel body ops with
  | .error error => return .error error
  | .ok body =>
    let (result, _) ← body.drainWith decoders fuel target
    return result

theorem BodyOp.extends_run (fuel : Nat) (body : Body) (op : BodyOp) :
    Extends (op.run fuel body : Run H E (Except BodyError Body)) (op.run (fuel + 1) body) := by
  cases op with
  | pipeThroughIdentity => exact .bind (body.extends_pipeThroughIdentity fuel) fun _ => .refl _
  | pump => exact .bind (Session.extends_pump fuel) fun _ => .refl _
  | sweep => exact .refl _

theorem BodyOp.extends_runAll (fuel : Nat) (body : Body) (ops : List BodyOp) :
    Extends (runAll fuel body ops : Run H E (Except BodyError Body))
      (runAll (fuel + 1) body ops) := by
  induction ops generalizing body with
  | nil => exact .refl _
  | cons op ops ih =>
    refine .bind (op.extends_run fuel body) fun left => ?_
    split
    · exact .refl _
    · exact ih _

/-- More fuel never changes what the drain returns. -/
theorem Body.extends_drainAfter (decoders : Decoders) (fuel : Nat) (ops : List BodyOp) (body : Body)
    (target : TargetType) :
    Extends (body.drainAfter decoders fuel ops target : Run H E (Except BodyError Representation))
      (body.drainAfter decoders (fuel + 1) ops target) := by
  refine .bind (BodyOp.extends_runAll fuel body ops) fun left => ?_
  split
  · exact .refl _
  · exact .bind (extends_drainWith fuel decoders _ target) fun _ => .refl _

end RunsTo

variable {E : Type}

/-! ### Reading a stream to its end -/

namespace Well

variable {well : Well E} {octets : Bytes} {s : Session MemoryHost E}

/-- A stream is read to its end by the one who holds it. By induction on the octets. -/
theorem OffersOctets.readAll {token : ReaderToken} (h : well.OffersOctets (some token) octets s)
    (hc : s.host.Calm) (chunks : List Bytes) :
    ∃ s', Settles (fun fuel => drive (Body.readAll fuel well.id token chunks false) s)
        (.ok (chunks.reverse.flatten ++ octets), s') ∧
      (s.host.overrun = none → s'.host.overrun = none) := by
  induction hlen : octets.length using Nat.strong_induction_on generalizing octets s chunks with
  | _ size ih =>
  subst hlen
  obtain ⟨found, read, ⟨bound, hread⟩, hconfined, hfound⟩ := h.read hc
  obtain ⟨source, hs, hserves, -⟩ := h
  have hread' : Settles (fun fuel => attempt (Session.read fuel well.id (some token)) s)
      (.ok found, read) := by
    refine ⟨bound, fun fuel hfuel => ?_⟩
    simp only [Session.read, attempt_bind, Session.attempt_finite, Session.exec_onStreams,
      Registry.exec_checkReader, Option.bind_some, hs, Registry.need_some,
      Except.bind, hserves.lock, Registry.admits]
    exact hread fuel hfuel
  rcases hfound with ⟨chunk, rest, rfl, hchunk, rfl, hoffers⟩ | ⟨rfl, rfl, -⟩
  · have hshorter : rest.length < (chunk ++ rest).length := by
      have hpos := List.length_pos_of_ne_nil hchunk
      rw [List.length_append]
      omega
    obtain ⟨s', hrest, hkept⟩ := ih _ hshorter hoffers (hconfined.calm hc) (chunk :: chunks) rfl
    refine ⟨s', .later (hread'.both hrest fun fuel hr hrest => ?_),
      fun hintact => hkept (hconfined.intact hintact)⟩
    rw [Body.drive_readAll, hr]
    refine hrest.trans ?_
    simp [List.append_assoc]
  · refine ⟨read, hread'.step fun fuel hr => ?_, hconfined.intact⟩
    rw [Body.drive_readAll, hr, List.append_nil]
    rfl

/-- A new lock on a stream changes nothing else. -/
theorem frame_readerLocked {source : Source E} (hs : s.streams.source? well.id = some source) :
    Frame { readables := {well.id} } s
      { s with streams := s.streams.readerLocked well.id source } where
  source other ho := (Registry.source?_readerLocked hs other).trans (if_neg ho)
  sink _ _ := rfl
  bridge _ _ := rfl
  pipe _ _ _ := Iff.rfl
  body _ _ := rfl
  chunkSize := rfl
  faultless hf := hf
  overrun _ _ ho := ho
  wellFormed hw := hw

/-- A stream that nobody holds is read to its end under a new lock. -/
theorem OffersOctets.underReader (h : well.OffersOctets none octets s) (hc : s.host.Calm) :
    ∃ s', Settles (fun fuel => attempt (Session.withReader well.id fun token =>
        Session.sure (Body.readAll fuel well.id token [] false)) s) (.ok (.ok octets), s') ∧
      (s.host.overrun = none → s'.host.overrun = none) := by
  have hoffers := h
  obtain ⟨source, hs, hserves, -⟩ := h
  let token : ReaderToken := ⟨s.streams.nextToken⟩
  have hlocked : well.OffersOctets (some token) octets
      { s with streams := s.streams.readerLocked well.id source } := by
    refine hoffers.relock (frame_readerLocked hs) own_apart rfl fun other ho _ => ?_
    obtain rfl : source = other := Option.some_inj.mp (hs.symm.trans ho)
    exact ⟨_, (Registry.source?_readerLocked hs _).trans (if_pos rfl), rfl, rfl, rfl,
      rfl, rfl, rfl, rfl⟩
  obtain ⟨read, ⟨bound, hread⟩, hkept⟩ := hlocked.readAll hc []
  refine ⟨Session.mapStreams (Registry.quietly (Registry.releaseReader well.id token)) read,
    ⟨bound, fun fuel hfuel => ?_⟩, hkept⟩
  have hget : exec (Registry.getReader well.id) s.streams =
      (.ok token, s.streams.readerLocked well.id source) :=
    Registry.exec_getReader s.streams hs hserves.lock
  simp only [Session.attempt_withReader, hget, Session.attempt_sure, hread fuel hfuel]
  rfl

end Well

/-! ### Bodies that nobody has read from -/

namespace Body

variable {body : Body} {octets : Bytes} {s : Session MemoryHost E}

/-- Where a body has its octets from: from a stream that nobody has read from, or from its host
body. -/
inductive Supplied (body : Body) (octets : Bytes) (s : Session MemoryHost E) : Prop
  | stream (well : Well E) : body.readable = some well.id → well.Sealed octets s →
      Supplied body octets s
  | handle (handle : BodyHandle) : body.readable = none → body.handle = some handle →
    s.host.HasUnread handle octets → s.host.InReach handle s.streams.config.bodyChunkSize →
      s.host.Calm → s.host.overrun = none → 0 < s.streams.config.bodyChunkSize →
      (∀ id pipe, s.streams.pipe? id = some pipe → ¬ pipe.isRunning) → Supplied body octets s

/-- Nobody has read from the body, and it still has all octets to give. -/
structure Whole (body : Body) (octets : Bytes) (s : Session MemoryHost E) : Prop where
  unused : body.used = false
  unreleased : body.released = false
  supplied : body.Supplied octets s
  resting : s.Resting

/-- The stream of a whole body, made if there is none yet. -/
theorem Whole.stream (h : body.Whole octets s) :
    ∃ (well : Well E) (opened : Session MemoryHost E),
      exec (body.stream : Action MemoryHost E BodyError _) s =
          (.ok (well.id, { body with readable := some well.id }), opened) ∧
        well.Sealed octets opened ∧ well.extent.Lives opened.streams ∧
        opened.streams.WellFormed := by
  cases h.supplied with
  | stream well hreadable hsealed =>
    obtain ⟨pruned, hpruned, hid, hlives⟩ := hsealed.pruned
    obtain ⟨source, hs, -⟩ := hsealed.offersOctets
    refine ⟨pruned, s, ?_, hpruned, hlives, h.resting.wellFormed⟩
    have hsame : { body with readable := some well.id } = body := by rw [← hreadable]
    rw [hid, hsame]
    simp [Body.stream, exec_bind, h.unreleased, hreadable, Registry.containsReadable, hs]
  | handle handle hreadable hhandle hunread hreach hc hintact hsize hidle =>
    obtain ⟨id, source, opened, hstream, hoffers, hconfined, wf, -, hs, hdisturbed, hreleased⟩ :=
      exec_stream_handle hreadable hhandle h.unreleased hunread hreach h.resting.wellFormed hsize
    refine ⟨_, opened, hstream, ⟨.body _ _ _ _ hsize, hoffers, ⟨source, hs, hdisturbed, hreleased⟩,
      fun name pipe hp hr => ?_, hconfined.calm hc, hconfined.intact hintact⟩,
        hoffers.lives rfl, wf⟩
    exact absurd hr (hidle name pipe ((hconfined.pipe name pipe fun hm => hm).mp hp))

/-- A body whose stream is the end of a chain is piped through a new transform stream. Whoever has
read from its stream, nobody has read from the one that it has then. -/
theorem whole_of_pipeThroughIdentity {well : Well E} {opened : Session MemoryHost E}
    (hused : body.used = false) (hreleased : body.released = false) (hresting : s.Resting)
    (hstream : exec (body.stream : Action MemoryHost E BodyError _) s =
      (.ok (well.id, { body with readable := some well.id }), opened))
    (hchain : well.Chain) (hoffers : well.OffersOctets none octets opened)
    (hlives : well.extent.Lives opened.streams) (halone : well.Alone opened)
    (wf : opened.streams.WellFormed) (hc : opened.host.Calm)
    (hintact : opened.host.overrun = none) :
    Returns (fun fuel => drive (body.pipeThroughIdentity fuel) s) fun r =>
      (∃ id, r.1.1 = .ok id) ∧ r.1.2.Whole octets r.2 := by
  obtain ⟨relay, half, s', rfl, hsettles, hserved, hconfined, -, hhalf, hdisturbed, hkept⟩ :=
    drive_pipeThroughIdentity_of_offersOctets hstream hoffers hlives halone wf hc
  have hstill : relay.asWell.Alone opened := fun id pipe hp hr => .inl (.inr (halone id pipe hp hr))
  have hpiped : relay.asWell.Sealed octets s' :=
    ⟨.relay relay hchain, hserved, ⟨half, hhalf, hdisturbed, hkept⟩,
      hstill.of_frame hconfined.toFrame, hconfined.calm hc, hconfined.intact hintact⟩
  have hrests : s'.Resting := by
    obtain ⟨bound, hrun⟩ := hsettles
    have hleads := body.leads_pipeThroughIdentity (R := Session.LeadsTo)
      bound s _ (hrun bound le_rfl)
    exact hleads.resting hresting
  exact ⟨_, hsettles, ⟨_, rfl⟩, hused, hreleased, .stream relay.asWell rfl hpiped, hrests⟩

/-- A whole body is piped through a new transform stream. -/
theorem Whole.pipeThroughIdentity (h : body.Whole octets s) :
    Returns (fun fuel => drive (body.pipeThroughIdentity fuel) s) fun r =>
      (∃ id, r.1.1 = .ok id) ∧ r.1.2.Whole octets r.2 := by
  obtain ⟨well, opened, hstream, hsealed, hlives, wf⟩ := h.stream
  exact whole_of_pipeThroughIdentity h.unused h.unreleased h.resting hstream hsealed.chain
    hsealed.offersOctets hlives hsealed.alone wf hsealed.calm hsealed.intact

/-- All pipes are driven. -/
theorem Whole.pump (h : body.Whole octets s) :
    Returns (fun fuel => drive (Session.pump fuel) s) fun r => body.Whole octets r.2 := by
  have hpump : Returns (fun fuel => drive (Session.pump fuel) s) fun r =>
      body.Supplied octets r.2 := by
    cases h.supplied with
    | stream well hreadable hsealed =>
      exact hsealed.pump.mono fun _ _ _ hsealed => .stream well hreadable hsealed
    | handle handle hreadable hhandle hunread hreach hc hintact hsize hidle =>
      exact .now (0, s) h.supplied fun fuel => Session.drive_pump_idle fuel hidle
  refine hpump.mono fun fuel r hrun hsupplied => ⟨h.unused, h.unreleased, hsupplied, ?_⟩
  have hleads := RunLeads.pump (R := Session.LeadsTo) fuel s r hrun
  exact hleads.resting h.resting

/-- All that nobody holds any more is swept away. -/
theorem Whole.sweep (h : body.Whole octets s) :
    body.Whole octets (s.mapStreams fun streams => streams.sweep.2) := by
  refine ⟨h.unused, h.unreleased, ?_, (Session.LeadsTo.operate .sweep 0 rfl).resting h.resting⟩
  cases h.supplied with
  | stream well hreadable hsealed => exact .stream well hreadable hsealed.sweep
  | handle handle hreadable hhandle hunread hreach hc hintact hsize hidle =>
    exact .handle handle hreadable hhandle hunread hreach hc hintact hsize fun id pipe hp hr =>
      hidle id pipe ((Well.running_sweep hr).mp hp) hr

theorem run_pipeThroughIdentity (fuel : Nat) :
    drive (BodyOp.pipeThroughIdentity.run fuel body) s =
      (drive (body.pipeThroughIdentity fuel) s).map fun r => (r.1.1.map fun _ => r.1.2, r.2) := by
  simp only [BodyOp.run, drive_bind, drive_pure]
  rw [Option.map_eq_bind]
  rfl

/-- One operation leaves a body whole. -/
theorem Whole.run (h : body.Whole octets s) (op : BodyOp) :
    Returns (fun fuel => drive (op.run fuel body) s) fun r =>
      ∃ left : Body, r.1 = .ok left ∧ left.Whole octets r.2 := by
  cases op with
  | pipeThroughIdentity =>
    refine h.pipeThroughIdentity.image _ run_pipeThroughIdentity ?_
    rintro fuel ⟨⟨piped, left⟩, t⟩ - ⟨⟨id, hpiped⟩, hleft⟩
    exact ⟨left, by rw [show piped = .ok id from hpiped]; rfl, hleft⟩
  | pump =>
    refine h.pump.image (fun r => (.ok body, r.2)) (fun fuel => ?_) fun _ _ _ hleft =>
      ⟨body, rfl, hleft⟩
    simp only [BodyOp.run, drive_bind, drive_pure]
    rw [Option.map_eq_bind]
    rfl
  | sweep => exact .now (.ok body, _) ⟨body, rfl, h.sweep⟩ fun _ => rfl

/-- A body stays whole whatever is done to it. By induction on the operations. -/
theorem Whole.runAll (h : body.Whole octets s) (ops : List BodyOp) :
    Returns (fun fuel => drive (BodyOp.runAll fuel body ops) s) fun r =>
      ∃ left : Body, r.1 = .ok left ∧ left.Whole octets r.2 := by
  induction ops generalizing body s with
  | nil => exact .now (.ok body, s) ⟨body, rfl, h⟩ fun _ => rfl
  | cons op ops ih =>
    refine (h.run op).andThen (fun fuel r =>
      match r.1 with
      | .error error => some (.error error, r.2)
      | .ok left => drive (BodyOp.runAll fuel left ops) r.2) (fun fuel => ?_) ?_
    · simp only [BodyOp.runAll, drive_bind]
      refine congrArg _ (funext fun r => ?_)
      obtain ⟨result, t⟩ := r
      cases result <;> rfl
    · rintro - ⟨-, t⟩ - ⟨left, rfl, hleft⟩
      exact ih hleft

/-- The drain of a whole body returns what its octets decode to, and no read of it goes too far. -/
theorem Whole.drain (h : body.Whole octets s) (decoders : Decoders) (target : TargetType) :
    Returns (fun fuel => drive (body.drainWith decoders fuel target) s) fun r =>
      r.1.1 = Representation.decodeWith decoders octets target ∧ r.2.host.overrun = none := by
  obtain ⟨well, opened, hstream, hsealed, -⟩ := h.stream
  obtain ⟨source, hs, hdisturbed, -⟩ := hsealed.unread
  obtain ⟨found, hfound, hserves, -⟩ := hsealed.offersOctets
  obtain rfl : source = found := Option.some_inj.mp (hs.symm.trans hfound)
  obtain ⟨read, ⟨bound, hread⟩, hkept⟩ := hsealed.offersOctets.underReader hsealed.calm
  have hlocked : opened.streams.isLocked well.id = false := by
    simp [Registry.isLocked, hs, hserves.lock]
  have htouched : opened.streams.isDisturbed well.id = false := by
    simp [Registry.isDisturbed, hs, hdisturbed]
  let left : Body := { body with readable := some well.id }
  refine ⟨((Representation.decodeWith decoders octets target, left.markUsed), read),
    ⟨bound, fun fuel hfuel => ?_⟩, rfl, hkept hsealed.intact⟩
  simp only [drive_drainWith, h.unused, hstream, hlocked, htouched, hread fuel hfuel,
    Bool.false_eq_true, if_false, Option.map_some]
  rfl

/-- A whole body is drained once all sorts of things have been done to it. -/
theorem Whole.drainAfter (h : body.Whole octets s) (decoders : Decoders) (ops : List BodyOp)
    (target : TargetType) :
    Returns (fun fuel => drive (body.drainAfter decoders fuel ops target) s) fun r =>
      r.1 = Representation.decodeWith decoders octets target ∧ r.2.host.overrun = none := by
  refine (h.runAll ops).andThen (fun fuel r =>
    match r.1 with
    | .error error => some (.error error, r.2)
    | .ok left => (drive (left.drainWith decoders fuel target) r.2).map fun r => (r.1.1, r.2))
      (fun fuel => ?_) ?_
  · simp only [Body.drainAfter, drive_bind]
    refine congrArg _ (funext fun r => ?_)
    obtain ⟨result, t⟩ := r
    cases result with
    | error error => rfl
    | ok left =>
      simp only [drive_bind, drive_pure]
      rw [Option.map_eq_bind]
      rfl
  · rintro - ⟨-, t⟩ - ⟨left, rfl, hleft⟩
    exact (hleft.drain decoders target).image _ (fun _ => rfl) fun _ _ _ hresult => hresult

/-- Nobody has read from a body over a host body that has no stream yet. -/
theorem whole_of_handle {handle : BodyHandle} (config : StreamConfig) (hused : body.used = false)
    (hreleased : body.released = false) (hreadable : body.readable = none)
    (hhandle : body.handle = some handle) (hunread : s.host.HasUnread handle octets)
    (hreach : s.host.InReach handle (max config.bodyChunkSize 1)) (hc : s.host.Calm)
    (hintact : s.host.overrun = none) (hr : s.Resting)
    (hconfig : s.streams.config = (Registry.new config : Registry E).config)
    (hidle : ∀ id pipe, s.streams.pipe? id = some pipe → ¬ pipe.isRunning) :
    body.Whole octets s := by
  have hsize : s.streams.config.bodyChunkSize = max config.bodyChunkSize 1 := by
    rw [hconfig]
    rfl
  rw [← hsize] at hreach
  refine ⟨hused, hreleased,
    .handle handle hreadable hhandle hunread hreach hc hintact ?_ hidle, hr⟩
  rw [hsize]
  exact UInt64.max_one_pos config.bodyChunkSize

/-- A body over a host body is drained after any number of transform streams have been put before
it, with pumps and sweeps at any time. The drain returns, and what it returns is what the octets of
the host body decode to as a whole, whatever the decoders, the chunk sizes and the marks are, as
long as no read of the body can go too far. It never stalls. -/
theorem drainAfter_decodes {handle : BodyHandle} (config : StreamConfig) (decoders : Decoders)
    (hused : body.used = false) (hreleased : body.released = false)
    (hreadable : body.readable = none) (hhandle : body.handle = some handle)
    (hunread : s.host.HasUnread handle octets)
    (hreach : s.host.InReach handle (max config.bodyChunkSize 1)) (hc : s.host.Calm)
    (hintact : s.host.overrun = none) (hr : s.Resting)
    (hconfig : s.streams.config = (Registry.new config : Registry E).config)
    (hidle : ∀ id pipe, s.streams.pipe? id = some pipe → ¬ pipe.isRunning) (ops : List BodyOp)
    (target : TargetType) :
    ∃ s', Settles (fun fuel => drive (body.drainAfter decoders fuel ops target) s)
        (Representation.decodeWith decoders octets target, s') ∧
      Representation.decodeWith decoders octets target ≠ .error .stalled ∧
      s'.host.overrun = none := by
  have h :=
    whole_of_handle config hused hreleased hreadable hhandle hunread hreach hc hintact
      hr hconfig hidle
  obtain ⟨⟨result, s'⟩, hsettles, rfl, hkept⟩ := h.drainAfter decoders ops target
  exact ⟨s', hsettles, Representation.decodeWith_ne_stalled decoders octets target, hkept⟩

/-- A host body that holds a letter of two octets. They are read one by one, and no transform stream
has any room. -/
def letterHeld : Session MemoryHost Unit where
  host := ((MemoryHost.withChunkSize 0).addBody [0xC3, 0xA9]).2
  env := ()
  streams := .new { bodyChunkSize := 0, transformHighWaterMark := 0 }

/-- The letter is decoded behind two transform streams. -/
theorem drainAfter_decodes_letter :
    ∃ s', Settles (fun fuel => drive (drainAfter .standard fuel
        [.pump, .pipeThroughIdentity, .pump, .sweep, .pipeThroughIdentity, .sweep]
        { owner := ⟨0⟩, handle := some ⟨1⟩, readable := none } .text) letterHeld)
      (.ok (.text "é"), s') := by
  have hunread : letterHeld.host.HasUnread ⟨1⟩ [0xC3, 0xA9] := ⟨_, rfl, by decide, rfl⟩
  have hreach : letterHeld.host.InReach ⟨1⟩ 1 := by
    rintro body ⟨⟩
    decide
  have hidle : ∀ id pipe, letterHeld.streams.pipe? id = some pipe → ¬ pipe.isRunning := by
    intro id pipe hp
    cases (SlotMap.get?_empty _).symm.trans hp
  let body : Body := { owner := ⟨0⟩, handle := some ⟨1⟩, readable := none }
  have hreadable : body.readable = none := rfl
  obtain ⟨s', hsettles, -⟩ :=
    drainAfter_decodes letterHeld.streams.config .standard rfl rfl hreadable rfl
    hunread hreach ⟨rfl, by decide⟩ rfl (Session.resting_new _ _ _) rfl hidle
    [.pump, .pipeThroughIdentity, .pump, .sweep, .pipeThroughIdentity, .sweep] .text
  exact ⟨s', hsettles⟩

/-- A host body that holds one octet. Reads are as long as a word can say. -/
def octetHeld : Session MemoryHost Unit where
  host := ((MemoryHost.withChunkSize 0xFFFFFFFFFFFFFFFF).addBody [104]).2
  env := ()
  streams := .new { bodyChunkSize := 0xFFFFFFFFFFFFFFFF }

/-- There the read that is to find the end goes too far, and the program ends before the drain
returns. -/
theorem drainAfter_overruns :
    octetHeld.host.HasUnread ⟨1⟩ [104] ∧ octetHeld.Resting ∧
      Settles (fun fuel => (drive (drainAfter .standard fuel []
          { owner := ⟨0⟩, handle := some ⟨1⟩, readable := none } .bytes) octetHeld).map fun r =>
            r.2.host.overrun)
        (some ⟨1⟩) := by
  have hends : (drive (drainAfter .standard 8 []
      { owner := ⟨0⟩, handle := some ⟨1⟩, readable := none } .bytes) octetHeld).map
        (fun r => r.2.host.overrun) = some (some ⟨1⟩) := by decide +kernel
  exact ⟨⟨_, rfl, by decide, rfl⟩, Session.resting_new _ _ _,
    Extends.settles (fun fuel => extends_drainAfter _ fuel _ _ _) hends⟩

/-! ### Bodies that somebody has read from -/

/-- Whoever has read from the stream of the body, it still has some octets to give. -/
structure Remains (body : Body) (octets : Bytes) (s : Session MemoryHost E) : Prop where
  unused : body.used = false
  unreleased : body.released = false
  stream : ∃ well : Well E, body.readable = some well.id ∧ well.Chain ∧
    well.OffersOctets none octets s ∧ well.Alone s
  calm : s.host.Calm
  intact : s.host.overrun = none
  resting : s.Resting

/-- A stream over a host body gives what it has queued and what has not been read of the host
body. -/
theorem remains_of_source {id : ReadableId} {source : Source E}
    {handle : BodyHandle} {size : UInt64} {rest : Bytes} (hused : body.used = false)
    (hreleased : body.released = false) (hid : body.readable = some id)
    (hs : s.streams.source? id = some source) (hsize : 0 < size)
    (hserves : source.Serves (.overBody id handle size source.controller.highWaterMark hsize) none)
    (hsound : source.controller.Sound) (hopen : source.controller.IsOpen)
    (hunread : s.host.HasUnread handle rest) (hreach : s.host.InReach handle size)
    (hc : s.host.Calm) (hintact : s.host.overrun = none) (hr : s.Resting)
    (hidle : ∀ id pipe, s.streams.pipe? id = some pipe → ¬ pipe.isRunning) :
    body.Remains (source.controller.queue.flatten ++ rest) s :=
  ⟨hused, hreleased, ⟨_, hid, .body _ _ _ _ hsize, ⟨source, hs, hserves, hsound,
    .inl ⟨hopen, rest, rfl, hunread, hreach⟩⟩, fun name pipe hp hrun =>
    absurd hrun (hidle name pipe hp)⟩, hc, hintact, hr⟩

theorem drive_drainAfter_cons (decoders : Decoders) (fuel : Nat) (op : BodyOp) (ops : List BodyOp)
    (target : TargetType) :
    drive (body.drainAfter decoders fuel (op :: ops) target) s =
      (drive (op.run fuel body) s).bind fun r =>
        match r.1 with
        | .error error => some (.error error, r.2)
        | .ok left => drive (left.drainAfter decoders fuel ops target) r.2 := by
  simp only [Body.drainAfter, BodyOp.runAll, drive_bind, Option.bind_assoc]
  refine congrArg _ (funext fun r => ?_)
  obtain ⟨error | left, t⟩ := r <;> rfl

/-- What comes after a body has been piped through a transform stream. -/
theorem drive_drainAfter_pipeThroughIdentity (decoders : Decoders) (fuel : Nat) (ops : List BodyOp)
    (target : TargetType) :
    drive (body.drainAfter decoders fuel (.pipeThroughIdentity :: ops) target) s =
      (drive (body.pipeThroughIdentity fuel) s).bind fun r =>
        match r.1.1 with
        | .error error => some (.error error, r.2)
        | .ok _ => drive (r.1.2.drainAfter decoders fuel ops target) r.2 := by
  rw [drive_drainAfter_cons, run_pipeThroughIdentity, Option.bind_map]
  refine congrArg _ (funext fun r => ?_)
  obtain ⟨⟨error | readable, left⟩, t⟩ := r <;> rfl

/-- A body that somebody has read from is refused. Piped through a transform stream, it is drained
of what the others have left, and of nothing else. -/
theorem Remains.reexposed (h : body.Remains octets s) {id : ReadableId}
    (hid : body.readable = some id) (hread : s.streams.isDisturbed id = true) :
    (∀ fuel target, drive (body.drain fuel target) s = some ((.error .alreadyUsed, body), s)) ∧
      ∀ decoders ops target, Returns
        (fun fuel => drive (body.drainAfter decoders fuel (.pipeThroughIdentity :: ops) target) s)
          fun r =>
          r.1 = Representation.decodeWith decoders octets target ∧ r.2.host.overrun = none := by
  obtain ⟨well, hwell, hchain, hoffers, halone⟩ := h.stream
  obtain rfl : id = well.id := Option.some_inj.mp (hid.symm.trans hwell)
  have hfound := hoffers
  obtain ⟨source, hs, hserves, -⟩ := hfound
  have hthere : s.streams.containsReadable well.id = true := by simp [Registry.containsReadable, hs]
  refine ⟨drive_drain_of_undrainable (.disturbed h.unused h.unreleased hid ?_ hread),
    fun decoders ops target => ?_⟩
  · simp [Registry.isLocked, hs, hserves.lock]
  · obtain ⟨pruned, hpruned, hsame, hserved, -, hlives, hpipes⟩ := hchain.pruned hoffers
    have hstream : exec (body.stream : Action MemoryHost E BodyError _) s =
        (.ok (pruned.id, { body with readable := some pruned.id }), s) := by
      rw [exec_stream_of_readable h.unreleased hid, if_pos hthere, hsame, ← hid]
    refine (whole_of_pipeThroughIdentity h.unused h.unreleased h.resting hstream
      hpruned hserved hlives
      (fun name pipe hp hr => hpipes name pipe hp hr (halone name pipe hp hr)) h.resting.wellFormed
        h.calm h.intact).andThen _
          (fun fuel => drive_drainAfter_pipeThroughIdentity decoders fuel ops target) ?_
    rintro - ⟨⟨-, left⟩, t⟩ - ⟨⟨readable, rfl⟩, hwhole⟩
    exact hwhole.drainAfter decoders ops target

end Body

end EdgeStreams
