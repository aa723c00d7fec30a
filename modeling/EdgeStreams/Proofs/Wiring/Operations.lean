import EdgeStreams.Proofs.Client.Public
import EdgeStreams.Proofs.Wiring.Measuring
import EdgeStreams.Proofs.Wiring.Returning

/-!
# Operations return

Where no octets come back to where they were, every read, every pump and every drain returns, and so
do pipes that close no circle. A pump goes on only after steps, which lighten the burden; a drain
goes on after a chunk or after steps, and once without either.

A pipe that closes a circle may never return: the octets in it go around for ever.

## Main definitions

- `Session.Downhill`: nothing is under way, octets only move down, and only overfull bodies have
  been read too far
- `Session.CallsReturn`: reads, pumps, drains and pipes that close no circle return

## Main statements

- `Session.returns_pump`, `Session.returns_readAll`, `Session.returns_drain`: loops end
- `Client.callsReturn_of_leads`: in every state that can be reached calls return, if no octets come
  back to where they were
-/

namespace EdgeStreams

variable {E : Type}

namespace Session

variable {slope : Slope} {s t : Session MemoryHost E} {fuel : ℕ}

/-- Nothing is under way, octets only move down, and only overfull bodies have been read too far. -/
structure Downhill (slope : Slope) (s : Session MemoryHost E) : Prop where
  resting : s.Resting
  fits : slope.Fits s.streams
  measured : s.Measured

namespace Downhill

theorem of_acyclic (hr : s.Resting) (ha : s.streams.Acyclic) (hg : s.streams.Guestless)
    (hm : s.Measured) : ∃ slope, Downhill slope s := by
  obtain ⟨slope, hfits⟩ := Slope.exists_fits ha hg
  exact ⟨slope, hr, hfits, hm⟩

theorem ready (h : Downhill slope s) : Ready slope s :=
  ⟨h.fits, h.resting.composed, fun _ _ hs =>
    h.resting.composed.notAsked hs (h.resting.unpulled hs)⟩

theorem pulledBelow (h : Downhill slope s) (id : ReadableId) : PulledBelow slope id s := by
  intro other source hs hpulling
  rw [h.resting.unpulled hs] at hpulling
  cases hpulling

theorem next (h : Downhill slope s) (hf : s.FlowsTo t) (hm : MovesTo s t) : Downhill slope t :=
  ⟨h.resting.flowsTo hf (hm.wellFormed h.resting.wellFormed), h.fits.keepsWiring hm.keepsWiring,
    hf.measured h.resting.composed h.measured⟩

end Downhill

/-! ### Reading and driving pipes -/

theorem returns_read (h : Downhill slope s) (id : ReadableId) (token : Option ReaderToken) :
    Returns (fun fuel => attempt (read fuel id token) s) fun r =>
      Lightens slope ∅ 0 (taken r.1) s r.2 ∧ Downhill slope r.2 := by
  have hread : Returns (fun fuel => attempt (read fuel id token) s) fun r =>
      Lightens slope ∅ 0 (taken r.1) s r.2 := by
    simp only [read, attempt_bind, attempt_finite, exec_onStreams, Registry.exec_checkReader,
      Option.bind_some]
    cases (Registry.need (s.streams.source? id)).bind fun source =>
        Registry.admits source.readerLock token with
    | error error => exact .now (.error error, s) (.refl slope s) fun _ => rfl
    | ok =>
      refine (reads slope 0 s id h.ready (h.pulledBelow id) (Nat.zero_le _)).mono ?_
      intro fuel r _ hl
      have hheavy := Nat.le_mul_of_pos_left (taken r.1) (slope.weight_pos (.queue id))
      exact hl.mono (by omega)
  refine hread.mono fun fuel r hrun hl => ⟨hl, h.next ?_ (movesTo_read hrun)⟩
  exact flowsTo_read h.resting.composed hrun

theorem returns_drive (h : Downhill slope s) (id : PipeId) :
    Returns (fun fuel => drive (pumpPipe fuel id) s) fun r =>
      Lightens slope ∅ 0 r.1 s r.2 ∧ Downhill slope r.2 := by
  refine (returns_pumpPipe id h.ready fun pipe _ _ =>
    ⟨reads slope _, h.pulledBelow pipe.source⟩).mono fun fuel r hrun hl => ⟨hl, h.next ?_ ?_⟩
  · exact flowsTo_pumpPipe h.resting.composed hrun
  · exact (flowMoves fuel).pumpPipe hrun

/-- What driving a pipe does goes on from one to the next. -/
theorem pumping (slope : Slope) :
    Pumping (E := E) (Downhill slope) fun steps s t => Lightens slope ∅ 0 steps s t where
  refl := .refl slope
  trans h h' := h.trans h'
  drives id h := returns_drive h id

/-- All pipes are driven as far as they go. Every round but the last makes steps, and these lighten
the burden. -/
theorem returns_pump (h : Downhill slope s) :
    Returns (fun fuel => drive (pump fuel) s) fun r =>
      Lightens slope ∅ 0 r.1 s r.2 ∧ Downhill slope r.2 := by
  refine (pumping slope).pump h (Subrelation.accessible ?_ ((measure slope.burden).wf.apply s))
  rintro t s ⟨steps, hsteps, hl⟩
  have hburden := hl.burden
  change slope.burden t < slope.burden s
  omega

/-! ### Draining -/

/-- A chunk and the steps of a pump lighten the burden, and without either there is one more round.
By induction on the burden, and on whether the round before has moved nothing. -/
theorem returns_readAll (h : Downhill slope s) (id : ReadableId) (token : ReaderToken)
    (chunks : List Bytes) (idle : Bool) :
    Returns (fun fuel => drive (Body.readAll fuel id token chunks idle) s) fun r =>
      Downhill slope r.2 := by
  induction hrounds : 2 * slope.burden s + (!idle).toNat using Nat.strong_induction_on
    generalizing s chunks idle with
  | _ rounds ih =>
  subst hrounds
  have hidle : (!idle).toNat ≤ 1 := Bool.toNat_le _
  refine (returns_read h id (some token)).bind (fun fuel => Body.readOn fuel id token chunks idle)
    (fun fuel => Body.drive_readAll fuel s id token chunks idle) ?_
  rintro - ⟨found, t⟩ - ⟨hl, ht⟩
  have hread : slope.burden t + taken found ≤ slope.burden s := hl.burden
  cases found with
  | error error => exact .now (.error (.stream error), t) ht fun _ => rfl
  | ok outcome =>
    cases outcome with
    | done => exact .now (.ok chunks.reverse.flatten, t) ht fun _ => rfl
    | chunk data =>
      refine ih _ ?_ ht (data :: chunks) false rfl
      change 2 * slope.burden t + 1 < _
      change slope.burden t + (data.length + 1) ≤ _ at hread
      omega
    | pending =>
      refine (returns_pump ht).andThen (fun fuel r =>
        if r.1 = 0 then
          if idle then some (.error .stalled, r.2)
          else drive (Body.readAll fuel id token chunks true) r.2
        else drive (Body.readAll fuel id token chunks idle) r.2) (fun _ => rfl) ?_
      rintro - ⟨steps, u⟩ - ⟨hlu, hu⟩
      have hpump : slope.burden u + steps ≤ slope.burden t := hlu.burden
      change slope.burden t + 0 ≤ _ at hread
      by_cases hsteps : steps = 0
      · cases idle with
        | true => exact .now (.error .stalled, u) hu fun _ => by simp [hsteps]
        | false =>
          simp only [hsteps, if_true, Bool.false_eq_true, if_false]
          refine ih _ ?_ hu chunks true rfl
          change 2 * slope.burden u + 0 < 2 * slope.burden s + 1
          omega
      · simp only [hsteps, if_false]
        refine ih _ ?_ hu chunks idle rfl
        change 2 * slope.burden u + (!idle).toNat < _
        omega

/-- The body's stream is there, or a new one draws on its host body. -/
theorem wiring_stream {held spent : Set ℕ} (ho : s.streams.Orderly held spent)
    (ha : s.streams.Acyclic) (hg : s.streams.Guestless) (body : Body) :
    (exec (body.stream : Action MemoryHost E BodyError _) s).2.streams.Acyclic ∧
      (exec (body.stream : Action MemoryHost E BodyError _) s).2.streams.Guestless := by
  obtain ⟨owner, handle, readable, released, used⟩ := body
  cases released with
  | true => exact ⟨ha, hg⟩
  | false =>
    cases readable with
    | some id =>
      simp only [Body.stream, exec_bind, exec_get, Bool.false_eq_true, if_false]
      split <;> exact ⟨ha, hg⟩
    | none =>
      cases handle with
      | none => exact ⟨ha, hg⟩
      | some handle =>
        have wf := ho.wellFormed
        have hadded := ha.bodySource wf (fun hp hr => by
          obtain ⟨source, hs, -⟩ := (ho.holds _ _ hp hr).source
          simp [Registry.containsReadable, hs]) handle
        have hkeeps : (s.streams.bodySource handle).2.KeepsWiring (exec (Registry.setReadableOwner
            (s.streams.bodySource handle).1 owner) (s.streams.bodySource handle).2).2 := by
          rw [Registry.exec_setReadableOwner_snd]
          exact .modifySource _ _ fun _ => rfl
        have hwiring := And.intro (hadded.of_feedsInto hkeeps.feedsInto)
          (hkeeps.guestless (hg.bodySource wf handle))
        simp only [Body.stream, exec_bind, exec_get, Bool.false_eq_true, if_false, exec_modifyGet,
          exec_adapt, exec_onStreams, changeStreams]
        generalize exec (Registry.setReadableOwner _ owner) _ = owned at hwiring
        obtain ⟨result, streams⟩ := owned
        cases result <;> exact hwiring

/-- A stream is read to its end under a new lock, which changes nothing in the wiring. -/
theorem returns_underReader (hr : s.Resting) (ha : s.streams.Acyclic) (hg : s.streams.Guestless)
    (hm : s.Measured) (id : ReadableId) :
    Returns (fun fuel => attempt (withReader id fun token =>
      sure (Body.readAll fuel id token [] false)) s) fun r => r.2.Measured := by
  have hkeeps := Registry.KeepsWiring.getReader s.streams id
  have hlocks := (OperationStep.getReader (s := s) id).resting hr
  simp only [attempt_withReader]
  generalize exec (Registry.getReader id) s.streams = taken at hkeeps hlocks
  obtain ⟨result, streams⟩ := taken
  cases result with
  | error error =>
    exact .now (.error error, { s with streams }) (hm.keepsWiring rfl hkeeps) fun _ => rfl
  | ok token =>
    obtain ⟨slope, hdown⟩ :=
      Downhill.of_acyclic hlocks (ha.of_feedsInto hkeeps.feedsInto) (hkeeps.guestless hg)
      (hm.keepsWiring rfl hkeeps)
    refine (returns_readAll hdown id token [] false).image (fun r =>
      (.ok r.1, mapStreams (Registry.quietly (Registry.releaseReader id token)) r.2))
        (fun fuel => ?_) fun fuel r _ hlast => ?_
    · simp only [attempt_sure, Option.map_map]
      rfl
    · have hreleases := Registry.KeepsWiring.releaseReader r.2.streams id token
      exact hlast.measured.keepsWiring rfl hreleases

/-- A body is drained to the end of its stream, or until that stops. -/
theorem returns_drain {held spent : Set ℕ} (hr : s.Resting) (ho : s.streams.Orderly held spent)
    (ha : s.streams.Acyclic) (hg : s.streams.Guestless) (hm : s.Measured) (body : Body)
    (target : TargetType) :
    Returns (fun fuel => drive (body.drain fuel target) s) fun r => r.2.Measured := by
  simp only [Body.drive_drain]
  by_cases hused : body.used = true
  · exact .now ((.error .alreadyUsed, body), s) hm fun _ => if_pos hused
  · simp only [hused, Bool.false_eq_true, if_false]
    have hresting := (body.leads_stream (R := LeadsTo) s).resting hr
    have hwiring := wiring_stream ho ha hg body
    have hmeasured := measured_stream hm hr.wellFormed body
    generalize exec (body.stream : Action MemoryHost E BodyError _) s =
      opened at hresting hwiring hmeasured
    obtain ⟨outcome, t⟩ := opened
    obtain ⟨hacyclic, hguestless⟩ := hwiring
    cases outcome with
    | error error => exact .now ((.error error, body), t) hmeasured fun _ => rfl
    | ok opened =>
      obtain ⟨id, streamed⟩ := opened
      by_cases hlocked : t.streams.isLocked id = true
      · exact .now ((.error .locked, streamed), t) hmeasured fun _ => if_pos hlocked
      · by_cases hdisturbed : t.streams.isDisturbed id = true
        · refine .now ((.error .alreadyUsed, streamed), t) hmeasured fun _ => ?_
          simp only [hlocked, hdisturbed, Bool.false_eq_true, if_false, if_true]
        · simp only [hlocked, hdisturbed, Bool.false_eq_true, if_false]
          have hread := returns_underReader hresting hacyclic hguestless hmeasured id
          exact hread.image _ (fun _ => rfl) fun _ _ _ hlast => hlast

/-! ### Pipes -/

/-- A pipe that closes no circle is opened and driven, or it is refused. -/
theorem returns_pipeTo (hr : s.Resting) (hg : s.streams.Guestless) (hm : s.Measured)
    (source : ReadableId) (destination : WritableId) (options : PipeOptions)
    (ha : ∀ id streams, exec (Registry.openPipe source destination options) s.streams =
      (.ok id, streams) → streams.Acyclic) :
    Returns (fun fuel => attempt (pipeTo fuel source destination options) s) fun r =>
      r.2.Measured := by
  have hresting := hr.openPipe source destination options
  have hguestless := hg.openPipe source destination options
  have hmeasured := hm.openPipe source destination options
  simp only [attempt_pipeTo]
  generalize exec (Registry.openPipe source destination options) s.streams = opened
    at ha hresting hguestless hmeasured
  obtain ⟨result, streams⟩ := opened
  cases result with
  | error error => exact .now (.error error, { s with streams }) hmeasured fun _ => rfl
  | ok id =>
    obtain ⟨slope, hdown⟩ := Downhill.of_acyclic hresting (ha id streams rfl) hguestless hmeasured
    exact (returns_drive hdown id).image _ (fun _ => rfl) fun _ _ _ hlast => hlast.2.measured

/-! ### What can be called -/

/-- Reads, pumps, drains and pipes that close no circle return, and leave only overfull bodies read
too far. -/
structure CallsReturn (s : Session MemoryHost E) : Prop where
  read : ∀ id token, Returns (fun fuel => attempt (read fuel id token) s) fun r => r.2.Measured
  pump : Returns (fun fuel => drive (pump fuel) s) fun r => r.2.Measured
  drain : ∀ (body : Body) target,
    Returns (fun fuel => drive (body.drain fuel target) s) fun r => r.2.Measured
  pipeTo : ∀ source destination options,
    (∀ id streams, exec (Registry.openPipe source destination options) s.streams =
      (.ok id, streams) → streams.Acyclic) →
    Returns (fun fuel => attempt (pipeTo fuel source destination options) s) fun r => r.2.Measured
  pipeThrough : ∀ source stream options,
    (∀ id streams, exec (Registry.openPipe source stream.writable options) s.streams =
      (.ok id, streams) → streams.Acyclic) →
    Returns (fun fuel => attempt (pipeThrough fuel source stream options) s) fun r => r.2.Measured

end Session

namespace Client

variable {uses : MemoryHost → List UInt32 → MemoryHost → Prop} {client : Client MemoryHost E}
variable {allowed : Client MemoryHost E → Client MemoryHost E → Prop}

/-- In every state that can be reached and in which no guest supplies a stream, whatever the host
bodies and the queues hold and whatever fails, every read, every pump and every drain returns if no
octets come back to where they were; and so does every pipe that leaves it so. None of them has the
program end at a read that goes too far, unless some host body holds so many octets that it is
overfull. -/
theorem callsReturn_of_leads {host : MemoryHost} {env : E} {config : StreamConfig}
    (h : LeadsTo uses allowed (new host env config) client)
    (hg : client.session.streams.Guestless) (ha : client.session.streams.Acyclic)
    (hm : client.session.Measured) : client.session.CallsReturn := by
  have hr := h.resting (Session.resting_new host env config)
  have ho := h.orderly (orderly_new host env config)
  obtain ⟨slope, hdown⟩ := Session.Downhill.of_acyclic hr ha hg hm
  refine ⟨fun id token => ?_, ?_, fun body target => ?_, fun source destination options hopen => ?_,
    fun source stream options hopen => ?_⟩
  · exact (Session.returns_read hdown id token).mono fun _ _ _ hlast => hlast.2.measured
  · exact (Session.returns_pump hdown).mono fun _ _ _ hlast => hlast.2.measured
  · exact Session.returns_drain hr ho ha hg hm body target
  · exact Session.returns_pipeTo hr hg hm source destination options hopen
  · exact (Session.returns_pipeTo hr hg hm source stream.writable options hopen).image _
      (fun fuel => Session.attempt_pipeThrough fuel client.session source stream options)
        fun _ _ _ hlast => hlast

/-- A transform stream that has no room, and a stream over a host body. -/
def unwired : Session MemoryHost Unit :=
  (Session.createIdentity.run
    { host := (({} : MemoryHost).addBody [97, 98]).2, env := ()
      streams := .new { transformHighWaterMark := 0 } }).2.mapStreams
        fun streams => (streams.bodySource ⟨1⟩).2

/-- The height of a place once the body is piped into the transform stream. -/
def unwiredHeight : Place → ℕ
  | .body _ => 2
  | .queue id => id.key.index

/-- The body is piped into the transform stream. -/
theorem callsReturn_of_leads_parked :
    ∃ client : Client MemoryHost Unit,
      LeadsTo (fun _ _ _ => True) (fun _ _ => True)
        (new (({} : MemoryHost).addBody [97, 98]).2 () { transformHighWaterMark := 0 }) client ∧
      (∃ pipe, client.session.streams.pipe? ⟨0, 0⟩ = some pipe ∧ pipe.state = .running) ∧
      client.session.CallsReturn := by
  have hgains := Session.gains_createIdentity (H := MemoryHost) (E := Unit)
    (s := { host := (({} : MemoryHost).addBody [97, 98]).2, env := (),
            streams := .new { transformHighWaterMark := 0 } }) (Registry.wellFormed_new _)
  have hguestless : unwired.streams.Guestless :=
    (hgains.guestless (Registry.guestless_new _)).bodySource hgains.wellFormed ⟨1⟩
  have hmade : LeadsTo (fun _ _ _ => True) (fun _ _ => True)
      (new (({} : MemoryHost).addBody [97, 98]).2 () { transformHighWaterMark := 0 })
      { session := unwired } :=
    .step (.step .refl (.operate (.createTransform .identity) 0 rfl) trivial)
      (.operate (.bodySource ⟨1⟩) 0 rfl) trivial
  have hmeasured : unwired.Measured := by
    refine ⟨fun raw body hbody => ?_, nofun⟩
    have hbodies : unwired.host.bodies = ({} : Table UInt32 MemoryBody).insert 1
        (.readable [97, 98]) := rfl
    rw [hbodies, Table.find?_insert] at hbody
    split at hbody <;> cases hbody
    decide
  have hrunning : (attempt (Session.pipeTo 3 ⟨1, 0⟩ ⟨0, 0⟩ {}) unwired).any fun r =>
      (r.2.streams.pipe? ⟨0, 0⟩).any fun pipe => pipe.state = .running := by decide +kernel
  have hdown : (attempt (Session.pipeTo 3 ⟨1, 0⟩ ⟨0, 0⟩ {}) unwired).all fun r =>
      r.2.streams.ways.all fun way => unwiredHeight way.2 < unwiredHeight way.1 := by decide +kernel
  cases hpipe : attempt (Session.pipeTo 3 ⟨1, 0⟩ ⟨0, 0⟩ {}) unwired with
  | none => simp [hpipe] at hrunning
  | some r =>
    simp only [hpipe, Option.any_some, Option.all_some] at hrunning hdown
    have hpiped := hmade.step (.operate (.pipeTo ⟨1, 0⟩ ⟨0, 0⟩ {}) 3
      (congrArg (Option.map Prod.snd) hpipe)) trivial
    have hacyclic : r.2.streams.Acyclic :=
      .of_height unwiredHeight fun way hway => by simpa using List.all_eq_true.mp hdown way hway
    have hstill : ∃ pipe, r.2.streams.pipe? ⟨0, 0⟩ = some pipe ∧ pipe.state = .running := by
      simpa [Option.any_eq_true] using hrunning
    exact ⟨_, hpiped, hstill,
      callsReturn_of_leads hpiped (Session.guestless_pipeTo hguestless hpipe) hacyclic
      (Session.measured_pipeTo (hmade.resting (Session.resting_new _ _ _)) hmeasured hpipe)⟩

end Client

/-! ### A circle -/

namespace Session

/-- A session with one transform stream. Its halves are `source` and `sink`, and it is of no use to
push any more into it until the readable half is pulled, unless `asked`. -/
def ring (rest : Registry Unit) (source : Source Unit) (sink : Sink Unit) (asked : Bool)
    (journal : List StreamEvent) : Session MemoryHost Unit where
  host := {}
  env := ()
  streams := { rest with
    sources := { slots := #[⟨0, some source⟩], size := 1 }
    sinks := { slots := #[⟨0, some sink⟩], size := 1 }
    bridges := { slots := #[⟨0, some ⟨⟨0, 0⟩, ⟨0, 0⟩, .identity, false, asked⟩⟩], size := 1 } }
  journal

/-- The readable half, with some chunks in it. -/
def outlet (queue : List Bytes) : Source Unit where
  backing := .transform ⟨0, 0⟩
  controller := { highWaterMark := 16384, queue, queuedBytes := queue.flatten.length }

/-- The readable half, where it is piped into the writable half. -/
def looped (queue : List Bytes) : Source Unit :=
  { outlet queue with readerLock := some ⟨1⟩, pipedTo := some ⟨0, 0⟩, disturbed := true }

/-- The writable half. -/
def inlet (lock : Option WriterToken) : Sink Unit where
  backing := .transform ⟨0, 0⟩
  controller := { highWaterMark := 0 }
  writerLock := lock

/-- A pipe from the readable into the writable half of a transform stream. -/
def selfPipe : Pipe where
  source := ⟨0, 0⟩
  destination := ⟨0, 0⟩
  reader := ⟨1⟩
  writer := ⟨2⟩
  options := {}

/-- The pipe is being driven. -/
def circling (queue : List Bytes) (asked : Bool) (journal : List StreamEvent) :
    Session MemoryHost Unit :=
  ring { Registry.new {} with
      pipes := { slots := #[⟨0, some { selfPipe with pumping := true }⟩], size := 1 }
      nextToken := 3 }
    (looped queue) (inlet (some ⟨2⟩)) asked journal

section Ring

variable (rest : Registry Unit) (source : Source Unit) (sink : Sink Unit) (asked : Bool)
variable (journal : List StreamEvent)

theorem source?_ring : (ring rest source sink asked journal).streams.source? ⟨0, 0⟩ =
    some source := rfl

theorem sink?_ring : (ring rest source sink asked journal).streams.sink? ⟨0, 0⟩ = some sink := rfl

theorem bridge?_ring : (ring rest source sink asked journal).streams.bridge? ⟨0, 0⟩ =
    some ⟨⟨0, 0⟩, ⟨0, 0⟩, .identity, false, asked⟩ := rfl

/-- What is written to the writable half waits in the readable half. -/
theorem exec_write_ring {lock : Option WriterToken} (hsink : sink.AtRest .writable lock)
    (hback : sink.backing = .transform ⟨0, 0⟩) (hopen : source.controller.state = .readable)
    (hlasting : source.controller.closeRequested = false) {chunk : Bytes} (hchunk : chunk ≠ []) :
    exec (write ⟨0, 0⟩ chunk lock) (ring rest source sink asked journal) =
      (.ok (), ring rest { source with controller := source.controller.queued chunk } sink false
        (.written ⟨0, 0⟩ chunk (.ok ()) :: .enqueued ⟨0, 0⟩ chunk :: journal)) := by
  have hwork : exec (writeAlgorithm ⟨0, 0⟩ chunk) (ring rest source sink.working asked journal) =
      (.ok (), ring rest { source with controller := source.controller.queued chunk }
        sink.working false (.enqueued ⟨0, 0⟩ chunk :: journal)) := by
    have hback' : sink.working.backing = .transform ⟨0, 0⟩ := hback
    rw [exec_writeAlgorithm_identity (sink?_ring ..) hback' (bridge?_ring ..)
      rfl (source?_ring ..) hopen hlasting hchunk]
    rfl
  exact exec_write_of_atRest (sink?_ring ..) hsink hwork (sink?_ring ..)

end Ring

section Circling

variable (fuel steps : ℕ) (asked : Bool) (journal : List StreamEvent)

/-- A read takes the octet. The pull that follows asks for another; the pipe that could bring it is
being driven. -/
theorem attempt_readUnchecked_circling :
    attempt (readUnchecked (fuel + 4) ⟨0, 0⟩) (circling [[97]] asked journal) =
      some (.ok (.chunk [97]), circling [] true
        (.pullEnded ⟨0, 0⟩ (.ok ()) :: .pullBegan ⟨0, 0⟩ :: .delivered ⟨0, 0⟩
          [97] :: journal)) := by
  have hs : (circling [[97]] asked journal).streams.source? ⟨0, 0⟩ = some (looped [[97]]) := rfl
  have hstart : (looped [[97]]).start = .resolved := rfl
  have hdisturbed : disturb ⟨0, 0⟩ (looped [[97]]) (circling [[97]] asked journal) =
      circling [[97]] asked journal := rfl
  have htake : exec (takeReady ⟨0, 0⟩) (circling [[97]] asked journal) =
      (.ok (some (.chunk [97])), circling [] asked (.delivered ⟨0, 0⟩ [97] :: journal)) :=
    exec_takeReady hs
  have hpull : drive (pullIfNeeded (fuel + 3) ⟨0, 0⟩ false)
      (circling [] asked (.delivered ⟨0, 0⟩ [97] :: journal)) = some ((), circling [] true
        (.pullEnded ⟨0, 0⟩ (.ok ()) :: .pullBegan ⟨0, 0⟩ :: .delivered ⟨0, 0⟩
          [97] :: journal)) := by
    have hwants : (looped []).wantsPull false = true := by decide +kernel
    rw [drive_pullIfNeeded, circling, source?_ring]
    simp only [hwants, Bool.not_true, Bool.false_eq_true, if_false, attempt_pull, drive_pumpPipe]
    rfl
  rw [attempt_readUnchecked, hs]
  simp only [hstart, hdisturbed, htake, hpull, Option.map_some]

/-- The octet is written again. -/
theorem exec_write_circling :
    exec (write selfPipe.destination [97] (some selfPipe.writer)) (circling [] asked journal) =
      (.ok (), circling [[97]] false
        (.written ⟨0, 0⟩ [97] (.ok ()) :: .enqueued ⟨0, 0⟩ [97] :: journal)) := by
  have hrest : (inlet (some ⟨2⟩)).AtRest .writable (some ⟨2⟩) := ⟨rfl, rfl, rfl, rfl, rfl, rfl⟩
  exact exec_write_ring _ _ _ asked journal hrest rfl rfl rfl (List.cons_ne_nil 97 [])

/-- No fuel suffices. By induction on the fuel. -/
theorem no_outcome_circling :
    drive (pumpSteps fuel ⟨0, 0⟩ selfPipe steps) (circling [[97]] asked journal) = none := by
  induction fuel generalizing steps asked journal with
  | zero => rfl
  | succ fuel ih =>
    have hs : (circling [[97]] asked journal).streams.source? selfPipe.source = some
        (looped [[97]]) := rfl
    have hfault : destinationFault? (circling [[97]] asked journal).streams selfPipe.destination =
        none := rfl
    have hready : (circling [[97]] asked journal).streams.sinkReady selfPipe.destination =
        true := by
      change (circling [[97]] asked []).streams.sinkReady selfPipe.destination = true
      cases asked <;> decide +kernel
    rw [drive_pumpSteps, hfault]
    simp only [hready, Bool.not_true, Bool.false_eq_true, if_false]
    rw [attempt_readByPipe fuel _ selfPipe hs rfl]
    cases hread : attempt (readUnchecked fuel selfPipe.source) (circling [[97]] asked journal) with
    | none => rfl
    | some r =>
      -- with more fuel the read takes the octet, and so it does with this
      have htaken : Settles (fun fuel =>
          attempt (readUnchecked fuel ⟨0, 0⟩) (circling [[97]] asked journal)) _ :=
        .later (.later (.later (.later
          ⟨0, fun fuel _ => attempt_readUnchecked_circling fuel asked journal⟩)))
      obtain rfl := htaken.unique (.of_more
        (fun fuel r => (flowExtends MemoryHost Unit fuel).readUnchecked ⟨0, 0⟩ _ r) hread)
      simp only [Option.bind_some, pumpFound, exec_write_circling]
      exact ih (steps + 1) false _

end Circling

/-- A transform stream. -/
def fresh : Session MemoryHost Unit :=
  (createIdentity.run { host := {}, env := (), streams := .new {} }).2

/-- The transform stream with an octet in it. -/
def primed : Session MemoryHost Unit := (exec (write ⟨0, 0⟩ [97]) fresh).2

theorem primed_eq :
    primed = ring (.new {}) (outlet [[97]]) (inlet none) false
      [.written ⟨0, 0⟩ [97] (.ok ()), .enqueued ⟨0, 0⟩ [97], .sinkStarted ⟨0, 0⟩ (.ok ())] := by
  have hfresh : fresh = ring (.new {}) (outlet []) (inlet none) false
      [.sinkStarted ⟨0, 0⟩ (.ok ())] := rfl
  have hrest : (inlet none).AtRest .writable none := ⟨rfl, rfl, rfl, rfl, rfl, rfl⟩
  rw [primed, hfresh, exec_write_ring _ _ _ _ _ hrest rfl rfl rfl (List.cons_ne_nil 97 [])]
  rfl

theorem exec_openPipe_primed :
    exec (Registry.openPipe ⟨0, 0⟩ ⟨0, 0⟩ {}) primed.streams =
      (.ok ⟨0, 0⟩, { (circling [[97]] false []).streams with
        pipes := { slots := #[⟨0, some selfPipe⟩], size := 1 } }) := by
  rw [primed_eq]
  rfl

/-- There is no outcome, whatever the fuel. -/
theorem pipeTo_primed_never_settles :
    ¬ ∃ r, Settles (fun fuel => attempt (pipeTo fuel ⟨0, 0⟩ ⟨0, 0⟩ {}) primed) r := by
  rintro ⟨r, bound, hsettles⟩
  have hsome : attempt (pipeTo (bound + 1) ⟨0, 0⟩ ⟨0, 0⟩ {}) primed = some r :=
    hsettles (bound + 1) (Nat.le_succ bound)
  rw [attempt_pipeTo, exec_openPipe_primed, primed_eq] at hsome
  -- the pipe is opened, and then it is driven
  obtain ⟨driven, hdriven, -⟩ := Option.map_eq_some_iff.mp hsome
  rw [drive_pumpPipe] at hdriven
  obtain ⟨last, hsteps, -⟩ := Option.map_eq_some_iff.mp hdriven
  have hnone := no_outcome_circling bound 0 false
    [.written ⟨0, 0⟩ [97] (.ok ()), .enqueued ⟨0, 0⟩ [97], .sinkStarted ⟨0, 0⟩ (.ok ())]
  exact nomatch hnone.symm.trans hsteps

/-- A transform stream with an octet in it that is piped into itself keeps its pipe busy for ever.
So not every pipe that is opened returns. -/
theorem pipeTo_never_returns :
    ∃ client : Client MemoryHost Unit,
      Client.LeadsTo (fun _ _ _ => True) (fun _ later => later.session.streams.Guestless)
        (.new {} () {}) client ∧
      (∃ id streams, exec (Registry.openPipe ⟨0, 0⟩ ⟨0, 0⟩ {}) client.session.streams =
        (.ok id, streams)) ∧
      ¬ ∃ r, Settles (fun fuel => attempt (pipeTo fuel ⟨0, 0⟩ ⟨0, 0⟩ {}) client.session) r := by
  have hguestless : fresh.streams.Guestless :=
    (gains_createIdentity (Registry.wellFormed_new _)).guestless (Registry.guestless_new _)
  have hfresh : Client.LeadsTo (fun _ _ _ => True) (fun _ later => later.session.streams.Guestless)
      (.new {} () {}) { session := fresh } :=
    .step .refl (.operate (.createTransform .identity) 0 rfl) hguestless
  have hwritten : Client.Step (fun _ _ _ => True) { session := fresh } { session := primed } :=
    .operate (.write ⟨0, 0⟩ [97] none) 0 rfl
  have hprimed : primed.streams.Guestless := by
    have hwrites := changesWithin_write fresh ⟨0, 0⟩ [97] none
    unfold primed
    exact hwrites.keepsWiring.guestless hguestless
  have hopen := exec_openPipe_primed
  have hnever := pipeTo_primed_never_settles
  -- what the session is does not matter any more
  generalize primed = s at hwritten hprimed hopen hnever
  exact ⟨{ session := s }, hfresh.step hwritten hprimed, ⟨⟨0, 0⟩, _, hopen⟩, hnever⟩

end Session

end EdgeStreams
