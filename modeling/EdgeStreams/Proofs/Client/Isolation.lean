import EdgeStreams.Proofs.Client.Lasting
import EdgeStreams.Proofs.Host.Watching
import EdgeStreams.Proofs.Session.Refusing

/-!
# Isolation of streams

Streams are connected by the pipes that run between them and by the bridges of transform streams.
Whatever an operation on a stream comes to, also where it drives a long chain of pipes and some of
them fail on the way, it leaves everything alone that is not connected with its streams.

## Main definitions

- `EntryName`: the name of an entry
- `Registry.Connected`: what running pipes and bridges connect with some entries
- `Session.Spares`: an operation leaves alone what is not connected with its streams
- `Session.IsolatesOperations`: every operation on streams does so

## Main statements

- `Registry.closed_region`: no pipe and no bridge leads out of what is connected
- `Session.isolatesOperations`: what it takes that every operation spares what is not connected
- `Client.isolates_of_calls`: whatever clients have done before
- `BodyCalls.uses`: the handles that the host has been called with

## Design notes

A bridge counts as long as it lives, also if one of its halves is gone: the name of that half leads
nowhere else. A pipe that is being created connects its ends.
-/

namespace EdgeStreams

variable {H E : Type}

/-- The name of an entry. -/
inductive EntryName where
  | readable (id : ReadableId)
  | writable (id : WritableId)
  | bridge (id : BridgeId)
  | pipe (id : PipeId)
deriving DecidableEq, Repr

namespace Registry

/-- An entry and the next one, in the direction in which chunks go. -/
inductive LinksTo (streams : Registry E) : EntryName → EntryName → Prop
  | intoPipe {name : PipeId} {pipe : Pipe} : streams.pipe? name = some pipe → pipe.isRunning →
    LinksTo streams (.readable pipe.source) (.pipe name)
  | outOfPipe {name : PipeId} {pipe : Pipe} : streams.pipe? name = some pipe → pipe.isRunning →
    LinksTo streams (.pipe name) (.writable pipe.destination)
  | intoBridge {name : BridgeId} {bridge : Bridge E} : streams.bridge? name = some bridge →
    LinksTo streams (.writable bridge.writable) (.bridge name)
  | outOfBridge {name : BridgeId} {bridge : Bridge E} : streams.bridge? name = some bridge →
    LinksTo streams (.bridge name) (.readable bridge.readable)

/-- What running pipes and bridges connect with some entries, in either direction. -/
inductive Connected (streams : Registry E) (starts : Set EntryName) : EntryName → Prop
  | start {name : EntryName} : name ∈ starts → Connected streams starts name
  | along {name other : EntryName} : Connected streams starts name → streams.LinksTo name other →
    Connected streams starts other
  | against {name other : EntryName} : Connected streams starts other → streams.LinksTo name other →
    Connected streams starts name

/-- The host bodies behind the streams that are connected with some entries. -/
def connectedBodies (streams : Registry E) (starts : Set EntryName) : Set BodyHandle :=
  {handle | (∃ id, streams.Connected starts (.readable id) ∧ streams.bodyHandle? id = some handle) ∨
    ∃ id, streams.Connected starts (.writable id) ∧ streams.sinkBodyHandle? id = some handle}

/-- All that is connected with some entries. -/
def region (streams : Registry E) (starts : Set EntryName) : Region where
  reach :=
    { readables := {id | streams.Connected starts (.readable id)}
      writables := {id | streams.Connected starts (.writable id)}
      bridges := {id | streams.Connected starts (.bridge id)}
      bodies := streams.connectedBodies starts }
  pipes := {id | streams.Connected starts (.pipe id)}

variable {streams : Registry E} {starts : Set EntryName}

/-- A bridge belongs to what its halves are connected with. -/
theorem bridgeReach_within {name : BridgeId} (h : streams.Connected starts (.bridge name)) :
    (streams.bridgeReach name).Within (streams.region starts).reach := by
  unfold bridgeReach
  cases hb : streams.bridge? name with
  | none => exact Footprint.empty_within
  | some bridge =>
    exact ⟨Set.singleton_subset_iff.mpr (h.along (.outOfBridge hb)),
      Set.singleton_subset_iff.mpr (h.against (.intoBridge hb)), Set.singleton_subset_iff.mpr h,
      Set.empty_subset _, Set.empty_subset _⟩

/-- No pipe and no bridge leads out of what is connected. -/
theorem closed_region (hc : streams.Composed) (starts : Set EntryName) :
    (streams.region starts).Closed streams where
  backing {id source} hid hs := by
    cases hb : source.backing with
    | body handle size =>
      have hbody : streams.bodyHandle? id = some handle := by
        simp [bodyHandle?, hs, Source.bodyHandle?, hb]
      exact ⟨Set.empty_subset _, Set.empty_subset _, Set.empty_subset _, Set.empty_subset _,
        Set.singleton_subset_iff.mpr (.inl ⟨id, hid, hbody⟩)⟩
    | script guest => exact Footprint.empty_within
    | transform name =>
      obtain ⟨bridge, hbridge, rfl⟩ := hc.readable hs hb
      exact bridgeReach_within (.against hid (.outOfBridge hbridge))
  drain {id sink} hid hk := by
    cases hb : sink.backing with
    | body handle =>
      have hbody : streams.sinkBodyHandle? id = some handle := by
        simp [sinkBodyHandle?, hk, Sink.bodyHandle?, hb]
      exact ⟨Set.empty_subset _, Set.empty_subset _, Set.empty_subset _, Set.empty_subset _,
        Set.singleton_subset_iff.mpr (.inr ⟨id, hid, hbody⟩)⟩
    | script guest => exact Footprint.empty_within
    | transform name =>
      obtain ⟨bridge, hbridge, rfl⟩ := hc.writable hk hb
      exact bridgeReach_within (.along hid (.intoBridge hbridge))
  into hp hr hid := .against hid (.outOfPipe hp hr)
  outOf hp hr hid := .along hid (.intoPipe hp hr)
  joins hid hp hr := ⟨.against hid (.intoPipe hp hr), .along hid (.outOfPipe hp hr)⟩

end Registry

namespace Session

variable [Host H] {s t : Session H E} {starts : Set EntryName}

/-- An operation about some entries leaves every source, sink, bridge and pipe as it is that is not
connected with them, and makes no call about any host body but those behind streams that are. -/
structure Spares (s : Session H E) (starts : Set EntryName) (t : Session H E) : Prop where
  source? : ∀ id, ¬ s.streams.Connected starts (.readable id) →
    t.streams.source? id = s.streams.source? id
  sink? : ∀ id, ¬ s.streams.Connected starts (.writable id) →
    t.streams.sink? id = s.streams.sink? id
  bridge? : ∀ id, ¬ s.streams.Connected starts (.bridge id) →
    t.streams.bridge? id = s.streams.bridge? id
  pipe? : ∀ id, ¬ s.streams.Connected starts (.pipe id) → t.streams.pipe? id = s.streams.pipe? id
  calls : BodyCalls (s.streams.connectedBodies starts) s.host t.host

/-- The names of a pipe that is being created and of its ends. -/
def newPipe (s : Session H E) (source : ReadableId) (destination : WritableId) : Set EntryName :=
  {.readable source, .writable destination, .pipe ⟨s.streams.pipes.nextKey⟩}

/-- Each operation on streams leaves alone what is not connected with its streams. -/
structure IsolatesOperations (s : Session H E) : Prop where
  read : ∀ fuel id token r, attempt (read fuel id token) s = some r → s.Spares {.readable id} r.2
  cancel : ∀ id reason token, s.Spares {.readable id} (exec (cancel id reason token) s).2
  write : ∀ id chunk token, s.Spares {.writable id} (exec (write id chunk token) s).2
  close : ∀ id token, s.Spares {.writable id} (exec (close id token) s).2
  abort : ∀ id reason token, s.Spares {.writable id} (exec (abort id reason token) s).2
  getReader : ∀ id, s.Spares {.readable id}
    (exec (onStreams (Registry.getReader id) : Action H E StreamError ReaderToken) s).2
  getWriter : ∀ id, s.Spares {.writable id}
    (exec (onStreams (Registry.getWriter id) : Action H E StreamError WriterToken) s).2
  releaseReader : ∀ id token, s.Spares {.readable id}
    (exec (onStreams (Registry.releaseReader id token) : Action H E StreamError Unit) s).2
  releaseWriter : ∀ id token, s.Spares {.writable id}
    (exec (onStreams (Registry.releaseWriter id token) : Action H E StreamError Unit) s).2
  pipeTo : ∀ fuel source destination options r,
    attempt (pipeTo fuel source destination options) s = some r →
      s.Spares (s.newPipe source destination) r.2
  pipeThrough : ∀ fuel source stream options r,
    attempt (pipeThrough fuel source stream options) s = some r →
      s.Spares (s.newPipe source stream.writable) r.2
  abortCorrelated : ∀ source reason,
    s.Spares {.readable source} (exec (abortCorrelated source reason) s).2

/-! ### One operation -/

/-- Moves among what is connected. -/
theorem MovesWithin.spares (h : MovesWithin (s.streams.region starts) s t)
    (hc : s.streams.Composed) : s.Spares starts t where
  source? _ hid := h.source?_outside (Registry.closed_region hc starts).toSealed hid
  sink? _ hid := h.sink?_outside (Registry.closed_region hc starts).toSealed hid
  bridge? _ hid := h.bridge?_outside hid
  pipe? _ hid := h.pipe?_outside hid
  calls := h.calls

/-- Work on a readable stream. -/
theorem ChangesWithin.spares_readable {id : ReadableId}
    (h : ChangesWithin (s.streams.sourceReach id) s t) (hc : s.streams.Composed) :
    s.Spares {.readable id} t := by
  have hclosed := Registry.closed_region hc {.readable id}
  exact MovesWithin.spares (.of_changesWithin (h.mono (hclosed.sourceReach (.start rfl)))) hc

/-- Work on a writable stream. -/
theorem ChangesWithin.spares_writable {id : WritableId}
    (h : ChangesWithin (s.streams.sinkReach id) s t) (hc : s.streams.Composed) :
    s.Spares {.writable id} t := by
  have hclosed := Registry.closed_region hc {.writable id}
  exact MovesWithin.spares (.of_changesWithin (h.mono (hclosed.sinkReach (.start rfl)))) hc

/-- A change of the lock of a readable stream. -/
theorem spares_relockedSource {id : ReadableId} {streams : Registry E}
    (hsource : ∀ other, other ≠ id → streams.source? other = s.streams.source? other)
    (hsinks : streams.sinks = s.streams.sinks) (hbridges : streams.bridges = s.streams.bridges)
    (hpipes : streams.pipes = s.streams.pipes) :
    s.Spares {.readable id} { s with streams } where
  source? other hother := hsource other fun he => hother (he ▸ .start rfl)
  sink? other _ := congrArg (SlotMap.get? · other.key) hsinks
  bridge? other _ := congrArg (SlotMap.get? · other.key) hbridges
  pipe? other _ := congrArg (SlotMap.get? · other.key) hpipes
  calls := .refl

/-- A change of the lock of a writable stream. -/
theorem spares_relockedSink {id : WritableId} {streams : Registry E}
    (hsink : ∀ other, other ≠ id → streams.sink? other = s.streams.sink? other)
    (hsources : streams.sources = s.streams.sources)
    (hbridges : streams.bridges = s.streams.bridges) (hpipes : streams.pipes = s.streams.pipes) :
    s.Spares {.writable id} { s with streams } where
  source? other _ := congrArg (SlotMap.get? · other.key) hsources
  sink? other hother := hsink other fun he => hother (he ▸ .start rfl)
  bridge? other _ := congrArg (SlotMap.get? · other.key) hbridges
  pipe? other _ := congrArg (SlotMap.get? · other.key) hpipes
  calls := .refl

theorem spares_getReader (s : Session H E) (id : ReadableId) : s.Spares {.readable id}
    (exec (onStreams (Registry.getReader id) : Action H E StreamError ReaderToken) s).2 := by
  rw [exec_onStreams]
  cases hs : s.streams.source? id with
  | none =>
    simpa [Registry.getReader, exec_bind, hs] using
      spares_relockedSource (s := s) (fun _ _ => rfl) rfl rfl rfl
  | some source =>
    cases hl : source.readerLock with
    | some token =>
      simpa [Registry.getReader, exec_bind, hs, hl] using
        spares_relockedSource (s := s) (fun _ _ => rfl) rfl rfl rfl
    | none =>
      rw [Registry.exec_getReader _ hs hl]
      refine spares_relockedSource (fun other hne => ?_) rfl rfl rfl
      exact (Registry.source?_setSource _ _ _ _).trans (if_neg hne)

theorem spares_getWriter (s : Session H E) (id : WritableId) : s.Spares {.writable id}
    (exec (onStreams (Registry.getWriter id) : Action H E StreamError WriterToken) s).2 := by
  rw [exec_onStreams]
  cases hk : s.streams.sink? id with
  | none =>
    simpa [Registry.getWriter, exec_bind, hk] using
      spares_relockedSink (s := s) (fun _ _ => rfl) rfl rfl rfl
  | some sink =>
    cases hl : sink.writerLock with
    | some token =>
      simpa [Registry.getWriter, exec_bind, hk, hl] using
        spares_relockedSink (s := s) (fun _ _ => rfl) rfl rfl rfl
    | none =>
      rw [Registry.exec_getWriter _ hk hl]
      refine spares_relockedSink (fun other hne => ?_) rfl rfl rfl
      exact (Registry.sink?_setSink _ _ _ _).trans (if_neg hne)

theorem spares_releaseReader (s : Session H E) (id : ReadableId) (token : ReaderToken) :
    s.Spares {.readable id}
      (exec (onStreams (Registry.releaseReader id token) : Action H E StreamError Unit) s).2 := by
  have hrelease : (exec (Registry.releaseReader id token) s.streams).2 = _ :=
    Registry.quietly_releaseReader s.streams id token
  rw [exec_onStreams, hrelease]
  repeat' split
  · refine spares_relockedSource (fun other hne => ?_) rfl rfl rfl
    rw [Registry.source?_setSource, if_neg hne]
  · exact spares_relockedSource (fun _ _ => rfl) rfl rfl rfl
  · exact spares_relockedSource (fun _ _ => rfl) rfl rfl rfl

theorem spares_releaseWriter (s : Session H E) (id : WritableId) (token : WriterToken) :
    s.Spares {.writable id}
      (exec (onStreams (Registry.releaseWriter id token) : Action H E StreamError Unit) s).2 := by
  have hrelease : (exec (Registry.releaseWriter id token) s.streams).2 = _ :=
    Registry.quietly_releaseWriter s.streams id token
  rw [exec_onStreams, hrelease]
  repeat' split
  · refine spares_relockedSink (fun other hne => ?_) rfl rfl rfl
    rw [Registry.sink?_setSink, if_neg hne]
  · exact spares_relockedSink (fun _ _ => rfl) rfl rfl rfl
  · exact spares_relockedSink (fun _ _ => rfl) rfl rfl rfl

/-- A pipe is opened between streams that are connected by it, and is then driven. -/
theorem spares_pipeTo (wf : s.streams.WellFormed) (hc : s.streams.Composed) {fuel : Nat}
    {source : ReadableId} {destination : WritableId} {options : PipeOptions}
    {r : Except StreamError PipeId × Session H E}
    (h : attempt (pipeTo fuel source destination options) s = some r) :
    s.Spares (s.newPipe source destination) r.2 := by
  rcases Registry.exec_openPipe_cases s.streams source destination options with
    ⟨found, sink, hs, -, hk, -, hopen⟩ | ⟨error, streams, hopen, hgives⟩
  · have hpipe := s.streams.pipe?_withPipe wf source destination found sink options
    have hsource := s.streams.source?_withPipe destination sink options hs
    have hsink := s.streams.sink?_withPipe source found options hk
    have hold := Registry.closed_region hc (s.newPipe source destination)
    -- the new pipe and its ends are connected with themselves
    have hsealed : (s.streams.region (s.newPipe source destination)).Sealed
        (s.streams.withPipe source destination found sink options) := by
      refine hold.toSealed.later (fun {id source'} hs' => ?_)
        (fun {id sink'} hk' => ?_) (fun _ => rfl)
        fun {name pipe'} hp' hr' => ?_
      · rw [hsource] at hs'
        split at hs'
        · next he =>
          cases hs'
          exact ⟨found, he ▸ hs, rfl⟩
        · exact ⟨source', hs', rfl⟩
      · rw [hsink] at hk'
        split at hk'
        · next he =>
          cases hk'
          exact ⟨sink, he ▸ hk, rfl⟩
        · exact ⟨sink', hk', rfl⟩
      · rw [hpipe] at hp'
        split at hp'
        · next he =>
          cases hp'
          exact .inl ⟨.start (.inr (.inr (congrArg EntryName.pipe he))), .start (.inl rfl),
            .start (.inr (.inl rfl))⟩
        · exact .inr ⟨pipe', hp', hr', rfl, rfl⟩
    have hopened : (s.streams.region (s.newPipe source destination)).Sealed
        (exec (Registry.openPipe source destination options) s.streams).2 := by
      rwa [hopen]
    have hmoves := movesWithin_pipeTo hopened (fun hid => ?_) h
    · rw [hopen] at hmoves
      refine ⟨fun id hid => ?_, fun id hid => ?_, fun id hid => hmoves.bridge?_outside hid,
        fun id hid => ?_, hmoves.calls⟩
      · have hne : id ≠ source := fun he => hid (.start (.inl (congrArg EntryName.readable he)))
        exact (hmoves.source?_outside hsealed hid).trans ((hsource id).trans (if_neg hne))
      · have hne : id ≠ destination := fun he =>
          hid (.start (.inr (.inl (congrArg EntryName.writable he))))
        exact (hmoves.sink?_outside hsealed hid).trans ((hsink id).trans (if_neg hne))
      · have hne : id ≠ ⟨s.streams.pipes.nextKey⟩ := fun he =>
          hid (.start (.inr (.inr (congrArg EntryName.pipe he))))
        exact (hmoves.pipe?_outside hid).trans ((hpipe id).trans (if_neg hne))
    · rw [hopen] at hid
      cases hid
      exact .start (.inr (.inr rfl))
  · obtain ⟨number, -, rfl⟩ := hgives.eq
    rw [attempt_pipeTo, hopen] at h
    cases h
    exact ⟨fun _ _ => rfl, fun _ _ => rfl, fun _ _ => rfl, fun _ _ => rfl, .refl⟩

/-- It takes no more than that the halves of transform streams refer to their bridges, and that
streams are piped by running pipes. -/
theorem isolatesOperations (wf : s.streams.WellFormed) (hc : s.streams.Composed)
    (ho : s.streams.InOrder) : s.IsolatesOperations where
  read _ id _ _ h :=
    (movesWithin_read (Registry.closed_region hc {.readable id}).toSealed (.start rfl) h).spares hc
  cancel id reason token := (changesWithin_cancel s id reason token).spares_readable hc
  write id chunk token := (changesWithin_write s id chunk token).spares_writable hc
  close id token := (changesWithin_close s id token).spares_writable hc
  abort id reason token := (changesWithin_abort s id reason token).spares_writable hc
  getReader id := spares_getReader s id
  getWriter id := spares_getWriter s id
  releaseReader id token := spares_releaseReader s id token
  releaseWriter id token := spares_releaseWriter s id token
  pipeTo _ _ _ _ _ h := spares_pipeTo wf hc h
  pipeThrough _ _ _ _ _ h := by
    rw [attempt_pipeThrough] at h
    obtain ⟨piped, hpiped, rfl⟩ := Option.map_eq_some_iff.mp h
    exact spares_pipeTo wf hc hpiped
  abortCorrelated source reason := by
    have hclosed := Registry.closed_region hc {.readable source}
    refine (movesWithin_abortCorrelated hclosed (.start rfl) (fun hfrom destination hto => ?_)
      reason).spares hc
    rw [ho.pipedTo?_eq_none hfrom] at hto
    cases hto

end Session

/-! ### What the host has been called with -/

/-- The record of calls on bodies names no others. -/
theorem BodyCalls.uses [Host H] {handles : Set BodyHandle} {host later : Recorded H}
    (h : BodyCalls handles host later) :
    ∃ added, later.uses = added ++ host.uses ∧ ∀ use ∈ added, use.1 ∈ handles := by
  induction h with
  | refl => exact ⟨[], rfl, by simp⟩
  | @call between later handle _ hmem hcall ih =>
    obtain ⟨added, hadded, hnamed⟩ := ih
    have hone : ∃ use, later.uses = (handle, use) :: between.uses := by
      cases hcall <;> exact ⟨_, rfl⟩
    obtain ⟨use, huse⟩ := hone
    refine ⟨(handle, use) :: added, by rw [huse, hadded]; rfl, fun other hother => ?_⟩
    rcases List.mem_cons.mp hother with rfl | hother
    · exact hmem
    · exact hnamed other hother

namespace Client

variable [Host H] {uses : H → List UInt32 → H → Prop} {allowed : Client H E → Client H E → Prop}
variable {client : Client H E}

/-- Whatever clients have done with any host and with any guests, every operation leaves alone what
is not connected with its streams. -/
theorem isolates_of_calls {host : H} {env : E} {config : StreamConfig}
    (h : Calls uses allowed (new host env config) client) : client.session.IsolatesOperations := by
  have horderly := (h.sound (sound_new host env config)).orderly
  have hcomposed := (h.leads.resting (Session.resting_new host env config)).composed
  exact Session.isolatesOperations horderly.wellFormed hcomposed horderly.inOrder

/-- One of two body streams is read, which leaves the other one alone. -/
theorem isolates_of_calls_apart :
    ∃ client : Client (Recorded MemoryHost) Unit,
      Calls (fun _ _ _ => True) (fun _ _ => True) (new { host := {} } () {}) client ∧
      client.session.IsolatesOperations ∧
      client.session.streams.containsReadable ⟨0, 0⟩ = true ∧
      client.session.streams.containsReadable ⟨1, 0⟩ = true ∧
      ∀ fuel r, attempt (Session.read fuel ⟨0, 0⟩) client.session = some r →
        r.2.streams.source? ⟨1, 0⟩ = client.session.streams.source? ⟨1, 0⟩ := by
  let empty : Client (Recorded MemoryHost) Unit := new { host := {} } () {}
  let one := empty.withSession
    (empty.session.mapStreams fun streams => (streams.bodySource ⟨1⟩).2)
  let two := one.withSession (one.session.mapStreams fun streams => (streams.bodySource ⟨2⟩).2)
  have hcalls : Calls (fun _ _ _ => True) (fun _ _ => True) empty two :=
    .call (.call .refl (.step (.operate (.bodySource ⟨1⟩) 0 rfl)) trivial)
      (.step (.operate (.bodySource ⟨2⟩) 0 rfl)) trivial
  have hisolates := isolates_of_calls hcalls
  -- there is nothing that could connect the two
  have halone : ∀ {name}, two.session.streams.Connected {.readable ⟨0, 0⟩} name →
      name = .readable ⟨0, 0⟩ := by
    have hpipe : ∀ name, two.session.streams.pipe? name = none := fun _ => SlotMap.get?_empty _
    have hbridge : ∀ name, two.session.streams.bridge? name = none := fun _ => SlotMap.get?_empty _
    intro name h
    cases h with
    | start hmem => exact hmem
    | along _ hlinks | against _ hlinks =>
      cases hlinks with
      | intoPipe hp | outOfPipe hp => cases (hpipe _).symm.trans hp
      | intoBridge hb | outOfBridge hb => cases (hbridge _).symm.trans hb
  refine ⟨two, hcalls, hisolates, by decide +kernel, by decide +kernel, fun fuel r hr => ?_⟩
  refine (hisolates.read fuel ⟨0, 0⟩ none r hr).source? _ fun hconnected => ?_
  exact absurd (halone hconnected) (by decide)

end Client

end EdgeStreams
