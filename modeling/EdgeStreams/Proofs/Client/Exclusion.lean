import EdgeStreams.Host.Memory
import EdgeStreams.Proofs.Client.Honouring
import EdgeStreams.Proofs.Session.Refusing

/-!
# Locks exclude

Any number of clients work on one registry, one call after the other. As long as a stream is locked,
whoever does not show its token is refused, and nothing happens; and a token that has been given
back is refused everywhere, for ever.

## Main definitions

- `Client.Call`, `Client.Calls`: the calls of clients, one after the other
- `Client.Frees`: a call gives a lock back
- `Client.Exclusive`: locks exclude

## Main statements

- `Client.Calls.stays`: a lock stays until a call gives it back
- `Client.Calls.idle`: a token that locks nothing will never lock anything
- `Client.exclusive_of_calls`: locks exclude in every state that can be reached

## Design notes

Who calls does not matter, only which token is shown. A reader's guard takes a lock and gives it
back when it is dropped; these are two calls, with others between them. Draining a body is one call.
-/

namespace EdgeStreams

variable {H E : Type}

namespace Session

variable [Host H] {s t : Session H E}

/-- A pipe keeps its ends, its tokens and its options. By induction on the moves. -/
theorem MovesTo.pipe (h : MovesTo s t) {id : PipeId} {pipe : Pipe}
    (hp : s.streams.pipe? id = some pipe) :
    ∃ state pumping, t.streams.pipe? id = some { pipe with state, pumping } := by
  induction h with
  | refl => exact ⟨_, _, hp⟩
  | touch _ ht ih => exact (Registry.pipe?_congr ht.pipes_eq id).symm ▸ ih
  | note _ _ ih => exact ih
  | @drive t other found pumping' _ hfound ih =>
    obtain ⟨state, pumping, hstill⟩ := ih
    simp only [streams_mapStreams, Registry.pipe?_setPipe]
    split
    · next he =>
      subst he
      rw [hstill] at hfound
      cases hfound
      exact ⟨state, pumping', by rw [hstill]; rfl⟩
    · exact ⟨state, pumping, hstill⟩
  | @finish t other state' _ _ ih =>
    obtain ⟨state, pumping, hstill⟩ := ih
    rw [pipeFinished, streams_mapStreams]
    by_cases hrun : ∃ found, t.streams.pipe? other = some found ∧ found.isRunning
    · obtain ⟨found, hfound, hr⟩ := hrun
      rw [Registry.pipe?_finishPipe state' hfound hr]
      split
      · next he =>
        subst he
        rw [hstill] at hfound
        cases hfound
        exact ⟨state', pumping, rfl⟩
      · exact ⟨state, pumping, hstill⟩
    · rw [Registry.finishPipe_of_not_running _ fun found hfound hr => hrun ⟨found, hfound, hr⟩]
      exact ⟨state, pumping, hstill⟩

/-- A pipe that has been opened is there, between the two streams. -/
theorem pipe?_of_pipeTo {fuel : Nat} {source : ReadableId} {destination : WritableId}
    {options : PipeOptions} {id : PipeId} (wf : s.streams.WellFormed)
    (h : attempt (pipeTo fuel source destination options) s = some (.ok id, t)) :
    ∃ pipe, t.streams.pipe? id = some pipe ∧ pipe.source = source ∧
      pipe.destination = destination := by
  have hmoves := movesTo_pipeTo h
  rw [attempt_pipeTo] at h
  rcases Registry.exec_openPipe_cases s.streams source destination options with
    ⟨entry, sink, -, -, -, -, hopen⟩ | ⟨error, streams, hopen, -⟩
  · rw [hopen] at h hmoves
    obtain ⟨r, -, hr⟩ := Option.map_eq_some_iff.mp h
    obtain ⟨rfl⟩ := Except.ok.inj (Prod.mk.inj hr).1
    have hnew := (Registry.pipe?_withPipe wf source destination entry sink options
      ⟨s.streams.pipes.nextKey⟩).trans (if_pos rfl)
    obtain ⟨state, pumping, hp⟩ := hmoves.pipe hnew
    exact ⟨_, hp, rfl, rfl⟩
  · rw [hopen] at h
    cases (Prod.mk.inj (Option.some.inj h)).1

end Session

namespace Client

section Calls

variable [Host H] (uses : H → List UInt32 → H → Prop) (allowed : Client H E → Client H E → Prop)

/-- A call: an operation on streams, or one that is built on such operations, such as draining a
body. -/
inductive Call (client : Client H E) : Client H E → Prop
  | step {later : Client H E} : Step uses client later → Call client later
  | action {ε α : Type} {action : Action H E ε α} : PublicAction action →
    Call client (client.withSession (exec action client.session).2)
  | run {α : Type} {run : Run H E α} {r : α × Session H E} : PublicRun run →
    drive run client.session = some r → Call client (client.withSession r.2)

/-- One allowed call after another. -/
inductive Calls (client : Client H E) : Client H E → Prop
  | refl : Calls client client
  | call {between later : Client H E} : Calls client between → Call uses between later →
    allowed between later → Calls client later

end Calls

/-- A call gives the lock of a stream back that is held with a token of the number: somebody who has
the token releases the lock, the pipe that uses the token comes to an end, or the registry is
cleared. -/
inductive Frees (client : Client H E) : StreamName → Nat → Client H E → Prop
  | reader {id : ReadableId} {token : ReaderToken} : token ∈ client.readers →
    Frees client (.readable id) token.number (client.withSession
      (client.session.mapStreams (Registry.quietly (Registry.releaseReader id token))))
  | writer {id : WritableId} {token : WriterToken} : token ∈ client.writers →
    Frees client (.writable id) token.number (client.withSession
      (client.session.mapStreams (Registry.quietly (Registry.releaseWriter id token))))
  | pipe {name : StreamName} {number : Nat} {later : Client H E} :
    client.session.streams.Engaged number → ¬ later.session.streams.Engaged number →
      Frees client name number later
  | clear {name : StreamName} {number : Nat} :
    Frees client name number (client.withSession (client.session.mapStreams Registry.clear))

/-- The locks are held by those who have taken them, each by one. -/
structure Sound (client : Client H E) : Prop where
  orderly : client.session.streams.Orderly client.held ∅
  single : client.session.streams.Single

/-- Only what a call frees is given back of the locks that were there before it. -/
structure Keeps (client later : Client H E) : Prop where
  sound : later.Sound
  relocksTo : client.session.streams.RelocksTo (fun name number =>
    number < client.session.streams.nextToken → client.Frees name number later)
      later.session.streams

variable [Host H] {uses : H → List UInt32 → H → Prop}
variable {allowed : Client H E → Client H E → Prop} {client later : Client H E}

/-! ### One call -/

omit [Host H] in
theorem Sound.of_respectsLocks {session : Session H E} (hs : client.Sound)
    (h : client.session.RespectsLocks session) : client.Keeps (client.withSession session) := by
  obtain ⟨ho, hhonours⟩ := h.kept hs.orderly hs.single
  refine ⟨⟨ho, hhonours.relocksTo.single hs.single⟩, hhonours.relocksTo.mono fun hfreed hold => ?_⟩
  obtain ⟨hwas, hnot⟩ := hfreed hold
  exact .pipe hwas hnot

theorem Step.keeps (h : Step uses client later) (hs : client.Sound) : client.Keeps later := by
  have ho := h.orderly hs.orderly
  cases h with
  | @operate op fuel session hop =>
    by_cases hclear : op = .clear
    · subst hclear
      cases hop
      exact ⟨⟨ho, hs.single.unlocksTo Registry.unlocksTo_clear⟩,
        .of_unlocksTo (Registry.unlocksTo_clear.mono fun _ _ => .clear)⟩
    · exact hs.of_respectsLocks (StreamOp.respectsLocks hop hclear)
  | @getReader id token streams hget =>
    have hl := Registry.locks_getReader hget
    exact ⟨⟨ho, hs.single.locks hl⟩, .of_locks hl⟩
  | @getWriter id token streams hget =>
    have hl := Registry.locks_getWriter hget
    exact ⟨⟨ho, hs.single.locks hl⟩, .of_locks hl⟩
  | @releaseReader id token hmem =>
    have hu : client.session.streams.UnlocksTo _ _ := .releaseReader id token
    refine ⟨⟨ho, hs.single.unlocksTo hu⟩, .of_unlocksTo (hu.mono ?_)⟩
    rintro name number ⟨rfl, rfl⟩ -
    exact .reader hmem
  | @releaseWriter id token hmem =>
    have hu : client.session.streams.UnlocksTo _ _ := .releaseWriter id token
    refine ⟨⟨ho, hs.single.unlocksTo hu⟩, .of_unlocksTo (hu.mono ?_)⟩
    rintro name number ⟨rfl, rfl⟩ -
    exact .writer hmem
  | callHost | visitGuest | nextOwner => exact ⟨⟨ho, hs.single⟩, .refl⟩

theorem Call.keeps (h : Call uses client later) (hs : client.Sound) : client.Keeps later := by
  cases h with
  | step hstep => exact hstep.keeps hs
  | action hpublic => exact hs.of_respectsLocks (hpublic.leads _)
  | run hpublic hrun => exact hs.of_respectsLocks (hpublic.leads _ _ hrun)

/-! ### One call after another -/

omit [Host H] in
theorem sound_new (host : H) (env : E) (config : StreamConfig) : (new host env config).Sound :=
  ⟨orderly_new host env config, Registry.single_new config⟩

namespace Calls

theorem sound (h : Calls uses allowed client later) (hs : client.Sound) : later.Sound := by
  induction h with
  | refl => exact hs
  | call _ hcall _ ih => exact (hcall.keeps ih).sound

/-- A lock stays until a call gives it back. By induction on the calls. -/
theorem stays {name : StreamName} {number : Nat}
    (h : Calls uses (fun before after => ¬ before.Frees name number after) client later)
    (hs : client.Sound) (hheld : client.session.streams.holder? name = some number) :
    later.session.streams.holder? name = some number := by
  induction h with
  | refl => exact hheld
  | call hbefore hcall hkept ih =>
    have hbetween := hbefore.sound hs
    exact (hcall.keeps hbetween).relocksTo.stays ih fun hfreed =>
      hkept (hfreed (hbetween.single.old ih))

/-- A token that locks nothing will never lock anything. By induction on the calls. -/
theorem idle {number : Nat} (h : Calls uses allowed client later) (hs : client.Sound)
    (hold : number < client.session.streams.nextToken)
    (hidle : ∀ name, client.session.streams.holder? name ≠ some number) :
    number < later.session.streams.nextToken ∧
      ∀ name, later.session.streams.holder? name ≠ some number := by
  induction h with
  | refl => exact ⟨hold, hidle⟩
  | call hbefore hcall _ ih =>
    have hkept := (hcall.keeps (hbefore.sound hs)).relocksTo
    exact ⟨ih.1.trans_le hkept.nextToken, hkept.spent ih.1 ih.2⟩

end Calls

/-! ### Exclusion -/

/-- From a state on, every lock that is taken excludes all who do not show its token, until it is
given back, and every token that has been given back is refused. -/
structure Exclusive (uses : H → List UInt32 → H → Prop) (client : Client H E) : Prop where
  /-- A reader excludes other readers. -/
  reader : ∀ {id token streams later},
    exec (Registry.getReader id) client.session.streams = (.ok token, streams) →
      Calls uses (fun before after => ¬ before.Frees (.readable id) token.number after)
        { client with
          session := { client.session with streams }
          readers := token :: client.readers } later →
        later.session.RefusesReaders id token
  /-- A writer excludes other writers. -/
  writer : ∀ {id token streams later},
    exec (Registry.getWriter id) client.session.streams = (.ok token, streams) →
      Calls uses (fun before after => ¬ before.Frees (.writable id) token.number after)
        { client with
          session := { client.session with streams }
          writers := token :: client.writers } later →
        later.session.RefusesWriters id token
  /-- A pipe that is still running excludes others from both its ends. -/
  pipe : ∀ {fuel source destination options id session},
    attempt (Session.pipeTo fuel source destination options) client.session =
      some (.ok id, session) →
        ∃ pipe, session.streams.pipe? id = some pipe ∧ (pipe.state = .running →
          (∀ later, Calls uses
            (fun before after => ¬ before.Frees (.readable source) pipe.reader.number after)
              (client.withSession session) later →
                later.session.RefusesReaders source pipe.reader) ∧
          ∀ later, Calls uses
            (fun before after => ¬ before.Frees (.writable destination) pipe.writer.number after)
              (client.withSession session) later →
                later.session.RefusesWriters destination pipe.writer)
  /-- A reader that has been released is refused. -/
  releasedReader : ∀ {allowed id token streams later}, token ∈ client.readers →
    exec (Registry.releaseReader id token) client.session.streams = (.ok (), streams) →
      Calls uses allowed (client.withSession { client.session with streams }) later →
        later.session.RejectsReader token
  /-- A writer that has been released is refused. -/
  releasedWriter : ∀ {allowed id token streams later}, token ∈ client.writers →
    exec (Registry.releaseWriter id token) client.session.streams = (.ok (), streams) →
      Calls uses allowed (client.withSession { client.session with streams }) later →
        later.session.RejectsWriter token
  /-- The tokens of a pipe that has come to an end are refused. -/
  finished : ∀ {allowed id pipe later}, client.session.streams.pipe? id = some pipe →
    pipe.state ≠ .running → Calls uses allowed client later →
      later.session.RejectsReader pipe.reader ∧ later.session.RejectsWriter pipe.writer
  /-- All tokens are refused once the registry has been cleared. -/
  cleared : ∀ {allowed later},
    Calls uses allowed (client.withSession (client.session.mapStreams Registry.clear)) later →
      (∀ token ∈ client.readers, later.session.RejectsReader token) ∧
      (∀ token ∈ client.writers, later.session.RejectsWriter token) ∧
      ∀ id pipe, client.session.streams.pipe? id = some pipe →
        later.session.RejectsReader pipe.reader ∧ later.session.RejectsWriter pipe.writer

theorem Sound.exclusive (hs : client.Sound) : client.Exclusive uses where
  reader hget hcalls := by
    have hstep : Step uses client _ := .getReader _ hget
    have hkept := hstep.keeps hs
    have hl := Registry.locks_getReader hget
    obtain ⟨rfl, -⟩ := Registry.of_exec_getReader hget
    exact Session.refusesReaders (hcalls.stays hkept.sound ((hl.holder _).trans (if_pos rfl)))
  writer hget hcalls := by
    have hstep : Step uses client _ := .getWriter _ hget
    have hkept := hstep.keeps hs
    have hl := Registry.locks_getWriter hget
    obtain ⟨rfl, -⟩ := Registry.of_exec_getWriter hget
    exact Session.refusesWriters (hcalls.stays hkept.sound ((hl.holder _).trans (if_pos rfl)))
  -- while the pipe runs it holds both locks, with tokens that nobody has been handed
  pipe := by
    intro fuel source destination options id session hpipe
    obtain ⟨pipe, hp, rfl, rfl⟩ := Session.pipe?_of_pipeTo hs.orderly.wellFormed hpipe
    refine ⟨pipe, hp, fun hr => ?_⟩
    have hpiped := (hs.of_respectsLocks (Session.respectsLocks_pipeTo hpipe)).sound
    obtain ⟨source, sink, hfound, hsink, hlock, hlock', -⟩ :=
      hpiped.orderly.inOrder.running id pipe hp hr
    exact ⟨fun later hcalls => Session.refusesReaders (hcalls.stays hpiped
        (Registry.holder?_readable.mpr ⟨source, hfound, hlock⟩)),
      fun later hcalls => Session.refusesWriters (hcalls.stays hpiped
        (Registry.holder?_writable.mpr ⟨sink, hsink, hlock'⟩))⟩
  -- a token that has been given back holds nothing now, and no stream takes it again
  releasedReader {allowed id token streams later} hmem hrelease hcalls := by
    have hheld := Registry.holder?_of_releaseReader hrelease
    obtain rfl : Registry.quietly (Registry.releaseReader id token) client.session.streams =
      streams := congrArg Prod.snd hrelease
    have hstep : Step uses client _ := .releaseReader id hmem
    have hkept := hstep.keeps hs
    have hold := (hs.single.old hheld).trans_le hkept.relocksTo.nextToken
    have hidle := Registry.idle_of_filter (Registry.holder?_releaseReader id token)
      fun name hname => hs.single.single hname hheld
    exact Session.rejectsReader (hcalls.idle hkept.sound hold hidle).2
  releasedWriter {allowed id token streams later} hmem hrelease hcalls := by
    have hheld := Registry.holder?_of_releaseWriter hrelease
    obtain rfl : Registry.quietly (Registry.releaseWriter id token) client.session.streams =
      streams := congrArg Prod.snd hrelease
    have hstep : Step uses client _ := .releaseWriter id hmem
    have hkept := hstep.keeps hs
    have hold := (hs.single.old hheld).trans_le hkept.relocksTo.nextToken
    have hidle := Registry.idle_of_filter (Registry.holder?_releaseWriter id token)
      fun name hname => hs.single.single hname hheld
    exact Session.rejectsWriter (hcalls.idle hkept.sound hold hidle).2
  finished {allowed id pipe later} hp hf hcalls := by
    have hspent : ∀ number, pipe.Uses number →
        ∀ name, later.session.streams.holder? name ≠ some number := fun number hu => by
      obtain ⟨hold, hheld⟩ := hs.orderly.used_old id pipe number hp hu
      refine (hcalls.idle hs hold (hs.orderly.idle hheld ?_)).2
      rintro ⟨other, found, hfound, hr, hu'⟩
      exact hs.orderly.finished_idle hp (fun hr => hf (Registry.isRunning_iff.mp hr)) hu other found
        hfound hr hu'
    exact ⟨Session.rejectsReader (hspent _ (.inl rfl)), Session.rejectsWriter (hspent _ (.inr rfl))⟩
  cleared {allowed later} hcalls := by
    have hstep : Step uses client _ := .operate .clear 0 rfl
    have hkept := hstep.keeps hs
    have hspent : ∀ number < client.session.streams.nextToken,
        ∀ name, later.session.streams.holder? name ≠ some number := fun number hold => by
      refine (hcalls.idle hkept.sound hold fun name hheld => ?_).2
      cases (Registry.holder?_clear name).symm.trans hheld
    refine ⟨fun token hmem => ?_, fun token hmem => ?_, fun id pipe hp => ⟨?_, ?_⟩⟩
    · exact Session.rejectsReader (hspent _ (hs.orderly.held_old _ (.inl hmem)))
    · exact Session.rejectsWriter (hspent _ (hs.orderly.held_old _ (.inr hmem)))
    · exact Session.rejectsReader (hspent _ (hs.orderly.used_old id pipe _ hp (.inl rfl)).1)
    · exact Session.rejectsWriter (hspent _ (hs.orderly.used_old id pipe _ hp (.inr rfl)).1)

/-- In every state that clients can reach, over any host and with any guests, locks exclude. -/
theorem exclusive_of_calls {host : H} {env : E} {config : StreamConfig}
    (h : Calls uses allowed (new host env config) client) : client.Exclusive uses :=
  (h.sound (sound_new host env config)).exclusive

/-- A stream over a host body is locked once more after a reader has been released. -/
theorem exclusive_of_calls_released :
    ∃ client : Client MemoryHost Unit,
      Calls (fun _ _ _ => True) (fun _ _ => True) (new {} () {}) client ∧
      (∃ streams, exec (Registry.getReader ⟨0, 0⟩) client.session.streams = (.ok ⟨2⟩, streams) ∧
        Session.RefusesReaders { client.session with streams } ⟨0, 0⟩ ⟨2⟩) ∧
      client.session.RejectsReader ⟨1⟩ := by
  have hmade : Calls (H := MemoryHost) (E := Unit) (fun _ _ _ => True) (fun _ _ => True)
      (new {} () {}) _ := .call .refl (.step (.operate (.bodySource ⟨1⟩) 0 rfl)) trivial
  have hlocked := hmade.call (.step (.getReader ⟨0, 0⟩ rfl)) trivial
  have hmem : (⟨1⟩ : ReaderToken) ∈ [(⟨1⟩ : ReaderToken)] := List.mem_singleton.mpr rfl
  have hreleased := hlocked.call (.step (.releaseReader ⟨0, 0⟩ hmem)) trivial
  refine ⟨_, hreleased, ⟨_, rfl, (exclusive_of_calls hreleased).reader rfl .refl⟩, ?_⟩
  exact (exclusive_of_calls hlocked).releasedReader hmem
    (rfl : exec (Registry.releaseReader ⟨0, 0⟩ ⟨1⟩) _ = _) (.refl : Calls _ (fun _ _ => True) _ _)

/-- A pipe into a locked stream is not refused because of the lock if its source is gone: that is
found out first. -/
theorem pipeTo_not_locked_of_source_gone :
    ¬ ∀ (client later : Client MemoryHost Unit) (id : WritableId) (token : WriterToken)
      (streams : Registry Unit),
      Calls (fun _ _ _ => True) (fun _ _ => True) (new {} () {}) client →
      exec (Registry.getWriter id) client.session.streams = (.ok token, streams) →
      Calls (fun _ _ _ => True)
        (fun before after => ¬ before.Frees (.writable id) token.number after)
        { client with
          session := { client.session with streams }
          writers := token :: client.writers } later →
      ∀ fuel source options r,
        attempt (Session.pipeTo fuel source id options) later.session = some r →
          r.1 = .error .locked ∨ r.1 = .error .notLockHolder := by
  intro h
  have hmade : Calls (H := MemoryHost) (E := Unit) (fun _ _ _ => True) (fun _ _ => True)
      (new {} () {}) _ :=
    .call (.call .refl (.step (.operate (.bodySource ⟨1⟩) 0 rfl)) trivial)
      (.step (.operate (.bodySink ⟨2⟩) 0 rfl)) trivial
  have hgone := (hmade.call (.step (.operate (.releaseReadable ⟨0, 0⟩) 0 rfl)) trivial).call
    (.step (.operate .sweep 0 rfl)) trivial
  have hrefused := h _ _ ⟨0, 0⟩ ⟨1⟩ _ hgone rfl .refl 1 ⟨0, 0⟩ {} (.error .released, _) rfl
  rcases hrefused with hlocked | hholder
  · cases hlocked
  · cases hholder

end Client

end EdgeStreams
