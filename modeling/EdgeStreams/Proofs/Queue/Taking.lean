import EdgeStreams.Host.Memory
import EdgeStreams.Proofs.Client.Locks
import EdgeStreams.Proofs.Queue.Passing
import EdgeStreams.Proofs.Session.Settled

/-!
# What a reader takes

While a stream is being read, nothing that happens behind it takes a chunk out of it: a pipe out of
the stream is the reader itself, and is being driven. So what the reads come to is what has been
delivered.

## Main definitions

- `Session.Undrawn`, `Session.Unpiped`: every pipe out of a stream is being driven, or there is none
- `Session.WithholdsChunks`: nothing has been taken out of a stream
- `Session.ReadInOrder`: what a read of a stream comes to

## Main statements

- `Session.flowWithholds`: the functions that make data flow, as far as they do not read the stream
- `Session.delivered_readUnchecked`: a read delivers what it comes to
- `Client.hands_of_leads`: from its making on, a stream hands on what has been queued
-/

namespace EdgeStreams

variable {H E : Type}

/-- The chunk that a read has come to. -/
def chunkRead : Except StreamError ReadOutcome → List Bytes
  | .ok (.chunk data) => [data]
  | _ => []

theorem chunkRead_orPending (found : Except StreamError (Option ReadOutcome)) :
    chunkRead (found.map Session.orPending) = chunkFound found := by
  cases found with
  | error error => rfl
  | ok found => rcases found with _ | ⟨data⟩ | _ | _ <;> rfl

/-- A pipe has the source that it had. If that is the stream, the pipe is driven as before. -/
structure Pipe.SameOutOf (id : ReadableId) (pipe pipe' : Pipe) : Prop where
  source : pipe'.source = pipe.source
  running : pipe'.isRunning → pipe.isRunning
  pumping : pipe.source = id → pipe'.pumping = pipe.pumping

theorem Pipe.SameOutOf.refl (id : ReadableId) (pipe : Pipe) : pipe.SameOutOf id pipe :=
  ⟨rfl, fun h => h, fun _ => rfl⟩

theorem Pipe.SameOutOf.trans {id : ReadableId} {first second third : Pipe}
    (h : first.SameOutOf id second) (h' : second.SameOutOf id third) : first.SameOutOf id third :=
  ⟨h'.source.trans h.source, h.running ∘ h'.running,
    fun he => (h'.pumping (h.source.trans he)).trans (h.pumping he)⟩

namespace Session

variable {id other : ReadableId} {s t u : Session H E}

/-! ### Nothing is taken -/

/-- Every running pipe out of the stream is being driven. -/
def Undrawn (id : ReadableId) (s : Session H E) : Prop :=
  ∀ name pipe, s.streams.pipe? name = some pipe → pipe.isRunning → pipe.source = id →
    pipe.pumping = true

/-- No running pipe leads out of the stream. -/
def Unpiped (id : ReadableId) (s : Session H E) : Prop :=
  ∀ name pipe, s.streams.pipe? name = some pipe → pipe.isRunning → pipe.source ≠ id

/-- The only pipe that can read a source is being driven. -/
theorem undrawn_of_driven {held spent : Set Nat} {name : PipeId} {pipe : Pipe}
    (ho : s.streams.Orderly held spent)
    (hp : s.streams.pipe? name = some { pipe with state := .running, pumping := true }) :
    Undrawn pipe.source s := by
  intro other found hother hr he
  cases ho.source_inj hother hr hp rfl he
  cases hother.symm.trans hp
  rfl

theorem Unpiped.undrawn (h : Unpiped id s) : Undrawn id s :=
  fun name pipe hp hr he => absurd he (h name pipe hp hr)

/-- Nothing has been taken out of the stream, and the pipes out of it are driven as before. -/
structure WithholdsChunks (id : ReadableId) (s t : Session H E) : Prop where
  delivered : t.delivered id = s.delivered id
  pipe : ∀ name, Option.Rel (Pipe.SameOutOf id) (s.streams.pipe? name) (t.streams.pipe? name)

namespace WithholdsChunks

theorem of_pipes (hd : t.delivered id = s.delivered id) (hp : t.streams.pipes = s.streams.pipes) :
    WithholdsChunks id s t :=
  ⟨hd, fun name => Registry.pipe?_congr hp name ▸ SlotMap.rel_refl (Pipe.SameOutOf.refl id) _⟩

theorem refl (id : ReadableId) (s : Session H E) : WithholdsChunks id s s := of_pipes rfl rfl

theorem trans (h : WithholdsChunks id s t) (h' : WithholdsChunks id t u) :
    WithholdsChunks id s u where
  delivered := h'.delivered.trans h.delivered
  pipe name := by
    have hfirst := h.pipe name
    have hsecond := h'.pipe name
    generalize s.streams.pipe? name = first at hfirst ⊢
    generalize t.streams.pipe? name = second at hfirst hsecond
    generalize u.streams.pipe? name = third at hsecond ⊢
    cases hfirst with
    | none => exact hsecond
    | some hfirst =>
      cases hsecond with
      | some hsecond => exact .some (hfirst.trans hsecond)

theorem undrawn (h : WithholdsChunks id s t) (hu : Undrawn id s) : Undrawn id t := by
  intro name pipe' hp' hr hsource
  obtain ⟨pipe, hp, hsame_pipe⟩ := SlotMap.rel_some_right (hp' ▸ h.pipe name)
  have hsame := hsame_pipe.source.symm.trans hsource
  exact (hsame_pipe.pumping hsame).trans (hu name pipe hp (hsame_pipe.running hr) hsame)

/-- A call on a source or a sink is entered in the journal. -/
theorem note (h : WithholdsChunks id s t) {event : StreamEvent} (he : event.isCall = true) :
    WithholdsChunks id s (note event t) := h.trans (of_pipes (delivered_note he id t) rfl)

theorem setSource (h : WithholdsChunks id s t) (other : ReadableId) (source : Source E) :
    WithholdsChunks id s (setSource other source t) := h.trans (of_pipes rfl rfl)

theorem noteEnqueued (h : WithholdsChunks id s t) (other : ReadableId) (chunks : List Bytes) :
    WithholdsChunks id s (noteEnqueued other chunks t) :=
      h.trans (of_pipes (delivered_noteEnqueued ..) rfl)

/-- A pipe starts or stops being driven. -/
theorem drive (h : WithholdsChunks id s t) {name : PipeId} {pipe : Pipe}
    (hp : t.streams.pipe? name = some pipe) (pumping : Bool) (hne : pipe.source ≠ id) :
    WithholdsChunks id s
    (mapStreams (fun streams => streams.setPipe name { pipe with pumping }) t) := by
  refine h.trans ⟨rfl, fun other => ?_⟩
  rw [streams_mapStreams, Registry.pipe?_setPipe]
  split
  · next he =>
    rw [he, hp]
    exact .some ⟨rfl, fun hr => hr, fun he => absurd he hne⟩
  · exact SlotMap.rel_refl (Pipe.SameOutOf.refl id) _

theorem finish (h : WithholdsChunks id s t) (name : PipeId) {state : PipeState}
    (hstate : state ≠ .running) : WithholdsChunks id s (pipeFinished name state t) := by
  refine h.trans ⟨rfl, fun other => ?_⟩
  by_cases hrun : ∃ pipe, t.streams.pipe? name = some pipe ∧ pipe.isRunning
  · obtain ⟨pipe, hp, hr⟩ := hrun
    rw [pipeFinished, streams_mapStreams, Registry.pipe?_finishPipe state hp hr]
    split
    · next he =>
      rw [he, hp]
      exact .some ⟨rfl, fun hr => absurd (beq_iff_eq.mp hr) hstate, fun _ => rfl⟩
    · exact SlotMap.rel_refl (Pipe.SameOutOf.refl id) _
  · rw [pipeFinished, streams_mapStreams, Registry.finishPipe_of_not_running]
    · exact SlotMap.rel_refl (Pipe.SameOutOf.refl id) _
    · exact fun pipe hp hr => hrun ⟨pipe, hp, hr⟩

end WithholdsChunks

theorem pipes_takeReady (id : ReadableId) (s : Session H E) :
    (exec (takeReady id) s).2.streams.pipes = s.streams.pipes := by
  cases hs : s.streams.source? id with
  | none => simp [takeReady, exec_bind, hs]
  | some source => simp [exec_takeReady hs]

theorem withholdsChunks_takeReady (hne : other ≠ id) (s : Session H E) :
    WithholdsChunks id s (exec (takeReady other) s).2 := by
  refine .of_pipes ?_ (pipes_takeReady other s)
  cases hs : s.streams.source? other with
  | none => simp [takeReady, exec_bind, hs]
  | some source =>
    rw [exec_takeReady hs, delivered_noteDelivered, if_neg hne]
    rfl

section Flow

variable [Host H]

/-- Work on a stream delivers nothing. By induction on the changes. -/
theorem ChangesWithin.withholdsChunks {f : Footprint} (h : ChangesWithin f s t) (id : ReadableId) :
    WithholdsChunks id s t := by
  refine .of_pipes ?_ h.pipes_eq
  induction h with
  | refl => rfl
  | @note t event _ hconcerns _ ih =>
    refine Eq.trans ?_ ih
    cases event with
    | delivered => exact hconcerns.elim
    | _ => rfl
  | setSource _ _ _ _ _ ih | setSink _ _ _ _ ih | setBridge _ _ _ _ ih | env _ _ ih
  | call _ _ _ ih => exact ih

theorem withholdsChunks_pullBody (id other : ReadableId) (handle : BodyHandle) (size : UInt64)
    (s : Session H E) : WithholdsChunks id s (exec (pullBody other handle size) s).2 := by
  have hkept : Preserves (WithholdsChunks id s) (pullBody other handle size) := by
    refine .bind (fun t h => h.trans (.of_pipes rfl rfl)) fun chunk =>
      .source fun t source h _ => ?_
    split
    · exact h.setSource other _
    · exact (h.setSource other _).noteEnqueued other _
  exact hkept s (.refl id s)

omit [Host H] in
theorem withholdsChunks_pullScript (id other : ReadableId) (guest : UnderlyingSource E)
    (s : Session H E) : WithholdsChunks id s (exec (pullScript other guest) s).2 := by
  have hkept : Preserves (WithholdsChunks id s) (pullScript other guest) := by
    refine .source fun t source h _ => ?_
    have henv : ∀ env, WithholdsChunks id s { t with env } := fun _ => h.trans (.of_pipes rfl rfl)
    exact ((henv _).setSource other _).noteEnqueued other _
  exact hkept s (.refl id s)

/-! ### The functions that call each other -/

/-- With some fuel, whatever there is an outcome of takes nothing out of a stream, unless it reads
the stream itself. -/
structure FlowWithholds (H E : Type) [Host H] (id : ReadableId) (fuel : Nat) : Prop where
  readUnchecked {s : Session H E} {other : ReadableId}
    {r : Except StreamError ReadOutcome × Session H E} : Undrawn id s → other ≠ id →
    attempt (Session.readUnchecked fuel other) s = some r → WithholdsChunks id s r.2
  pullIfNeeded {s : Session H E} {other : ReadableId} {readerWaits : Bool}
    {r : Unit × Session H E} : Undrawn id s →
    EdgeStreams.drive (Session.pullIfNeeded fuel other readerWaits) s = some r →
    WithholdsChunks id s r.2
  pull {s : Session H E} {other : ReadableId} {r : Except StreamError Unit × Session H E} :
    Undrawn id s → attempt (Session.pull fuel other) s = some r → WithholdsChunks id s r.2
  pumpPipe {s : Session H E} {name : PipeId} {r : Nat × Session H E} : Undrawn id s →
    EdgeStreams.drive (Session.pumpPipe fuel name) s = some r → WithholdsChunks id s r.2
  pumpSteps {s : Session H E} {name : PipeId} {pipe : Pipe} {steps : Nat} {r : Nat × Session H E} :
    Undrawn id s → pipe.source ≠ id →
      EdgeStreams.drive (Session.pumpSteps fuel name pipe steps) s = some r →
      WithholdsChunks id s r.2

namespace FlowWithholds

theorem zero : FlowWithholds H E id 0 where
  readUnchecked _ _ h := by cases h
  pullIfNeeded _ h := by cases h
  pull _ h := by cases h
  pumpPipe _ h := by cases h
  pumpSteps _ _ h := by cases h

variable {fuel : Nat} (ih : FlowWithholds H E id fuel)
include ih

theorem readUnchecked_succ {r : Except StreamError ReadOutcome × Session H E} (hu : Undrawn id s)
    (hne : other ≠ id) (h : attempt (Session.readUnchecked (fuel + 1) other) s = some r) :
    WithholdsChunks id s r.2 := by
  cases hs : s.streams.source? other with
  | none => exact readUnchecked_of_gone hs h ▸ .refl id s
  | some source =>
    have hmarked : WithholdsChunks id s (disturb other source s) :=
      (WithholdsChunks.refl id s).setSource other _
    have htaken := hmarked.trans (withholdsChunks_takeReady hne _)
    rcases readUnchecked_keeps (WithholdsChunks id s) hs h hmarked
      (fun t ht => ht.trans (withholdsChunks_takeReady hne t)) fun waits t _ hpull =>
        htaken.trans (ih.pullIfNeeded (htaken.undrawn hu) hpull) with heq | hread
    · exact heq ▸ .refl id s
    · exact hread

theorem pullIfNeeded_succ {readerWaits : Bool} {r : Unit × Session H E} (hu : Undrawn id s)
    (h : EdgeStreams.drive (Session.pullIfNeeded (fuel + 1) other readerWaits) s = some r) :
    WithholdsChunks id s r.2 := by
  cases hs : s.streams.source? other with
  | none => exact pullIfNeeded_of_gone hs h ▸ .refl id s
  | some source =>
    rcases pullIfNeeded_cases hs h with ⟨-, rfl⟩ | ⟨-, ⟨-, rfl⟩ | ⟨-, result, t, hpull, hafter⟩⟩
    · exact .refl id s
    · exact (WithholdsChunks.refl id s).setSource other _
    have hbegan : WithholdsChunks id s
        (note (.pullBegan other) (setSource other { source with pulling := true } s)) :=
      ((WithholdsChunks.refl id s).setSource other _).note rfl
    have hended : WithholdsChunks id s (note (.pullEnded other result) t) :=
      (hbegan.trans (ih.pull (hbegan.undrawn hu) hpull)).note rfl
    cases hafter with
    | gone => exact hended
    | failed error last => exact hended.setSource other _
    | settled last => exact hended.setSource other _
    | again last _ _ hrest =>
      have hagain := hended.setSource other { last with pulling := false, pullAgain := false }
      exact hagain.trans (ih.pullIfNeeded (hagain.undrawn hu) hrest)

theorem pull_succ {r : Except StreamError Unit × Session H E} (hu : Undrawn id s)
    (h : attempt (Session.pull (fuel + 1) other) s = some r) : WithholdsChunks id s r.2 := by
  rw [attempt_pull] at h
  cases hs : s.streams.source? other with
  | none =>
    simp only [hs, Option.some.injEq] at h
    exact h ▸ .refl id s
  | some source =>
    simp only [hs] at h
    cases hb : source.backing with
    | body handle size =>
      simp only [hb, Option.some.injEq] at h
      exact h ▸ withholdsChunks_pullBody id other handle size s
    | script guest =>
      simp only [hb, Option.some.injEq] at h
      exact h ▸ withholdsChunks_pullScript id other guest s
    | transform bridgeId =>
      simp only [hb] at h
      cases hbridge : s.streams.bridge? bridgeId with
      | none =>
        simp only [hbridge, Option.some.injEq] at h
        exact h ▸ .refl id s
      | some bridge =>
        simp only [hbridge] at h
        have hasked : WithholdsChunks id s
            (setBridge bridgeId { bridge with pullRequested := true } s) :=
          .of_pipes rfl rfl
        split at h
        · obtain ⟨pumped, hpump, rfl⟩ := Option.map_eq_some_iff.mp h
          exact hasked.trans (ih.pumpPipe (hasked.undrawn hu) hpump)
        · simp only [Option.some.injEq] at h
          exact h ▸ hasked

/-- A pipe that is not being driven does not lead out of the stream. -/
theorem pumpPipe_succ {name : PipeId} {r : Nat × Session H E} (hu : Undrawn id s)
    (h : EdgeStreams.drive (Session.pumpPipe (fuel + 1) name) s = some r) :
    WithholdsChunks id s r.2 := by
  rcases pumpPipe_cases h with ⟨-, rfl⟩ | ⟨pipe, steps, t, hp, hr, hparked, hsteps, rfl⟩
  · exact .refl id s
  have hne : pipe.source ≠ id := by
    intro he
    rw [hu name pipe hp hr he] at hparked
    cases hparked
  have hdriven := (WithholdsChunks.refl id s).drive hp true hne
  have hpumped := hdriven.trans (ih.pumpSteps (hdriven.undrawn hu) hne hsteps)
  simp only [mapStreams, parked]
  cases ht : t.streams.pipe? name with
  | none => exact hpumped
  | some pipe' =>
    obtain ⟨found, hfound, hsame⟩ := SlotMap.rel_some_right (ht ▸ hpumped.pipe name)
    rw [hp] at hfound
    cases hfound
    exact hpumped.drive ht false (hsame.source ▸ hne)

theorem pumpSteps_succ {name : PipeId} {pipe : Pipe} {steps : Nat} {r : Nat × Session H E}
    (hu : Undrawn id s) (hne : pipe.source ≠ id)
    (h : EdgeStreams.drive (Session.pumpSteps (fuel + 1) name pipe steps) s = some r) :
    WithholdsChunks id s r.2 := by
  rcases pumpSteps_cases h with ⟨error, -, rfl⟩ | ⟨-, ⟨-, rfl⟩ | ⟨-, found, t, hread, hfound⟩⟩
  · obtain ⟨t, htouches, heq⟩ := failPipe_eq name pipe error s
    exact heq ▸ (htouches.withholdsChunks id).finish name (by simp)
  · exact .refl id s
  have hkept : WithholdsChunks id s t := by
    rcases readByPipe_cases hread with hread | ⟨rfl, -⟩
    · exact ih.readUnchecked hu hne hread
    · exact .refl id _
  have hwrites : ∀ {data outcome u}, exec (write pipe.destination data (some pipe.writer)) t =
      (outcome, u) → WithholdsChunks id s u := by
    intro data outcome u hwrite
    have htouches := changesWithin_write t pipe.destination data (some pipe.writer)
    rw [hwrite] at htouches
    exact hkept.trans (htouches.withholdsChunks id)
  cases hfound with
  | starved => exact hkept
  | failed error =>
    exact (hkept.trans ((changesWithin_abortDestination pipe t).withholdsChunks id)).finish name
      (by simp)
  | drained =>
    obtain ⟨hcloses, hstopped⟩ := changesWithin_closeDestination pipe t
    exact (hkept.trans (hcloses.withholdsChunks id)).finish name hstopped
  | refused data error u hwrite =>
    have hcancels := changesWithin_cancelSource pipe u
    exact ((hwrites hwrite).trans (hcancels.withholdsChunks id)).finish name (by simp)
  | carried data u hwrite hrest =>
    have hwritten := hwrites hwrite
    exact hwritten.trans (ih.pumpSteps (hwritten.undrawn hu) hne hrest)

end FlowWithholds

/-- By induction on the fuel. -/
theorem flowWithholds (id : ReadableId) (fuel : Nat) : FlowWithholds H E id fuel := by
  induction fuel with
  | zero => exact .zero
  | succ fuel ih =>
    exact ⟨ih.readUnchecked_succ, ih.pullIfNeeded_succ, ih.pull_succ, ih.pumpPipe_succ,
      ih.pumpSteps_succ⟩

theorem withholdsChunks_pumpEach {fuel : Nat} {pipes : List PipeId} {r : Nat × Session H E}
    (hu : Undrawn id s) (h : EdgeStreams.drive (pumpEach fuel pipes) s = some r) :
    WithholdsChunks id s r.2 := by
  induction pipes generalizing s r with
  | nil =>
    simp only [drive_pumpEach_nil, Option.some.injEq] at h
    exact h ▸ .refl id s
  | cons name rest ih =>
    rw [drive_pumpEach_cons] at h
    obtain ⟨driven, hdriven, h⟩ := Option.bind_eq_some_iff.mp h
    obtain ⟨others, hothers, rfl⟩ := Option.map_eq_some_iff.mp h
    have hkept := (flowWithholds id fuel).pumpPipe hu hdriven
    exact hkept.trans (ih (r := others) (hkept.undrawn hu) hothers)

/-- Driving all pipes takes nothing out of a stream out of which none of them leads. By induction on
the rounds. -/
theorem withholdsChunks_pump {fuel : Nat} {r : Nat × Session H E} (hu : Undrawn id s)
    (h : EdgeStreams.drive (pump fuel) s = some r) : WithholdsChunks id s r.2 := by
  induction fuel generalizing s r with
  | zero => cases h
  | succ fuel ih =>
    rw [drive_pump] at h
    obtain ⟨round, hround, h⟩ := Option.bind_eq_some_iff.mp h
    have hkept := withholdsChunks_pumpEach (r := round) hu hround
    split at h
    · simp only [Option.some.injEq] at h
      exact h ▸ hkept
    · obtain ⟨others, hothers, rfl⟩ := Option.map_eq_some_iff.mp h
      exact hkept.trans (ih (r := others) (hkept.undrawn hu) hothers)

/-! ### What a read comes to -/

omit [Host H] in
/-- A reader finds a chunk, which it takes, or the end of a stream that has ended. -/
theorem delivered_takeReady (id : ReadableId) (s : Session H E) :
    (exec (takeReady id) s).2.delivered id =
        chunkRead ((exec (takeReady id) s).1.map orPending) ++ s.delivered id ∧
      ((exec (takeReady id) s).1.map orPending = .ok .done → ∃ source,
        (exec (takeReady id) s).2.streams.source? id = some source ∧
          source.controller.state = .closed) := by
  rw [chunkRead_orPending]
  cases hs : s.streams.source? id with
  | none =>
    simp only [takeReady, exec_bind, exec_source, hs]
    exact ⟨rfl, fun h => by cases h⟩
  | some source =>
    rw [source?_takeReady hs, exec_takeReady hs]
    refine ⟨(delivered_noteDelivered ..).trans (by rw [if_pos rfl]; rfl), fun hend => ⟨_, rfl, ?_⟩⟩
    have hdone := ready_of_orPending hend (by simp)
    cases hstate : source.controller.state with
    | closed => simp [ReadableController.takeReady, hstate]
    | errored error => simp [ReadableController.takeReady, hstate] at hdone
    | readable =>
      simp only [ReadableController.takeReady, hstate] at hdone
      split at hdone <;> simp at hdone

/-- A read delivers the chunk that it comes to, and nothing else. It comes to an end only if the
stream has ended. -/
theorem delivered_readUnchecked {fuel : Nat} {r : Except StreamError ReadOutcome × Session H E}
    (hu : Undrawn id s) (h : attempt (readUnchecked fuel id) s = some r) :
    r.2.delivered id = chunkRead r.1 ++ s.delivered id ∧
      (r.1 = .ok .done → ∃ source, r.2.streams.source? id = some source ∧
        source.controller.state = .closed) := by
  cases fuel with
  | zero => cases h
  | succ fuel =>
    cases hs : s.streams.source? id with
    | none => exact readUnchecked_of_gone hs h ▸ ⟨rfl, nofun⟩
    | some source =>
      rcases readUnchecked_cases hs h with ⟨-, rfl⟩ | ⟨error, -, rfl⟩ | ⟨-, found, t, htake, hfound⟩
      · exact ⟨rfl, nofun⟩
      · exact ⟨rfl, nofun⟩
      have hmarked : WithholdsChunks id s (disturb id source s) :=
        (WithholdsChunks.refl id s).setSource id _
      have htaken := delivered_takeReady id (disturb id source s)
      have hpipes := pipes_takeReady id (disturb id source s)
      rw [hmarked.delivered] at htaken
      simp only [htake] at htaken hpipes
      -- a pull takes nothing out, since all pipes out of the stream are being driven
      have hpulls : ∀ {waits u}, EdgeStreams.drive (pullIfNeeded fuel id waits) t = some ((), u) →
          u.delivered id = t.delivered id := fun hpull => by
        have hundrawn : Undrawn id t := fun name pipe hp =>
          hmarked.undrawn hu name pipe ((Registry.pipe?_congr hpipes name).symm.trans hp)
        exact ((flowWithholds id fuel).pullIfNeeded hundrawn hpull).delivered
      cases hfound with
      | settled => exact htaken
      | full data u hpull => exact ⟨(hpulls hpull).trans htaken.1, nofun⟩
      | empty u hpull =>
        have hlate := delivered_takeReady id u
        rwa [hpulls hpull, htaken.1] at hlate

/-- What a read of a stream comes to, when it begins in one session. Since an earlier session, the
stream has passed its chunks on in order, and the read has delivered what it comes to. An end is
that of a stream that has been cancelled, or that its source has closed and that has delivered
everything. -/
structure ReadInOrder (id : ReadableId) (first u : Session H E)
    (r : Except StreamError ReadOutcome × Session H E) : Prop where
  passedInOrder : PassedInOrder id first r.2
  delivered : r.2.delivered id = chunkRead r.1 ++ u.delivered id
  done : r.1 = .ok .done → ∃ source, r.2.streams.source? id = some source ∧
    source.controller.state = .closed ∧ (source.canceled = true ∨
      source.controller.closeRequested = true ∧ ∃ put, r.2.enqueued id = put ++ first.enqueued id ∧
        r.2.delivered id = put ++ first.delivered id)

theorem readInOrder_readUnchecked {first : Session H E} {fuel : Nat}
    {r : Except StreamError ReadOutcome × Session H E} (hc : u.streams.Composed)
    (h : PassedInOrder id first u) (hu : Undrawn id u)
    (hr : attempt (readUnchecked fuel id) u = some r) :
    ReadInOrder id first u r := by
  obtain ⟨hdelivered, hdone⟩ := delivered_readUnchecked hu hr
  have hafter := ((flowDeeds fuel).readUnchecked hc hr).passedInOrder hc h
  refine ⟨hafter, hdelivered, fun hend => ?_⟩
  obtain ⟨source, hs, hclosed⟩ := hdone hend
  obtain ⟨put, taken, hput, htaken, hpassed⟩ := hafter
  rw [hs] at hpassed
  cases hpassed with
  | lives hq =>
    refine ⟨source, hs, hclosed, ?_⟩
    cases hcanceled : source.canceled with
    | true => exact .inl rfl
    | false =>
      have hrequested := (hq.closed hclosed).resolve_left (by simp [hcanceled])
      exact .inr ⟨hrequested, put, hput, hq.eq_of_closed hclosed hcanceled ▸ htaken⟩

/-- A read that the stream's lock refuses comes to nothing. -/
theorem readInOrder_read {first : Session H E} {fuel : Nat} {token : Option ReaderToken}
    {r : Except StreamError ReadOutcome × Session H E} (hc : u.streams.Composed)
    (h : PassedInOrder id first u)
    (hu : ∀ source, u.streams.source? id = some source →
      Registry.admits source.readerLock token = .ok () → Undrawn id u)
    (hr : attempt (read fuel id token) u = some r) : ReadInOrder id first u r := by
  simp only [read, attempt_bind, attempt_finite, exec_onStreams, Registry.exec_checkReader,
    Option.bind_some] at hr
  split at hr
  · next hadmits =>
    obtain ⟨source, hs, hlock⟩ : ∃ source, u.streams.source? id = some source ∧
        Registry.admits source.readerLock token = .ok () := by
      cases hs : u.streams.source? id with
      | none => simp [hs, Registry.need, Except.bind] at hadmits
      | some source => exact ⟨source, rfl, by simpa [hs, Except.bind] using hadmits⟩
    exact readInOrder_readUnchecked hc h (hu source hs hlock) hr
  · simp only [Option.some.injEq] at hr
    exact hr ▸ ⟨h, rfl, fun hdone => by cases hdone⟩

end Flow

/-- No pipe runs out of a stream that a client may read. -/
theorem unpiped_of_admits {held spent : Set Nat} {source : Source E} {token : Option ReaderToken}
    (h : s.streams.Orderly held spent) (hs : s.streams.source? id = some source)
    (hlock : Registry.admits source.readerLock token = .ok ())
    (hheld : ∀ t, token = some t → t.number ∈ held) : Unpiped id s := by
  intro name pipe hp hr hsource
  obtain ⟨found, hfound, hlocked, -⟩ := (h.holds name pipe hp hr).source
  rw [hsource, hs] at hfound
  cases hfound
  rw [hlocked] at hlock
  cases token with
  | none => cases hlock
  | some t =>
    simp only [Registry.admits] at hlock
    split at hlock
    · next hsame =>
      cases hsame
      exact (h.used_old name pipe _ hp (.inl rfl)).2 (hheld _ rfl)
    · cases hlock

end Session

namespace Client

open Session

variable [Host H] {uses : H → List UInt32 → H → Prop} {id : ReadableId}

/-- What clients do is what is done to their sessions. By induction on the operations. -/
theorem LeadsTo.reaches {client later : Client H E} {R : Session H E → Session H E → Prop}
    (h : LeadsTo uses (fun before after => R before.session after.session) client later) :
    Reaches R client.session later.session := by
  induction h with
  | refl => exact .refl
  | step _ hstep hallowed ih => exact ih.step hstep.operationStep hallowed

/-- From the time when a stream is made, whatever clients do: it has delivered the chunks that it
has queued, in order, each once and none of them empty. What has not been delivered waits in its
queue, or the stream has failed or been cancelled. So it is while an operation is under way. What a
guest's pull queues is what the guest's calls have queued. A read by a client, or by a pipe that is
being driven, delivers what it comes to. It comes to an end only if the stream has been cancelled,
or if its source has closed it and everything has been delivered. -/
theorem hands_of_leads {host : H} {env : E} {config : StreamConfig} {client made later : Client H E}
    {source : Source E} {allowed : Client H E → Client H E → Prop}
    (hbefore : LeadsTo uses allowed (new host env config) client) (hmade : Step uses client made)
    (hnone : client.session.streams.source? id = none)
    (hsome : made.session.streams.source? id = some source)
    (hlater : LeadsTo uses (fun before after => KeepsSource id before.session after.session)
      made later) :
    PassedInOrder id client.session later.session ∧
      (∀ {fuel token r}, (∀ t, token = some t → t ∈ later.readers) →
        attempt (read fuel id token) later.session = some r →
          ReadInOrder id client.session later.session r) ∧
      ∀ {calls u}, Course later.session calls u → PassedInOrder id client.session u ∧
        (∀ {guest held}, u.streams.source? id = some held →
          (exec (pullScript id guest) u).2.enqueued id =
            ((guest.pull u.env).calls SourceDesk.perform
              { controller := held.controller }).filterMap SourceCall.queued? ++ u.enqueued id) ∧
        ∀ {fuel pipe r}, pipe.source = id → Undrawn id u →
        attempt (readByPipe fuel pipe) u = some r →
          ReadInOrder id client.session u r := by
  have hresting := hbefore.resting (resting_new host env config)
  have horderly := hlater.orderly (hmade.orderly (hbefore.orderly (orderly_new host env config)))
  have hlast := hlater.resting (hmade.operationStep.resting hresting)
  have hinOrder : PassedInOrder id client.session later.session :=
    hlater.reaches.passedInOrder (hmade.operationStep.resting hresting)
      (hmade.operationStep.passedInOrder_made hresting hnone hsome)
  refine ⟨hinOrder, fun {fuel token r} htoken hr => ?_, fun {calls u} hcourse => ?_⟩
  · refine readInOrder_read hlast.composed hinOrder (fun found hfound hlock => ?_) hr
    exact (unpiped_of_admits horderly hfound hlock fun t ht => .inl (htoken t ht)).undrawn
  · have hu := hcourse.passedInOrder hlast.composed hinOrder
    refine ⟨hu, fun hheld => enqueued_pullScript hheld _, fun {fuel pipe r} he hundrawn hr => ?_⟩
    subst he
    exact readInOrder_read (hcourse.composed hlast.composed) hu (fun _ _ _ => hundrawn) hr

/-- A guest queues a chunk, drops an empty one and closes. A read takes the chunk, and the next one
comes to the end. -/
theorem hands_of_leads_read_out :
    ∃ (client made later : Client MemoryHost Unit)
      (r : Except StreamError ReadOutcome × Session MemoryHost Unit),
      client.session.streams.source? ⟨0, 0⟩ = none ∧ made.session.delivered ⟨0, 0⟩ = [] ∧
      later.session.enqueued ⟨0, 0⟩ = [[1]] ∧ later.session.delivered ⟨0, 0⟩ = [[1]] ∧
      attempt (read 9 ⟨0, 0⟩ none) later.session = some r ∧ r.1 = .ok .done ∧
      ReadInOrder ⟨0, 0⟩ client.session later.session r := by
  obtain ⟨guest, hguest⟩ : ∃ guest : UnderlyingSource Unit, guest =
      { pull := fun env => .call (.enqueue [1]) fun _ => .call (.enqueue []) fun _ =>
          .call .close fun outcome => .done (outcome, env) } := ⟨_, rfl⟩
  obtain ⟨client, hclient⟩ : ∃ client : Client MemoryHost Unit, client = new {} () {} := ⟨_, rfl⟩
  obtain ⟨made, hmade⟩ :
      ∃ made, made = client.withSession (scriptSource guest 1 client.session).2 :=
    ⟨_, rfl⟩
  -- the session after the first read, written out
  obtain ⟨after, hafter⟩ : ∃ after : Session MemoryHost Unit, after =
      { host := {}, env := ()
        streams := ((Registry.new {}).addSource
          { backing := .script guest, disturbed := true
            controller := { highWaterMark := 1, state := .closed, closeRequested := true } }).2
        journal := [.delivered ⟨0, 0⟩ [1], .pullEnded ⟨0, 0⟩ (.ok ()), .enqueued ⟨0, 0⟩ [1],
          .pullBegan ⟨0, 0⟩, .sourceStarted ⟨0, 0⟩ (.ok ())] } := ⟨_, rfl⟩
  have hnew : LeadsTo (fun _ _ _ => True) (fun _ _ => True) (new {} () {}) client := hclient ▸ .refl
  have hmakes : Step (fun _ _ _ => True) client made :=
    hmade ▸ .operate (.scriptSource guest 1) 0 rfl
  have hnone : client.session.streams.source? ⟨0, 0⟩ = none := by
    rw [hclient]
    rfl
  obtain ⟨source, hsome, hempty⟩ : ∃ source, made.session.streams.source? ⟨0, 0⟩ = some source ∧
      made.session.delivered ⟨0, 0⟩ = [] := by
    rw [hmade, hclient, hguest]
    exact ⟨_, rfl, rfl⟩
  have hread : StreamOp.after 9 made.session (.read ⟨0, 0⟩ none) = some after := by
    rw [hafter, hmade, hclient, hguest]
    rfl
  have hchunk : after.enqueued ⟨0, 0⟩ = [[1]] ∧ after.delivered ⟨0, 0⟩ = [[1]] := by
    rw [hafter]
    exact ⟨rfl, rfl⟩
  obtain ⟨held, hfound, hverdict, hlock⟩ : ∃ held, after.streams.source? ⟨0, 0⟩ = some held ∧
      held.verdict? = some (.ok .done) ∧ Registry.admits held.readerLock none = .ok () := by
    rw [hafter]
    exact ⟨_, rfl, rfl, rfl⟩
  obtain ⟨last, hend⟩ := attempt_read_of_verdict hfound hverdict hlock 8
  have hkeeps : KeepsSource ⟨0, 0⟩ made.session after := by
    intro hgone
    rw [hsome] at hgone
    cases hgone
  have hlater : LeadsTo (fun _ _ _ => True)
      (fun before after => KeepsSource ⟨0, 0⟩ before.session after.session) made
        (made.withSession after) :=
    .step .refl (.operate (.read ⟨0, 0⟩ none) 9 hread) hkeeps
  have hheld : ∀ t, (none : Option ReaderToken) = some t →
      t ∈ (made.withSession after).readers := nofun
  obtain ⟨-, hreads, -⟩ := hands_of_leads hnew hmakes hnone hsome hlater
  exact ⟨client, made, made.withSession after, (.ok .done, last), hnone, hempty, hchunk.1, hchunk.2,
    hend, rfl, hreads hheld hend⟩

end Client

end EdgeStreams
