import EdgeStreams.Proofs.Piping.Waiting

/-!
# Pulls that come with a chunk

A read that gives a chunk also has the source pulled if there is room for more. A chunk that was
queued leaves the queue first, and the pull after it may queue more. A chunk that was not queued has
been brought by a pull, and then no other pull follows: the queue may be left with room, and nothing
is read ahead.

## Main definitions

- `Session.Primed`: what a read has left behind that has given a chunk

## Main statements

- `Session.pulled_of_pullIfNeeded`: a source that a pull is of use to is pulled
- `Session.pulled_of_room`, `Session.primed_of_empty`: the two branches of a read
- `Client.primed_of_leads`: a read in any state that clients can reach
-/

namespace EdgeStreams

variable {H E : Type}

namespace ReadableController

variable {controller : ReadableController}

/-- A chunk that a reader finds at once is the first of the queue. -/
theorem head?_of_takeReady {data : Bytes} (h : controller.takeReady.1 = .ok (some (.chunk data))) :
    controller.queue.head? = some data := by
  cases hstate : controller.state with
  | errored | closed => simp [takeReady, hstate] at h
  | readable =>
    cases hqueue : controller.queue with
    | nil => simp [takeReady, hstate, dequeue, hqueue] at h
    | cons chunk rest =>
      simp only [takeReady, hstate, dequeue, hqueue, Except.ok.injEq, Option.some.injEq,
        ReadOutcome.chunk.injEq] at h
      rw [List.head?_cons, h]

end ReadableController

namespace Source

variable {source : Source E}

/-- A pull is of use to a source that may be pulled and has room for more. -/
theorem Pullable.wantsPull {room : Int} (h : source.Pullable)
    (hroom : source.controller.desiredSize = some room) (hpos : 0 < room) (waits : Bool) :
    source.wantsPull waits = true := by
  simp [Source.wantsPull, StartState.isResolved, h.started, h.uncanceled, h.unended, h.readable,
    hroom, hpos]

end Source

namespace Session

variable [Host H] {s t : Session H E} {id : ReadableId} {source : Source E} {fuel : Nat}

/-- Whatever the pull comes to, the journal only grows. -/
theorem pulled_of_pullIfNeeded {waits : Bool} {r : Unit × Session H E}
    (hs : s.streams.source? id = some source) (hd : source.disturbed = true)
    (hidle : source.pulling = false) (hw : source.wantsPull waits = true)
    (h : drive (pullIfNeeded fuel id waits) s = some r) :
    ∃ new, r.2.journal = new ++ .pullBegan id :: s.journal := by
  cases fuel with
  | zero => cases h
  | succ fuel =>
    rcases pullIfNeeded_cases hs h with
      ⟨huseless, -⟩ | ⟨-, ⟨hpulling, -⟩ | ⟨-, outcome, u, hpull, hover⟩⟩
    · cases hw.symm.trans huseless
    · cases hidle.symm.trans hpulling
    have hdisturbed : (note (.pullBegan id) (setSource id { source with pulling := true } s)
        ).streams.isDisturbed id = true := by
      simp [Registry.isDisturbed, setSource, Registry.source?_setSource, hs, hd]
    have hmoves := (flowMoves fuel).pull hdisturbed hpull
    obtain ⟨new, hnew⟩ := hmoves.journal
    have hafter : ∃ new, (note (.pullEnded id outcome) u).journal =
        new ++ .pullBegan id :: s.journal := ⟨.pullEnded id outcome :: new, congrArg _ hnew⟩
    cases hover with
    | gone => exact hafter
    | failed => exact hafter
    | settled => exact hafter
    | again found hu _ hrest =>
      have hagain := (flowMoves fuel).pullIfNeeded (by
        have hkept := hmoves.disturbed hdisturbed
        simpa [Registry.isDisturbed, setSource, Registry.source?_setSource, hu] using hkept) hrest
      obtain ⟨more, hmore⟩ := hagain.journal
      obtain ⟨new, hnew⟩ := hafter
      exact ⟨more ++ new, by rw [hmore, List.append_assoc]; exact congrArg _ hnew⟩

/-- What a read has left behind that has given a reader a chunk of a source. -/
structure Primed (id : ReadableId) (source : Source E) (data : Bytes)
    (s t : Session H E) : Prop where
  /-- A chunk that was queued has left the queue. If there is room for more, the source has been
  pulled after that. -/
  queued : source.controller.queue ≠ [] → source.controller.queue.head? = some data ∧
    ∀ last room, t.streams.source? id = some last → last.Pullable →
      last.controller.desiredSize = some room → 0 < room →
        ∃ new, t.journal = new ++ .pullBegan id :: .delivered id data :: s.journal
  /-- A chunk that was not queued has been brought by a pull, and nothing has been pulled after it
  was taken out. -/
  brought : source.controller.queue = [] →
    ∃ new, t.journal = .delivered id data :: (new ++ .pullBegan id :: s.journal)

/-- A pull that is of no use does nothing. -/
theorem drive_pullIfNeeded_of_useless {waits : Bool} {r : Unit × Session H E}
    (hs : s.streams.source? id = some source) (hw : source.wantsPull waits = false)
    (h : drive (pullIfNeeded fuel id waits) s = some r) : r.2 = s := by
  cases fuel with
  | zero => cases h
  | succ fuel =>
    rcases pullIfNeeded_cases hs h with ⟨-, rfl⟩ | ⟨hwants, -⟩
    · rfl
    · cases hw.symm.trans hwants

/-- More is asked for where there is room for it. -/
theorem pulled_of_room {r : Unit × Session H E} (hs : s.streams.source? id = some source)
    (hd : source.disturbed = true) (hidle : source.pulling = false)
    (h : drive (pullIfNeeded fuel id false) s = some r) {last : Source E} {room : Int}
    (hlast : r.2.streams.source? id = some last) (hp : last.Pullable)
    (hroom : last.controller.desiredSize = some room) (hpos : 0 < room) :
    ∃ new, r.2.journal = new ++ .pullBegan id :: s.journal := by
  cases hw : source.wantsPull false with
  | true => exact pulled_of_pullIfNeeded hs hd hidle hw h
  | false =>
    -- nothing has been done, and so there is no room
    rw [drive_pullIfNeeded_of_useless hs hw h, hs, Option.some.injEq] at hlast
    rw [hlast, hp.wantsPull hroom hpos] at hw
    cases hw

/-- Where no chunk waits, one is asked for, and it is taken if it comes. -/
theorem primed_of_empty {data : Bytes} {r : Unit × Session H E}
    (hs : s.streams.source? id = some source) (hd : source.disturbed = true)
    (hidle : source.pulling = false) (hempty : source.controller.takeReady.1 = .ok none)
    (h : drive (pullIfNeeded fuel id true) s = some r)
    (hchunk : (exec (takeReady id) r.2).1.map orPending = .ok (.chunk data)) :
    ∃ new, (exec (takeReady id) r.2).2.journal =
      .delivered id data :: (new ++ .pullBegan id :: s.journal) := by
  have hw : source.wantsPull true = true := by
    by_contra hw
    rw [drive_pullIfNeeded_of_useless hs (Bool.eq_false_iff.mpr hw) h, exec_takeReady hs,
      hempty] at hchunk
    cases hchunk
  obtain ⟨new, hnew⟩ := pulled_of_pullIfNeeded hs hd hidle hw h
  cases hr : r.2.streams.source? id with
  | none => simp [takeReady, exec_bind, hr, Except.map] at hchunk
  | some found =>
    rw [exec_takeReady hr] at hchunk ⊢
    exact ⟨new, by rw [ready_of_orPending hchunk (by simp)]; exact congrArg _ hnew⟩

/-- A read primes the source, whoever holds the lock. -/
theorem primed_readUnchecked {data : Bytes} (hs : s.streams.source? id = some source)
    (hidle : source.pulling = false)
    (h : attempt (readUnchecked fuel id) s = some (.ok (.chunk data), t)) :
    Primed id source data s t := by
  cases fuel with
  | zero => cases h
  | succ fuel =>
    have hfound := source?_disturb hs
    rcases readUnchecked_cases hs h with ⟨-, he⟩ | ⟨error, -, he⟩ | ⟨-, found, u, htake, hafter⟩
    · cases he
    · cases he
    rw [exec_takeReady hfound] at htake
    obtain ⟨hready, hu⟩ := Prod.mk.inj htake
    have hmarked : u.streams.source? id = some
        { source with disturbed := true, controller := source.controller.takeReady.2 } := by
      simp [← hu, setSource, Registry.source?_setSource, hfound]
    generalize hr : (Except.ok (ReadOutcome.chunk data), t) = r at hafter
    cases hafter with
    | settled found hsome hempty =>
      obtain ⟨hchunk, -⟩ := Prod.mk.inj hr
      exact absurd (ready_of_orPending hchunk.symm (by simp)) (hempty data)
    | full chunk v hpull =>
      obtain ⟨⟨⟩, rfl⟩ := Prod.mk.inj hr
      have hjournal : u.journal = .delivered id data :: s.journal := by
        rw [← hu, hready]
        rfl
      have hhead := ReadableController.head?_of_takeReady hready
      refine ⟨fun _ => ⟨hhead, fun last room hlast hp hroom hpos => ?_⟩, fun hnil => ?_⟩
      · rw [← hjournal]
        exact pulled_of_room hmarked rfl hidle hpull hlast hp hroom hpos
      · simp [hnil] at hhead
    | empty v hpull =>
      obtain ⟨hchunk, rfl⟩ := Prod.mk.inj hr
      have hidry := ReadableController.isDry_of_none hready
      have hdry : source.controller.takeReady.2.takeReady.1 = .ok none := by
        have htaken := ReadableController.takeReady_of_dry hidry
        rw [htaken, htaken]
      have hjournal : u.journal = s.journal := by
        rw [← hu, hready]
        rfl
      have hbrings := primed_of_empty hmarked rfl hidle hdry hpull hchunk.symm
      rw [hjournal] at hbrings
      exact ⟨fun hne => absurd hidry.2 hne, fun _ => hbrings⟩

/-- So does a read by somebody whom the lock of the stream lets pass. -/
theorem primed_read {data : Bytes} {token : Option ReaderToken}
    (hs : s.streams.source? id = some source) (hidle : source.pulling = false)
    (h : attempt (read fuel id token) s = some (.ok (.chunk data), t)) :
    Primed id source data s t := by
  simp only [read, attempt_bind, attempt_finite, exec_onStreams, Registry.exec_checkReader,
    Option.bind_some] at h
  split at h
  · exact primed_readUnchecked hs hidle h
  · cases h

end Session

/-- Whatever clients have done before, a read that gives a chunk leaves a source that has room for
more pulled: after the chunk has left the queue if it was queued, and only before if it was not. -/
theorem Client.primed_of_leads [Host H] {uses : H → List UInt32 → H → Prop}
    {allowed : Client H E → Client H E → Prop} {host : H} {env : E} {config : StreamConfig}
    {client : Client H E} (hclient : LeadsTo uses allowed (new host env config) client)
    {id : ReadableId} {source : Source E} {fuel : Nat} {token : Option ReaderToken} {data : Bytes}
    {session : Session H E} (hs : client.session.streams.source? id = some source)
    (h : attempt (Session.read fuel id token) client.session = some (.ok (.chunk data), session)) :
    Session.Primed id source data client.session session :=
  Session.primed_read hs ((hclient.resting (Session.resting_new host env config)).unpulled hs) h

end EdgeStreams
