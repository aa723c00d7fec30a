import EdgeStreams.Proofs.Body.Steps
import EdgeStreams.Proofs.Client.Exclusion

/-!
# A body is drained once

A body that is used, that has let go of its stream, or whose stream is gone, locked or disturbed
cannot be drained: the error says why, and nothing happens. Any other body counts as used once it
has been drained, whatever has come of the reading, and for ever. The lock under which it has been
read is given back; the locks of others stay.

## Main definitions

- `Body.Undrainable`: why a body cannot be drained
- `Body.Handled`: what is done with a body, one operation after the other
- `Client.DrainsOnce`: a body is drained once

## Main statements

- `Body.drive_drain_of_undrainable`: a body that cannot be drained is left alone
- `Body.Handled.keeps`: a used body stays used
- `Session.not_locked_withReader`: work under a reader's lock leaves the stream unlocked
- `Client.drainsOnce_of_calls`: in every state that can be reached, a body is drained once

## Design notes

The host may be any, such as one that keeps a record of its calls. So a session that is left as it
was has made no call.
-/

namespace EdgeStreams

variable {H E α β : Type} [Host H]

/-! ### What runs give -/

/-- Whatever a run comes to is as `P` has it. -/
def RunGives (P : α → Prop) (run : Run H E α) : Prop := ∀ s r, drive run s = some r → P r.1

namespace RunGives

variable {P : α → Prop} {Q : β → Prop}

omit [Host H] in
theorem pure {a : α} (h : P a) : RunGives P (Pure.pure a : Run H E α) := by
  intro s r hr
  cases hr
  exact h

omit [Host H] in
theorem any (run : Run H E α) : RunGives (fun _ => True) run := fun _ _ _ => trivial

omit [Host H] in
theorem bind {run : Run H E α} {next : α → Run H E β} (h : RunGives P run)
    (h' : ∀ a, P a → RunGives Q (next a)) : RunGives Q (run >>= next) := by
  intro s r hr
  rw [drive_bind] at hr
  obtain ⟨first, hfirst, hnext⟩ := Option.bind_eq_some_iff.mp hr
  exact h' first.1 (h s first hfirst) first.2 r hnext

end RunGives

namespace Body

/-! ### A used body stays used -/

/-- It is the same body, later. -/
structure Keeps (body later : Body) : Prop where
  owner : later.owner = body.owner
  handle : later.handle = body.handle
  released : body.released = true → later.released = true
  used : body.used = true → later.used = true

theorem Keeps.refl (body : Body) : body.Keeps body := ⟨rfl, rfl, id, id⟩

theorem Keeps.trans {body between later : Body} (h : body.Keeps between)
    (h' : between.Keeps later) : body.Keeps later :=
  ⟨h'.owner.trans h.owner, h'.handle.trans h.handle, h'.released ∘ h.released, h'.used ∘ h.used⟩

theorem keeps_markUsed (body : Body) : body.Keeps body.markUsed := ⟨rfl, rfl, id, fun _ => rfl⟩

theorem keeps_readable (body : Body) (readable : Option ReadableId) :
    body.Keeps { body with readable } := ⟨rfl, rfl, id, id⟩

omit [Host H] in
theorem keeps_release (body : Body) (s : Session H E) : body.Keeps (body.release s).1 := by
  unfold release
  split
  · exact .refl body
  · exact ⟨rfl, rfl, fun _ => rfl, id⟩

omit [Host H] in
/-- The stream of a body is the body's from then on. -/
theorem streamed_of_exec_stream {body streamed : Body} {s t : Session H E} {id : ReadableId}
    (h : exec (body.stream : Action H E BodyError _) s = (.ok (id, streamed), t)) :
    streamed = { body with readable := some id } := by
  obtain ⟨owner, handle, readable, _ | _, used⟩ := body
  case true => cases h
  rcases readable with _ | found
  · rcases handle with _ | handle
    · cases h
    · simp only [Body.stream, exec_bind, exec_get, Bool.false_eq_true, if_false, exec_modifyGet,
        Session.changeStreams, Session.exec_adapt, Session.exec_onStreams] at h
      generalize (exec (Registry.setReadableOwner _ _) _).1 = owned at h
      cases owned <;> cases h
      rfl
  · simp only [Body.stream, exec_bind, exec_get, Bool.false_eq_true, if_false] at h
    split at h <;> cases h
    rfl

omit [Host H] in
theorem keeps_stream (body : Body) :
    RunGives (fun opened => ∀ id streamed, opened = .ok (id, streamed) → body.Keeps streamed)
      (modifyGet (Session.outcome body.stream) : Run H E
        (Except BodyError (ReadableId × Body))) := by
  intro s r hr id streamed hopened
  cases hr
  rw [streamed_of_exec_stream (Prod.ext hopened rfl)]
  exact keeps_readable body (some id)

theorem keeps_pipeThroughIdentity (fuel : Nat) (body : Body) :
    RunGives (fun r => body.Keeps r.2)
      (body.pipeThroughIdentity fuel : Run H E (Except BodyError ReadableId × Body)) := by
  unfold pipeThroughIdentity
  refine .bind body.keeps_stream fun opened hopened => ?_
  rcases opened with error | ⟨source, streamed⟩
  · exact .pure (.refl body)
  · have hstreamed := hopened source streamed rfl
    refine .bind (.any _) fun transform _ => .bind (.any _) fun piped _ => ?_
    cases piped with
    | error error => exact .bind (.any _) fun _ _ => .pure hstreamed
    | ok readable =>
      refine .bind (.any _) fun owned _ => ?_
      cases owned with
      | error error => exact .pure hstreamed
      | ok =>
        exact .bind (.any _) fun _ _ => .pure (hstreamed.trans (keeps_readable _ (some readable)))

theorem keeps_drain (fuel : Nat) (body : Body) (target : TargetType) :
    RunGives (fun r => body.Keeps r.2)
      (body.drain fuel target : Run H E (Except BodyError Representation × Body)) := by
  unfold drain drainWith
  split
  · exact .pure (.refl body)
  · refine .bind body.keeps_stream fun opened hopened => ?_
    rcases opened with error | ⟨id, streamed⟩
    · exact .pure (.refl body)
    · have hstreamed := hopened id streamed rfl
      refine .bind (.any _) fun before _ => ?_
      dsimp only
      split
      · exact .pure hstreamed
      · split
        · exact .pure hstreamed
        · refine .bind (.any _) fun read _ => ?_
          rcases read with error | ⟨error | data⟩ <;>
            exact .pure (hstreamed.trans (keeps_markUsed streamed))

theorem keeps_drainTo (fuel : Nat) (body : Body) (target : TargetType)
    (value : Representation → Except BodyError α) :
    RunGives (fun r => body.Keeps r.2)
      (body.drainTo fuel target value : Run H E (Except BodyError α × Body)) :=
  .bind (body.keeps_drain fuel target) fun _ h => .pure h

end Body

namespace ObjectStore

theorem keeps_consume (fuel : Nat) (body : Body) :
    RunGives (fun r => body.Keeps r.2)
      (consume fuel body : Run H E (Except ScriptError BodyHandle × Body)) := by
  unfold consume
  split
  · exact .pure (.refl body)
  · refine .bind (.any _) fun before _ => ?_
    split
    · refine .bind (.any _) fun moved _ => ?_
      cases moved with
      | error error => exact .pure (.refl body)
      | ok handle =>
        have hrelease : RunGives (fun later => body.Keeps later)
            (modifyGet body.markUsed.release : Run H E Body) := by
          intro s r hr
          cases hr
          exact (body.keeps_markUsed).trans (body.markUsed.keeps_release s)
        exact .bind hrelease fun _ h => .pure h
    · refine .bind (body.keeps_drainTo fuel _ _) fun (read, later) h => ?_
      cases read with
      | error error => exact .pure h
      | ok data => exact .bind (.any _) fun _ _ => .pure h

/-- A body that is stored comes back. -/
theorem keeps_put (fuel : Nat) (store : ObjectStore) (key : String) (body : Body) :
    RunGives (fun r => ∃ later, r.2 = .body later ∧ body.Keeps later)
      (store.put fuel key (.body body) : Run H E (Except ScriptError Unit × ObjectValue)) := by
  have hvalue : RunGives (fun r => ∃ later, r.2 = .body later ∧ body.Keeps later)
      (hostBody fuel (.body body) : Run H E (Except ScriptError BodyHandle × ObjectValue)) :=
    .bind (keeps_consume fuel body) fun r h => .pure ⟨r.2, rfl, h⟩
  unfold put
  split
  · exact .pure ⟨body, rfl, .refl body⟩
  · refine .bind hvalue fun (result, value) h => ?_
    cases result with
    | error error => exact .pure h
    | ok handle => exact .bind (.any _) fun _ _ => .pure h

end ObjectStore

namespace Worker

theorem keeps_pipeResponse (fuel : Nat) (response : Body) (sink : WritableId) :
    RunGives (fun r => response.Keeps r.2)
      (pipeResponse fuel response sink : Run H E (Except WorkerError Unit × Body)) := by
  unfold pipeResponse
  refine .bind (response.keeps_pipeThroughIdentity fuel) fun (piped, later) h => ?_
  cases piped with
  | error error => exact .pure h
  | ok readable =>
    refine .bind (.any _) fun piped _ => ?_
    cases piped with
    | error error => exact .pure h
    | ok pipe => exact .bind (.any _) fun _ _ => .bind (.any _) fun _ _ => .pure h

theorem keeps_send (fuel : Nat) (response : Body) :
    RunGives (fun r => response.Keeps r.2)
      (send fuel response : Run H E (Except WorkerError BodyHandle × Body)) := by
  unfold send
  split
  · exact .pure (.refl response)
  · refine .bind (.any _) fun called _ => ?_
    cases called with
    | error error => exact .pure (.refl response)
    | ok destination =>
      refine .bind (.any _) fun sink _ => .bind (keeps_pipeResponse fuel response sink)
        fun (result, later) h => ?_
      cases result with
      | error error => exact .bind (.any _) fun _ _ => .bind (.any _) fun _ _ => .pure h
      | ok => exact .bind (.any _) fun _ _ => .pure h

end Worker

namespace Body

/-- What is done with a body, one operation after the other, by whoever has it. In between, anything
may happen to the session. -/
inductive Handled (H E : Type) [Host H] (body : Body) : Body → Prop
  | refl : Handled H E body body
  | stream {before later : Body} {s t : Session H E} {id : ReadableId} : Handled H E body before →
    exec (before.stream : Action H E BodyError _) s = (.ok (id, later), t) → Handled H E body later
  | pipeThroughIdentity {before : Body} {s : Session H E} {fuel : Nat}
    {r : (Except BodyError ReadableId × Body) × Session H E} : Handled H E body before →
      drive (before.pipeThroughIdentity fuel) s = some r → Handled H E body r.1.2
  | drain {before : Body} {s : Session H E} {fuel : Nat} {target : TargetType}
    {r : (Except BodyError Representation × Body) × Session H E} : Handled H E body before →
      drive (before.drain fuel target) s = some r → Handled H E body r.1.2
  | drainTo {before : Body} {s : Session H E} {fuel : Nat} {target : TargetType} {α : Type}
    {value : Representation → Except BodyError α} {r : (Except BodyError α × Body) × Session H E} :
      Handled H E body before → drive (before.drainTo fuel target value) s = some r →
        Handled H E body r.1.2
  | release {before : Body} (s : Session H E) : Handled H E body before →
    Handled H E body (before.release s).1
  | markUsed {before : Body} : Handled H E body before → Handled H E body before.markUsed
  | put {before later : Body} {s t : Session H E} {fuel : Nat} {store : ObjectStore} {key : String}
    {result : Except ScriptError Unit} : Handled H E body before →
      drive (store.put fuel key (.body before)) s = some ((result, .body later), t) →
        Handled H E body later
  | send {before : Body} {s : Session H E} {fuel : Nat}
    {r : (Except WorkerError BodyHandle × Body) × Session H E} : Handled H E body before →
      drive (Worker.send fuel before) s = some r → Handled H E body r.1.2

/-- By induction on the operations. -/
theorem Handled.keeps {body later : Body} (h : Handled H E body later) : body.Keeps later := by
  induction h with
  | refl => exact .refl body
  | stream _ hrun ih =>
    rw [streamed_of_exec_stream hrun]
    exact ih.trans (keeps_readable _ _)
  | pipeThroughIdentity _ hrun ih => exact ih.trans (keeps_pipeThroughIdentity _ _ _ _ hrun)
  | drain _ hrun ih => exact ih.trans (keeps_drain _ _ _ _ _ hrun)
  | drainTo _ hrun ih => exact ih.trans (keeps_drainTo _ _ _ _ _ _ hrun)
  | release s _ ih => exact ih.trans (keeps_release _ s)
  | markUsed _ ih => exact ih.trans (keeps_markUsed _)
  | put _ hrun ih =>
    obtain ⟨later, he, hkeeps⟩ := ObjectStore.keeps_put _ _ _ _ _ _ hrun
    cases he
    exact ih.trans hkeeps
  | send _ hrun ih => exact ih.trans (Worker.keeps_send _ _ _ _ hrun)

/-! ### Bodies that cannot be drained -/

/-- Why a body cannot be drained. -/
inductive Undrainable (body : Body) (streams : Registry E) : BodyError → Prop
  | used : body.used = true → Undrainable body streams .alreadyUsed
  /-- It has let go of its stream, which nobody holds. -/
  | released : body.used = false → body.released = true →
    (∀ id, body.readable = some id → streams.isLocked id = false) →
      Undrainable body streams .alreadyUsed
  /-- Its stream is gone. Another one is not made. -/
  | gone {id : ReadableId} : body.used = false → body.released = false → body.readable = some id →
    streams.containsReadable id = false → Undrainable body streams (.stream .released)
  /-- It never had a stream, nor a host body to make one over. -/
  | empty : body.used = false → body.released = false → body.readable = none → body.handle = none →
    Undrainable body streams (.stream .released)
  | locked {id : ReadableId} : body.used = false → body.readable = some id →
    streams.isLocked id = true → Undrainable body streams .locked
  | disturbed {id : ReadableId} : body.used = false → body.released = false →
    body.readable = some id → streams.isLocked id = false → streams.isDisturbed id = true →
      Undrainable body streams .alreadyUsed

variable {s : Session H E} {body : Body}

omit [Host H] in
theorem exec_stream_of_released (h : body.released = true) :
    exec (body.stream : Action H E BodyError _) s =
      (.error (body.releasedError s.streams), s) := by
  simp [Body.stream, exec_bind, h]

omit [Host H] in
theorem exec_stream_of_readable {id : ReadableId} (h : body.released = false)
    (hid : body.readable = some id) :
    exec (body.stream : Action H E BodyError _) s =
      (if s.streams.containsReadable id then .ok (id, body) else .error
        (.stream .released), s) := by
  simp only [Body.stream, exec_bind, exec_get, h, hid, Bool.false_eq_true, if_false]
  split <;> rfl

omit [Host H] in
theorem containsReadable_of_isDisturbed {streams : Registry E} {id : ReadableId}
    (h : streams.isDisturbed id = true) : streams.containsReadable id = true := by
  unfold Registry.isDisturbed at h
  unfold Registry.containsReadable
  cases hs : streams.source? id with
  | some source => rfl
  | none => simp [hs] at h

/-- A body that cannot be drained is left alone, and so is everything else. -/
theorem drive_drain_of_undrainable {error : BodyError} (h : body.Undrainable s.streams error)
    (fuel : Nat) (target : TargetType) :
    drive (body.drain fuel target) s = some ((.error error, body), s) := by
  rw [drive_drain]
  cases h with
  | used hused => rw [if_pos hused]
  | released hused hreleased hfree =>
    have herror : body.releasedError s.streams = .alreadyUsed := by
      unfold releasedError
      split
      · next id hid => rw [hfree id hid]; rfl
      · rfl
    simp [hused, exec_stream_of_released hreleased, herror]
  | gone hused hreleased hid hgone => simp [hused, exec_stream_of_readable hreleased hid, hgone]
  | empty hused hreleased hreadable hhandle =>
    simp [hused, Body.stream, exec_bind, hreleased, hreadable, hhandle]
  | @locked id hused hid hlocked =>
    by_cases hreleased : body.released = true
    · simp [hused, exec_stream_of_released hreleased, releasedError, hid, hlocked]
    · simp [hused, exec_stream_of_readable (Bool.eq_false_iff.mpr hreleased) hid,
        Registry.containsReadable_of_isLocked hlocked, hlocked]
  | @disturbed id hused hreleased hid hfree hdisturbed =>
    simp [hused, exec_stream_of_readable hreleased hid, containsReadable_of_isDisturbed hdisturbed,
      hfree, hdisturbed]

omit [Host H] in
/-- Any other body has a stream that nobody holds and nobody has read. It is made if there is
none. -/
theorem exec_stream_of_drainable (wf : s.streams.WellFormed)
    (h : ∀ error, ¬ body.Undrainable s.streams error) :
    ∃ id source t, exec (body.stream : Action H E BodyError _) s =
        (.ok (id, { body with readable := some id }), t) ∧
      t.streams.source? id = some source ∧ source.readerLock = none ∧ source.disturbed = false := by
  have hused : body.used = false := Bool.eq_false_iff.mpr fun hused => h _ (.used hused)
  have hfree : ∀ id, body.readable = some id → s.streams.isLocked id = false := fun id hid =>
    Bool.eq_false_iff.mpr fun hlocked => h _ (.locked hused hid hlocked)
  have hreleased : body.released = false :=
    Bool.eq_false_iff.mpr fun hreleased => h _ (.released hused hreleased hfree)
  cases hreadable : body.readable with
  | some id =>
    have hlive : s.streams.containsReadable id = true :=
      Bool.of_not_eq_false fun hgone => h _ (.gone hused hreleased hreadable hgone)
    have hfresh : s.streams.isDisturbed id = false := Bool.eq_false_iff.mpr fun hdisturbed =>
      h _ (.disturbed hused hreleased hreadable (hfree id hreadable) hdisturbed)
    obtain ⟨source, hs⟩ := Option.isSome_iff_exists.mp hlive
    refine ⟨id, source, s, ?_, hs, ?_, ?_⟩
    · rw [exec_stream_of_readable hreleased hreadable, hlive, ← hreadable]
      rfl
    · simpa [Registry.isLocked, hs] using hfree id hreadable
    · simpa [Registry.isDisturbed, hs] using hfresh
  | none =>
    cases hhandle : body.handle with
    | none => exact absurd (.empty hused hreleased hreadable hhandle) (h _)
    | some handle =>
      rw [← hhandle]
      exact ⟨_, _, _, exec_stream_new wf hreleased hreadable hhandle,
        (source?_opened wf _ _ _).trans (if_pos rfl), rfl, rfl⟩

end Body

/-! ### The lock under which a body is read -/

namespace Registry

omit [Host H] in
theorem isLocked_eq_holder? (streams : Registry E) (id : ReadableId) :
    streams.isLocked id = (streams.holder? (.readable id)).isSome := by
  simp only [isLocked, holder?]
  cases streams.source? id <;> simp

end Registry

namespace Session

variable {s : Session H E} {held spent : Set Nat}

omit [Host H] in
/-- Work under the lock of a reader leaves the stream unlocked. The work cannot have given the lock
to somebody else: it honours the lock. -/
theorem RespectsLocks.not_locked {t : Session H E} {id : ReadableId} {token : ReaderToken}
    {streams : Registry E} (hget : exec (Registry.getReader id) s.streams = (.ok token, streams))
    (h : RespectsLocks { s with streams } t) (ho : s.streams.Orderly held spent)
    (hs : s.streams.Single) :
    (t.mapStreams (Registry.quietly (Registry.releaseReader id token))).streams.isLocked id =
      false := by
  have hlocks := Registry.locks_getReader hget
  obtain ⟨rfl, source, hfound, hlock⟩ := Registry.of_exec_getReader hget
  have htaken := ho.getReader hfound hlock
  rw [hget] at htaken
  obtain ⟨-, hhonours⟩ := h.kept htaken (hs.locks hlocks)
  have hold : s.streams.nextToken < streams.nextToken := by
    rw [hlocks.nextToken]
    exact Nat.lt_succ_self _
  have hstays : t.streams.holder? (.readable id) = some s.streams.nextToken := by
    refine hhonours.relocksTo.stays ((hlocks.holder (.readable id)).trans (if_pos rfl))
      fun hfreed => ?_
    obtain ⟨⟨name, pipe, hp, -, hu⟩, -⟩ := hfreed hold
    exact (htaken.used_old name pipe _ hp hu).2 (.inl rfl)
  rw [Registry.isLocked_eq_holder?, streams_mapStreams, Registry.holder?_releaseReader, if_pos rfl,
    hstays]
  simp [Option.filter]

omit [Host H] in
/-- Work under the lock of a reader leaves the stream unlocked, whatever comes of it. -/
theorem not_locked_withReader {id : ReadableId} {source : Source E}
    {work : ReaderToken → Attempt H E StreamError α} {r : Except StreamError α × Session H E}
    (hwork : ∀ token, RunLeads RespectsLocks (work token).run)
    (hr : attempt (withReader id work) s = some r) (ho : s.streams.Orderly held spent)
    (hs : s.streams.Single) (hfound : s.streams.source? id = some source)
    (hlock : source.readerLock = none) : r.2.streams.isLocked id = false := by
  have hget := Registry.exec_getReader s.streams hfound hlock
  rw [attempt_withReader, hget] at hr
  obtain ⟨worked, hworked, rfl⟩ := Option.map_eq_some_iff.mp hr
  exact RespectsLocks.not_locked hget (hwork _ _ worked hworked) ho hs

end Session

/-! ### Draining -/

namespace Client

/-- A body is drained once. -/
structure DrainsOnce (client : Client H E) (body : Body) : Prop where
  /-- A body that cannot be drained is left alone, and so are the host, the guests and the
  registry. -/
  refused : ∀ {error}, body.Undrainable client.session.streams error → ∀ fuel target,
    drive (body.drain fuel target) client.session = some ((.error error, body), client.session)
  /-- Any other body has been used, whatever has come of the reading. -/
  used : (∀ error, ¬ body.Undrainable client.session.streams error) → ∀ {fuel target r},
    drive (body.drain fuel target) client.session = some r → r.1.2.used = true
  /-- Its stream is not locked any more. -/
  unlocked : (∀ error, ¬ body.Undrainable client.session.streams error) → ∀ {fuel target r},
    drive (body.drain fuel target) client.session = some r →
      ∃ id, r.1.2.readable = some id ∧ r.2.streams.isLocked id = false
  /-- The locks of those who hold a token stay. -/
  stays : ∀ {fuel target r}, drive (body.drain fuel target) client.session = some r →
    ∀ name, ∀ number ∈ client.held, client.session.streams.holder? name = some number →
      r.2.streams.holder? name = some number
  /-- All other locks stay, too, save those of pipes that have come to an end. -/
  others : ∀ {fuel target r}, drive (body.drain fuel target) client.session = some r →
    ∀ name number, client.session.streams.holder? name = some number →
      r.2.streams.holder? name = some number ∨
        client.session.streams.Engaged number ∧ ¬ r.2.streams.Engaged number
  /-- A body that has been used is refused for ever. -/
  once : body.used = true → ∀ {later}, body.Handled H E later → later.used = true ∧
    ∀ (s : Session H E) fuel target,
      drive (later.drain fuel target) s = some ((.error .alreadyUsed, later), s)
  /-- So is a body that has been drained. -/
  drained : (∀ error, ¬ body.Undrainable client.session.streams error) → ∀ {fuel target r},
    drive (body.drain fuel target) client.session = some r → ∀ {later}, r.1.2.Handled H E later →
      later.used = true ∧ ∀ (s : Session H E) fuel target,
        drive (later.drain fuel target) s = some ((.error .alreadyUsed, later), s)

variable {uses : H → List UInt32 → H → Prop} {allowed : Client H E → Client H E → Prop}
variable {client : Client H E}

/-- A used body is refused, whatever is done with it. -/
theorem refused_of_handled {body later : Body} (hused : body.used = true)
    (h : body.Handled H E later) : later.used = true ∧ ∀ (s : Session H E) fuel target,
      drive (later.drain fuel target) s = some ((.error .alreadyUsed, later), s) :=
  have hstill := h.keeps.used hused
  ⟨hstill, fun _ => Body.drive_drain_of_undrainable (.used hstill)⟩

/-- What has become of a body that can be drained. -/
theorem Sound.drained (hs : client.Sound) {body : Body}
    (h : ∀ error, ¬ body.Undrainable client.session.streams error) {fuel : Nat}
    {target : TargetType} {r : (Except BodyError Representation × Body) × Session H E}
    (hr : drive (body.drain fuel target) client.session = some r) :
    r.1.2.used = true ∧ ∃ id, r.1.2.readable = some id ∧ r.2.streams.isLocked id = false := by
  have hused : body.used = false := Bool.eq_false_iff.mpr fun hused => h _ (.used hused)
  obtain ⟨id, source, t, hopen, hfound, hlock, hfresh⟩ :=
    Body.exec_stream_of_drainable hs.orderly.wellFormed h
  have hfree : t.streams.isLocked id = false := by simp [Registry.isLocked, hfound, hlock]
  have hunread : t.streams.isDisturbed id = false := by simp [Registry.isDisturbed, hfound, hfresh]
  have hleads : client.session.RespectsLocks t := by
    have hstream := body.leads_stream (R := Session.RespectsLocks) client.session
    rwa [hopen] at hstream
  have hopened := hs.of_respectsLocks hleads
  rw [Body.drive_drain, hused, hopen] at hr
  simp only [hfree, hunread, Bool.false_eq_true, if_false] at hr
  obtain ⟨read, hread, rfl⟩ := Option.map_eq_some_iff.mp hr
  exact ⟨rfl, id, rfl, Session.not_locked_withReader
    (fun token => .sure (Body.leads_readAll fuel id token [] false)) hread hopened.sound.orderly
      hopened.sound.single hfound hlock⟩

/-- The locks that are there before a drain are given back by pipes only. -/
theorem Sound.kept_of_drain (hs : client.Sound) {body : Body} {fuel : Nat} {target : TargetType}
    {r : (Except BodyError Representation × Body) × Session H E}
    (hr : drive (body.drain fuel target) client.session = some r) {name : StreamName} {number : Nat}
    (hheld : client.session.streams.holder? name = some number) :
    r.2.streams.holder? name = some number ∨
      client.session.streams.Engaged number ∧ ¬ r.2.streams.Engaged number := by
  have hhonours := ((body.leads_drain (R := Session.RespectsLocks) fuel target _ r hr).kept
    hs.orderly hs.single).2
  by_cases hpipe : client.session.streams.Engaged number ∧ ¬ r.2.streams.Engaged number
  · exact .inr hpipe
  · exact .inl (hhonours.relocksTo.stays hheld fun hfreed => hpipe (hfreed (hs.single.old hheld)))

theorem Sound.drainsOnce (hs : client.Sound) (body : Body) : client.DrainsOnce body where
  refused hrefused := Body.drive_drain_of_undrainable hrefused
  used h _ _ _ hr := (hs.drained h hr).1
  unlocked h _ _ _ hr := (hs.drained h hr).2
  stays hr name number hmem hheld := by
    refine (hs.kept_of_drain hr hheld).resolve_right ?_
    rintro ⟨⟨id, pipe, hp, -, hu⟩, -⟩
    exact (hs.orderly.used_old id pipe number hp hu).2 hmem
  others hr _ _ hheld := hs.kept_of_drain hr hheld
  once hused _ hhandled := refused_of_handled hused hhandled
  drained h _ _ _ hr _ hhandled := refused_of_handled (hs.drained h hr).1 hhandled

/-- In every state that clients can reach, over any host and with any guests, a body is drained
once. -/
theorem drainsOnce_of_calls {host : H} {env : E} {config : StreamConfig}
    (h : Calls uses allowed (new host env config) client) (body : Body) : client.DrainsOnce body :=
  (h.sound (sound_new host env config)).drainsOnce body

/-- A body over a host body that is not there can be drained. That fails, and then it is refused. -/
theorem drainsOnce_of_calls_missing :
    ∃ (client : Client MemoryHost Unit) (body : Body),
      Calls (fun _ _ _ => True) (fun _ _ => True) (new {} () {}) client ∧
      (drive (body.drain 5 .bytes) client.session).isSome = true ∧
      ∀ r, drive (body.drain 5 .bytes) client.session = some r → r.1.2.used = true ∧
        drive (r.1.2.drain 5 .bytes) r.2 = some ((.error .alreadyUsed, r.1.2), r.2) := by
  let body : Body := ⟨⟨0⟩, some ⟨1⟩, none, false, false⟩
  have hcalls : Calls (H := MemoryHost) (E := Unit) (fun _ _ _ => True) (fun _ _ => True)
      (new {} () {}) (new {} () {}) := .refl
  refine ⟨_, body, hcalls, by decide +kernel, fun r hr => ?_⟩
  have hdrainable : ∀ error, ¬ body.Undrainable
      (new ({} : MemoryHost) () {}).session.streams error := by
    rintro error (_ | _ | _ | _ | _ | _) <;> simp_all [body]
  have hrefused := (drainsOnce_of_calls hcalls body).drained hdrainable hr .refl
  exact ⟨hrefused.1, hrefused.2 _ _ _⟩

end Client

end EdgeStreams
