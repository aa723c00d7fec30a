import EdgeStreams.Proofs.Body.Emptying
import EdgeStreams.Proofs.Body.OneShot
import EdgeStreams.Proofs.Builtin.Checking
import EdgeStreams.Proofs.Client.Backpressure
import EdgeStreams.Proofs.Client.Showing
import EdgeStreams.Proofs.Client.Sources
import EdgeStreams.Proofs.Host.Told

/-!
# A value is stored as a whole or not at all

Storing a value takes several calls on the host, each of which can fail. Only the last one touches
an object store. So whatever fails, every object is as it was; and if nothing does, then one object
is the value, and the others are as they were.

## Main definitions

- `ObjectStore.Built`: a host body has been built of some octets
- `ObjectValue.GivesOctets`: the octets that a value gives
- `ObjectValue.Stands`: the octets that are there of a body that stands in a host body
- `ObjectStore.StoresWhole`: what storing a value comes to

## Main statements

- `MemoryHost.keptByBodies_sameStores`: no call that concerns bodies touches an object store
- `Client.emptied_of_bytes`, `Body.unread_of_bytes`: what the stream of a body gives
- `ObjectStore.exec_newBody_ok`, `ObjectStore.exec_moveBody_ok`: a host body that has been built
- `Client.built_of_hostBody`: the host body that is stored has what the value gives
- `Client.storesWhole_of_leads`: an object is the whole value, or all objects are as they were

## Design notes

The octets of a stream are found in the journal, since reading it may drive pipes that bring more.
Only of a body that stands in a host body is it known beforehand what there is.
-/

namespace EdgeStreams

variable {H E : Type}

/-! ### Object stores -/

namespace MemoryHost

/-- No call that concerns bodies touches an object store. -/
theorem keptByBodies_sameStores (first : MemoryHost) : KeptByBodies first.SameStores := by
  rintro request hbodies host ⟨hstores, hopen⟩
  have hconcerns : Act.concernsStores (.request request) = false := by
    cases request <;> first | rfl | cases hbodies
  have h := (host.sameStores_and_sameLogs (.request request)).1 hconcerns
  exact ⟨h.stores.trans hstores, h.openStores.trans hopen⟩

end MemoryHost

/-! ### New host bodies -/

theorem MemoryBody.unread_append_writable (data : Bytes) :
    (writable.append data).unread = data := by
  simp [unread, writable, append]

namespace ObjectStore

variable {s t : Session MemoryHost E} {handle source : BodyHandle} {data : Bytes}

/-- A host body has been built of some octets, and nothing but the host has changed. -/
structure Built (s t : Session MemoryHost E) (handle : BodyHandle) (data : Bytes) : Prop where
  aside : t = { s with host := t.host }
  body : t.host.bodies.find? handle.raw = some (MemoryBody.writable.append data)

theorem Built.unreadOf (h : Built s t handle data) : t.host.unreadOf handle = data := by
  simp [MemoryHost.unreadOf, h.body, MemoryBody.unread_append_writable]

theorem exec_hostCall_ok {α : Type} {operation : HostOperation}
    {call : HostCall MemoryHost α} {a : α}
    (h : exec (ScriptError.hostCall operation call : Action MemoryHost E ScriptError α)
      s = (.ok a, t)) :
    (exec call s.host).1 = .ok a ∧ t = { s with host := (exec call s.host).2 } := by
  rw [ScriptError.exec_hostCall, Prod.mk.injEq] at h
  obtain ⟨hresult, rfl⟩ := h
  cases hcall : (exec call s.host).1 with
  | error error => simp [hcall, Except.mapError] at hresult
  | ok answer => exact ⟨by simpa [hcall, Except.mapError] using hresult, rfl⟩

/-- A new body is found under the next handle, and every other body is as it was. -/
theorem exec_newBody_ok (h : exec (newBody data : Action MemoryHost E ScriptError _) s =
      (.ok handle, t)) : Built s t handle data ∧
      ∀ raw, raw ≠ handle.raw → t.host.bodies.find? raw = s.host.bodies.find? raw := by
  obtain ⟨number, u, hmade, hwrites⟩ := of_exec_bind_ok h
  obtain ⟨hnew, rfl⟩ := exec_hostCall_ok hmade
  obtain ⟨rfl, hafter⟩ := MemoryHost.exec_bodyNew_ok hnew
  have hfind : ∀ raw, (exec (Host.bodyNew : HostCall MemoryHost BodyHandle) s.host).2.bodies.find?
    raw =
      if raw = s.host.nextHandle then some MemoryBody.writable else s.host.bodies.find? raw := by
    intro raw
    rw [hafter]
    exact Table.find?_insert _ _ _ _
  split at hwrites
  · obtain ⟨⟨⟩, v, hwritten, hpure⟩ := of_exec_bind_ok hwrites
    cases hpure
    obtain ⟨hwrite, rfl⟩ := exec_hostCall_ok hwritten
    obtain ⟨body, hbody, -, hput⟩ := MemoryHost.exec_bodyWrite_ok hwrite
    obtain rfl : MemoryBody.writable = body := by simpa [hfind] using hbody
    have hlater : ∀ raw, (exec (Host.bodyWrite ⟨s.host.nextHandle⟩ data)
        (exec (Host.bodyNew : HostCall MemoryHost BodyHandle) s.host).2).2.bodies.find? raw =
          if raw = s.host.nextHandle then some (MemoryBody.writable.append data)
          else s.host.bodies.find? raw := by
      intro raw
      rw [hput, MemoryHost.find?_putBody]
      split
      · rfl
      · next hne => exact (hfind raw).trans (if_neg hne)
    exact ⟨⟨rfl, (hlater _).trans (if_pos rfl)⟩, fun raw hne => (hlater raw).trans (if_neg hne)⟩
  · next hempty =>
    cases hwrites
    obtain rfl : data = [] := by simpa using hempty
    exact ⟨⟨rfl, (hfind _).trans (if_pos rfl)⟩, fun raw hne => (hfind raw).trans (if_neg hne)⟩

/-- A host body that has been moved has what the other one had left to read. -/
theorem exec_moveBody_ok
    (h : exec (moveBody source : Action MemoryHost E ScriptError _) s = (.ok handle, t)) :
    ∃ kept, s.host.bodies.find? source.raw = some kept ∧ Built s t handle kept.unread := by
  obtain ⟨destination, u, hmade, hmoves⟩ := of_exec_bind_ok h
  obtain ⟨⟨haside, hbody⟩, hothers⟩ := exec_newBody_ok hmade
  obtain ⟨⟨⟩, v, hmoved, hpure⟩ := of_exec_bind_ok hmoves
  cases hpure
  obtain ⟨happend, rfl⟩ := exec_hostCall_ok hmoved
  obtain ⟨body, kept, hne, hfound, -, hkept, -, hafter⟩ := MemoryHost.exec_bodyAppend_ok happend
  rw [hbody, Option.some.injEq] at hfound
  subst hfound
  have hraw : source.raw ≠ handle.raw := fun he => hne (congrArg Handle.mk he.symm)
  refine ⟨kept, (hothers _ hraw).symm.trans hkept, ?_, ?_⟩
  · rw [haside]
  · change (exec (Host.bodyAppend handle source) u.host).2.bodies.find? handle.raw = _
    rw [hafter, MemoryHost.find?_putBody, if_pos rfl]
    rfl

end ObjectStore

/-! ### Reading a body -/

section Reading

variable [Host H] {s t : Session H E} {body left : Body} {id : ReadableId}
  {data : Bytes} {fuel : Nat}

omit [Host H] in
/-- A reader finds the stream as it was, but for the lock. -/
theorem Registry.source?_of_getReader {streams streams' : Registry E} {token : ReaderToken}
    (h : exec (getReader id) streams = (.ok token, streams')) :
    ∃ source, streams.source? id = some source ∧
      streams'.source? id = some { source with readerLock := some token } := by
  obtain ⟨rfl, source, hs, hfree⟩ := of_exec_getReader h
  rw [exec_getReader _ hs hfree] at h
  obtain ⟨-, rfl⟩ := Prod.mk.inj h
  have hsame : ({ streams with nextToken := streams.nextToken + 1 } : Registry E).source? id =
      some source := hs
  exact ⟨source, hs, by rw [source?_setSource, if_pos rfl, hsame, Option.map_some]⟩

theorem Body.drainable_of_bytes {error : BodyError}
    (h : drive (body.bytes fuel) s = some ((.ok data, left), t)) :
    ¬ body.Undrainable s.streams error := by
  intro hu
  rw [bytes, drainTo, drive_bind, drive_drain_of_undrainable hu] at h
  cases h

theorem Body.handle_of_backed {body : Body} {streams : Registry E}
    (hback : body.isHostBacked streams = true) : ∃ handle, body.handle = some handle := by
  cases hhandle : body.handle with
  | some handle => exact ⟨handle, rfl⟩
  | none => simp [Body.isHostBacked, hhandle] at hback

/-- A body that does not stand in its host body has a stream, if it can be read. -/
theorem Body.readable_of_bytes (h : drive (body.bytes fuel) s = some ((.ok data, left), t))
    (hback : body.isHostBacked s.streams = false) : ∃ id, body.readable = some id := by
  have hdrainable : ∀ error, ¬ body.Undrainable s.streams error := fun _ => drainable_of_bytes h
  have hused : body.used = false := Bool.eq_false_iff.mpr fun hused => hdrainable _ (.used hused)
  cases hreadable : body.readable with
  | some id => exact ⟨id, rfl⟩
  | none =>
    have hreleased : body.released = false := Bool.eq_false_iff.mpr fun hreleased =>
      hdrainable _ (.released hused hreleased fun id hid => by cases hreadable.symm.trans hid)
    cases hhandle : body.handle with
    | none => exact absurd (.empty hused hreleased hreadable hhandle) (hdrainable _)
    | some handle => simp [isHostBacked, hreleased, hhandle, hreadable] at hback

/-- The octets of a body that has a stream have been read under the lock of a reader, which nobody
else held. Nobody had read the stream before. -/
theorem Body.of_bytes_ok (hid : body.readable = some id)
    (h : drive (body.bytes fuel) s = some ((.ok data, left), t)) :
    body.released = false ∧ s.streams.isDisturbed id = false ∧ ∃ token streams closed,
      exec (Registry.getReader id) s.streams = (.ok token, streams) ∧
      drive (readAll fuel id token [] false) { s with streams } = some (.ok data, closed) ∧
      t = closed.mapStreams (Registry.quietly (Registry.releaseReader id token)) := by
  simp only [bytes, drainTo, drive_bind, drive_drain] at h
  split at h
  · cases h
  by_cases hreleased : body.released = true
  · rw [exec_stream_of_released hreleased] at h
    cases h
  have hfree : body.released = false := Bool.eq_false_iff.mpr hreleased
  rw [exec_stream_of_readable hfree hid] at h
  by_cases hthere : s.streams.containsReadable id = true
  · simp only [hthere, if_true] at h
    split at h
    · cases h
    split at h
    · cases h
    · next hunread =>
      refine ⟨hfree, Bool.eq_false_iff.mpr hunread, ?_⟩
      obtain ⟨⟨⟨decoded, later⟩, u⟩, hdrained, hvalue⟩ := Option.bind_eq_some_iff.mp h
      obtain ⟨⟨read, v⟩, hread, hgives⟩ := Option.map_eq_some_iff.mp hdrained
      simp only [Prod.mk.injEq] at hgives
      obtain ⟨⟨rfl, rfl⟩, rfl⟩ := hgives
      rcases read with error | error | octets
      · cases hvalue
      · cases hvalue
      · cases hvalue
        obtain ⟨token, streams, closed, hget, hclosed, rfl⟩ :=
          Session.of_attempt_withReader_sure hread
        exact ⟨token, streams, closed, hget, hclosed, rfl⟩
  · simp only [hthere, Bool.false_eq_true, if_false] at h
    cases h

namespace Client

variable {uses : H → List UInt32 → H → Prop} {allowed : Client H E → Client H E → Prop}
variable {host : H} {env : E} {config : StreamConfig} {first client : Client H E}

/-- To read a body is to work as a client who has taken the lock of its stream. -/
theorem LeadsTo.locked_of_bytes (h : LeadsTo uses allowed first client)
    (hid : body.readable = some id) (hbytes : drive (body.bytes fuel) client.session = some
      ((.ok data, left), t)) :
    ∃ source token locked closed, client.session.streams.source? id = some source ∧
      source.disturbed = false ∧ LeadsTo uses (fun _ _ => True) first locked ∧
      token ∈ locked.readers ∧
      locked.session = { client.session with streams := locked.session.streams } ∧
      locked.session.streams.source? id = some { source with readerLock := some token } ∧
      drive (Body.readAll fuel id token [] false) locked.session = some (.ok data, closed) ∧
      t = closed.mapStreams (Registry.quietly (Registry.releaseReader id token)) := by
  obtain ⟨-, hunread, token, streams, closed, hget, hclosed, rfl⟩ := Body.of_bytes_ok hid hbytes
  have hstep : Step uses client _ := .getReader id hget
  obtain ⟨source, hs, hlock⟩ := Registry.source?_of_getReader hget
  refine ⟨source, token, _, closed, hs, ?_, (h.mono fun _ => trivial).step hstep trivial,
    List.mem_cons_self, rfl, hlock, hclosed, rfl⟩
  simpa [Registry.isDisturbed, hs] using hunread

/-- Whoever has read a body to its end has been given what its stream had queued and what has been
queued meanwhile. -/
theorem emptied_of_bytes (h : LeadsTo uses allowed (new host env config) client)
    (hid : body.readable = some id)
    (hbytes : drive (body.bytes fuel) client.session = some ((.ok data, left), t)) :
    ∃ source put, source.disturbed = false ∧ Session.Emptied id source put client.session t ∧
      data = (source.controller.queue ++ put).flatten := by
  obtain ⟨source, token, locked, closed, hs, hunread, hleads, htoken, hsession,
      hlock, hread, rfl⟩ :=
    h.locked_of_bytes hid hbytes
  have horderly := hleads.orderly (orderly_new host env config)
  have hresting := hleads.resting (Session.resting_new host env config)
  have hadmits : Registry.admits (some token) (some token) = .ok () := by simp [Registry.admits]
  have hunpiped := Session.unpiped_of_admits horderly hlock hadmits fun own hown =>
    .inl (Option.some_inj.mp hown ▸ htoken)
  obtain ⟨begun, hinOrder⟩ := hleads.whole (Session.resting_new host env config)
    (fun hnew => whole_new host env config hnew) hlock
  obtain ⟨put, hemptied, rfl⟩ :=
    Body.whole_of_readAll (Session.ordered_of_orderly hresting horderly)
    hunpiped hlock hinOrder hread
  obtain ⟨last, hlast, hclosed⟩ := hemptied.closed
  have hjournal : locked.session.journal = client.session.journal := by rw [hsession]
  refine ⟨source, put, hunread, ⟨hs, ?_, ?_, ?_⟩, rfl⟩
  · have henqueued := hemptied.enqueued
    rwa [Session.enqueued, Session.enqueued, hjournal] at henqueued
  · have hdelivered := hemptied.delivered
    rwa [Session.delivered, Session.delivered, hjournal] at hdelivered
  · -- the lock is given back, which does not concern the queue
    rw [Session.streams_mapStreams, Registry.quietly_releaseReader, hlast]
    dsimp only
    split
    · refine ⟨Registry.unlockReader token last, ?_, by rwa [Registry.controller_unlockReader]⟩
      rw [Registry.source?_setSource, if_pos rfl, hlast, Option.map_some]
    · exact ⟨last, hlast, hclosed⟩

end Client

end Reading

/-! ### The body that is stored -/

/-- The octets that a value gives while it is stored. -/
inductive ObjectValue.GivesOctets (s t : Session MemoryHost E) : ObjectValue → Bytes → Prop
  | bytes (data : Bytes) : GivesOctets s t (.bytes data) data
  | text (text : String) : GivesOctets s t (.text text) (utf8 text)
  /-- A body that stands in its host body gives what has not been read of that. -/
  | moved {body : Body} {handle : BodyHandle} {kept : MemoryBody} :
    body.isHostBacked s.streams = true → body.handle = some handle →
      s.host.bodies.find? handle.raw = some kept → GivesOctets s t (.body body) kept.unread
  /-- Any other body gives what its stream has queued and what has been queued meanwhile. -/
  | read {body : Body} {id : ReadableId} {source : Source E} {put : List Bytes} :
    body.isHostBacked s.streams = false → body.readable = some id → source.disturbed = false →
      Session.Emptied id source put s t →
        GivesOctets s t (.body body) (source.controller.queue ++ put).flatten

/-- The octets that are there of a body that stands in a host body: those that its stream has
queued, if it has one, and those that have not been read of the host body. -/
inductive ObjectValue.Stands (s : Session MemoryHost E) : ObjectValue → Bytes → Prop
  | unopened {body : Body} {handle : BodyHandle} : body.readable = none →
      body.handle = some handle → Stands s (.body body) (s.host.unreadOf handle)
  | opened {body : Body} {id : ReadableId} {source : Source E} {handle : BodyHandle}
      {size : UInt64} : body.readable = some id → s.streams.source? id = some source →
      source.backing = .body handle size → (∀ other, body.handle = some other → other = handle) →
        Stands s (.body body) (source.controller.queue.flatten ++ s.host.unreadOf handle)

/-- Calls on the host leave what a value gives as it is. -/
theorem ObjectValue.GivesOctets.aside {s t : Session MemoryHost E} {value : ObjectValue}
    {octets : Bytes} (h : value.GivesOctets s t octets) (host : MemoryHost) :
    value.GivesOctets s { t with host } octets := by
  cases h with
  | bytes => exact .bytes _
  | text => exact .text _
  | moved hback hhandle hkept => exact .moved hback hhandle hkept
  | read hback hid hunread hemptied =>
    exact .read hback hid hunread ⟨hemptied.found, hemptied.enqueued, hemptied.delivered,
      hemptied.closed⟩

section Standing

variable {s t : Session MemoryHost E} {body left : Body} {id : ReadableId} {source : Source E}
variable {handle : BodyHandle} {size : UInt64} {data octets : Bytes} {fuel : Nat}

/-- Whoever has read a body to its end has been given what had not been read of the host body behind
its stream. -/
theorem Body.unread_of_bytes (hp : s.streams.Pristine) (hchunk : 0 < s.host.chunkSize)
    (hid : body.readable = some id) (hs : s.streams.source? id = some source)
    (hback : source.backing = .body handle size)
    (hbytes : drive (body.bytes fuel) s = some ((.ok data, left), t)) :
    source.disturbed = false ∧ data = s.host.unreadOf handle := by
  obtain ⟨-, hfresh, token, streams, closed, hget, hread, -⟩ := of_bytes_ok hid hbytes
  obtain ⟨found, hfound, hlock⟩ := Registry.source?_of_getReader hget
  obtain rfl : source = found := Option.some_inj.mp (hs.symm.trans hfound)
  have hunread : source.disturbed = false := by simpa [Registry.isDisturbed, hs] using hfresh
  have huntouched : Source.Untouched { source with readerLock := some token } :=
    (hp.untouched_body hs hback hunread).alike ⟨rfl, rfl, rfl, rfl, rfl, rfl, fun hyes => hyes⟩
  have hyields := Session.yields_of_untouched (s := { s with streams })
    hlock huntouched hback hchunk
  exact ⟨hunread, unread_of_readAll hyields hread⟩

/-- Of a body that can be moved, nothing has been queued. -/
theorem ObjectValue.Stands.moved (hp : s.streams.Pristine)
    (hback : body.isHostBacked s.streams = true) (hhandle : body.handle = some handle)
    (hstands : (ObjectValue.body body).Stands s octets) : octets = s.host.unreadOf handle := by
  cases hstands with
  | unopened hid hother =>
    obtain rfl := Option.some_inj.mp (hhandle.symm.trans hother)
    rfl
  | @opened _ id source _ size hid hs hbacking hsame =>
    obtain rfl := hsame handle hhandle
    have hparts : body.released = false ∧ s.streams.isBody id = true ∧
        s.streams.isDisturbed id = false := by
      simpa [Body.isHostBacked, hhandle, hid] using hback
    have hunread : source.disturbed = false := by simpa [Registry.isDisturbed, hs] using hparts.2.2
    have huntouched := hp.untouched_body hs hbacking hunread
    simp [(huntouched.body handle size hbacking).2.2]

/-- Of a body that has been read to its end, all that stood in the host body has been read. -/
theorem ObjectValue.Stands.read (hp : s.streams.Pristine) (hchunk : 0 < s.host.chunkSize)
    (hid : body.readable = some id)
    (hbytes : drive (body.bytes fuel) s = some ((.ok data, left), t))
    (hstands : (ObjectValue.body body).Stands s octets) : octets = data := by
  cases hstands with
  | unopened hnone => cases hid.symm.trans hnone
  | @opened _ other source handle size hother hs hbacking =>
    obtain rfl := Option.some_inj.mp (hid.symm.trans hother)
    obtain ⟨hunread, rfl⟩ := Body.unread_of_bytes hp hchunk hid hs hbacking hbytes
    have huntouched := hp.untouched_body hs hbacking hunread
    simp [(huntouched.body handle size hbacking).2.2]

end Standing

namespace ObjectStore

variable {s t : Session MemoryHost E} {handle : BodyHandle} {body left : Body} {fuel : Nat}

/-- What comes of building a new host body, with which something else is given back. -/
theorem of_run_newBody {H α : Type} [Host H] {s t : Session H E}
    {result : Except ScriptError BodyHandle} {data : Bytes} {beside left : α}
    (h : drive (do return (← modifyGet (Session.outcome (newBody data)), beside) :
      Run H E (Except ScriptError BodyHandle × α)) s = some ((result, left), t)) :
    exec (newBody data : Action H E ScriptError _) s = (result, t) := by
  simp only [drive_bind, drive_modifyGet, Option.bind_some, Session.outcome_apply, drive_pure,
    Option.some.injEq, Prod.mk.injEq] at h
  obtain ⟨⟨hresult, -⟩, hafter⟩ := h
  exact Prod.ext hresult hafter

section Consuming

variable {H : Type} [Host H] {s : Session H E} {body : Body} (hused : body.used = false)
include hused

/-- A body that stands in its host body is moved by the host. -/
theorem drive_consume_moved {source : BodyHandle} (hback : body.isHostBacked s.streams = true)
    (hhandle : body.handle = some source) (fuel : Nat) :
    drive (consume fuel body) s =
      match exec (moveBody source : Action H E ScriptError _) s with
      | (.error error, t) => some ((.error error, body), t)
      | (.ok handle, t) =>
        some ((.ok handle, (body.markUsed.release t).1), (body.markUsed.release t).2) := by
  simp only [consume, hused, Bool.false_eq_true, if_false, drive_bind, drive_get, Option.bind_some,
    hhandle, hback, drive_modifyGet, Session.outcome_apply]
  obtain ⟨error | made, t⟩ := exec (moveBody source : Action H E ScriptError _) s <;> rfl

/-- Any other body is read, and what it gives is written. -/
theorem drive_consume_read (hback : body.isHostBacked s.streams = false) (fuel : Nat) :
    drive (consume fuel body) s =
      (drive (body.bytes fuel) s).map fun r =>
        match r.1.1 with
        | .error error => ((.error (.ofBody error), r.1.2), r.2)
        | .ok data =>
          (((exec (newBody data : Action H E ScriptError _) r.2).1, r.1.2),
            (exec (newBody data : Action H E ScriptError _) r.2).2) := by
  rw [Option.map_eq_bind]
  cases hhandle : body.handle
  all_goals
    simp only [consume, hused, Bool.false_eq_true, if_false, drive_bind, drive_get,
      Option.bind_some, hback, hhandle]
    refine congrArg _ (funext fun r => ?_)
    obtain ⟨⟨error | data, later⟩, t⟩ := r <;> rfl

end Consuming

/-- The body of a value has been moved by the host, or read and written to a new host body. -/
theorem of_consume_ok (h : drive (consume fuel body) s = some ((.ok handle, left), t)) :
    (∃ source u, body.handle = some source ∧ body.isHostBacked s.streams = true ∧
      exec (moveBody source : Action MemoryHost E ScriptError _) s = (.ok handle, u) ∧
      t.host = u.host) ∨
    ∃ id data later u, body.readable = some id ∧ body.isHostBacked s.streams = false ∧
      drive (body.bytes fuel) s = some ((.ok data, later), u) ∧
      exec (newBody data : Action MemoryHost E ScriptError _) u = (.ok handle, t) := by
  cases hused : body.used with
  | true => simp [consume, hused] at h
  | false =>
    cases hback : body.isHostBacked s.streams with
    | true =>
      obtain ⟨source, hhandle⟩ := Body.handle_of_backed hback
      rw [drive_consume_moved hused hback hhandle] at h
      generalize hmoved : exec (moveBody source : Action MemoryHost E ScriptError _) s = moved at h
      obtain ⟨error | made, u⟩ := moved
      · cases h
      cases h
      exact .inl ⟨source, u, hhandle, rfl, hmoved, Body.host_release body.markUsed u⟩
    | false =>
      rw [drive_consume_read hused hback] at h
      obtain ⟨⟨⟨read, later⟩, u⟩, hread, hbuilds⟩ := Option.map_eq_some_iff.mp h
      cases read with
      | error error => cases hbuilds
      | ok data =>
        obtain ⟨id, hid⟩ := Body.readable_of_bytes hread hback
        simp only [Prod.mk.injEq] at hbuilds
        exact .inr ⟨id, data, later, u, hid, rfl, hread, Prod.ext hbuilds.1.1 hbuilds.2⟩

end ObjectStore

namespace Client

variable {uses : MemoryHost → List UInt32 → MemoryHost → Prop}
variable {allowed : Client MemoryHost E → Client MemoryHost E → Prop} {host : MemoryHost} {env : E}
variable {config : StreamConfig} {client : Client MemoryHost E}
variable {handle : BodyHandle} {value left : ObjectValue} {t : Session MemoryHost E} {fuel : Nat}

/-- The host body that is stored has what the value gives. -/
theorem built_of_hostBody (h : LeadsTo uses allowed (new host env config) client)
    (hbuilds : drive (ObjectStore.hostBody fuel value) client.session = some
      ((.ok handle, left), t)) :
    ∃ octets, t.host.unreadOf handle = octets ∧ value.GivesOctets client.session t octets ∧
      (client.session.streams.Pristine → 0 < client.session.host.chunkSize →
        ∀ {standing}, value.Stands client.session standing → standing = octets) := by
  cases value with
  | bytes data =>
    obtain ⟨hbuilt, -⟩ := ObjectStore.exec_newBody_ok (ObjectStore.of_run_newBody hbuilds)
    exact ⟨data, hbuilt.unreadOf, .bytes data, fun _ _ _ hstands => by cases hstands⟩
  | text text =>
    obtain ⟨hbuilt, -⟩ := ObjectStore.exec_newBody_ok (ObjectStore.of_run_newBody hbuilds)
    exact ⟨utf8 text, hbuilt.unreadOf, .text text, fun _ _ _ hstands => by cases hstands⟩
  | body body =>
    obtain ⟨⟨⟨result, later⟩, u⟩, hconsumes, hgives⟩ :=
      Option.bind_eq_some_iff.mp ((drive_bind _ _ _).symm.trans hbuilds)
    cases hgives
    rcases ObjectStore.of_consume_ok hconsumes with ⟨source, v, hhandle, hback, hmoves, hhost⟩ |
      ⟨id, data, later, v, hid, hback, hread, hwrites⟩
    · obtain ⟨kept, hkept, hbuilt⟩ := ObjectStore.exec_moveBody_ok hmoves
      refine ⟨kept.unread, by rw [hhost, hbuilt.unreadOf], .moved hback hhandle hkept, ?_⟩
      intro hpristine _ standing hstands
      rw [hstands.moved hpristine hback hhandle, MemoryHost.unreadOf, hkept]
      rfl
    · obtain ⟨hbuilt, -⟩ := ObjectStore.exec_newBody_ok hwrites
      obtain ⟨source, put, hunread, hemptied, rfl⟩ := emptied_of_bytes h hid hread
      refine ⟨_, hbuilt.unreadOf, ?_, ?_⟩
      · rw [hbuilt.aside]
        exact (ObjectValue.GivesOctets.read hback hid hunread hemptied).aside _
      · intro hpristine hchunk standing hstands
        exact hstands.read hpristine hchunk hid hread

end Client

/-! ### Storing -/

/-- What storing a value between two moments comes to. -/
structure ObjectStore.StoresWhole (store : ObjectStore) (key : String) (value : ObjectValue)
    (s t : Session MemoryHost E) (result : Except ScriptError Unit) : Prop where
  /-- If it fails, every object of every store is as it was. -/
  kept : ∀ error, result = .error error → t.host.stores = s.host.stores
  /-- If it succeeds, the object under the key is what the value gives, and every other one is as it
  was. -/
  stored : result = .ok () → ∃ name octets, s.host.openStores.find? store.handle.raw = some name ∧
    value.GivesOctets s t octets ∧ ∀ other otherKey, t.host.object? other otherKey =
      if other = name ∧ otherKey = key then some octets else s.host.object? other otherKey

namespace ObjectStore

variable {store : ObjectStore} {key : String} {value : ObjectValue}
  {s t later : Session MemoryHost E}
variable {handle : BodyHandle}

theorem StoresWhole.of_error {error : ScriptError} (h : t.host.stores = s.host.stores) :
    store.StoresWhole key value s t (.error error) :=
  ⟨fun _ _ => h, fun hok => by cases hok⟩

/-- An insert that fails stores nothing. -/
theorem stores_of_insert_error {error : ScriptError}
    (h : (exec (store.insert key handle) t).1 = .error error) :
    (exec (store.insert key handle) t).2.host.stores = t.host.stores := by
  unfold ObjectStore.insert at h ⊢
  rw [ScriptError.exec_hostCall] at h ⊢
  cases hinsert : (exec (HostRequest.objectStoreInsert store.handle key handle).perform
    t.host).1 with
  | error error => exact (MemoryHost.sameResources_of_error hinsert).stores
  | ok =>
    rw [show (exec (Host.objectStoreInsert store.handle key handle) t.host).1 =
      .ok () from hinsert] at h
    cases h

/-- An insert that succeeds stores what had not been read of the host body, and nothing else. -/
theorem object?_of_insert_ok (h : (exec (store.insert key handle) t).1 = .ok ()) :
    ∃ name, t.host.openStores.find? store.handle.raw = some name ∧ ∀ other otherKey,
      (exec (store.insert key handle) t).2.host.object? other otherKey =
        if other = name ∧ otherKey = key then some (t.host.unreadOf handle)
        else t.host.object? other otherKey := by
  obtain ⟨hinsert, hlater⟩ := exec_hostCall_ok (Prod.ext h rfl)
  obtain ⟨name, body, hname, hbody, -, hafter⟩ := MemoryHost.exec_objectStoreInsert_ok hinsert
  refine ⟨name, hname, fun other otherKey => ?_⟩
  have hunread : t.host.unreadOf handle = body.unread := by simp [MemoryHost.unreadOf, hbody]
  rw [hunread]
  exact (congrArg (MemoryHost.object? · other otherKey) hafter).trans
    (MemoryHost.object?_putObject _ _ _ _ _)

end ObjectStore

namespace Client

variable {uses : MemoryHost → List UInt32 → MemoryHost → Prop}
variable {allowed : Client MemoryHost E → Client MemoryHost E → Prop} {host : MemoryHost} {env : E}
variable {config : StreamConfig} {client : Client MemoryHost E}

/-- Over a host in memory, with whatever faults, in every state that clients can reach, a value is
stored as a whole or not at all. If a host body holds what there is of the value, then none of that
is missing in the object.

The condition of the second part (`Ages`) is that no slot for sources is freed 2 ^ 32 times: its
generation would run over, and a body name another stream than its own. -/
theorem storesWhole_of_leads (h : LeadsTo uses allowed (new host env config) client)
    {store : ObjectStore} {key : String} {value left : ObjectValue} {fuel : Nat}
    {result : Except ScriptError Unit} {later : Session MemoryHost E}
    (hput : drive (store.put fuel key value) client.session = some ((result, left), later)) :
    store.StoresWhole key value client.session later result ∧
      ((∀ before after, allowed before after →
        before.session.streams.sources.Ages after.session.streams.sources) →
          0 < client.session.host.chunkSize → result = .ok () →
            ∀ octets, value.Stands client.session octets → ∃ name,
              client.session.host.openStores.find? store.handle.raw = some name ∧
                later.host.object? name key = some octets) := by
  cases hkey : NameKind.objectStoreKey.check key with
  | error error =>
    rw [(ObjectStore.storesOnce store key).refused hkey] at hput
    cases hput
    exact ⟨.of_error rfl, fun _ _ hok => by cases hok⟩
  | ok =>
    rw [ObjectStore.drive_put store hkey] at hput
    obtain ⟨⟨⟨built, left'⟩, t⟩, hbuilds, hgives⟩ := Option.map_eq_some_iff.mp hput
    have hsame := (MemoryHost.keptByBodies_sameStores client.session.host).hostBody fuel value
      client.session ⟨rfl, rfl⟩ _ hbuilds
    cases built with
    | error error =>
      cases hgives
      exact ⟨.of_error hsame.stores, fun _ _ hok => by cases hok⟩
    | ok handle =>
      obtain ⟨octets, rfl, hvalue, hwhole⟩ := built_of_hostBody h hbuilds
      cases hgives
      cases hresult : (exec (store.insert key handle) t).1 with
      | error error =>
        exact ⟨.of_error ((ObjectStore.stores_of_insert_error hresult).trans hsame.stores),
          fun _ _ hok => by cases hok⟩
      | ok =>
        obtain ⟨name, hname, hobjects⟩ := ObjectStore.object?_of_insert_ok hresult
        rw [hsame.openStores] at hname
        simp only [hsame.object?_eq] at hobjects
        have hstored := hvalue.aside (exec (store.insert key handle) t).2.host
        refine ⟨⟨fun _ herror => ?_, fun _ => ⟨name, _, hname, hstored, hobjects⟩⟩,
          fun hages hchunk _ octets hstands => ⟨name, hname, ?_⟩⟩
        · cases herror
        · have hpristine := h.pristine (hages _ _) (Registry.pristine_new config)
            (orderly_new host env config)
          rw [hobjects, if_pos ⟨rfl, rfl⟩, hwhole hpristine hchunk hstands]

/-- A host with an open object store that has two objects, and with a complete body. -/
def stockedHost : MemoryHost :=
  ((exec (Host.objectStoreOpen "s")
    (({} : MemoryHost).addObjectStore "s" [("j", [8]), ("k", [9])])).2.addBody [1, 2]).2

/-- A host body is moved into an object store. One object is replaced, and the other one stays. -/
theorem storesWhole_of_leads_moved :
    ∃ left later, drive ((ObjectStore.mk "s" ⟨1⟩).put 0 "k"
        (.body { owner := ⟨0⟩, handle := some ⟨2⟩, readable := none }))
          (new stockedHost () {}).session = some ((.ok (), left), later) ∧
      later.host.object? "s" "k" = some [1, 2] ∧ later.host.object? "s" "j" = some [8] := by
  obtain ⟨left, later, hput⟩ : ∃ left later, drive ((ObjectStore.mk "s" ⟨1⟩).put 0 "k"
      (.body { owner := ⟨0⟩, handle := some ⟨2⟩, readable := none }))
        (new stockedHost () {}).session = some ((.ok (), left), later) := ⟨_, _, rfl⟩
  have hleads : LeadsTo (fun _ _ _ => False) NoneBack (new stockedHost () {})
      (new stockedHost () {}) :=
    .refl
  obtain ⟨hstores, hwhole⟩ := storesWhole_of_leads hleads hput
  have hopen : stockedHost.openStores.find? 1 = some "s" := by decide
  have hunread : stockedHost.unreadOf ⟨2⟩ = [1, 2] := by decide
  obtain ⟨name, hname, hobject⟩ := hwhole (fun _ _ hback => hback.sources) (by decide) rfl _
    (.unopened rfl rfl)
  obtain ⟨other, octets, hother, -, hobjects⟩ := hstores.stored rfl
  obtain rfl : name = "s" := Option.some_inj.mp (hname.symm.trans hopen)
  obtain rfl : other = "s" := Option.some_inj.mp (hother.symm.trans hopen)
  refine ⟨left, later, hput, hobject.trans (congrArg some hunread), ?_⟩
  rw [hobjects, if_neg (by decide)]
  decide

end Client

end EdgeStreams
