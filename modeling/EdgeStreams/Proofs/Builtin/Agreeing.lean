import EdgeStreams.Proofs.Builtin.Reporting
import EdgeStreams.Proofs.Client.Sources
import EdgeStreams.Proofs.Host.Injecting
import EdgeStreams.Proofs.Response.Origin

/-!
# Storing a body and draining it

A body is stored exactly if it can be drained, and what is stored is what the drain would have
given. There is one exception. A body that stands in its host body is moved by the host, and that
does not ask whether somebody holds its stream: it is stored, although a drain fails.

## Main definitions

- `Body.Movable`: the host may move a body
- `Body.Held`: somebody holds the stream of a body
- `ObjectStore.Agrees`: what storing and draining a body have to do with each other

## Main statements

- `ObjectStore.put_of_undrainable`: what cannot be drained and cannot be moved is refused
- `Body.settles_bytes_of_movable`: the drain of a body that could be moved
- `Client.agrees_of_runsTo`: in every state that can be reached and without faults, storing and
  draining agree
-/

namespace EdgeStreams

variable {H E : Type}

/-! ### Bodies that the host may move -/

namespace Body

/-- The host may move the body: it stands in its host body, and nobody has used it. -/
structure Movable (body : Body) (streams : Registry E) : Prop where
  unused : body.used = false
  backed : body.isHostBacked streams = true

/-- Somebody holds the stream of the body. -/
def Held (body : Body) (streams : Registry E) : Prop :=
  ∃ id, body.readable = some id ∧ streams.isLocked id = true

variable {body : Body} {streams : Registry E}

theorem Movable.unreleased (h : body.Movable streams) : body.released = false := by
  have hback := h.backed
  simp only [isHostBacked, Bool.and_eq_true, Bool.not_eq_true'] at hback
  exact hback.1

/-- The stream of a movable body is there, is one over a host body, and nobody has read it. -/
theorem Movable.source {id : ReadableId} (h : body.Movable streams)
    (hid : body.readable = some id) :
    ∃ source handle size, streams.source? id = some source ∧ source.backing = .body handle size ∧
      source.disturbed = false := by
  obtain ⟨own, hown⟩ := handle_of_backed h.backed
  have hback := h.backed
  simp only [isHostBacked, hown, hid, Bool.and_eq_true, Bool.not_eq_true', Registry.isBody,
    Registry.sourceKind?, Registry.isDisturbed] at hback
  cases hs : streams.source? id with
  | none => simp [hs] at hback
  | some source =>
    simp only [hs, Option.map_some, Option.getD_some, beq_iff_eq, Option.some.injEq] at hback
    cases hbacking : source.backing with
    | body handle size => exact ⟨source, handle, size, rfl, hbacking, hback.2.2⟩
    | script | transform => simp [Source.kind, hbacking] at hback

end Body

namespace ObjectStore

variable [Host H] {s : Session H E} {store : ObjectStore} {key : String} {body : Body}

/-- What cannot be drained and cannot be moved is refused, and everything is left alone. -/
theorem put_of_undrainable {error : BodyError} (hkey : NameKind.objectStoreKey.check key = .ok ())
    (h : body.Undrainable s.streams error) (hmovable : ¬ body.Movable s.streams) :
    ∃ failure, ∀ fuel, drive (store.put fuel key (.body body)) s =
      some ((.error failure, .body body), s) := by
  cases hused : body.used with
  | true =>
    refine ⟨.typeError "body has already been used", fun fuel => ?_⟩
    rw [drive_put store hkey, hostBody, drive_bind]
    simp [consume, hused]
  | false =>
    have hback : body.isHostBacked s.streams = false :=
      Bool.eq_false_iff.mpr fun hback => hmovable ⟨hused, hback⟩
    refine ⟨.ofBody error, fun fuel => ?_⟩
    rw [drive_put store hkey, hostBody, drive_bind, drive_consume_read hused hback, Body.bytes,
      Body.drainTo, drive_bind, Body.drive_drain_of_undrainable h]
    rfl

end ObjectStore

/-! ### Calls without faults -/

namespace MemoryHost

variable {host : MemoryHost} {handle : BodyHandle} {octets : Bytes} {size : UInt64}

/-- No call sets a fault. -/
theorem keptByBodies_faultless : KeptByBodies fun host : MemoryHost => host.faults = {} := by
  intro request _ host hfaults
  rw [faults_request, hfaults, FaultPlan.take_empty]

/-- A host body is read to its end. By induction on what is left of it. -/
theorem bodyReads_of_hasUnread (hc : host.Calm) (hsize : 0 < size)
    (h : host.HasUnread handle octets) :
    ∃ chunks last, BodyReads handle size host chunks (.ok ()) last ∧ chunks.flatten = octets := by
  induction hlen : octets.length using Nat.strong_induction_on generalizing host octets with
  | _ length ih =>
  obtain ⟨body, hbody, hopen, rfl⟩ := h
  have hread := exec_bodyRead_unread hc hbody hopen size
  have hlimit : 0 < host.readLimit size := readLimit_pos _ hsize hc.chunkSize
  cases hrest : body.unread with
  | nil =>
    rw [hrest, List.take_nil] at hread
    exact ⟨[], _, .ended hread, rfl⟩
  | cons octet rest =>
    have hne : body.unread.take (host.readLimit size) ≠ [] := by
      rw [Ne, List.take_eq_nil_iff, not_or]
      exact ⟨hlimit.ne', by simp [hrest]⟩
    have hcalm : (host.fetched handle body (host.readLimit size)).Calm :=
      ⟨by simp [fetched, hc.faultless], hc.chunkSize⟩
    have hleft : (host.fetched handle body (host.readLimit size)).HasUnread handle
        (body.unread.drop (host.readLimit size)) :=
      ⟨body.advance (host.readLimit size), by simp [fetched, find?_putBody],
        by rwa [MemoryBody.state_advance], MemoryBody.unread_advance _ _⟩
    have hshorter : (body.unread.drop (host.readLimit size)).length < length := by
      rw [← hlen, List.length_drop, hrest, List.length_cons]
      omega
    obtain ⟨chunks, last, hreads, hflat⟩ := ih _ hshorter hcalm hleft rfl
    refine ⟨_ :: chunks, last, .chunk hread hne hreads, ?_⟩
    rw [List.flatten_cons, hflat, List.take_append_drop, hrest]

/-- A host body that is not there or has been abandoned cannot be read. -/
theorem bodyReads_of_not_hasUnread (hfaults : host.faults = {})
    (h : ∀ octets, ¬ host.HasUnread handle octets) :
    ∃ last, BodyReads handle size host [] (.error .badHandle) last := by
  refine ⟨_, .failed (Prod.ext ?_ rfl)⟩
  rw [exec_bodyRead, hfaults, FaultPlan.take_empty]
  cases hbody : host.bodies.find? handle.raw with
  | none => rfl
  | some body =>
    have habandoned : body.state = .abandoned := by
      by_contra hopen
      exact h _ ⟨body, hbody, hopen, rfl⟩
    simp [habandoned]

/-- The content of a host body that can be read can be taken out. -/
theorem exec_takeBody_of_hasUnread (h : host.HasUnread handle octets) :
    (exec (takeBody handle) host).1 = .ok octets := by
  obtain ⟨body, hbody, hopen, rfl⟩ := h
  simp [takeBody, exec_bind, exec_body, hbody, hopen, Except.map]

/-- A host body that can be read is appended to one that is open. -/
theorem exec_bodyAppend_of_hasUnread {destination : BodyHandle} {body : MemoryBody}
    (hfaults : host.faults = {}) (hne : destination ≠ handle)
    (hbody : host.bodies.find? destination.raw = some body) (hopen : body.state = .opened)
    (h : host.HasUnread handle octets) :
    (exec (Host.bodyAppend destination handle) host).1 = .ok () := by
  have htaken : (exec (takeBody handle) (host.received .bodyAppend destination.erase)).1 =
      .ok octets :=
    exec_takeBody_of_hasUnread h
  rw [show exec (Host.bodyAppend destination handle) host = _ from
    exec_receive_bind (by rw [hfaults, FaultPlan.take_empty]) _, if_neg hne]
  simp only [exec_bind, exec_openBody, bodies_received, hbody, hopen, if_true, htaken, exec_setBody]

/-- A host body that can be read is stored in an open object store. -/
theorem exec_objectStoreInsert_of_hasUnread {store : ObjectStoreHandle} {key name : String}
    (hfaults : host.faults = {}) (hname : host.openStores.find? store.raw = some name)
    (h : host.HasUnread handle octets) :
    (exec (Host.objectStoreInsert store key handle) host).1 = .ok () := by
  have htaken : (exec (takeBody handle) (host.received .objectStoreInsert store.erase)).1 =
      .ok octets :=
    exec_takeBody_of_hasUnread h
  rw [show exec (Host.objectStoreInsert store key handle) host = _ from
    exec_receive_bind (by rw [hfaults, FaultPlan.take_empty]) _]
  have hopen : (host.received .objectStoreInsert store.erase).openStores.find? store.raw =
      some name := hname
  simp only [exec_bind, exec_get, exec_require, hopen, htaken, exec_modify]

end MemoryHost

namespace ObjectStore

variable {s t : Session MemoryHost E} {store : ObjectStore} {key name : String}
variable {handle source : BodyHandle} {octets data : Bytes}

/-- A new host body can be built. -/
theorem exec_newBody_of_faultless (hfaults : s.host.faults = {}) (data : Bytes) :
    ∃ t, exec (newBody data : Action MemoryHost E ScriptError _) s =
    (.ok ⟨s.host.nextHandle⟩, t) := by
  have hnew := s.host.exec_bodyNew
  rw [hfaults, FaultPlan.take_empty] at hnew
  dsimp only at hnew
  rw [newBody, exec_bind, ScriptError.exec_hostCall, hnew]
  dsimp only [Except.mapError]
  split
  · rw [exec_bind, ScriptError.exec_hostCall, MemoryHost.exec_bodyWrite]
    simp [hfaults, MemoryHost.find?_putBody, MemoryBody.writable, Except.mapError]
  · exact ⟨_, rfl⟩

/-- A host body that can be read can be moved. -/
theorem exec_moveBody_of_hasUnread (hfaults : s.host.faults = {})
    (hnew : s.host.bodies.find? s.host.nextHandle = none) (h : s.host.HasUnread source octets) :
    ∃ made t, exec (moveBody source : Action MemoryHost E ScriptError _) s = (.ok made, t) := by
  obtain ⟨body, hbody, hopen, -⟩ := h
  obtain ⟨t, hmade⟩ := exec_newBody_of_faultless hfaults []
  obtain ⟨hbuilt, hothers⟩ := exec_newBody_ok hmade
  have hne : source.raw ≠ s.host.nextHandle := by
    rintro he
    cases hbody.symm.trans (he ▸ hnew)
  have hkept := MemoryHost.keptByBodies_faultless.newBody [] s hfaults
  rw [hmade] at hkept
  have hother : (⟨s.host.nextHandle⟩ : BodyHandle) ≠ source := fun he =>
    hne (congrArg Handle.raw he.symm)
  have happend := MemoryHost.exec_bodyAppend_of_hasUnread hkept hother hbuilt.body rfl
    ⟨body, (hothers _ hne).trans hbody, hopen, rfl⟩
  rw [moveBody, exec_bind, hmade]
  dsimp only
  rw [exec_bind, ScriptError.exec_hostCall, happend]
  exact ⟨_, _, rfl⟩

/-- Only a host body that can be read can be moved. -/
theorem hasUnread_of_exec_moveBody
    (h : exec (moveBody source : Action MemoryHost E ScriptError _) s = (.ok handle, t)) :
    ∃ octets, s.host.HasUnread source octets := by
  obtain ⟨destination, u, hmade, hmoves⟩ := of_exec_bind_ok h
  obtain ⟨-, hothers⟩ := exec_newBody_ok hmade
  obtain ⟨⟨⟩, v, hmoved, hpure⟩ := of_exec_bind_ok hmoves
  obtain ⟨happend, rfl⟩ := exec_hostCall_ok hmoved
  obtain ⟨-, kept, hne, -, -, hkept, hopen, -⟩ := MemoryHost.exec_bodyAppend_ok happend
  exact ⟨_, kept, (hothers _ fun he => hne (congrArg Handle.mk he.symm)).symm.trans hkept, hopen,
    rfl⟩

/-- Once a host body has been built, it is stored. -/
theorem put_of_hostBody {value left : ObjectValue} {fuel : Nat}
    (hkey : NameKind.objectStoreKey.check key = .ok ()) (hfaults : s.host.faults = {})
    (hopen : s.host.openStores.find? store.handle.raw = some name)
    (hbuilds : drive (hostBody fuel value) s = some ((.ok handle, left), t))
    (h : t.host.HasUnread handle octets) :
    ∃ u, drive (store.put fuel key value) s = some ((.ok (), left), u) ∧
      u.host.object? name key = some octets := by
  have hkept := MemoryHost.keptByBodies_faultless.hostBody fuel value s hfaults _ hbuilds
  have hsame := (MemoryHost.keptByBodies_sameStores s.host).hostBody fuel value s
    ⟨rfl, rfl⟩ _ hbuilds
  have hinsert : (exec (store.insert key handle) t).1 = .ok () := by
    rw [ObjectStore.insert, ScriptError.exec_hostCall,
      MemoryHost.exec_objectStoreInsert_of_hasUnread
      hkept ((congrArg (Table.find? · _) hsame.openStores).trans hopen) h]
    rfl
  obtain ⟨other, hother, hobjects⟩ := object?_of_insert_ok hinsert
  rw [hsame.openStores] at hother
  obtain rfl : name = other := Option.some_inj.mp (hopen.symm.trans hother)
  refine ⟨(exec (store.insert key handle) t).2, ?_, ?_⟩
  · rw [drive_put store hkey, hbuilds, Option.map_some]
    dsimp only
    rw [hinsert]
  · obtain ⟨body, hbody, -, rfl⟩ := h
    rw [hobjects, if_pos ⟨rfl, rfl⟩, MemoryHost.unreadOf, hbody]
    rfl

theorem drive_hostBody_body (body : Body) (fuel : Nat) (s : Session MemoryHost E) :
    drive (hostBody fuel (.body body)) s =
      (drive (consume fuel body) s).map fun r => ((r.1.1, .body r.1.2), r.2) := by
  rw [hostBody, drive_bind, Option.map_eq_bind]
  rfl

end ObjectStore

/-! ### Draining what could be moved -/

namespace Body

variable {s : Session MemoryHost E} {body : Body} {handle : BodyHandle}

/-- The body is one over a host body, and so is its stream, as long as that is over any. -/
structure Over (body : Body) (handle : BodyHandle) (streams : Registry E) : Prop where
  own : body.handle = some handle
  stream : ∀ {id source other size}, body.readable = some id → streams.source? id = some source →
    source.backing = .body other size → other = handle

/-- A movable body that nobody holds has a stream that nobody has touched, or is given one. -/
theorem Movable.opens (hp : s.streams.Pristine) (wf : s.streams.WellFormed)
    (h : body.Movable s.streams) (hfree : ¬ body.Held s.streams)
    (hover : body.Over handle s.streams) :
    ∃ id source streamed t size, exec (body.stream : Action MemoryHost E BodyError _) s =
        (.ok (id, streamed), t) ∧
      0 < size ∧ t.streams.source? id = some source ∧ source.Dormant handle size ∧
        source.readerLock = none ∧ source.disturbed = false ∧ t.host = s.host := by
  cases hid : body.readable with
  | none =>
    exact ⟨_, _, _, _, _, exec_stream_new wf h.unreleased hid hover.own, hp.size,
      (source?_opened wf _ _ _).trans (if_pos rfl), ⟨rfl, rfl, rfl, rfl, rfl, ⟨rfl, rfl⟩, rfl⟩, rfl,
      rfl, rfl⟩
  | some id =>
    obtain ⟨source, other, size, hs, hback, hfresh⟩ := h.source hid
    obtain rfl := hover.stream hid hs hback
    have huntouched := hp.untouched_body hs hback hfresh
    have hlock : source.readerLock = none := by
      cases hlock : source.readerLock with
      | none => rfl
      | some token => exact absurd ⟨id, hid, by simp [Registry.isLocked, hs, hlock]⟩ hfree
    have hthere : s.streams.containsReadable id = true := by simp [Registry.containsReadable, hs]
    refine ⟨id, source, body, s, size, ?_, (huntouched.body _ _ hback).1, hs,
      huntouched.dormant hback, hlock, hfresh, rfl⟩
    rw [exec_stream_of_readable h.unreleased hid, if_pos hthere]

theorem settles_bytes {H : Type} [Host H] {s t : Session H E} {left : Body}
    {result : Except BodyError Bytes}
    (h : Settles (fun fuel => drive (body.drain fuel .bytes) s)
      ((drained .standard .bytes (.ok result), left), t)) :
    Settles (fun fuel => drive (body.bytes fuel) s) ((result, left), t) := by
  obtain ⟨bound, h⟩ := h
  refine ⟨bound, fun fuel hfuel => ?_⟩
  simp only [bytes, drainTo, drive_bind, h fuel hfuel, Option.bind_some, drive_pure]
  cases result <;> rfl

theorem settles_bytes_of_undrainable {H : Type} [Host H] {s : Session H E} {error : BodyError}
    (h : body.Undrainable s.streams error) :
    Settles (fun fuel => drive (body.bytes fuel) s) ((.error error, body), s) :=
  ⟨0, fun fuel _ => by
    simp only [bytes, drainTo, drive_bind, drive_drain_of_undrainable h]
    rfl⟩

theorem used_of_bytes {H : Type} [Host H] {s t : Session H E} {left : Body}
    {fuel : Nat} {data : Bytes} (h : drive (body.bytes fuel) s = some ((.ok data, left), t)) :
    left.used = true := by
  rw [bytes, drainTo, drive_bind, drive_drain] at h
  split at h
  · cases h
  split at h
  · cases h
  split at h
  · cases h
  split at h
  · cases h
  · obtain ⟨⟨⟨decoded, later⟩, u⟩, hdrained, hgives⟩ := Option.bind_eq_some_iff.mp h
    obtain ⟨read, -, hread⟩ := Option.map_eq_some_iff.mp hdrained
    simp only [Prod.mk.injEq] at hread
    obtain ⟨⟨-, rfl⟩, rfl⟩ := hread
    simp only [drive_pure, Option.some.injEq, Prod.mk.injEq] at hgives
    exact hgives.1.2 ▸ rfl

/-- A movable body that nobody holds is drained exactly if its host body can be read. -/
theorem settles_bytes_of_movable (hp : s.streams.Pristine) (wf : s.streams.WellFormed)
    (hc : s.host.Calm) (h : body.Movable s.streams) (hfree : ¬ body.Held s.streams)
    (hover : body.Over handle s.streams) :
    ∃ result left t, Settles (fun fuel => drive (body.bytes fuel) s) ((result, left), t) ∧
      (∀ octets, s.host.HasUnread handle octets → result = .ok octets) ∧
        ((∀ octets, ¬ s.host.HasUnread handle octets) → ∃ error, result = .error error) := by
  obtain ⟨id, source, streamed, t, size, hstream, hsize, hs, hd, hlock, hfresh, hhost⟩ :=
    h.opens hp wf hfree hover
  by_cases hunread : ∃ octets, s.host.HasUnread handle octets
  · obtain ⟨octets, hunread⟩ := hunread
    obtain ⟨chunks, last, hreads, hflat⟩ := MemoryHost.bodyReads_of_hasUnread hc hsize hunread
    obtain ⟨u, hdrains, -⟩ :=
      drain_of_dormant h.unused hstream hs hd hlock hfresh (hhost ▸ hreads) .bytes
    refine ⟨_, _, u, settles_bytes hdrains, fun other hother => ?_,
      fun hnone => absurd hunread (hnone octets)⟩
    rw [readOut, hflat]
    obtain ⟨body, hbody, -, rfl⟩ := hunread
    obtain ⟨found, hfound, -, rfl⟩ := hother
    obtain rfl := Option.some_inj.mp (hbody.symm.trans hfound)
    rfl
  · have hnone : ∀ octets, ¬ s.host.HasUnread handle octets := fun octets hyes =>
      hunread ⟨octets, hyes⟩
    obtain ⟨last, hreads⟩ := MemoryHost.bodyReads_of_not_hasUnread hc.faultless hnone
    obtain ⟨u, hdrains, -⟩ := drain_of_dormant h.unused hstream hs hd hlock hfresh
      ((hhost ▸ hreads : BodyReads handle size t.host [] _ last)) .bytes
    exact ⟨_, _, u, settles_bytes hdrains, fun octets hyes => absurd hyes (hnone octets),
      fun _ => ⟨_, rfl⟩⟩

end Body

/-! ### Storing and draining -/

/-- What storing a body and draining it, each in the same state, have to do with each other. -/
structure ObjectStore.Agrees (name key : String) (body : Body) (handle : BodyHandle)
    (s : Session MemoryHost E)
    (put : (Except ScriptError Unit × ObjectValue) × Session MemoryHost E)
    (drained : (Except BodyError Bytes × Body) × Session MemoryHost E) : Prop where
  /-- The one succeeds if the other does, unless somebody holds the stream of a body that could be
  moved. -/
  succeeds : ¬ (body.Movable s.streams ∧ body.Held s.streams) →
    (put.1.1 = .ok () ↔ ∃ data, drained.1.1 = .ok data)
  /-- In that case the drain is refused, and the body is stored if its host body can be read. -/
  held : body.Movable s.streams → body.Held s.streams → drained = ((.error .locked, body), s) ∧
    (put.1.1 = .ok () ↔ ∃ octets, s.host.HasUnread handle octets)
  /-- What is stored is what the drain gives, or what the host body has left. -/
  stored : put.1.1 = .ok () → ∃ octets, put.2.host.object? name key = some octets ∧
    (drained.1.1 = .ok octets ∨ body.Movable s.streams ∧ s.host.HasUnread handle octets)
  /-- A body that has been stored has been used. -/
  used : put.1.1 = .ok () → ∃ left, put.1.2 = .body left ∧ left.used = true
  /-- What can neither be drained nor moved is refused, and everything is left alone. -/
  refused : ∀ error, body.Undrainable s.streams error → ¬ body.Movable s.streams →
    ∃ failure, put = ((.error failure, .body body), s)

namespace ObjectStore

variable {s : Session MemoryHost E} {store : ObjectStore} {key name : String} {body : Body}
variable {handle : BodyHandle}
  {put : (Except ScriptError Unit × ObjectValue) × Session MemoryHost E}
variable {drained : (Except BodyError Bytes × Body) × Session MemoryHost E}

/-- A body that is moved. -/
theorem put_of_movable (hkey : NameKind.objectStoreKey.check key = .ok ())
    (hopen : s.host.openStores.find? store.handle.raw = some name) (hfaults : s.host.faults = {})
    (hnew : s.host.bodies.find? s.host.nextHandle = none) (h : body.Movable s.streams)
    (hhandle : body.handle = some handle) {fuel : Nat}
    (hput : drive (store.put fuel key (.body body)) s = some put) :
    (∀ octets, s.host.HasUnread handle octets → put.1.1 = .ok () ∧
      put.2.host.object? name key = some octets ∧ ∃ left, put.1.2 = .body left ∧ left.used = true) ∧
    ((∀ octets, ¬ s.host.HasUnread handle octets) → put.1.1 ≠ .ok ()) := by
  have hconsumes := drive_consume_moved h.unused h.backed hhandle fuel
  refine ⟨fun octets hunread => ?_, fun hnone hok => ?_⟩
  · obtain ⟨made, t, hmoved⟩ := exec_moveBody_of_hasUnread hfaults hnew hunread
    obtain ⟨kept, hkept, hbuilt⟩ := exec_moveBody_ok hmoved
    obtain ⟨found, hfound, -, rfl⟩ := hunread
    obtain rfl := Option.some_inj.mp (hkept.symm.trans hfound)
    rw [hmoved] at hconsumes
    have hbuilds := drive_hostBody_body body fuel s
    rw [hconsumes, Option.map_some] at hbuilds
    obtain ⟨u, hputs, hobject⟩ := put_of_hostBody hkey hfaults hopen hbuilds
      ⟨_, (congrArg (fun host : MemoryHost => host.bodies.find? made.raw)
        (Body.host_release body.markUsed t)).trans hbuilt.body, nofun,
          MemoryBody.unread_append_writable _⟩
    obtain rfl := Option.some_inj.mp (hputs.symm.trans hput)
    exact ⟨rfl, hobject, _, rfl, (body.markUsed.keeps_release t).used rfl⟩
  · rw [drive_put store hkey, drive_hostBody_body, hconsumes] at hput
    generalize hmoved : exec (moveBody handle : Action MemoryHost E ScriptError _) s = moved at hput
    obtain ⟨error | made, t⟩ := moved
    · cases hput
      cases hok
    · obtain ⟨octets, hunread⟩ := hasUnread_of_exec_moveBody hmoved
      exact hnone octets hunread

/-- A body that is read. -/
theorem put_of_read (hkey : NameKind.objectStoreKey.check key = .ok ())
    (hopen : s.host.openStores.find? store.handle.raw = some name) (hfaults : s.host.faults = {})
    (hused : body.used = false) (hback : body.isHostBacked s.streams = false) {fuel : Nat}
    (hput : drive (store.put fuel key (.body body)) s = some put)
    (hdrained : drive (body.bytes fuel) s = some drained) :
    (put.1.1 = .ok () ↔ ∃ data, drained.1.1 = .ok data) ∧
      ∀ data, drained.1.1 = .ok data → put.2.host.object? name key = some data ∧
        ∃ left, put.1.2 = .body left ∧ left.used = true := by
  have hbuilds := drive_hostBody_body body fuel s
  rw [drive_consume_read hused hback, hdrained, Option.map_some, Option.map_some] at hbuilds
  obtain ⟨⟨result, left⟩, u⟩ := drained
  cases result with
  | error error =>
    rw [drive_put store hkey, hbuilds] at hput
    cases hput
    exact ⟨⟨nofun, fun ⟨_, hdata⟩ => nomatch hdata⟩, nofun⟩
  | ok data =>
    have hkept := MemoryHost.keptByBodies_faultless.drainTo fuel body .bytes _ s hfaults _ hdrained
    obtain ⟨t, hmade⟩ := exec_newBody_of_faultless hkept data
    obtain ⟨hbuilt, -⟩ := exec_newBody_ok hmade
    dsimp only at hbuilds
    rw [hmade] at hbuilds
    obtain ⟨v, hputs, hobject⟩ := put_of_hostBody hkey hfaults hopen hbuilds
      ⟨_, hbuilt.body, nofun, MemoryBody.unread_append_writable _⟩
    obtain rfl := Option.some_inj.mp (hputs.symm.trans hput)
    refine ⟨⟨fun _ => ⟨data, rfl⟩, fun _ => rfl⟩, fun other hother => ?_⟩
    cases hother
    exact ⟨hobject, left, rfl, Body.used_of_bytes hdrained⟩

variable (hkey : NameKind.objectStoreKey.check key = .ok ())
variable (hopen : s.host.openStores.find? store.handle.raw = some name)
variable (hput : Settles (fun fuel => drive (store.put fuel key (.body body)) s) put)
variable (hdrained : Settles (fun fuel => drive (body.bytes fuel) s) drained)
include hkey hopen hput hdrained

theorem agrees_of_movable (hp : s.streams.Pristine) (wf : s.streams.WellFormed) (hc : s.host.Calm)
    (hnew : s.host.bodies.find? s.host.nextHandle = none) (h : body.Movable s.streams)
    (hover : body.Over handle s.streams) : Agrees name key body handle s put drained := by
  obtain ⟨bound, hputs⟩ := hput
  obtain ⟨hthere, hmissing⟩ :=
    put_of_movable hkey hopen hc.faultless hnew h hover.own (hputs bound le_rfl)
  have hstored : put.1.1 = .ok () ↔ ∃ octets, s.host.HasUnread handle octets := by
    refine ⟨fun hok => ?_, fun ⟨octets, hunread⟩ => (hthere octets hunread).1⟩
    by_contra hnone
    exact hmissing (fun octets hunread => hnone ⟨octets, hunread⟩) hok
  refine ⟨fun hnot => ?_, fun _ ⟨id, hid, hlocked⟩ => ⟨?_, hstored⟩, fun hok => ?_, fun hok => ?_,
    fun _ _ hmovable => absurd h hmovable⟩
  · obtain ⟨result, left, t, hbytes, hgives, hfails⟩ :=
      Body.settles_bytes_of_movable hp wf hc h (fun hheld => hnot ⟨h, hheld⟩) hover
    obtain rfl := hdrained.unique hbytes
    rw [hstored]
    refine ⟨fun ⟨octets, hunread⟩ => ⟨octets, hgives octets hunread⟩, fun ⟨data, hdata⟩ => ?_⟩
    by_contra hnone
    obtain ⟨error, herror⟩ := hfails fun octets hunread => hnone ⟨octets, hunread⟩
    cases hdata.symm.trans herror
  · exact hdrained.unique (Body.settles_bytes_of_undrainable (.locked h.unused hid hlocked))
  · obtain ⟨octets, hunread⟩ := hstored.mp hok
    exact ⟨octets, (hthere octets hunread).2.1, .inr ⟨h, hunread⟩⟩
  · obtain ⟨octets, hunread⟩ := hstored.mp hok
    exact (hthere octets hunread).2.2

theorem agrees_of_not_movable (hfaults : s.host.faults = {}) (h : ¬ body.Movable s.streams) :
    Agrees name key body handle s put drained := by
  have hrefused : ∀ error, body.Undrainable s.streams error → ¬ body.Movable s.streams →
      ∃ failure, put = ((.error failure, .body body), s) := fun error hu _ =>
    let ⟨failure, hfails⟩ := put_of_undrainable hkey hu h
    ⟨failure, hput.unique ⟨0, fun fuel _ => hfails fuel⟩⟩
  cases hused : body.used with
  | true =>
    obtain rfl := hdrained.unique (Body.settles_bytes_of_undrainable (.used hused))
    obtain ⟨failure, rfl⟩ := hrefused _ (.used hused) h
    exact ⟨fun _ => ⟨nofun, fun ⟨_, hdata⟩ => nomatch hdata⟩,
      fun hyes => absurd hyes h, nofun, nofun, hrefused⟩
  | false =>
    have hback : body.isHostBacked s.streams = false :=
      Bool.eq_false_iff.mpr fun hback => h ⟨hused, hback⟩
    obtain ⟨bound, hputs⟩ := hput
    obtain ⟨bound', hdrains⟩ := hdrained
    obtain ⟨hiff, hstored⟩ := put_of_read hkey hopen hfaults hused hback
      (hputs (max bound bound') (le_max_left _ _)) (hdrains (max bound bound') (le_max_right _ _))
    refine ⟨fun _ => hiff, fun hyes => absurd hyes h, fun hok => ?_, fun hok => ?_, hrefused⟩
    · obtain ⟨data, hdata⟩ := hiff.mp hok
      exact ⟨data, (hstored data hdata).1, .inl hdata⟩
    · obtain ⟨data, hdata⟩ := hiff.mp hok
      exact (hstored data hdata).2

end ObjectStore

/-- Over a host in memory without faults, in every state that clients can reach before a number has
run over, storing a body in an open store and draining it agree. -/
theorem Client.agrees_of_runsTo {size : UInt64} {env : E} {config : StreamConfig}
    {client : Client MemoryHost E} (h : (new (.withChunkSize size) env config).RunsTo client)
    (hfaults : client.session.host.faults = {}) {store : ObjectStore} {key name : String}
    (hkey : NameKind.objectStoreKey.check key = .ok ())
    (hopen : client.session.host.openStores.find? store.handle.raw = some name) {body : Body}
    {handle : BodyHandle} (hover : body.Over handle client.session.streams)
    {put : (Except ScriptError Unit × ObjectValue) × Session MemoryHost E}
    {drained : (Except BodyError Bytes × Body) × Session MemoryHost E}
    (hput : Settles (fun fuel => drive (store.put fuel key (.body body)) client.session) put)
    (hdrained : Settles (fun fuel => drive (body.bytes fuel) client.session) drained) :
    ObjectStore.Agrees name key body handle client.session put drained := by
  obtain ⟨wf, hp, hn⟩ := h.inTime
  by_cases hmovable : body.Movable client.session.streams
  · have hnew : client.session.host.bodies.find? client.session.host.nextHandle = none := by
      by_contra hfound
      exact absurd (hn.bodies _ hfound) (UInt32.lt_irrefl _)
    exact ObjectStore.agrees_of_movable hkey hopen hput hdrained hp wf ⟨hfaults, hn.chunkSize⟩ hnew
      hmovable hover
  · exact ObjectStore.agrees_of_not_movable hkey hopen hput hdrained hfaults hmovable

end EdgeStreams
