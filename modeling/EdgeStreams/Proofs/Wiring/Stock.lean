import EdgeStreams.Proofs.Host.Bodies
import EdgeStreams.Proofs.Session.Courses
import EdgeStreams.Proofs.Wiring.Basic
import Mathlib.Algebra.Order.Group.Nat
import Mathlib.Algebra.Order.Pi

/-!
# What waits in a place

A chunk in a queue counts for one more than its octets, so that an empty chunk counts as well. In a
host body only octets count.

## Main definitions

- `ReadableController.load`: what waits in a queue
- `Session.stock`: what waits in each place

## Main statements

- `MemoryHost.unread_read` and its like: what calls on a host body do to its octets
- `Session.stock_takeReady`, `Session.stock_pullBody`: what a reader takes, and what a pull moves
- `Session.stock_write`: what a write brings
- `Session.stock_close_le`, `Session.stock_abort_le`, `Session.stock_cancel_le`: other operations
  bring nothing
-/

namespace EdgeStreams

variable {E : Type}

/-! ### Queues -/

namespace ReadableController

/-- What waits in a queue: the octets, and one for each chunk. -/
def load (controller : ReadableController) : ℕ :=
  (controller.queue.map fun chunk => chunk.length + 1).sum

variable (controller : ReadableController)

theorem load_queued (chunk : Bytes) :
    (controller.queued chunk).load = controller.load + (chunk.length + 1) := by
  simp [load, queued]

theorem load_enqueue_le (chunk : Bytes) :
    (controller.enqueue chunk).2.load ≤ controller.load + (chunk.length + 1) := by
  unfold enqueue
  split
  · exact Nat.le_add_right _ _
  · split
    · exact Nat.le_add_right _ _
    · exact (controller.load_queued chunk).le

theorem load_close : controller.close.2.load = controller.load := by
  unfold close
  split <;> rfl

theorem load_error_le (error : StreamError) : (controller.error error).load ≤ controller.load := by
  unfold ReadableController.error
  split
  · exact Nat.zero_le _
  · exact le_rfl

theorem load_cancel : controller.cancel.load = 0 := by
  unfold cancel
  split <;> rfl

/-- What a reader has found is no longer in the queue. -/
theorem load_takeReady {chunk : Bytes} (h : controller.takeReady.1 = .ok (some (.chunk chunk))) :
    controller.takeReady.2.load + (chunk.length + 1) = controller.load := by
  obtain ⟨mark, queue, size, closing, state⟩ := controller
  cases state with
  | closed | errored => simp [takeReady] at h
  | readable =>
    cases queue with
    | nil => simp [takeReady, dequeue] at h
    | cons first rest =>
      simp only [takeReady, dequeue, Except.ok.injEq, Option.some.injEq,
        ReadOutcome.chunk.injEq] at h
      subst h
      simp [takeReady, dequeue, load, Nat.add_comm]

theorem load_takeReady_le : controller.takeReady.2.load ≤ controller.load := by
  obtain ⟨mark, queue, size, closing, state⟩ := controller
  cases state with
  | closed | errored => exact le_rfl
  | readable =>
    cases queue with
    | nil => exact le_rfl
    | cons first rest => simp [takeReady, dequeue, load]

end ReadableController

/-! ### Host bodies -/

theorem MemoryBody.length_unread (body : MemoryBody) :
    body.unread.length = body.contents.toList.length - body.position := by
  simp [unread]

namespace MemoryHost

/-- The octets of a body that have not been read. -/
def unread (host : MemoryHost) (handle : BodyHandle) : Bytes :=
  ((host.bodies.find? handle.raw).map MemoryBody.unread).getD []

variable (host : MemoryHost) (handle : BodyHandle)

theorem unread_putBody (body : MemoryBody) (other : BodyHandle) :
    (host.putBody handle body).unread other = if other = handle then body.unread
      else host.unread other := by
  obtain ⟨raw⟩ := handle
  obtain ⟨raw'⟩ := other
  simp only [unread, find?_putBody, Handle.mk.injEq]
  split <;> rfl

@[simp] theorem unread_received (operation : HostOperation) (about : Option AnyHandle) :
    (host.received operation about).unread = host.unread := rfl

@[simp] theorem unread_reaching (place : Nat) :
    (host.reaching handle place).unread = host.unread := rfl

/-- A read takes octets out of its body, or does nothing to any body. -/
theorem unread_read (limit : UInt64) :
    (∃ error, (exec (Host.bodyRead handle limit) host).1 = .error error ∧
        (exec (Host.bodyRead handle limit) host).2.unread = host.unread) ∨
      ∃ chunk, (exec (Host.bodyRead handle limit) host).1 = .ok chunk ∧
        chunk ++ (exec (Host.bodyRead handle limit) host).2.unread handle = host.unread handle ∧
          ∀ other, other ≠ handle →
            (exec (Host.bodyRead handle limit) host).2.unread other = host.unread other := by
  rw [exec_bodyRead]
  split
  · exact .inl ⟨_, rfl, rfl⟩
  · split
    · exact .inl ⟨_, rfl, rfl⟩
    · next body hfound =>
      split
      · exact .inl ⟨_, rfl, rfl⟩
      · refine .inr ⟨_, rfl, ?_, fun other hne => ?_⟩
        · rw [unread_reaching, unread_putBody, if_pos rfl, body.peek_append_unread, unread, hfound]
          rfl
        · rw [unread_reaching, unread_putBody, if_neg hne, unread_received]

/-- A write adds no more octets than it is given, and only to its body. -/
theorem unread_write (chunk : Bytes) :
    ((exec (Host.bodyWrite handle chunk) host).2.unread handle).length ≤
        (host.unread handle).length + chunk.length ∧
      ∀ other, other ≠ handle →
        (exec (Host.bodyWrite handle chunk) host).2.unread other = host.unread other := by
  have hsame : ((host.received .bodyWrite handle.erase).unread handle).length ≤
      (host.unread handle).length + chunk.length := Nat.le_add_right _ _
  rw [exec_bodyWrite]
  split
  · exact ⟨hsame, fun _ _ => rfl⟩
  · split
    · exact ⟨hsame, fun _ _ => rfl⟩
    · next body hfound =>
      split
      · refine ⟨?_, fun other hne => by rw [unread_putBody, if_neg hne, unread_received]⟩
        rw [unread_putBody, if_pos rfl, unread, hfound, Option.map_some, Option.getD_some,
          MemoryBody.length_unread, MemoryBody.length_unread, MemoryBody.contents_append,
          List.length_append]
        change body.contents.toList.length + chunk.length - body.position ≤ _
        omega
      · exact ⟨hsame, fun _ _ => rfl⟩

theorem unread_close : (exec (Host.bodyClose handle) host).2.unread = host.unread := by
  rw [exec_bodyClose]
  split
  · rfl
  · split
    · rfl
    · next body hfound =>
      split
      · funext other
        rw [unread_putBody]
        split
        · next he => rw [he, unread, hfound]; rfl
        · rfl
      · rfl

theorem unread_abandon : (exec (Host.bodyAbandon handle) host).2.unread = host.unread := by
  rw [exec_bodyAbandon]
  split
  · rfl
  · split
    · rfl
    · next body hfound =>
      split
      · rfl
      · funext other
        rw [unread_putBody]
        split
        · next he => rw [he, unread, hfound]; rfl
        · rfl

end MemoryHost

namespace Session

variable {s t : Session MemoryHost E}

/-- What waits in each place. -/
def stock (s : Session MemoryHost E) : Place → ℕ
  | .queue id => ((s.streams.source? id).map fun source => source.controller.load).getD 0
  | .body handle => (s.host.unread handle).length

/-! ### Changes of the session -/

theorem stock_queue {id : ReadableId} {source : Source E}
    (hs : s.streams.source? id = some source) : s.stock (.queue id) = source.controller.load := by
  simp [stock, hs]

/-- Only sources and host bodies hold octets. -/
theorem stock_congr (hsource : ∀ id, t.streams.source? id = s.streams.source? id)
    (hunread : t.host.unread = s.host.unread) : t.stock = s.stock := by
  funext place
  cases place with
  | queue id => simp only [stock, hsource]
  | body handle => simp only [stock, hunread]

theorem stock_onHost {host : MemoryHost} (hunread : host.unread = s.host.unread) :
    ({ s with host } : Session MemoryHost E).stock = s.stock := stock_congr (fun _ => rfl) hunread

@[simp] theorem stock_note (event : StreamEvent) (s : Session MemoryHost E) :
    (note event s).stock = s.stock := rfl

@[simp] theorem stock_noteEnqueued (id : ReadableId) (chunks : List Bytes)
    (s : Session MemoryHost E) : (noteEnqueued id chunks s).stock = s.stock := rfl

@[simp] theorem stock_noteDelivered (id : ReadableId)
    (found : Except StreamError (Option ReadOutcome)) (s : Session MemoryHost E) :
    (noteDelivered id found s).stock = s.stock :=
  stock_congr (fun _ => by simp) (by simp)

@[simp] theorem stock_setSink (id : WritableId) (sink : Sink E) (s : Session MemoryHost E) :
    (setSink id sink s).stock = s.stock := rfl

@[simp] theorem stock_setBridge (id : BridgeId) (bridge : Bridge E) (s : Session MemoryHost E) :
    (setBridge id bridge s).stock = s.stock := rfl

theorem stock_setSource {id : ReadableId} {source : Source E} (source' : Source E)
    (hs : s.streams.source? id = some source) :
    (setSource id source' s).stock = Function.update s.stock
    (.queue id) source'.controller.load := by
  funext place
  cases place with
  | queue other =>
    by_cases he : other = id
    · subst he
      simp [stock, Registry.source?_setSource, hs]
    · simp [stock, Registry.source?_setSource, he]
  | body handle => rw [Function.update_of_ne (by simp)]; rfl

/-- A source whose queue has come to hold `n` more. -/
theorem stock_setSource_le {id : ReadableId} {source source' : Source E} {n : ℕ}
    (hs : s.streams.source? id = some source)
    (hload : source'.controller.load ≤ source.controller.load + n) :
    (setSource id source' s).stock ≤ s.stock + Pi.single (.queue id) n := by
  rw [stock_setSource source' hs]
  intro place
  by_cases he : place = .queue id
  · subst he
    simpa [stock_queue hs] using hload
  · simp [Function.update_of_ne he, Pi.single_eq_of_ne he]

/-- A source whose queue holds no more than before. -/
theorem stock_setSource_le_self {id : ReadableId} {source source' : Source E}
    (hs : s.streams.source? id = some source)
    (hload : source'.controller.load ≤ source.controller.load) :
    (setSource id source' s).stock ≤ s.stock := by
  have h := stock_setSource_le (n := 0) hs hload
  rwa [Pi.single_zero, add_zero] at h

/-! ### Taking and pulling -/

/-- A reader takes no more than there is. -/
theorem stock_takeReady {id : ReadableId} {source : Source E}
    (hs : s.streams.source? id = some source) :
    (exec (takeReady id) s).2.stock ≤ s.stock ∧
      ∀ chunk, (exec (takeReady id) s).1 = .ok (some (.chunk chunk)) →
        (exec (takeReady id) s).2.stock + Pi.single (.queue id) (chunk.length + 1) ≤ s.stock := by
  rw [exec_takeReady hs, stock_noteDelivered]
  refine ⟨stock_setSource_le_self hs source.controller.load_takeReady_le, fun chunk hfound => ?_⟩
  have hload := source.controller.load_takeReady hfound
  rw [stock_setSource _ hs]
  intro place
  by_cases he : place = .queue id
  · subst he
    simp [stock_queue hs, hload]
  · simp [Function.update_of_ne he, Pi.single_eq_of_ne he]

/-- A pull of a host body moves a chunk from the body into the queue, or nothing. -/
theorem stock_pullBody {id : ReadableId} {source : Source E} {handle : BodyHandle} {size : UInt64}
    (hs : s.streams.source? id = some source) :
    (exec (pullBody id handle size) s).2.stock ≤ s.stock ∨
      ∃ chunk : Bytes, chunk ≠ [] ∧
        (exec (pullBody id handle size) s).2.stock + Pi.single (.body handle) chunk.length ≤
          s.stock + Pi.single (.queue id) (chunk.length + 1) := by
  simp only [pullBody, exec_bind, exec_streamCall]
  rcases s.host.unread_read handle size with ⟨error, hread, hsame⟩ | ⟨chunk, hread, htaken, hothers⟩
  · left
    rw [hread]
    exact (stock_onHost hsame).le
  · have hs' : ({ s with host := (exec (Host.bodyRead handle size) s.host).2 } :
        Session MemoryHost E).streams.source? id = some source := hs
    simp only [hread, Except.mapError, exec_source, hs', Registry.need_some]
    -- the octets that have been taken are gone from the body
    have hhost : ({ s with host := (exec (Host.bodyRead handle size) s.host).2 } :
        Session MemoryHost E).stock + Pi.single (.body handle) chunk.length = s.stock := by
      funext place
      cases place with
      | queue other => simp [stock]
      | body other =>
        by_cases he : other = handle
        · subst he
          simp [stock, ← htaken, Nat.add_comm]
        · simp [stock, hothers other he, he]
    by_cases hchunk : chunk = []
    · subst hchunk
      left
      simp only [List.isEmpty_nil, if_true, exec_bind, exec_modify, exec_settled]
      rw [List.length_nil, Pi.single_zero, add_zero] at hhost
      exact hhost ▸ stock_setSource_le_self hs' source.controller.load_close.le
    · right
      refine ⟨chunk, hchunk, ?_⟩
      simp only [List.isEmpty_iff, hchunk, if_false, exec_bind, exec_modify, exec_settled, atDesk,
        stock_noteEnqueued]
      refine (add_le_add_left (stock_setSource_le hs' (source.controller.load_enqueue_le chunk))
        _).trans ?_
      rw [add_right_comm, hhost]

/-! ### Transformers -/

/-- A transformer that passes chunks on adds no more than it is given. -/
theorem load_transform_identity (chunk : Bytes) (env : E) (desk : TransformDesk) :
    (TransformWork.transform chunk .identity env desk).2.controller.load ≤
      desk.controller.load + (chunk.length + 1) := desk.controller.load_enqueue_le chunk

theorem load_flush_identity (env : E) (desk : TransformDesk) :
    (TransformWork.flush .identity env desk).2.controller.load ≤ desk.controller.load :=
  desk.controller.load_close.le

theorem load_leftBy_le (worked : GuestResult E × TransformDesk) :
    (leftBy worked).load ≤ worked.2.controller.load := by
  unfold leftBy
  split
  · exact ReadableController.load_error_le _ _
  · exact le_rfl

theorem stock_transformed (bridge : Bridge E) (worked : GuestResult E × TransformDesk)
    (id : BridgeId) (source : Source E) (s : Session MemoryHost E) :
    (transformed bridge worked s id source).stock = (fed bridge worked s source).stock := by
  unfold transformed spread marked
  split
  · refine stock_congr (fun other => ?_) ?_
    · split <;> simp
    · split <;> rfl
  · split <;> rfl

/-- What the work of a transformer brings comes into the readable half. -/
theorem stock_withTransformer_le {id : BridgeId} {bridge : Bridge E}
    (work : TransformWork E) {n : ℕ} (hb : s.streams.bridge? id = some bridge)
    (hwork : ∀ env desk, (work bridge.transformer env desk).2.controller.load ≤
      desk.controller.load + n) :
    (exec (withTransformer id work) s).2.stock ≤ s.stock + Pi.single
    (.queue bridge.readable) n := by
  have hsame : s.stock ≤ s.stock + Pi.single (.queue bridge.readable) n := le_self_add
  rw [exec_withTransformer, hb]
  dsimp only
  cases hs : s.streams.source? bridge.readable with
  | none => exact hsame
  | some source =>
    have hload := hwork s.env { controller := source.controller }
    dsimp only
    split
    · exact hsame
    · rw [stock_transformed, fed]
      exact stock_setSource_le (s := noteEnqueued _ _ { s with env := _ }) hs
        ((load_leftBy_le _).trans hload)

/-! ### What reaches a sink -/

/-- The octets of a host body change. -/
theorem stock_onHost_le {host : MemoryHost} {handle : BodyHandle} {n : ℕ}
    (hgrows : (host.unread handle).length ≤ (s.host.unread handle).length + n)
    (hothers : ∀ other, other ≠ handle → host.unread other = s.host.unread other) :
    ({ s with host } : Session MemoryHost E).stock ≤ s.stock + Pi.single (.body handle) n := by
  intro place
  cases place with
  | queue id => simp [stock]
  | body other =>
    by_cases he : other = handle
    · subst he
      simpa [stock] using hgrows
    · simp [stock, hothers other he, he]

/-- What is handed to a sink comes to a place that the sink fills. -/
theorem stock_writeAlgorithm {id : WritableId} {sink : Sink E} (hc : s.streams.Composed)
    (hg : s.streams.Guestless) (hs : s.streams.sink? id = some sink) (chunk : Bytes) :
    ∃ place, s.streams.FillsPlace id place ∧
      (exec (writeAlgorithm id chunk) (setSink id sink.working s)).2.stock ≤
        s.stock + Pi.single place (chunk.length + 1) := by
  have hduring : (setSink id sink.working s).streams.sink? id = some sink.working := by
    simp [Registry.sink?_setSink, hs]
  have hback : sink.working.backing = sink.backing := rfl
  simp only [writeAlgorithm, exec_bind, exec_sink, hduring, Registry.need_some, hback]
  cases hkind : sink.backing with
  | script guest => exact absurd hkind (hg.sink hs)
  | body handle =>
    refine ⟨.body handle, .body hs hkind, ?_⟩
    obtain ⟨hgrows, hothers⟩ := s.host.unread_write handle chunk
    exact stock_onHost_le (s := setSink id sink.working s) (hgrows.trans (Nat.le_succ _)) hothers
  | transform name =>
    obtain ⟨bridge, hb, rfl⟩ := hc.writable hs hkind
    refine ⟨.queue bridge.readable, .bridge hb, ?_⟩
    have hb' : (setSink bridge.writable sink.working s).streams.bridge? name = some bridge := hb
    have hforgot : (setBridge name { bridge with pullRequested := false }
        (setSink bridge.writable sink.working s)).streams.bridge? name =
          some { bridge with pullRequested := false } := by simp [Registry.bridge?_setBridge, hb]
    simp only [exec_bind, exec_bridge, hb', Registry.need_some, exec_modify]
    have hle := stock_withTransformer_le (.transform chunk) hforgot fun env desk => by
      rw [hg.bridge hb]
      exact load_transform_identity chunk env desk
    simpa using hle

theorem stock_closeAlgorithm_le {id : WritableId} {sink sink' : Sink E}
    (hg : s.streams.Guestless) (hs : s.streams.sink? id = some sink)
    (hback : sink'.backing = sink.backing) :
    (exec (closeAlgorithm id) (setSink id sink' s)).2.stock ≤ s.stock := by
  have hduring : (setSink id sink' s).streams.sink? id = some sink' := by
    simp [Registry.sink?_setSink, hs]
  simp only [closeAlgorithm, exec_bind, exec_sink, hduring, Registry.need_some, hback]
  cases hkind : sink.backing with
  | script guest => exact absurd hkind (hg.sink hs)
  | body handle => exact (stock_onHost (s.host.unread_close handle)).le
  | transform name =>
    dsimp only
    cases hb : s.streams.bridge? name with
    | none =>
      rw [exec_withTransformer]
      simp [hb]
    | some bridge =>
      have hb' : (setSink id sink' s).streams.bridge? name = some bridge := hb
      have hle := stock_withTransformer_le .flush (n := 0) hb' fun env desk => by
        rw [hg.bridge hb]
        exact load_flush_identity env desk
      rwa [Pi.single_zero, add_zero] at hle

theorem stock_modifySource_le (id : ReadableId) {change : Source E → Source E}
    (hchange : ∀ source, (change source).controller.load ≤ source.controller.load)
    (s : Session MemoryHost E) :
    (mapStreams (fun streams => streams.modifySource id change) s).stock ≤ s.stock := by
  cases hs : s.streams.source? id with
  | none => simp [mapStreams, Registry.modifySource, hs]
  | some source =>
    simpa [mapStreams, Registry.modifySource, hs, setSource] using
      stock_setSource_le_self hs (hchange source)

theorem stock_abortAlgorithm_le (id : WritableId) (reason : Option String)
    (hg : s.streams.Guestless) : (exec (abortAlgorithm id reason) s).2.stock ≤ s.stock := by
  simp only [abortAlgorithm, exec_bind, exec_sink]
  cases hs : s.streams.sink? id with
  | none => exact le_rfl
  | some sink =>
    dsimp only [Registry.need_some]
    cases hkind : sink.backing with
    | script guest => exact absurd hkind (hg.sink hs)
    | body handle => exact (stock_onHost (s.host.unread_abandon handle)).le
    | transform name =>
      simp only [exec_bind, exec_bridge]
      cases hb : s.streams.bridge? name with
      | none => exact le_rfl
      | some bridge =>
        exact stock_modifySource_le bridge.readable
          (fun source => source.controller.load_error_le .aborted)
          (setBridge name { bridge with errored := true } s)

theorem stock_cancelAlgorithm_le (id : ReadableId) (reason : Option String)
    (hg : s.streams.Guestless) : (exec (cancelAlgorithm id reason) s).2.stock ≤ s.stock := by
  simp only [cancelAlgorithm, exec_bind, exec_source]
  cases hs : s.streams.source? id with
  | none => exact le_rfl
  | some source =>
    dsimp only [Registry.need_some]
    cases hkind : source.backing with
    | script guest => exact absurd hkind (hg.source hs)
    | body handle => exact (stock_onHost (s.host.unread_abandon handle)).le
    | transform name =>
      simp only [exec_bind, exec_bridge]
      cases hb : s.streams.bridge? name with
      | none => exact le_rfl
      | some bridge =>
        refine (stock_congr (s := s) (fun other => ?_) ?_).le <;> simp

/-! ### Operations -/

section Operations

variable (hc : s.streams.Composed) (hg : s.streams.Guestless)
include hc hg

/-- A write brings its chunk to a place that the stream fills, or nothing. -/
theorem stock_write (id : WritableId) (chunk : Bytes) (token : Option WriterToken) :
    (exec (write id chunk token) s).2.stock ≤ s.stock ∨ ∃ place, s.streams.FillsPlace id place ∧
      (exec (write id chunk token) s).2.stock ≤ s.stock + Pi.single place (chunk.length + 1) := by
  by_cases htakes : s.streams.Takes id token
  · obtain ⟨sink, hs, rfl, hw, -⟩ := htakes
    right
    obtain ⟨place, hfills, hle⟩ := stock_writeAlgorithm hc hg hs chunk
    refine ⟨place, hfills, ?_⟩
    have hsilent := asksNothing_writeAlgorithm id chunk (setSink id sink.working s)
    have hduring : (setSink id sink.working s).streams.sink? id = some sink.working := by
      simp [Registry.sink?_setSink, hs]
    obtain ⟨sink', hworked, hr⟩ := SlotMap.rel_some_left (hduring ▸ hsilent.sink id)
    rw [exec_write_of_lock hs, exec_writeUnchecked_of_idle hs (hc.idle hs) hw rfl hworked hr,
      stock_setSink, stock_note]
    exact hle
  · obtain ⟨error, hwrite⟩ := exec_write_of_refused chunk htakes
    exact .inl (by rw [hwrite])

theorem stock_closeUnchecked_le (id : WritableId) :
    (exec (closeUnchecked id) s).2.stock ≤ s.stock := by
  cases hs : s.streams.sink? id with
  | none => simp [closeUnchecked, exec_bind, hs]
  | some sink =>
    cases hterminal : sink.controller.state.isTerminal with
    | true =>
      obtain ⟨result, hclose, -⟩ := exec_closeUnchecked_of_terminal hs hterminal
      rw [hclose]
    | false =>
      have hw := (hc.idle hs).writable hterminal
      have hsilent := asksNothing_closeAlgorithm id (setSink id (sink.inState .closing).working s)
      have hduring : (setSink id (sink.inState .closing).working s).streams.sink? id =
          some (sink.inState .closing).working := by simp [Registry.sink?_setSink, hs]
      have hkept : (exec (closeAlgorithm id) (setSink id (sink.inState .closing).working
          s)).2.streams.sink? id = some (sink.inState .closing).working := by
        obtain ⟨sink', hworked, rfl | ⟨hwritable, -⟩⟩ :=
          SlotMap.rel_some_left (hduring ▸ hsilent.sink id)
        · exact hworked
        · cases hwritable
      rw [exec_closeUnchecked_of_idle hs (hc.idle hs) hw rfl hkept, stock_setSink, stock_note]
      exact stock_closeAlgorithm_le hg hs rfl

theorem stock_close_le (id : WritableId) (token : Option WriterToken) :
    (exec (close id token) s).2.stock ≤ s.stock := by
  simp only [close, exec_bind, exec_onStreams, Registry.exec_checkWriter]
  split
  · exact stock_closeUnchecked_le hc hg id
  · exact le_rfl

theorem stock_abort_le (id : WritableId) (reason : Option String) (token : Option WriterToken) :
    (exec (abort id reason token) s).2.stock ≤ s.stock := by
  simp only [abort, exec_bind, exec_onStreams, Registry.exec_checkWriter]
  split
  · cases hs : s.streams.sink? id with
    | none => simp [abortUnchecked, exec_bind, hs]
    | some sink =>
      cases hterminal : sink.controller.state.isTerminal with
      | true => rw [exec_abortUnchecked_of_terminal hs hterminal]
      | false =>
        have hw := (hc.idle hs).writable hterminal
        rw [exec_abortUnchecked_of_idle hs (hc.idle hs) hw, exec_noting]
        have hfails : ChangesWithin { writables := {id} } s
            (setSink id (sink.failing .aborted) s) :=
          ChangesWithin.refl.setSink rfl hs ⟨rfl, rfl, rfl, rfl, rfl⟩
        exact stock_abortAlgorithm_le id reason (hfails.keepsWiring.guestless hg)
  · exact le_rfl

omit hc in
theorem stock_cancel_le (id : ReadableId) (reason : Option String) (token : Option ReaderToken) :
    (exec (cancel id reason token) s).2.stock ≤ s.stock := by
  simp only [cancel, exec_bind, exec_onStreams, Registry.exec_checkReader]
  split
  · simp only [cancelUnchecked, exec_bind, exec_source]
    cases hs : s.streams.source? id with
    | none => exact le_rfl
    | some source =>
      have hmarked : (setSource id { source with disturbed := true } s).stock ≤ s.stock :=
        stock_setSource_le_self hs le_rfl
      have hcanceled : (setSource id (canceledSource source) s).stock ≤ s.stock :=
        stock_setSource_le_self hs (by
          simp only [canceledSource, ReadableController.load_cancel, Nat.zero_le])
      have hcancels : ChangesWithin { readables := {id} } s
          (setSource id (canceledSource source) s) :=
        ChangesWithin.refl.setSource rfl hs
          ⟨rfl, rfl, rfl, rfl, rfl, rfl, fun _ => rfl, fun _ => rfl⟩ (.inl rfl)
      dsimp only [Registry.need_some]
      cases source.controller.state with
      | closed => exact hmarked
      | errored error => exact hmarked
      | readable =>
        dsimp only
        split
        · exact hmarked
        · exact (stock_cancelAlgorithm_le id reason (hcancels.keepsWiring.guestless hg)).trans
            hcanceled
  · exact le_rfl

end Operations

end Session

end EdgeStreams
