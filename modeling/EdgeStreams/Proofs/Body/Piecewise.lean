import EdgeStreams.Proofs.Body.Steps
import EdgeStreams.Proofs.Queue.Conveying
import EdgeStreams.Proofs.Response.Origin
import EdgeStreams.Proofs.Session.Untouched
import Mathlib.Algebra.Order.Floor.Div

/-!
# A host body, chunk by chunk

A source over a host body asks the host once for each chunk that a reader is given, and once more
for the end. It reads nothing ahead, and once it has ended it asks no more.

## Main definitions

- `CutInto`: octets in chunks of a size
- `Source.Dormant`: nothing waits in a source over a host body
- `Session.Ahead`, `Session.AtEnd`: what a reader still has to get, between two reads
- `Session.readTimes`: so many reads

## Main statements

- `Session.Ahead.chunk`, `Session.Ahead.done`, `Session.AtEnd.done`: one read
- `Session.Ahead.readTimes`, `Session.AtEnd.readTimes`: so many reads
- `Session.Ahead.drain`: a body is drained

## Design notes

The high-water mark plays no part. Only a read that takes what has waited pulls ahead of the next
one, and here each read takes what it has just had pulled, so that nothing ever waits.
-/

namespace EdgeStreams

variable {E : Type}

/-! ### Cutting octets into chunks -/

/-- The octets are cut into chunks of so many octets each, but for the last, which may be
shorter. -/
structure CutInto (size : ℕ) (octets : Bytes) (chunks : List Bytes) : Prop where
  whole : chunks.flatten = octets
  count : chunks.length = octets.length ⌈/⌉ size
  full : ∀ chunk ∈ chunks.dropLast, chunk.length = size
  part : ∀ chunk ∈ chunks, chunk ≠ [] ∧ chunk.length ≤ size

/-- The octets in chunks of so many each. -/
def slices (size : ℕ) (octets : Bytes) : List Bytes :=
  (List.range (octets.length ⌈/⌉ size)).map fun index => (octets.drop (index * size)).take size

@[simp] theorem slices_nil (size : ℕ) : slices size [] = [] := by
  simp [slices]

/-- One chunk is cut off, and then the others. -/
theorem slices_of_ne_nil {size : ℕ} (hsize : 0 < size) {octets : Bytes} (hne : octets ≠ []) :
    slices size octets = octets.take size :: slices size (octets.drop size) := by
  have hlen := List.length_pos_of_ne_nil hne
  have hcount : octets.length ⌈/⌉ size = (octets.length - size) ⌈/⌉ size + 1 := by
    rw [Nat.ceilDiv_eq_add_pred_div, Nat.ceilDiv_eq_add_pred_div]
    by_cases hle : octets.length ≤ size
    · rw [Nat.sub_eq_zero_of_le hle, Nat.div_eq_of_lt (show 0 + size - 1 < size by omega)]
      exact Nat.div_eq_of_lt_le (by omega) (by omega)
    · rw [← Nat.add_div_right _ hsize]
      congr 1
      omega
  rw [slices, hcount, List.range_succ_eq_map, List.map_cons, List.map_map,
    Nat.zero_mul, List.drop_zero, slices, List.length_drop]
  refine congrArg _ (List.map_congr_left fun index _ => ?_)
  rw [Function.comp_apply, List.drop_drop, Nat.succ_mul, Nat.add_comm]

theorem cutInto_slices {size : ℕ} (hsize : 0 < size) (octets : Bytes) :
    CutInto size octets (slices size octets) := by
  induction hlen : octets.length using Nat.strong_induction_on generalizing octets with
  | _ length ih =>
  subst hlen
  by_cases hne : octets = []
  · subst hne
    refine ⟨by simp, by simp, fun chunk hm => ?_, fun chunk hm => ?_⟩
    all_goals simp at hm
  · have hpos := List.length_pos_of_ne_nil hne
    have hshorter : (octets.drop size).length < octets.length := by
      rw [List.length_drop]
      omega
    have hrest := ih _ hshorter (octets.drop size) rfl
    refine ⟨?_, by simp [slices], fun chunk hm => ?_, fun chunk hm => ?_⟩
    · rw [slices_of_ne_nil hsize hne, List.flatten_cons, hrest.whole, List.take_append_drop]
    · rw [slices_of_ne_nil hsize hne] at hm
      by_cases hlast : slices size (octets.drop size) = []
      · simp [hlast] at hm
      · -- what is left after the first chunk makes that one a full one
        have hleft : octets.drop size ≠ [] := by
          intro hnil
          simp [hnil] at hlast
        have hlong := List.length_pos_of_ne_nil hleft
        rw [List.length_drop] at hlong
        rw [List.dropLast_cons_of_ne_nil hlast, List.mem_cons] at hm
        rcases hm with rfl | hm
        · rw [List.length_take]
          omega
        · exact hrest.full chunk hm
    · rw [slices_of_ne_nil hsize hne, List.mem_cons] at hm
      rcases hm with rfl | hm
      · exact ⟨fun hnil => by simp [hne, Nat.ne_of_gt hsize] at hnil, List.length_take_le _ _⟩
      · exact hrest.part chunk hm

/-- Octets are cut in one way only. By induction on the chunks. -/
theorem eq_slices_flatten {size : ℕ} (hsize : 0 < size) {chunks : List Bytes}
    (hfull : ∀ chunk ∈ chunks.dropLast, chunk.length = size)
    (hpart : ∀ chunk ∈ chunks, chunk ≠ [] ∧ chunk.length ≤ size) :
    chunks = slices size chunks.flatten := by
  induction chunks with
  | nil => simp
  | cons chunk rest ih =>
    obtain ⟨hne, hle⟩ := hpart chunk List.mem_cons_self
    have hnil : (chunk :: rest).flatten ≠ [] := by simp [hne]
    rw [slices_of_ne_nil hsize hnil, List.flatten_cons]
    by_cases hlast : rest = []
    · subst hlast
      rw [List.flatten_nil, List.append_nil, List.take_of_length_le hle, List.drop_of_length_le hle,
        slices_nil]
    · rw [List.dropLast_cons_of_ne_nil hlast] at hfull
      have hsame := hfull chunk List.mem_cons_self
      rw [List.take_left' hsame, List.drop_left' hsame,
        ← ih (fun other hm => hfull other (List.mem_cons_of_mem _ hm)) fun other hm =>
          hpart other (List.mem_cons_of_mem _ hm)]

theorem CutInto.eq_slices {size : ℕ} {octets : Bytes} {chunks : List Bytes}
    (h : CutInto size octets chunks) (hsize : 0 < size) : chunks = slices size octets := by
  rw [← h.whole]
  exact eq_slices_flatten hsize h.full h.part

/-! ### One read of the host body -/

namespace MemoryHost

variable {host : MemoryHost} {handle : BodyHandle} {body : MemoryBody}

/-- The host once the next octets of a body have been asked for. -/
def fetched (host : MemoryHost) (handle : BodyHandle) (body : MemoryBody)
    (limit : ℕ) : MemoryHost :=
  ((host.received .bodyRead handle.erase).putBody handle (body.advance limit)).reaching handle
    (body.position + limit)

/-- A read that does not go too far leaves it so that none will. -/
theorem WithinReach.fetched {size : UInt64} (h : host.WithinReach handle size)
    (hb : host.bodies.find? handle.raw = some body) :
    (host.fetched handle body (host.readLimit size)).WithinReach handle size := by
  unfold MemoryHost.fetched
  rw [reaching_of_lt _ _ _ (h.inReach.place_lt hb)]
  exact ⟨h.intact, h.inReach.read hb (host.readLimit size) (by simp [find?_putBody]) rfl⟩

theorem exec_bodyRead_unread (hc : host.Calm) (hb : host.bodies.find? handle.raw = some body)
    (hopen : body.state ≠ .abandoned) (size : UInt64) :
    exec (Host.bodyRead handle size) host =
      (.ok (body.unread.take (host.readLimit size)),
        host.fetched handle body (host.readLimit size)) := by
  rw [exec_bodyRead, hc.faultless, FaultPlan.take_empty, hb]
  simp only [hopen, if_false, MemoryBody.peek_eq_take_unread]
  rfl

end MemoryHost

/-! ### One read of the stream -/

/-- Nothing waits in a source over a host body, and nothing is under way. -/
structure Source.Dormant (source : Source E) (handle : BodyHandle) (size : UInt64) : Prop where
  backing : source.backing = .body handle size
  started : source.start = .resolved
  uncanceled : source.canceled = false
  resting : source.pulling = false
  unasked : source.pullAgain = false
  isOpen : source.controller.IsOpen
  empty : source.controller.queue = []

theorem Source.Untouched.dormant {source : Source E} {handle : BodyHandle} {size : UInt64}
    (h : source.Untouched) (hback : source.backing = .body handle size) :
    source.Dormant handle size :=
  have hbody := h.body handle size hback
  ⟨hback, h.started, h.uncanceled, h.resting, h.unasked, hbody.2.1, hbody.2.2⟩

theorem Source.Dormant.disturbed {source : Source E} {handle : BodyHandle} {size : UInt64}
    (h : source.Dormant handle size) :
    ({ source with disturbed := true } : Source E).Dormant handle size :=
  ⟨h.backing, h.started, h.uncanceled, h.resting, h.unasked, h.isOpen, h.empty⟩

/-- A waiting reader has the source pulled. -/
theorem Source.Dormant.wantsPull {source : Source E} {handle : BodyHandle} {size : UInt64}
    (h : source.Dormant handle size) : source.wantsPull true = true := by
  simp [Source.wantsPull, h.started, StartState.isResolved, h.uncanceled,
    h.isOpen.close, h.isOpen.state]

/-- A chunk that has been queued where nothing waits is taken at once. -/
theorem ReadableController.IsOpen.takeReady_queued {controller : ReadableController}
    (h : controller.IsOpen) (hq : controller.queue = []) (chunk : Bytes) :
    (controller.queued chunk).takeReady = (.ok (some (.chunk chunk)), controller) := by
  obtain ⟨mark, queue, size, close, state⟩ := controller
  obtain ⟨rfl, rfl⟩ := h
  cases hq
  simp [ReadableController.takeReady, queued, dequeue]

namespace Session

variable {id : ReadableId} {handle : BodyHandle} {size : UInt64} {source : Source E}

section Pulling

variable {H : Type} {s t : Session H E}

theorem source?_began (hs : s.streams.source? id = some source) :
    (note (.pullBegan id)
      (setSource id { source with disturbed := true, pulling := true } s)).streams.source? id =
        some { source with disturbed := true, pulling := true } := by
  simp [Registry.source?_setSource, hs]

/-- Whoever may read under a lock reads. -/
theorem attempt_read_of_admits [Host H] {token : Option ReaderToken}
    (hs : s.streams.source? id = some source)
    (hadmits : Registry.admits source.readerLock token = .ok ()) (fuel : ℕ) :
    attempt (read fuel id token) s = attempt (readUnchecked fuel id) s := by
  simp [read, attempt_bind, hs, Except.bind, hadmits]

section Dormant

variable [Host H] (hs : s.streams.source? id = some source) (hd : source.Dormant handle size)
include hs hd

/-- A reader finds nothing in a source in which nothing waits, and the source is pulled for it. -/
theorem attempt_readUnchecked_dormant (fuel : ℕ) :
    attempt (readUnchecked (fuel + 1) id) s =
      (drive (pullIfNeeded fuel id true) (disturb id source s)).map fun r =>
        ((exec (takeReady id) r.2).1.map orPending, (exec (takeReady id) r.2).2) := by
  have htake : exec (takeReady id) (disturb id source s) = (.ok none, disturb id source s) := by
    rw [exec_takeReady (source?_disturb hs), hd.isOpen.takeReady hd.empty]
    simp [noteDelivered, disturb, setSource, mapStreams]
  rw [attempt_readUnchecked, hs]
  simp only [hd.started, htake]

/-- The pull that a waiting reader has asked for reads the host body. -/
theorem attempt_pull_dormant (fuel : ℕ) :
    attempt (pull (fuel + 1) id)
      (note (.pullBegan id) (setSource id { source with pulling := true } s)) =
        some (exec (pullBody id handle size)
          (note (.pullBegan id) (setSource id { source with pulling := true } s))) := by
  obtain ⟨began, hbegan, hfound⟩ : ∃ began : Session H E,
      began = note (.pullBegan id) (setSource id { source with pulling := true } s) ∧
        began.streams.source? id = some { source with pulling := true } :=
    ⟨_, rfl, by simp [Registry.source?_setSource, hs]⟩
  rw [← hbegan, attempt_pull, hfound]
  simp only [hd.backing]

/-- What comes of it. -/
theorem drive_pullIfNeeded_dormant {result : Except StreamError Unit}
    {controller : ReadableController} (hpull : exec (pullBody id handle size)
      (note (.pullBegan id) (setSource id { source with pulling := true } s)) = (result, t))
    (ht : t.streams.source? id = some { source with pulling := true, controller }) (fuel : ℕ) :
    drive (pullIfNeeded (fuel + 2) id true) s =
      some ((), afterPull id { source with pulling := true, controller } result
        (note (.pullEnded id result) t)) := by
  rw [drive_pullIfNeeded, hs]
  simp only [hd.wantsPull, hd.resting, Bool.not_true, Bool.false_eq_true, if_false,
    attempt_pull_dormant hs hd, hpull, Option.bind_some, ht]
  cases result with
  | error error => rfl
  | ok => rw [if_neg (by simp [hd.unasked])]

/-- With too little fuel nothing is pulled. -/
theorem drive_pullIfNeeded_starved : drive (pullIfNeeded 1 id true) s = none := by
  rw [drive_pullIfNeeded, hs]
  simp only [hd.wantsPull, hd.resting, Bool.not_true, Bool.false_eq_true, if_false]
  rfl

/-- With too little fuel nothing is read. -/
theorem attempt_readUnchecked_starved {fuel : ℕ} (hfuel : fuel < 3) :
    attempt (readUnchecked fuel id) s = none := by
  match fuel, hfuel with
  | 0, _ => rfl
  | 1, _ =>
    rw [attempt_readUnchecked_dormant hs hd]
    rfl
  | 2, _ =>
    rw [attempt_readUnchecked_dormant hs hd,
      drive_pullIfNeeded_starved (source?_disturb hs) hd.disturbed, Option.map_none]

/-- A read of a source in which nothing waits: it is pulled once, and then the reader looks
again. -/
theorem attempt_readUnchecked_once {result : Except StreamError Unit}
    {controller : ReadableController} (hpull : exec (pullBody id handle size)
      (note (.pullBegan id) (setSource id { source with disturbed := true, pulling := true } s)) =
        (result, t))
    (ht : t.streams.source? id =
      some { source with disturbed := true, pulling := true, controller })
    (fuel : ℕ) :
    attempt (readUnchecked (fuel + 3) id) s =
      (some (afterPull id { source with disturbed := true, pulling := true, controller } result
        (note (.pullEnded id result) t))).map fun u =>
          ((exec (takeReady id) u).1.map orPending, (exec (takeReady id) u).2) := by
  have hbegan : setSource id { source with disturbed := true, pulling := true }
    (disturb id source s) = setSource id { source with disturbed := true, pulling := true } s := by
    simp [disturb, setSource, mapStreams]
  have hdrive := drive_pullIfNeeded_dormant (source?_disturb hs) hd.disturbed
    ((congrArg (fun s => exec (pullBody id handle size) (note (.pullBegan id) s))
      hbegan).trans hpull) ht fuel
  rw [attempt_readUnchecked_dormant hs hd, hdrive]
  rfl

/-- What a pull that has gone well has brought is taken. -/
theorem attempt_readUnchecked_pulled {controller last : ReadableController} {outcome : ReadOutcome}
    (hpull : exec (pullBody id handle size)
      (note (.pullBegan id) (setSource id { source with disturbed := true, pulling := true } s)) =
        (.ok (), t))
    (ht : t.streams.source? id =
      some { source with disturbed := true, pulling := true, controller })
    (htake : controller.takeReady = (.ok (some outcome), last)) (fuel : ℕ) :
    attempt (readUnchecked (fuel + 3) id) s =
      some (.ok outcome, noteDelivered id (.ok (some outcome))
        (setSource id { source with disturbed := true, controller := last }
          (note (.pullEnded id (.ok ())) t))) := by
  have hpulled : (setSource id { source with disturbed := true, pulling := false, controller }
      (note (.pullEnded id (.ok ())) t)).streams.source? id =
        some { source with disturbed := true, pulling := false, controller } := by
    simp [Registry.source?_setSource, ht]
  rw [attempt_readUnchecked_once hs hd hpull ht, Option.map_some, afterPull,
    exec_takeReady hpulled, htake, ← hd.resting]
  simp [setSource, mapStreams, Except.map, orPending]

/-- A reader is told of the failure of a pull. -/
theorem attempt_readUnchecked_failed {error : StreamError}
    (hpull : exec (pullBody id handle size)
      (note (.pullBegan id) (setSource id { source with disturbed := true, pulling := true } s)) =
        (.error error, t))
    (ht : t.streams.source? id = some { source with disturbed := true, pulling := true }) :
    ∃ u, (∀ fuel, attempt (readUnchecked (fuel + 3) id) s = some (.error error, u)) ∧
      u.host = t.host := by
  obtain ⟨after, hafter⟩ : ∃ after, after = afterPull id
      { source with disturbed := true, pulling := true } (.error error)
        (note (.pullEnded id (.error error)) t) := ⟨_, rfl⟩
  have hpulled : after.streams.source? id = some { source with
      disturbed := true, pulling := false, controller := source.controller.error error } := by
    simp [hafter, afterPull, Registry.source?_setSource, ht]
  have htake : (source.controller.error error).takeReady.1 = .error error := by
    simp [ReadableController.error, ReadableController.takeReady, hd.isOpen.state]
  refine ⟨(exec (takeReady id) after).2, fun fuel => ?_, ?_⟩
  · rw [attempt_readUnchecked_once hs hd hpull ht, ← hafter, Option.map_some,
      exec_takeReady hpulled, htake]
    rfl
  · rw [exec_takeReady hpulled, htake, hafter]
    rfl

variable {host : H}

/-- A reader is given the chunk that the host gives. -/
theorem reads_chunk {chunk : Bytes} (hne : chunk ≠ [])
    (hread : exec (Host.bodyRead handle size) s.host = (.ok chunk, host)) :
    ∃ t, (∀ fuel, attempt (readUnchecked (fuel + 3) id) s = some (.ok (.chunk chunk), t)) ∧
      t.streams = s.streams.setSource id { source with disturbed := true } ∧ t.host = host ∧
      t.delivered id = chunk :: s.delivered id := by
  have hpull := exec_pullBody_chunk (source?_began hs) hd.isOpen.state hd.isOpen.close hne hread
  refine ⟨_, attempt_readUnchecked_pulled hs hd hpull (by simp [Registry.source?_setSource, hs])
    (hd.isOpen.takeReady_queued hd.empty chunk), ?_, ?_, ?_⟩
  · simp
  · simp
  · rw [delivered_noteDelivered, if_pos rfl]
    rfl

/-- A reader finds the end where the host gives nothing. -/
theorem reads_end (hread : exec (Host.bodyRead handle size) s.host = (.ok [], host)) :
    ∃ t, (∀ fuel, attempt (readUnchecked (fuel + 3) id) s = some (.ok .done, t)) ∧
      t.streams = s.streams.setSource id
        { source with disturbed := true, controller := source.controller.finish } ∧ t.host = host ∧
      t.delivered id = s.delivered id := by
  have hpull := exec_pullBody_end (source?_began hs) hd.isOpen.state hd.isOpen.close hread
  have hend : source.controller.finish.takeReady = (.ok (some .done), source.controller.finish) :=
    hd.isOpen.hasEnded_finish.takeReady (by simp [hd.isOpen.finish_eq, hd.empty])
  refine ⟨_, attempt_readUnchecked_pulled hs hd hpull (by simp [Registry.source?_setSource, hs])
    hend, ?_, ?_, ?_⟩
  · simp
  · simp
  · rw [delivered_noteDelivered, if_pos rfl]
    rfl

/-- A reader is told that the host has refused. -/
theorem reads_failure {error : HostError}
    (hread : exec (Host.bodyRead handle size) s.host = (.error error, host)) :
    ∃ t, (∀ fuel, attempt (readUnchecked (fuel + 3) id) s =
      some (.error (.host .bodyRead error), t)) ∧
      t.host = host := by
  have hpull := exec_pullBody_error (s := note (.pullBegan id)
    (setSource id { source with disturbed := true, pulling := true } s)) (r := id) hread
  exact attempt_readUnchecked_failed hs hd hpull (source?_began hs)

end Dormant

end Pulling

variable {body : MemoryBody} {s t : Session MemoryHost E}

section Dormant

variable (hs : s.streams.source? id = some source) (hd : source.Dormant handle size)
include hs hd

/-- A reader is given the next chunk of the body, for one call of the host. -/
theorem fetches_chunk (hlimit : 0 < s.host.readLimit size) (hc : s.host.Calm)
    (hb : s.host.bodies.find? handle.raw = some body) (hopen : body.state ≠ .abandoned)
    (hleft : body.unread ≠ []) :
    ∃ t, (∀ fuel, attempt (readUnchecked (fuel + 3) id) s =
        some (.ok (.chunk (body.unread.take (s.host.readLimit size))), t)) ∧
      t.streams = s.streams.setSource id { source with disturbed := true } ∧
      t.host = s.host.fetched handle body (s.host.readLimit size) ∧
      t.delivered id = body.unread.take (s.host.readLimit size) :: s.delivered id :=
  reads_chunk hs hd (by simp [hleft, Nat.ne_of_gt hlimit])
    (MemoryHost.exec_bodyRead_unread hc hb hopen size)

/-- A reader finds the end of the body with one call of the host. -/
theorem fetches_end (hc : s.host.Calm) (hb : s.host.bodies.find? handle.raw = some body)
    (hopen : body.state ≠ .abandoned) (hleft : body.unread = []) :
    ∃ t, (∀ fuel, attempt (readUnchecked (fuel + 3) id) s = some (.ok .done, t)) ∧
      t.streams = s.streams.setSource id
        { source with disturbed := true, controller := source.controller.finish } ∧
      t.host = s.host.fetched handle body (s.host.readLimit size) ∧
      t.delivered id = s.delivered id := by
  have hread := MemoryHost.exec_bodyRead_unread hc hb hopen size
  rw [hleft, List.take_nil] at hread
  exact reads_end hs hd hread

end Dormant

/-! ### Between two reads -/

/-- The stream still has octets to give, which all stand in its host body. -/
structure Ahead (id : ReadableId) (handle : BodyHandle) (size : UInt64) (limit : ℕ)
    (lock : Option ReaderToken) (rest : Bytes) (s : Session MemoryHost E) : Prop where
  calm : s.host.Calm
  limit : s.host.readLimit size = limit
  source : ∃ source, s.streams.source? id = some source ∧ source.Dormant handle size ∧
    source.readerLock = lock
  left : s.host.HasUnread handle rest

/-- The stream has ended, and everything has been taken out of it. -/
def AtEnd (id : ReadableId) (lock : Option ReaderToken) (s : Session MemoryHost E) : Prop :=
  ∃ source, s.streams.source? id = some source ∧ source.start = .resolved ∧
    source.controller.state = .closed ∧ source.readerLock = lock

/-- The host has been asked for more of its body once, and the reader has been given some chunks. -/
structure Fetches (id : ReadableId) (handle : BodyHandle) (limit : ℕ) (taken : List Bytes)
    (s t : Session MemoryHost E) : Prop where
  sink : ∀ w, t.streams.sink? w = s.streams.sink? w
  pipe : ∀ name, t.streams.pipe? name = s.streams.pipe? name
  host : ∃ body, s.host.bodies.find? handle.raw = some body ∧
    t.host = s.host.fetched handle body limit
  delivered : t.delivered id = taken ++ s.delivered id

variable {limit : ℕ} {lock : Option ReaderToken} {rest : Bytes}

/-- It is one call. -/
theorem Fetches.calls {taken : List Bytes} (h : Fetches id handle limit taken s t) :
    t.host.calls.toList = s.host.calls.toList ++ [⟨.bodyRead, handle.erase⟩] := by
  obtain ⟨body, -, hhost⟩ := h.host
  rw [hhost, MemoryHost.fetched, MemoryHost.calls_reaching, MemoryHost.putBody, MemoryHost.received,
    Array.toList_push]

theorem Fetches.calm {taken : List Bytes} (h : Fetches id handle limit taken s t)
    (hc : s.host.Calm) : t.host.Calm := by
  obtain ⟨body, -, hhost⟩ := h.host
  rw [hhost]
  exact ⟨by simp [MemoryHost.fetched, hc.faultless], hc.chunkSize⟩

/-- No read goes too far if none of the body does. -/
theorem Fetches.withinReach {taken : List Bytes} (h : Fetches id handle limit taken s t)
    (hlimit : s.host.readLimit size = limit) (hw : s.host.WithinReach handle size) :
    t.host.WithinReach handle size := by
  obtain ⟨body, hb, hhost⟩ := h.host
  rw [hhost, ← hlimit]
  exact hw.fetched hb

/-- What stands in the host bodies, and whether they take more, is as before. -/
theorem Fetches.bodies {taken : List Bytes} (h : Fetches id handle limit taken s t) {raw : UInt32}
    (hb : s.host.bodies.find? raw = some body) :
    ∃ body', t.host.bodies.find? raw = some body' ∧ body'.state = body.state ∧
      body'.contents = body.contents ∧ (raw = handle.raw → body' = body.advance limit) := by
  obtain ⟨found, hfound, hhost⟩ := h.host
  rw [hhost, MemoryHost.fetched, MemoryHost.bodies_reaching, MemoryHost.find?_putBody]
  by_cases he : raw = handle.raw
  · rw [he, hfound, Option.some.injEq] at hb
    subst hb
    exact ⟨_, if_pos he, rfl, rfl, fun _ => rfl⟩
  · exact ⟨body, (if_neg he).trans hb, rfl, rfl, fun heq => absurd heq he⟩

/-- A reader is given the next chunk. -/
theorem Ahead.chunk (h : s.Ahead id handle size limit lock rest) (hlimit : 0 < limit)
    (hne : rest ≠ []) : ∃ t, (∀ fuel, attempt (readUnchecked (fuel + 3) id) s =
      some (.ok (.chunk (rest.take limit)), t)) ∧
      t.Ahead id handle size limit lock (rest.drop limit) ∧
        Fetches id handle limit [rest.take limit] s t := by
  obtain ⟨hc, rfl, ⟨source, hs, hd, hlock⟩, body, hb, hopen, rfl⟩ := h
  obtain ⟨t, hread, hstreams, hhost, hdelivered⟩ := fetches_chunk hs hd hlimit hc hb hopen hne
  refine ⟨t, hread, ⟨?_, ?_, ⟨{ source with disturbed := true }, ?_, hd.disturbed, hlock⟩,
    body.advance _, ?_, hopen, body.unread_advance _⟩, ⟨?_, ?_, ⟨body, hb, hhost⟩, hdelivered⟩⟩
  · rw [hhost]
    exact ⟨by simp [MemoryHost.fetched, hc.faultless], hc.chunkSize⟩
  · rw [hhost]
    rfl
  · rw [hstreams, Registry.source?_setSource, if_pos rfl, hs, Option.map_some]
  · rw [hhost, MemoryHost.fetched, MemoryHost.bodies_reaching, MemoryHost.find?_putBody, if_pos rfl]
  all_goals
    intro name
    rw [hstreams]
    rfl

/-- A reader finds the end. -/
theorem Ahead.done (h : s.Ahead id handle size limit lock []) :
    ∃ t, (∀ fuel, attempt (readUnchecked (fuel + 3) id) s = some (.ok .done, t)) ∧
      t.AtEnd id lock ∧ Fetches id handle limit [] s t := by
  obtain ⟨hc, rfl, ⟨source, hs, hd, hlock⟩, body, hb, hopen, hleft⟩ := h
  obtain ⟨t, hread, hstreams, hhost, hdelivered⟩ := fetches_end hs hd hc hb hopen hleft
  refine ⟨t, hread, ⟨{ source with disturbed := true, controller := source.controller.finish }, ?_,
    hd.started, ?_, hlock⟩, ⟨?_, ?_, ⟨body, hb, hhost⟩, hdelivered⟩⟩
  · rw [hstreams, Registry.source?_setSource, if_pos rfl, hs, Option.map_some]
  · simp [hd.isOpen.finish_eq, hd.empty]
  all_goals
    intro name
    rw [hstreams]
    rfl

theorem Ahead.starved (h : s.Ahead id handle size limit lock rest) {fuel : ℕ} (hfuel : fuel < 3) :
    attempt (readUnchecked fuel id) s = none := by
  obtain ⟨source, hs, hd, -⟩ := h.source
  exact attempt_readUnchecked_starved hs hd hfuel

/-- Whoever reads on is told of the end, and the host is not asked. -/
theorem AtEnd.done (h : s.AtEnd id lock) :
    ∃ t, (∀ fuel, attempt (readUnchecked (fuel + 1) id) s = some (.ok .done, t)) ∧
      t.AtEnd id lock ∧ t.host = s.host ∧ t.delivered id = s.delivered id := by
  obtain ⟨source, hs, hstart, hclosed, hlock⟩ := h
  have htake : exec (takeReady id) (disturb id source s) =
      (.ok (some .done), disturb id source s) := by
    rw [exec_takeReady (source?_disturb hs), ReadableController.takeReady, hclosed]
    simp [noteDelivered, disturb, setSource, mapStreams]
  refine ⟨disturb id source s, fun fuel => ?_, ⟨_, source?_disturb hs, hstart, hclosed, hlock⟩, rfl,
    rfl⟩
  rw [attempt_readUnchecked, hs]
  simp only [hstart, htake]

/-! ### One read after the other -/

/-- A reader reads so many times. -/
def readTimes {H : Type} [Host H] (fuel : ℕ) (id : ReadableId) (token : Option ReaderToken) :
    ℕ → Run H E (List (Except StreamError ReadOutcome))
  | 0 => return []
  | times + 1 => do
    let found ← (read fuel id token).run
    let later ← readTimes fuel id token times
    return found :: later

theorem drive_readTimes_succ (fuel : ℕ) (token : Option ReaderToken) (times : ℕ) :
    drive (readTimes fuel id token (times + 1)) s =
      (attempt (read fuel id token) s).bind fun r =>
        (drive (readTimes fuel id token times) r.2).map fun later => (r.1 :: later.1, later.2) := by
  simp only [readTimes, drive_bind, drive_run, drive_pure]
  refine congrArg _ (funext fun r => ?_)
  cases drive (readTimes fuel id token times) r.2 <;> rfl

/-- More fuel never changes what the reads find. -/
theorem extends_readTimes {H : Type} [Host H] (fuel : ℕ) (id : ReadableId)
    (token : Option ReaderToken) (times : ℕ) :
    Extends (readTimes fuel id token times : Run H E (List (Except StreamError ReadOutcome)))
      (readTimes (fuel + 1) id token times) := by
  induction times with
  | zero => exact .refl _
  | succ times ih => exact .bind (extends_read fuel id token) fun _ => .bind ih fun _ => .refl _

/-- One read, and those after it. -/
theorem settles_readTimes_succ {token : Option ReaderToken}
    {found : Except StreamError ReadOutcome} {wait times : ℕ}
    {later : List (Except StreamError ReadOutcome)} {u : Session MemoryHost E}
    (hread : ∀ fuel, attempt (read (fuel + wait) id token) s = some (found, t))
    (hlater : Settles (fun fuel => drive (readTimes fuel id token times) t) (later, u)) :
    Settles (fun fuel => drive (readTimes fuel id token (times + 1)) s) (found :: later, u) := by
  obtain ⟨bound, hlater⟩ := hlater
  refine ⟨bound + wait, fun fuel hfuel => ?_⟩
  obtain ⟨more, rfl⟩ := Nat.exists_eq_add_of_le' (show wait ≤ fuel by omega)
  have hafter : drive (readTimes (more + wait) id token times) t = some (later, u) :=
    hlater _ (by omega)
  change drive (readTimes (more + wait) id token (times + 1)) s = _
  rw [drive_readTimes_succ, hread, Option.bind_some, hafter]
  rfl

section Reading

variable {token : Option ReaderToken} (hadmits : Registry.admits lock token = .ok ())
include hadmits

theorem Ahead.attempt_read (h : s.Ahead id handle size limit lock rest) (fuel : ℕ) :
    attempt (read fuel id token) s = attempt (readUnchecked fuel id) s := by
  obtain ⟨source, hs, -, rfl⟩ := h.source
  exact attempt_read_of_admits hs hadmits fuel

theorem AtEnd.attempt_read (h : s.AtEnd id lock) (fuel : ℕ) :
    attempt (read fuel id token) s = attempt (readUnchecked fuel id) s := by
  obtain ⟨source, hs, -, -, rfl⟩ := h
  exact attempt_read_of_admits hs hadmits fuel

/-- Once the stream has ended, every read says so, and none asks the host. By induction on the
reads. -/
theorem AtEnd.readTimes (h : s.AtEnd id lock) (times : ℕ) :
    ∃ t, Settles (fun fuel => drive (readTimes fuel id token times) s)
        (List.replicate times (.ok .done), t) ∧
      t.host = s.host ∧ t.delivered id = s.delivered id := by
  induction times generalizing s with
  | zero => exact ⟨s, ⟨0, fun _ _ => rfl⟩, rfl, rfl⟩
  | succ times ih =>
    obtain ⟨t, hread, hend, hhost, hdelivered⟩ := h.done
    obtain ⟨u, hlater, hhost', hdelivered'⟩ := ih hend
    exact ⟨u, settles_readTimes_succ (fun fuel => (h.attempt_read hadmits _).trans (hread fuel))
      hlater, hhost'.trans hhost, hdelivered'.trans hdelivered⟩

/-- A reader is given the octets chunk by chunk, and then the end, for one call of the host each. By
induction on the reads. -/
theorem Ahead.readTimes (hlimit : 0 < limit) (h : s.Ahead id handle size limit lock rest)
    (hwithin : s.host.WithinReach handle size) (times : ℕ) :
    ∃ t, Settles (fun fuel => drive (readTimes fuel id token times) s)
        (((slices limit rest).take times).map (fun chunk => .ok (.chunk chunk)) ++
          List.replicate (times - (slices limit rest).length) (.ok .done), t) ∧
      t.host.calls.toList = s.host.calls.toList ++
        List.replicate (min times ((slices limit rest).length + 1)) ⟨.bodyRead, handle.erase⟩ ∧
      t.delivered id = ((slices limit rest).take times).reverse ++ s.delivered id ∧
      t.host.WithinReach handle size := by
  induction times generalizing s rest with
  | zero => exact ⟨s, ⟨0, fun _ _ => by simp [Session.readTimes]⟩, by simp, by simp, hwithin⟩
  | succ times ih =>
    by_cases hne : rest = []
    · subst hne
      obtain ⟨t, hread, hend, hfetches⟩ := h.done
      obtain ⟨u, hlater, hhost, hdelivered⟩ := hend.readTimes hadmits times
      refine ⟨u, ?_, ?_, ?_, hhost ▸ hfetches.withinReach h.limit hwithin⟩
      · simpa [List.replicate_succ] using settles_readTimes_succ
          (fun fuel => (h.attempt_read hadmits _).trans (hread fuel)) hlater
      · rw [hhost, hfetches.calls]
        simp
      · rw [hdelivered, hfetches.delivered]
        simp
    · obtain ⟨t, hread, hahead, hfetches⟩ := h.chunk hlimit hne
      obtain ⟨u, hlater, hcalls, hdelivered, hwithin'⟩ :=
        ih hahead (hfetches.withinReach h.limit hwithin)
      rw [slices_of_ne_nil hlimit hne]
      refine ⟨u, ?_, ?_, ?_, hwithin'⟩
      · simpa using settles_readTimes_succ
          (fun fuel => (h.attempt_read hadmits _).trans (hread fuel)) hlater
      · rw [hcalls, hfetches.calls, List.append_assoc, List.length_cons, Nat.add_min_add_right,
          List.replicate_succ]
        rfl
      · rw [hdelivered, hfetches.delivered]
        simp

end Reading

/-! ### Draining a body -/

/-- Every read from now on says that the stream has ended, and none asks the host. -/
def Exhausted (id : ReadableId) (s : Session MemoryHost E) : Prop :=
  ∀ times, ∃ t, Settles (fun fuel => drive (Session.readTimes fuel id none times) s)
    (List.replicate times (.ok .done), t) ∧ t.host = s.host

theorem AtEnd.exhausted (h : s.AtEnd id none) : s.Exhausted id := fun times => by
  obtain ⟨t, hreads, hhost, -⟩ := h.readTimes (Registry.admits_self none) times
  exact ⟨t, hreads, hhost⟩

/-- A stream is still ahead of its reader where its entry and the host are as they were. -/
theorem Ahead.of_source {lock' : Option ReaderToken} (h : s.Ahead id handle size limit lock rest)
    (hs : t.streams.source? id = some source) (hd : source.Dormant handle size)
    (hlock : source.readerLock = lock') (hhost : t.host = s.host) :
    t.Ahead id handle size limit lock' rest :=
  ⟨hhost ▸ h.calm, hhost ▸ h.limit, ⟨source, hs, hd, hlock⟩, hhost ▸ h.left⟩

/-- The stream is read to its end under a lock. By induction on what is left. -/
theorem Ahead.readAll {token : ReaderToken} (hlimit : 0 < limit)
    (h : s.Ahead id handle size limit (some token) rest) (hwithin : s.host.WithinReach handle size)
    (chunks : List Bytes) (idle : Bool) :
    ∃ t, Settles (fun fuel => drive (Body.readAll fuel id token chunks idle) s)
        (.ok (chunks.reverse.flatten ++ rest), t) ∧
      t.AtEnd id (some token) ∧
      t.host.calls.toList = s.host.calls.toList ++
        List.replicate ((slices limit rest).length + 1) ⟨.bodyRead, handle.erase⟩ ∧
      t.delivered id = (slices limit rest).reverse ++ s.delivered id ∧
      t.host.WithinReach handle size := by
  have hadmits := Registry.admits_self (some token)
  induction hlen : rest.length using Nat.strong_induction_on generalizing s rest chunks idle with
  | _ length ih =>
  subst hlen
  by_cases hne : rest = []
  · subst hne
    obtain ⟨t, hread, hend, hfetches⟩ := h.done
    refine ⟨t, ⟨4, fun fuel hfuel => ?_⟩,
      hend, by simp [hfetches.calls], by simp [hfetches.delivered],
      hfetches.withinReach h.limit hwithin⟩
    obtain ⟨more, rfl⟩ := Nat.exists_eq_add_of_le' hfuel
    change drive (Body.readAll (more + 3 + 1) id token chunks idle) s = _
    rw [Body.drive_readAll, h.attempt_read hadmits, hread, List.append_nil]
    rfl
  · obtain ⟨t, hread, hahead, hfetches⟩ := h.chunk hlimit hne
    have hshorter : (rest.drop limit).length < rest.length := by
      have hpos := List.length_pos_of_ne_nil hne
      rw [List.length_drop]
      omega
    obtain ⟨u, ⟨bound, hlater⟩, hend, hcalls, hdelivered, hwithin'⟩ := ih _ hshorter hahead
      (hfetches.withinReach h.limit hwithin) (rest.take limit :: chunks) false rfl
    rw [slices_of_ne_nil hlimit hne]
    refine ⟨u, ⟨bound + 4, fun fuel hfuel => ?_⟩, hend, ?_, ?_, hwithin'⟩
    · obtain ⟨more, rfl⟩ := Nat.exists_eq_add_of_le' (show 4 ≤ fuel by omega)
      have hafter := hlater (more + 3) (by omega)
      change drive (Body.readAll (more + 3 + 1) id token chunks idle) s = _
      rw [Body.drive_readAll, h.attempt_read hadmits, hread, Option.bind_some]
      refine hafter.trans ?_
      simp [List.append_assoc]
    · rw [hcalls, hfetches.calls, List.append_assoc, List.length_cons, List.replicate_succ]
      rfl
    · simp [hdelivered, hfetches.delivered]

/-- A body whose stream nobody has touched is drained. -/
theorem Ahead.drain (hlimit : 0 < limit) (h : t.Ahead id handle size limit none rest)
    (hwithin : t.host.WithinReach handle size) (hfresh : t.streams.isDisturbed id = false)
    {body streamed : Body} (hused : body.used = false)
    (hstream : exec (body.stream : Action MemoryHost E BodyError _) s = (.ok (id, streamed), t))
    (decoders : Decoders) (target : TargetType) :
    ∃ u, Settles (fun fuel => drive (body.drainWith decoders fuel target) s)
        ((Representation.decodeWith decoders rest target, streamed.markUsed), u) ∧
      u.AtEnd id none ∧
      u.host.calls.toList = t.host.calls.toList ++
        List.replicate ((slices limit rest).length + 1) ⟨.bodyRead, handle.erase⟩ ∧
      u.delivered id = (slices limit rest).reverse ++ t.delivered id ∧
      u.host.WithinReach handle size := by
  obtain ⟨source, hs, hd, hl⟩ := h.source
  have hlocked : t.streams.isLocked id = false := by simp [Registry.isLocked, hs, hl]
  have hget : exec (Registry.getReader id) t.streams =
      (.ok ⟨t.streams.nextToken⟩, t.streams.readerLocked id source) :=
        Registry.exec_getReader t.streams hs hl
  have hahead : ({ t with streams := t.streams.readerLocked id source } : Session
    MemoryHost E).Ahead id handle size limit (some ⟨t.streams.nextToken⟩) rest :=
    h.of_source ((Registry.source?_readerLocked hs id).trans (if_pos rfl))
      ⟨hd.backing, hd.started, hd.uncanceled, hd.resting, hd.unasked, hd.isOpen, hd.empty⟩ rfl rfl
  obtain ⟨v, ⟨bound, hreads⟩, ⟨ended, hended, hstarted, hclosed, hheld⟩, hcalls,
      hdelivered, hwithin'⟩ :=
    hahead.readAll hlimit hwithin [] false
  refine ⟨mapStreams (Registry.quietly (Registry.releaseReader id ⟨t.streams.nextToken⟩)) v,
    ⟨bound, fun fuel hfuel => ?_⟩,
    ⟨Registry.unlockReader ⟨t.streams.nextToken⟩ ended, ?_, ?_, ?_, ?_⟩, hcalls,
      hdelivered, hwithin'⟩
  · simp only [Body.drive_drainWith, hused, hstream, hlocked, hfresh, Bool.false_eq_true, if_false,
      attempt_withReader, hget, attempt_sure, hreads fuel hfuel]
    rfl
  · rw [streams_mapStreams, Registry.source?_releaseReader, if_pos rfl, hended, Option.map_some]
  all_goals simp [Registry.unlockReader, hheld, hstarted, hclosed]

end Session

end EdgeStreams
