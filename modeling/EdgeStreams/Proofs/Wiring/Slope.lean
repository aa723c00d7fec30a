import EdgeStreams.Proofs.Session.Flowing
import EdgeStreams.Proofs.Session.Rounds
import EdgeStreams.Proofs.Wiring.Stock
import Mathlib.Algebra.BigOperators.Fin
import Mathlib.Algebra.Order.BigOperators.Group.Finset

/-!
# Octets move down

Where the wiring is acyclic, every place has a height and octets only move down. A place weighs
twice as much as any place that it feeds, so that moving octets makes them lighter. The burden of a
session is the weight of all its octets and the number of its running pipes. Every step of a pipe
lightens it.

## Main definitions

- `Slope`: heights of places
- `Slope.Fits`: the wiring goes down a slope
- `Slope.burden`: the weight of all octets, and the number of running pipes
- `Session.Lightens`: work that changes the burden, asks for no pull and spares the pipes that are
  being driven

## Main statements

- `Slope.exists_fits`: an acyclic wiring goes down some slope
- `Session.lightens_pullBody`, `Session.lightens_carry`, `Session.lightens_pipeFinished`: what
  lowers the burden
-/

namespace EdgeStreams

variable {E : Type}

/-- Heights of places, with the places and pipes that count. -/
structure Slope where
  height : Place → ℕ
  places : Finset Place
  pipes : Finset PipeId

/-- No source has been asked for another pull. -/
def Registry.Unasked (streams : Registry E) : Prop :=
  ∀ id source, streams.source? id = some source → source.pullAgain = false

theorem Registry.Unasked.setSource {streams : Registry E} (h : streams.Unasked) (id : ReadableId)
    (source : Source E) (hs : source.pullAgain = false) :
    (streams.setSource id source).Unasked := by
  intro other found hfound
  rw [Registry.source?_setSource] at hfound
  split at hfound
  · obtain ⟨old, -, rfl⟩ := Option.map_eq_some_iff.mp hfound
    exact hs
  · exact h other found hfound

namespace Slope

variable (slope : Slope)

/-! ### Weights -/

/-- How much the octets of a place weigh, one by one. -/
def weight (place : Place) : ℕ := 2 ^ slope.height place

/-- How much octets in some places weigh. -/
def weigh (stock : Place → ℕ) : ℕ := ∑ place ∈ slope.places, slope.weight place * stock place

variable {place lower : Place} {stock stock' : Place → ℕ} {n : ℕ}

theorem weight_pos (place : Place) : 0 < slope.weight place := Nat.two_pow_pos _

variable {slope} in
theorem weight_lt (h : slope.height lower < slope.height place) :
    2 * slope.weight lower ≤ slope.weight place := by
  unfold weight
  rw [← Nat.pow_succ']
  exact Nat.pow_le_pow_right (by decide) h

variable {slope} in
/-- Octets are lighter below. -/
theorem weight_mul_lt (h : slope.height lower < slope.height place) (hn : 0 < n) :
    slope.weight lower * n + 1 ≤ slope.weight place * n := by
  have htwice := Nat.mul_le_mul_right n (weight_lt h)
  have hpos := Nat.mul_pos (weight_pos slope lower) hn
  rw [Nat.mul_assoc] at htwice
  omega

variable {slope} in
/-- They are so even if they come to one more. -/
theorem weight_mul_succ_le (h : slope.height lower < slope.height place) (hn : 0 < n) :
    slope.weight lower * (n + 1) ≤ slope.weight place * n := by
  have htwice := Nat.mul_le_mul_right n (weight_lt h)
  have hone : slope.weight lower ≤ slope.weight lower * n := Nat.le_mul_of_pos_right _ hn
  rw [Nat.mul_assoc] at htwice
  rw [Nat.mul_succ]
  omega

theorem weigh_mono (h : stock ≤ stock') : slope.weigh stock ≤ slope.weigh stock' :=
  Finset.sum_le_sum fun place _ => Nat.mul_le_mul_left _ (h place)

theorem weigh_add (stock stock' : Place → ℕ) :
    slope.weigh (stock + stock') = slope.weigh stock + slope.weigh stock' := by
  simp [weigh, Nat.mul_add, Finset.sum_add_distrib]

variable {slope} in
theorem weigh_single (h : place ∈ slope.places) (n : ℕ) :
    slope.weigh (Pi.single place n) = slope.weight place * n := by
  rw [weigh, Finset.sum_eq_single_of_mem place h
    fun other _ hne => by simp [Pi.single_eq_of_ne hne], Pi.single_eq_same]

theorem weigh_single_le (place : Place) (n : ℕ) :
    slope.weigh (Pi.single place n) ≤ slope.weight place * n := by
  by_cases h : place ∈ slope.places
  · exact (weigh_single h n).le
  · have hzero : slope.weigh (Pi.single place n) = 0 := by
      refine Finset.sum_eq_zero fun other hother => ?_
      have hne : other ≠ place := fun he => h (he ▸ hother)
      rw [Pi.single_eq_of_ne hne, Nat.mul_zero]
    exact hzero ▸ Nat.zero_le _

/-! ### Burdens -/

/-- The number of pipes that are running. -/
def running (streams : Registry E) : ℕ :=
  (slope.pipes.filter fun id => (streams.pipe? id).any Pipe.isRunning).card

/-- The weight of all octets, and the number of running pipes. -/
def burden (s : Session MemoryHost E) : ℕ := slope.weigh s.stock + slope.running s.streams

variable {slope} in
/-- A running pipe finishes. -/
theorem running_finishPipe {streams : Registry E} {id : PipeId} {pipe : Pipe}
    (hp : streams.pipe? id = some pipe) (hr : pipe.isRunning) (hid : id ∈ slope.pipes)
    {state : PipeState} (hstate : state ≠ .running) :
    slope.running (streams.finishPipe id state) + 1 ≤ slope.running streams := by
  refine Finset.card_lt_card (Finset.ssubset_iff_of_subset (fun other hother => ?_) |>.mpr
    ⟨id, by simp [hid, hp, hr], ?_⟩)
  · simp only [Finset.mem_filter, Registry.pipe?_finishPipe state hp hr] at hother ⊢
    refine ⟨hother.1, ?_⟩
    by_cases he : other = id
    · subst he
      simp [hp, hr]
    · simpa [he] using hother.2
  · simp [Registry.pipe?_finishPipe state hp hr, Pipe.isRunning, hstate]

/-! ### Wirings that go down -/

/-- Octets only move down, and all streams and running pipes count. -/
structure Fits (streams : Registry E) : Prop where
  descends : ∀ {place lower}, streams.FeedsInto place lower →
    slope.height lower < slope.height place
  source : ∀ {id source}, streams.source? id = some source → .queue id ∈ slope.places
  body : ∀ {id source handle size}, streams.source? id = some source →
    source.backing = .body handle size → .body handle ∈ slope.places
  pipe : ∀ {id pipe}, streams.pipe? id = some pipe → pipe.isRunning → id ∈ slope.pipes
  guestless : streams.Guestless

variable {slope} in
theorem Fits.keepsWiring {streams streams' : Registry E} (h : slope.Fits streams)
    (hk : streams.KeepsWiring streams') : slope.Fits streams' where
  descends hfeeds := h.descends (hk.feedsInto hfeeds)
  source hs := by
    obtain ⟨source, hsource, -⟩ := SlotMap.rel_some_right (hs ▸ hk.source _)
    exact h.source hsource
  body hs hback := by
    obtain ⟨source, hsource, hsame⟩ := SlotMap.rel_some_right (hs ▸ hk.source _)
    exact h.body hsource (hsame.symm.trans hback)
  pipe hp hr := by
    obtain ⟨pipe, hpipe, hrunning, -, -⟩ := hk.pipe hp hr
    exact h.pipe hpipe hrunning
  guestless := hk.guestless h.guestless

/-- An acyclic wiring goes down some slope. -/
theorem exists_fits {streams : Registry E} (h : streams.Acyclic) (hg : streams.Guestless) :
    ∃ slope : Slope, slope.Fits streams := by
  obtain ⟨height, hheight⟩ := h.exists_height
  let queues := (streams.sources.toList.map fun entry => Place.queue ⟨entry.1⟩).toFinset
  let bodies := (streams.sources.toList.filterMap fun entry =>
    entry.2.bodyHandle?.map Place.body).toFinset
  let pipes := (streams.runningPipes.map Prod.fst).toFinset
  refine ⟨⟨height, queues ∪ bodies, pipes⟩, hheight, fun {id source} hs => ?_,
    fun {id source handle size} hs hback => ?_, fun {id pipe} hp hr => ?_, hg⟩
  · exact Finset.mem_union_left _ (List.mem_toFinset.mpr
      (List.mem_map.mpr ⟨(id.key, source), SlotMap.mem_toList.mpr hs, rfl⟩))
  · refine Finset.mem_union_right _ (List.mem_toFinset.mpr
      (List.mem_filterMap.mpr ⟨(id.key, source), SlotMap.mem_toList.mpr hs, ?_⟩))
    simp [Source.bodyHandle?, hback]
  · exact List.mem_toFinset.mpr
      (List.mem_map.mpr ⟨(id, pipe), streams.mem_runningPipes.mpr ⟨hp, hr⟩, rfl⟩)

end Slope

/-! ### Work that changes the burden -/

namespace Session

variable {slope : Slope} {driven : Set PipeId} {s t u : Session MemoryHost E}
variable {gain loss gain' loss' : ℕ}

/-- The burden has grown by no more than `gain` besides having been lowered by `loss`. No pull has
been asked for, and pipes that are being driven by others have been spared. -/
structure Lightens (slope : Slope) (driven : Set PipeId) (gain loss : ℕ)
    (s t : Session MemoryHost E) : Prop where
  burden : slope.burden t + loss ≤ slope.burden s + gain
  unasked : s.streams.Unasked → t.streams.Unasked
  spares : ∀ {id pipe}, id ∉ driven → s.streams.pipe? id = some pipe → pipe.pumping = true →
    t.streams.pipe? id = some pipe

namespace Lightens

theorem refl (slope : Slope) (s : Session MemoryHost E) : Lightens slope driven 0 0 s s :=
  ⟨le_rfl, id, fun _ hp _ => hp⟩

theorem trans (h : Lightens slope driven gain loss s t)
    (h' : Lightens slope driven gain' loss' t u) :
    Lightens slope driven (gain + gain') (loss + loss') s u where
  burden := by
    have hfirst := h.burden
    have hsecond := h'.burden
    omega
  unasked := h'.unasked ∘ h.unasked
  spares hid hp hpumping := h'.spares hid (h.spares hid hp hpumping) hpumping

/-- A loss that outweighs the gain. -/
theorem mono (h : Lightens slope driven gain loss s t) (hle : loss' + gain ≤ loss + gain') :
    Lightens slope driven gain' loss' s t :=
  ⟨by have hburden := h.burden; omega, h.unasked, h.spares⟩

/-- Other pipes may be driven besides. -/
theorem widen (h : Lightens slope ∅ gain loss s t) (driven : Set PipeId) :
    Lightens slope driven gain loss s t :=
  ⟨h.burden, h.unasked, fun _ => h.spares (Set.notMem_empty _)⟩

/-- The pipes are as they were. -/
theorem of_weigh (hburden : slope.weigh t.stock + loss ≤ slope.weigh s.stock + gain)
    (hasked : s.streams.Unasked → t.streams.Unasked) (hpipes : t.streams.pipes = s.streams.pipes) :
    Lightens slope ∅ gain loss s t where
  burden := by
    have hsame : slope.running t.streams = slope.running s.streams := by
      simp only [Slope.running, Registry.pipe?_congr hpipes]
    unfold Slope.burden
    omega
  unasked := hasked
  spares _ hp _ := (Registry.pipe?_congr hpipes _).trans hp

/-- Nothing comes to any place, and the pipes are as they were. -/
theorem of_stock (hstock : t.stock ≤ s.stock) (hasked : s.streams.Unasked → t.streams.Unasked)
    (hpipes : t.streams.pipes = s.streams.pipes) : Lightens slope ∅ 0 0 s t :=
  of_weigh (slope.weigh_mono hstock) hasked hpipes

end Lightens

/-! ### Pulls that are asked for -/

theorem WorkedInto.unasked {calls : List StreamEvent} (h : WorkedInto calls s t)
    (hs : s.streams.Unasked) : t.streams.Unasked := by
  intro id source' ht
  obtain ⟨source, hsource, hr⟩ := SlotMap.rel_some_right (ht ▸ h.source id)
  rw [hr.flags.2.2]
  exact hs id source hsource

/-- A source changes and holds no more than before. -/
theorem lightens_setSource {id : ReadableId} {source : Source E} (source' : Source E)
    (hs : s.streams.source? id = some source)
    (hload : source'.controller.load ≤ source.controller.load)
    (hasked : source'.pullAgain = false) : Lightens slope ∅ 0 0 s (setSource id source' s) :=
  .of_stock (stock_setSource_le_self hs hload) (fun h => h.setSource id source' hasked) rfl

theorem lightens_setBridge (id : BridgeId) (bridge : Bridge E) (s : Session MemoryHost E) :
    Lightens slope ∅ 0 0 s (setBridge id bridge s) := .of_stock le_rfl (fun h => h) rfl

theorem lightens_note (event : StreamEvent) (s : Session MemoryHost E) :
    Lightens slope ∅ 0 0 s (note event s) := .of_stock le_rfl (fun h => h) rfl

/-! ### Sources -/

theorem lightens_takeReady {id : ReadableId} {source : Source E} (hf : slope.Fits s.streams)
    (hs : s.streams.source? id = some source) (hasked : source.pullAgain = false) :
    Lightens slope ∅ 0 (slope.weight (.queue id) * taken ((exec (takeReady id) s).1.map orPending))
      s (exec (takeReady id) s).2 := by
  obtain ⟨hle, hchunk⟩ := stock_takeReady hs
  have hpipes : (exec (takeReady id) s).2.streams.pipes = s.streams.pipes := by
    rw [exec_takeReady hs, streams_noteDelivered]
    rfl
  have hunasked : s.streams.Unasked → (exec (takeReady id) s).2.streams.Unasked := by
    intro h
    rw [exec_takeReady hs, streams_noteDelivered]
    exact h.setSource id { source with controller := _ } hasked
  have hnone : Lightens slope ∅ 0 0 s (exec (takeReady id) s).2 := .of_stock hle hunasked hpipes
  cases hfound : (exec (takeReady id) s).1 with
  | error error => exact hnone
  | ok found =>
    match found with
    | none | some .done | some .pending => exact hnone
    | some (.chunk chunk) =>
      refine .of_weigh ?_ hunasked hpipes
      have hweigh := slope.weigh_mono (hchunk chunk hfound)
      rwa [Slope.weigh_add, Slope.weigh_single (hf.source hs)] at hweigh

/-- A pull of a host body. Its octets are heavier in the body than in the queue. -/
theorem lightens_pullBody {id : ReadableId} {source : Source E}
    {handle : BodyHandle} {size : UInt64} (hf : slope.Fits s.streams)
    (hs : s.streams.source? id = some source) (hback : source.backing = .body handle size)
    (hasked : source.pullAgain = false) :
    Lightens slope ∅ 0 0 s (exec (pullBody id handle size) s).2 := by
  have hpulled : (exec (pullBody id handle size) s).2.streams.pipes = s.streams.pipes ∧
      (s.streams.Unasked → (exec (pullBody id handle size) s).2.streams.Unasked) := by
    simp only [pullBody, exec_bind, exec_streamCall]
    cases (exec (Host.bodyRead handle size) s.host).1 with
    | error error => exact ⟨rfl, fun h => h⟩
    | ok chunk =>
      have hs' : ({ s with host := (exec (Host.bodyRead handle size) s.host).2 } :
          Session MemoryHost E).streams.source? id = some source := hs
      simp only [Except.mapError, exec_source, hs', Registry.need_some]
      split <;> exact ⟨rfl, fun h => h.setSource id { source with controller := _ } hasked⟩
  rcases stock_pullBody hs with hle | ⟨chunk, hchunk, hmoved⟩
  · exact .of_stock hle hpulled.2 hpulled.1
  · refine .of_weigh ?_ hpulled.2 hpulled.1
    have hweigh := slope.weigh_mono hmoved
    rw [Slope.weigh_add, Slope.weigh_add, Slope.weigh_single (hf.body hs hback),
      Slope.weigh_single (hf.source hs)] at hweigh
    have hdown := Slope.weight_mul_succ_le (hf.descends (.source hs hback))
      (List.length_pos_iff.mpr hchunk)
    omega

/-! ### Sinks -/

section Operations

variable (hc : s.streams.Composed) (hf : slope.Fits s.streams)
include hc hf

theorem lightens_close (id : WritableId) (token : Option WriterToken) :
    Lightens slope ∅ 0 0 s (exec (close id token) s).2 := by
  refine .of_stock (stock_close_le hc hf.guestless id token) (fun h => ?_)
    (changesWithin_close s id token).pipes_eq
  simp only [close, exec_bind, exec_onStreams, Registry.exec_checkWriter]
  split
  · rcases closeUnchecked_cases hc id with heq | ⟨sink, outcome, sink', -, -, hr, -⟩
    · exact heq.symm ▸ h
    · exact hr.unasked h
  · exact h

theorem lightens_abort (id : WritableId) (reason : Option String) (token : Option WriterToken) :
    Lightens slope ∅ 0 0 s (exec (abort id reason token) s).2 := by
  refine .of_stock (stock_abort_le hc hf.guestless id reason token) (fun h => ?_)
    (changesWithin_abort s id reason token).pipes_eq
  simp only [abort, exec_bind, exec_onStreams, Registry.exec_checkWriter]
  split
  · rcases abortUnchecked_cases hc id reason with heq | ⟨sink, outcome, sink', -, -, hr, -⟩
    · exact heq.symm ▸ h
    · exact hr.unasked h
  · exact h

theorem lightens_cancel (id : ReadableId) (reason : Option String) (token : Option ReaderToken) :
    Lightens slope ∅ 0 0 s (exec (cancel id reason token) s).2 := by
  refine .of_stock (stock_cancel_le hf.guestless id reason token) (fun h => ?_)
    (changesWithin_cancel s id reason token).pipes_eq
  simp only [cancel, exec_bind, exec_onStreams, Registry.exec_checkReader]
  split
  · rcases cancelUnchecked_cases hc id reason with
      ⟨-, heq⟩ | ⟨source, hs, ⟨-, heq⟩ | ⟨-, -, outcome, hr, -⟩⟩
    · exact heq.symm ▸ h
    · have hmarked := h.setSource id { source with disturbed := true } (h id source hs)
      exact heq.symm ▸ hmarked
    · exact hr.unasked (h.setSource id (canceledSource source) (h id source hs))
  · exact h

/-- A pipe writes what it has read. The octets are lighter where they come to. -/
theorem lightens_carry {id : PipeId} {pipe : Pipe} (hp : s.streams.pipe? id = some pipe)
    (hr : pipe.isRunning) (chunk : Bytes) (token : Option WriterToken) :
    Lightens slope ∅ (slope.weight (.queue pipe.source) * (chunk.length + 1)) 1 s
      (exec (write pipe.destination chunk token) s).2 := by
  have hunasked : s.streams.Unasked →
      (exec (write pipe.destination chunk token) s).2.streams.Unasked := by
    intro h
    by_cases htakes : s.streams.Takes pipe.destination token
    · obtain ⟨sink, hs, rfl, hw, -⟩ := htakes
      rw [exec_write_of_lock hs]
      obtain ⟨outcome, hripples, -⟩ := workedInto_writeUnchecked hc hs hw chunk
      exact hripples.unasked h
    · obtain ⟨error, hwrite⟩ := exec_write_of_refused chunk htakes
      rw [hwrite]
      exact h
  have hlength : 0 < chunk.length + 1 := Nat.succ_pos _
  refine .of_weigh ?_ hunasked (changesWithin_write s pipe.destination chunk token).pipes_eq
  rcases stock_write hc hf.guestless pipe.destination chunk token with hle | ⟨place, hfills, hle⟩
  · have hweigh := slope.weigh_mono hle
    have hpos := Nat.mul_pos (slope.weight_pos (.queue pipe.source)) hlength
    omega
  · have hweigh := slope.weigh_mono hle
    rw [Slope.weigh_add] at hweigh
    have hsingle := slope.weigh_single_le place (chunk.length + 1)
    have hdown := Slope.weight_mul_lt (hf.descends (.pipe hp hr hfills)) hlength
    omega

end Operations

/-! ### Pipes -/

theorem stock_pipeFinished (id : PipeId) (state : PipeState) (s : Session MemoryHost E) :
    (pipeFinished id state s).stock = s.stock := by
  by_cases hrun : ∃ pipe, s.streams.pipe? id = some pipe ∧ pipe.isRunning
  · obtain ⟨pipe, hp, hr⟩ := hrun
    funext place
    cases place with
    | body handle => rfl
    | queue other =>
      simp only [stock, pipeFinished, streams_mapStreams, Registry.source?_finishPipe state hp hr]
      split
      · next he =>
        subst he
        cases s.streams.source? pipe.source with
        | none => rfl
        | some source =>
          simp only [Option.map_some, Option.getD_some, Registry.unlockReader]
          split <;> rfl
      · rfl
  · rw [pipeFinished, mapStreams, Registry.finishPipe_of_not_running]
    exact fun pipe hp hr => hrun ⟨pipe, hp, hr⟩

theorem unasked_pipeFinished (id : PipeId) (state : PipeState) (h : s.streams.Unasked) :
    (pipeFinished id state s).streams.Unasked := by
  intro other source hs
  by_cases hrun : ∃ pipe, s.streams.pipe? id = some pipe ∧ pipe.isRunning
  · obtain ⟨pipe, hp, hr⟩ := hrun
    rw [pipeFinished, streams_mapStreams, Registry.source?_finishPipe state hp hr] at hs
    split at hs
    · obtain ⟨old, hold, rfl⟩ := Option.map_eq_some_iff.mp hs
      have hasked := h _ old hold
      simp only [Registry.unlockReader]
      split <;> exact hasked
    · exact h other source hs
  · rw [pipeFinished, mapStreams, Registry.finishPipe_of_not_running] at hs
    · exact h other source hs
    · exact fun pipe hp hr => hrun ⟨pipe, hp, hr⟩

/-- A running pipe finishes. -/
theorem lightens_pipeFinished {id : PipeId} {pipe : Pipe} (hf : slope.Fits s.streams)
    (hp : s.streams.pipe? id = some pipe) (hr : pipe.isRunning) {state : PipeState}
    (hstate : state ≠ .running) : Lightens slope {id} 0 1 s (pipeFinished id state s) where
  burden := by
    have hrunning := Slope.running_finishPipe hp hr (hf.pipe hp hr) hstate
    unfold Slope.burden
    rw [stock_pipeFinished]
    change _ + slope.running (s.streams.finishPipe id state) + 1 ≤ _
    omega
  unasked := unasked_pipeFinished id state
  spares {other found} hid hfound _ := by
    have hne : other ≠ id := hid
    rw [pipeFinished, streams_mapStreams, Registry.pipe?_finishPipe state hp hr, if_neg hne]
    exact hfound

end Session

end EdgeStreams
