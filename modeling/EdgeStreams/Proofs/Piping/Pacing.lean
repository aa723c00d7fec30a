import EdgeStreams.Proofs.Piping.Pressure

/-!
# How transform streams pace the pipes into them

A pipe looks whether its destination is ready, then it reads its source, and then it writes. The
read may drive any number of other pipes, but none into the same destination, since a destination
belongs to one running pipe and that one is being driven. So the destination is as ready as it was
once the chunk is there.

## Main definitions

- `Session.Passes`: deeds of one kind, one after another
- `Session.Paced`: a deed that writes only where a transform stream lets writers through
- `Session.Unfed`: no other pipe into a stream is to be driven

## Main statements

- `Session.Passes.admits`: what lets a writer through is still there after the deeds of others
- `Session.flowPaces`: the functions that make data flow
- `Session.pacesTo_read`, `Session.pacesTo_pump`, `Session.pacesTo_pumpPipe`,
  `Session.pacesTo_abortCorrelated`: operations
-/

namespace EdgeStreams

variable {H E : Type}

namespace Session

variable {s t u : Session H E} {mark : UInt64} {w : WritableId} {spared : Set WritableId}

/-! ### Streams that pipes are not driven into -/

/-- Every running pipe into the stream is being driven. -/
def Unfed (w : WritableId) (s : Session H E) : Prop :=
  ∀ name pipe, s.streams.pipe? name = some pipe → pipe.isRunning → pipe.destination = w →
    pipe.pumping = true

theorem Unfed.of_pipes (hu : Unfed w s) (hp : t.streams.pipes = s.streams.pipes) : Unfed w t :=
  fun name pipe hfound => hu name pipe ((Registry.pipe?_congr hp name).symm.trans hfound)

variable [Host H]

theorem Unfed.flowsTo (hu : Unfed w s) (hm : MovesTo s t) (hl : s.Level t) : Unfed w t := by
  intro name pipe hp hr he
  obtain ⟨pumping, hbefore⟩ := hm.running_before hp hr
  obtain ⟨found, hfound, hsame⟩ := SlotMap.rel_some_right (hp ▸ hl.pipe name)
  cases hbefore.symm.trans hfound
  exact hsame.trans (hu name _ hfound hr he)

/-! ### Deeds of a kind -/

/-- One deed after another, each of them as allowed. -/
inductive Passes (allowed : Session H E → List (WritableId × Bytes) → Session H E → Prop)
    (s : Session H E) : Session H E → Prop
  | refl : Passes allowed s s
  | step {t u : Session H E} {made : List (WritableId × Bytes)} :
    Passes allowed s t → Deed t made u → allowed t made u → Passes allowed s u

namespace Passes

variable {allowed wider : Session H E → List (WritableId × Bytes) → Session H E → Prop}

theorem trans (h : Passes allowed s t) (h' : Passes allowed t u) : Passes allowed s u := by
  induction h' with
  | refl => exact h
  | step _ hdeed hallowed ih => exact ih.step hdeed hallowed

theorem mono (h : Passes allowed s t)
    (hwider : ∀ {t made u}, Deed t made u → allowed t made u → wider t made u) :
    Passes wider s t := by
  induction h with
  | refl => exact .refl
  | step _ hdeed hallowed ih => exact ih.step hdeed (hwider hdeed hallowed)

theorem course (h : Passes allowed s t) : ∃ made, Course s made t := by
  induction h with
  | refl => exact ⟨_, .refl⟩
  | step _ hdeed _ ih =>
    obtain ⟨made, hcourse⟩ := ih
    exact ⟨_, hcourse.step hdeed⟩

/-- What every deed preserves holds all the way. By induction on the deeds. -/
theorem holds {P : Session H E → Prop} (h : Passes allowed s t) (hs : P s)
    (hstep : ∀ {t made u}, Deed t made u → allowed t made u → P t → P u) :
    P t ∧ Passes (fun _ _ u => P u) s t := by
  induction h with
  | refl => exact ⟨hs, .refl⟩
  | step _ hdeed hallowed ih =>
    have hnext := hstep hdeed hallowed ih.1
    exact ⟨hnext, ih.2.step hdeed hnext⟩

end Passes

/-! ### Deeds that transform streams pace -/

/-- A deed that writes only where a transform stream lets writers through, and not to the streams
that are spared. It adds nothing to the streams that it does not write to. -/
structure Paced (mark : UInt64) (spared : Set WritableId) (s : Session H E)
    (made : List (WritableId × Bytes)) (t : Session H E) : Prop where
  regular : t.Regular mark
  admits : ∀ w chunk, (w, chunk) ∈ made → w ∉ spared ∧ s.AdmitsWrite mark w
  nothingAdded : ∀ w, (∀ chunk, (w, chunk) ∉ made) → NothingAdded w s t

omit [Host H] in
theorem Paced.mono {wider : Set WritableId} {made : List (WritableId × Bytes)}
    (h : Paced mark wider s made t) (hsub : spared ⊆ wider) : Paced mark spared s made t where
  regular := h.regular
  admits w chunk hm := (h.admits w chunk hm).imp_left fun hw hin => hw (hsub hin)
  nothingAdded := h.nothingAdded

theorem Passes.regular (h : Passes (Paced mark spared) s t) (hr : s.Regular mark) :
    t.Regular mark := by
  cases h with
  | refl => exact hr
  | step _ _ hpaced => exact hpaced.regular

/-- What lets a writer through is still there once others have been served. By induction on the
deeds. -/
theorem Passes.admits (h : Passes (Paced mark spared) s t) (hr : s.Regular mark) (hw : w ∈ spared)
    (hadmits : s.AdmitsWrite mark w) (ha : t.streams.Accepts w) : t.AdmitsWrite mark w := by
  induction h with
  | refl => exact hadmits
  | step hbefore hdeed hpaced ih =>
    have hregular := hbefore.regular hr
    have hunwritten := fun chunk hm => (hpaced.admits w chunk hm).1 hw
    exact (ih (hdeed.accepts hregular.composed ha)).nothingAdded hdeed hregular.composed hunwritten
      (hpaced.nothingAdded w hunwritten) ha

/-- Paced deeds keep to what may be queued. -/
theorem Bounded.paced {made : List (WritableId × Bytes)} (h : s.Bounded mark w)
    (hr : s.Regular mark) (hdeed : Deed s made t) (hpaced : Paced mark spared s made t) :
    t.Bounded mark w := by
  by_cases hunwritten : ∀ chunk, (w, chunk) ∉ made
  · exact h.nothingAdded hdeed hr.composed (hpaced.nothingAdded w hunwritten)
  · obtain ⟨chunk, hm⟩ := not_forall_not.mp hunwritten
    have hadmits := (hpaced.admits w chunk hm).2
    cases hdeed with
    | write written htakes =>
      cases List.mem_singleton.mp hm
      exact .write hr hadmits htakes
    | _ => cases hm

/-- Paced deeds, after which no more pipes are to be driven into a stream than before. -/
structure PacesTo (mark : UInt64) (spared : Set WritableId) (s t : Session H E) : Prop where
  passes : Passes (Paced mark spared) s t
  movesTo : MovesTo s t
  unfed : ∀ w, Unfed w s → Unfed w t

/-- What holds of the registry while pipes are driven: transform streams are regular, pipes hold
their ends, and no pipe is to be driven into a stream that is spared. -/
structure Steady (mark : UInt64) (spared : Set WritableId) (s : Session H E) : Prop
    extends s.Regular mark where
  orderly : ∃ held spent, s.streams.Orderly held spent
  unfed : ∀ w ∈ spared, Unfed w s

namespace PacesTo

theorem refl (s : Session H E) : s.PacesTo mark spared s := ⟨.refl, .refl, fun _ => id⟩

theorem trans (h : s.PacesTo mark spared t) (h' : t.PacesTo mark spared u) :
    s.PacesTo mark spared u where
  passes := h.passes.trans h'.passes
  movesTo := h.movesTo.trans h'.movesTo
  unfed w hu := h'.unfed w (h.unfed w hu)

theorem mono {wider : Set WritableId} (h : s.PacesTo mark wider t) (hsub : spared ⊆ wider) :
    s.PacesTo mark spared t where
  passes := h.passes.mono fun _ hpaced => hpaced.mono hsub
  movesTo := h.movesTo
  unfed := h.unfed

theorem steady (h : s.PacesTo mark spared t) (hs : s.Steady mark spared) :
    t.Steady mark spared where
  toRegular := h.passes.regular hs.toRegular
  orderly := by
    obtain ⟨held, spent, horderly⟩ := hs.orderly
    exact ⟨held, spent, h.movesTo.orderly horderly⟩
  unfed w hw := h.unfed w (hs.unfed w hw)

/-- A deed that makes no transform stream fuller and lets no more through. -/
theorem nothingLoosened (hr : s.Regular mark) (hdeed : Deed s [] t)
    (hnotLoosened : ∀ w, NothingLoosened w s t)
    (hm : MovesTo s t) (hunfed : ∀ w, Unfed w s → Unfed w t) : s.PacesTo mark spared t where
  passes := .step .refl hdeed
    ⟨hr.eased hdeed hnotLoosened, fun _ _ hm => absurd hm List.not_mem_nil,
      fun w _ => (hnotLoosened w).nothingAdded⟩
  movesTo := hm
  unfed := hunfed

/-- Work on streams leaves the pipes alone. -/
theorem changesWithin {f : Footprint} (hr : s.Regular mark) (hdeed : Deed s [] t)
    (hnotLoosened : ∀ w, NothingLoosened w s t) (ht : ChangesWithin f s t) :
    s.PacesTo mark spared t :=
  .nothingLoosened hr hdeed hnotLoosened (.of_changesWithin ht) fun _ hu => hu.of_pipes ht.pipes_eq

end PacesTo

section Deeds

variable (hr : s.Regular mark)
include hr

theorem pacesTo_cancelUnchecked (id : ReadableId) (reason : Option String) :
    s.PacesTo mark spared (exec (cancelUnchecked id reason) s).2 :=
  .changesWithin hr (.cancel id reason) (fun _ => .cancel hr.composed hr.linked id reason)
    (changesWithin_cancelUnchecked .refl reason s .refl)

theorem pacesTo_cancel (id : ReadableId) (reason : Option String) (token : Option ReaderToken) :
    s.PacesTo mark spared (exec (cancel id reason token) s).2 := by
  simp only [cancel, exec_bind, exec_onStreams, Registry.exec_checkReader]
  split
  · exact pacesTo_cancelUnchecked hr id reason
  · exact .refl s

theorem pacesTo_close (id : WritableId) (token : Option WriterToken) :
    s.PacesTo mark spared (exec (close id token) s).2 := by
  simp only [close, exec_bind, exec_onStreams, Registry.exec_checkWriter]
  split
  · exact .changesWithin hr (.close id) (fun _ => .close hr.composed hr.couples hr.linked id)
      (changesWithin_closeUnchecked .refl s .refl)
  · exact .refl s

theorem pacesTo_abortUnchecked (id : WritableId) (reason : Option String) :
    s.PacesTo mark spared (exec (abortUnchecked id reason) s).2 :=
  .changesWithin hr (.abort id reason) (fun _ => .abort hr.composed hr.couples hr.linked id reason)
    (changesWithin_abortUnchecked .refl reason s .refl)

theorem pacesTo_abort (id : WritableId) (reason : Option String) (token : Option WriterToken) :
    s.PacesTo mark spared (exec (abort id reason token) s).2 := by
  simp only [abort, exec_bind, exec_onStreams, Registry.exec_checkWriter]
  split
  · exact pacesTo_abortUnchecked hr id reason
  · exact .refl s

theorem pacesTo_pipeFinished (id : PipeId) {state : PipeState} (hstate : state ≠ .running) :
    s.PacesTo mark spared (pipeFinished id state s) := by
  have hm : MovesTo s (pipeFinished id state s) := .finish id .refl hstate
  exact .nothingLoosened hr (.finish id state)
    (fun _ => .pipeFinished id state hr.composed hr.linked) hm
    fun _ hu => hu.flowsTo hm (.pipeFinished id state s)

/-- A write, once the writer is let through. -/
theorem pacesTo_write {chunk : Bytes} {token : Option WriterToken} (hw : w ∉ spared)
    (hadmits : s.streams.Accepts w → s.AdmitsWrite mark w) :
    s.PacesTo mark spared (exec (write w chunk token) s).2 := by
  by_cases htakes : s.streams.Takes w token
  · have hdeed : Deed s [(w, chunk)] (exec (write w chunk token) s).2 := .write chunk htakes
    have ht := changesWithin_write s w chunk token
    refine ⟨.step .refl hdeed ⟨hr.write chunk htakes, fun other written hm => ?_,
      fun other hne => ?_⟩, .of_changesWithin ht, fun _ hu => hu.of_pipes ht.pipes_eq⟩
    · cases List.mem_singleton.mp hm
      obtain ⟨sink, hk, -, hopen, -⟩ := htakes
      exact ⟨hw, hadmits ⟨sink, hk, hopen⟩⟩
    · obtain ⟨sink, hk, rfl, -⟩ := htakes
      rw [exec_write_of_lock hk]
      refine (NothingLoosened.write hr.composed hr.linked chunk ?_).nothingAdded
      rintro rfl
      exact hne chunk List.mem_cons_self
  · obtain ⟨error, hrefused⟩ := exec_write_of_refused chunk htakes
    rw [hrefused]
    exact .refl s

/-! ### What a pipe does to its ends -/

theorem pacesTo_cancelSource (pipe : Pipe) : s.PacesTo mark spared (cancelSource pipe s).2 := by
  cases h : pipe.options.preventCancel with
  | false =>
    rw [cancelSource_snd h]
    exact pacesTo_cancel hr _ _ _
  | true =>
    rw [cancelSource_of_prevented h]
    exact .refl s

theorem pacesTo_abortDestination (pipe : Pipe) :
    s.PacesTo mark spared (abortDestination pipe s).2 := by
  cases h : pipe.options.preventAbort with
  | false =>
    rw [abortDestination_snd h]
    exact pacesTo_abort hr _ _ _
  | true =>
    rw [abortDestination_of_prevented h]
    exact .refl s

theorem pacesTo_closeDestination (pipe : Pipe) :
    s.PacesTo mark spared (closeDestination pipe s).2 := by
  cases h : pipe.options.preventClose with
  | false =>
    rw [closeDestination_eq h]
    exact pacesTo_close hr _ _
  | true =>
    rw [closeDestination_of_prevented h]
    exact .refl s

theorem pacesTo_failPipe (id : PipeId) (pipe : Pipe) (error : StreamError) :
    s.PacesTo mark spared (failPipe id pipe error s).2 := by
  cases h : s.streams.containsWritable pipe.destination with
  | true =>
    rw [failPipe_snd h]
    have hcancels : s.PacesTo mark spared (cancelSource pipe s).2 := pacesTo_cancelSource hr pipe
    exact hcancels.trans (pacesTo_pipeFinished (hcancels.passes.regular hr) id (by simp))
  | false =>
    rw [failPipe_snd_of_gone h]
    exact pacesTo_pipeFinished hr id (by simp)

/-! ### Reading a transform stream -/

variable {id : ReadableId} {source : Source E} (hs : s.streams.source? id = some source)
  (ht : source.IsTransform)
include hs ht

theorem pacesTo_disturb : s.PacesTo mark spared (disturb id source s) :=
  have hdeed : Deed s [] (disturb id source s) := .disturb hs ht
  .nothingLoosened hr hdeed
    (fun _ => .setSource hs hdeed hr.composed hr.linked ((Revised.refl hs).setSource _) rfl)
    (MovesTo.refl.disturb hs) fun _ hu => hu.of_pipes rfl

theorem pacesTo_takeReady (hd : s.streams.isDisturbed id = true) :
    s.PacesTo mark spared (exec (takeReady id) s).2 :=
  .nothingLoosened hr (.take hs ht) (fun _ => .takeReady hs ht hr.composed hr.linked)
    (movesTo_takeReady hd) fun _ hu => hu.of_pipes (by simp [exec_takeReady hs])

theorem pacesTo_ask (hd : s.streams.isDisturbed id = true) (hp : source.pulling = true) :
    s.PacesTo mark spared (setSource id { source with pullAgain := true } s) :=
  have hdeed : Deed s [] (setSource id { source with pullAgain := true } s) := .ask hs ht hp
  .nothingLoosened hr hdeed
    (fun _ => .setSource hs hdeed hr.composed hr.linked ((Revised.refl hs).setSource _) rfl)
    (MovesTo.refl.setSource hd hs ⟨rfl, rfl, rfl, rfl, rfl, rfl, fun h => h, fun h => h⟩)
    fun _ hu => hu.of_pipes rfl

theorem pacesTo_beginPull {waits : Bool} (hd : s.streams.isDisturbed id = true)
    (hwants : source.wantsPull waits = true) (hp : source.pulling = false) :
    s.PacesTo mark spared (note (.pullBegan id) (setSource id { source with pulling := true } s)) :=
  have hdeed : Deed s [] (note (.pullBegan id) (setSource id { source with pulling := true } s)) :=
    .beginPull hs ht hwants hp
  have hcall : (StreamEvent.pullBegan id).isCall = true := rfl
  have hm : MovesTo s (setSource id { source with pulling := true } s) :=
    MovesTo.refl.setSource hd hs ⟨rfl, rfl, rfl, rfl, rfl, rfl, fun h => h, fun h => h⟩
  .nothingLoosened hr hdeed
    (fun _ => .setSource hs hdeed hr.composed hr.linked (((Revised.refl hs).setSource _).call hcall)
      rfl)
    (hm.note _) fun _ hu => hu.of_pipes rfl

theorem pacesTo_endPull (hd : s.streams.isDisturbed id = true) (hp : source.pulling = true) :
    s.PacesTo mark spared (setSource id { source with pulling := false, pullAgain := false }
      (note (.pullEnded id (.ok ())) s)) :=
  have hdeed : Deed s [] (setSource id { source with pulling := false, pullAgain := false }
    (note (.pullEnded id (.ok ())) s)) := .endPull hs ht hp
  have hcall : (StreamEvent.pullEnded id (.ok ())).isCall = true := rfl
  .nothingLoosened hr hdeed
    (fun _ => .setSource hs hdeed hr.composed hr.linked (((Revised.refl hs).call hcall).setSource _)
      rfl)
    ((MovesTo.refl.note _).setSource hd hs ⟨rfl, rfl, rfl, rfl, rfl, rfl, fun h => h, fun h => h⟩)
    fun _ hu => hu.of_pipes rfl

end Deeds

/-! ### The functions that call each other -/

/-- With some fuel, whatever there is an outcome of paces writers. -/
structure FlowPaces (H E : Type) [Host H] (mark : UInt64) (fuel : Nat) : Prop where
  readUnchecked {s : Session H E} {spared : Set WritableId} {id : ReadableId}
    {r : Except StreamError ReadOutcome × Session H E} : s.Steady mark spared →
    attempt (Session.readUnchecked fuel id) s = some r → s.PacesTo mark spared r.2
  /-- A reader waits only if it has found nothing. -/
  pullIfNeeded {s : Session H E} {spared : Set WritableId} {id : ReadableId} {source : Source E}
    {readerWaits : Bool} {r : Unit × Session H E} : s.Steady mark spared →
      s.streams.source? id = some source → source.IsTransform → s.streams.isDisturbed id = true →
        (readerWaits = true → source.controller.queue = []) →
          EdgeStreams.drive (Session.pullIfNeeded fuel id readerWaits) s = some r →
            s.PacesTo mark spared r.2
  /-- A pull has begun of a readable half with room in it or with nothing in it. -/
  pull {s : Session H E} {spared : Set WritableId} {id : ReadableId} {source : Source E}
    {r : Except StreamError Unit × Session H E} : s.Steady mark spared →
      s.streams.source? id = some source → source.IsTransform →
        (∀ w, PulledSince id w s) →
        source.controller.queuedBytes < mark.toNat ∨ source.controller.queue = [] →
          attempt (Session.pull fuel id) s = some r → s.PacesTo mark spared r.2
  pumpPipe {s : Session H E} {spared : Set WritableId} {id : PipeId} {r : Nat × Session H E} :
    s.Steady mark spared → EdgeStreams.drive (Session.pumpPipe fuel id) s = some r →
      s.PacesTo mark spared r.2
  /-- The pipe is being driven. -/
  pumpSteps {s : Session H E} {spared : Set WritableId} {id : PipeId} {pipe : Pipe} {steps : Nat}
    {r : Nat × Session H E} : s.Steady mark spared → Unfed pipe.destination s →
      pipe.destination ∉ spared →
        EdgeStreams.drive (Session.pumpSteps fuel id pipe steps) s = some r →
          s.PacesTo mark spared r.2

omit [Host H] in
/-- A pull begins for a reader that has found nothing, or where there is room. -/
theorem Regular.room_of_wantsPull (hr : s.Regular mark) {id : ReadableId} {source : Source E}
    {waits : Bool} (hs : s.streams.source? id = some source) (ht : source.IsTransform)
    (hwaits : waits = true → source.controller.queue = [])
    (hwants : source.wantsPull waits = true) :
    source.controller.queuedBytes < mark.toNat ∨ source.controller.queue = [] := by
  have hmark := (hr.couples.marked hs ht).1
  have hreadable := (Source.pullable_of_wantsPull hwants).readable
  simp only [Source.wantsPull, Bool.and_eq_true, Bool.or_eq_true, decide_eq_true_eq,
    ReadableController.desiredSize, hreadable, hmark, Option.getD_some] at hwants
  exact hwants.2.symm.imp lt_of_room_pos hwaits

namespace FlowPaces

theorem zero : FlowPaces H E mark 0 where
  readUnchecked _ h := by cases h
  pullIfNeeded _ _ _ _ _ h := by cases h
  pull _ _ _ _ _ h := by cases h
  pumpPipe _ h := by cases h
  pumpSteps _ _ _ h := by cases h

variable {fuel : Nat} (ih : FlowPaces H E mark fuel)

/-- Reading a host body or a guest is one deed. -/
theorem readUnchecked_native {id : ReadableId} {source : Source E}
    {r : Except StreamError ReadOutcome × Session H E} (hr : s.Regular mark)
    (hs : s.streams.source? id = some source) (hn : ¬ source.IsTransform)
    (h : attempt (Session.readUnchecked fuel id) s = some r) : s.PacesTo mark spared r.2 := by
  have hm := (flowMoves fuel).readUnchecked h
  have hlevel := ((flowDeeds fuel).readUnchecked hr.composed h).level
  exact .nothingLoosened hr (.read hs hn h) (fun _ => .read hs hn h hr.composed hr.linked) hm
    fun _ hu => hu.flowsTo hm hlevel

include ih

theorem readUnchecked_succ {id : ReadableId} {r : Except StreamError ReadOutcome × Session H E}
    (hs : s.Steady mark spared) (h : attempt (Session.readUnchecked (fuel + 1) id) s = some r) :
    s.PacesTo mark spared r.2 := by
  by_cases hnative : ∀ source, s.streams.source? id = some source → ¬ source.IsTransform
  · cases hfound : s.streams.source? id with
    | none => exact readUnchecked_of_gone hfound h ▸ .refl s
    | some source => exact readUnchecked_native hs.toRegular hfound (hnative source hfound) h
  · simp only [not_forall, not_not] at hnative
    obtain ⟨source, hfound, ht⟩ := hnative
    have hmarks : s.PacesTo mark spared (disturb id source s) :=
      pacesTo_disturb hs.toRegular hfound ht
    have hsteady := hmarks.steady hs
    have hd := isDisturbed_disturb hfound
    have hmarked := source?_disturb hfound
    have htake : ∀ t, (disturb id source s).PacesTo mark spared t →
        (disturb id source s).PacesTo mark spared (exec (takeReady id) t).2 := fun t hpaces => by
      obtain ⟨made, hcourse⟩ := hpaces.passes.course
      obtain ⟨last, hlast, htransform⟩ := hcourse.isTransform hsteady.composed hmarked ht
      exact hpaces.trans (pacesTo_takeReady (hpaces.steady hsteady).toRegular hlast htransform
        (hpaces.movesTo.disturbed hd))
    refine (readUnchecked_keeps ((disturb id source s).PacesTo mark spared) hfound h (.refl _) htake
      fun waits t hempty hpull => ?_).elim (fun heq => heq ▸ .refl _) hmarks.trans
    have htaken := htake _ (.refl _)
    have hnothing : waits = true → source.controller.takeReady.2.queue = [] := fun hwaits => by
      have hnone := hempty hwaits
      rw [exec_takeReady hmarked] at hnone
      exact ReadableController.queue_of_takeReady_none hnone
    exact htaken.trans (ih.pullIfNeeded (htaken.steady hsteady) (source?_takeReady hmarked) ht
      (htaken.movesTo.disturbed hd) hnothing hpull)

theorem pullIfNeeded_succ {id : ReadableId} {source : Source E} {readerWaits : Bool}
    {r : Unit × Session H E} (hsteady : s.Steady mark spared)
    (hs : s.streams.source? id = some source) (ht : source.IsTransform)
    (hd : s.streams.isDisturbed id = true)
    (hwaits : readerWaits = true → source.controller.queue = [])
    (h : EdgeStreams.drive (Session.pullIfNeeded (fuel + 1) id readerWaits) s = some r) :
    s.PacesTo mark spared r.2 := by
  have hr := hsteady.toRegular
  rcases (flowDeeds fuel).pullIfNeeded_cases hr.composed hs ht h with
    ⟨-, rfl⟩ | ⟨hwants, ⟨hp, rfl⟩ | ⟨hp, t, last, hpull, hnext⟩⟩
  · exact .refl s
  · exact pacesTo_ask hr hs ht hd hp
  · have hbegan : s.PacesTo mark spared
        (Session.note (.pullBegan id) (setSource id { source with pulling := true } s)) :=
      pacesTo_beginPull hr hs ht hd hwants hp
    have hsince : ∀ w, PulledSince id w
        (Session.note (.pullBegan id) (setSource id { source with pulling := true } s)) := fun w =>
      ⟨_, [], rfl, fun _ _ hm => absurd hm List.not_mem_nil⟩
    have hroom := hr.room_of_wantsPull hs ht hwaits hwants
    have hpulled := hbegan.trans
      (ih.pull (hbegan.steady hsteady) hpull.during ht hsince hroom hpull.pull)
    have hdone := hpulled.trans (pacesTo_endPull (hpulled.passes.regular hr)
      hpull.found hpull.isTransform (hpulled.movesTo.disturbed hd) hpull.pulling)
    rcases hnext with rfl | hagain
    · exact hdone
    · exact hdone.trans (ih.pullIfNeeded (hdone.steady hsteady) hpull.ended hpull.isTransform
        (hdone.movesTo.disturbed hd) (by simp) hagain)

theorem pull_succ {id : ReadableId} {source : Source E} {r : Except StreamError Unit × Session H E}
    (hsteady : s.Steady mark spared) (hs : s.streams.source? id = some source)
    (ht : source.IsTransform) (hsince : ∀ w, PulledSince id w s)
    (hroom : source.controller.queuedBytes < mark.toNat ∨ source.controller.queue = [])
    (h : attempt (Session.pull (fuel + 1) id) s = some r) : s.PacesTo mark spared r.2 := by
  obtain ⟨name, hback⟩ := ht
  obtain ⟨bridge, hb, rfl⟩ := hsteady.composed.readable hs hback
  have hdeed : Deed s [] (setBridge name { bridge with pullRequested := true } s) := .request hb
  have hregular : (setBridge name { bridge with pullRequested := true } s).Regular mark :=
    hsteady.toRegular.request hb (hsince _) fun found hfound => by
      cases hs.symm.trans hfound
      exact hroom
  have hasked : s.PacesTo mark spared (setBridge name { bridge with pullRequested := true } s) := by
    refine ⟨.step .refl hdeed
      ⟨hregular, fun _ _ hm => absurd hm List.not_mem_nil, fun _ _ => .request hb⟩,
      (FlowRuns.runsTo_request hb).movesTo, fun _ hu => hu.of_pipes rfl⟩
  rcases pull_cases hs hback hb h with ⟨-, rfl⟩ | ⟨pipe, steps, t, -, hpump, rfl⟩
  · exact hasked
  · exact hasked.trans (ih.pumpPipe (hasked.steady hsteady) hpump)

/-- The pipe is the only one into its destination, and it is driven from now on. -/
theorem pumpPipe_succ {id : PipeId} {r : Nat × Session H E} (hsteady : s.Steady mark spared)
    (h : EdgeStreams.drive (Session.pumpPipe (fuel + 1) id) s = some r) :
    s.PacesTo mark spared r.2 := by
  have hr := hsteady.toRegular
  have hm := (flowMoves (fuel + 1)).pumpPipe h
  have hlevel := ((flowDeeds (fuel + 1)).pumpPipe hr.composed h).level
  refine ⟨?_, hm, fun _ hu => hu.flowsTo hm hlevel⟩
  rcases pumpPipe_cases h with ⟨-, rfl⟩ | ⟨pipe, steps, t, hp, hrunning, hparked, hsteps, rfl⟩
  · exact .refl
  have hfree : pipe.destination ∉ spared := fun hin => by
    have hpumping := hsteady.unfed _ hin id pipe hp hrunning rfl
    rw [hparked] at hpumping
    cases hpumping
  have hdriven : ∀ w, Unfed w s → Unfed w
      (mapStreams (fun streams => streams.setPipe id { pipe with pumping := true }) s) := by
    intro w hu other found hfound
    rw [streams_mapStreams, Registry.pipe?_setPipe] at hfound
    split at hfound
    · rw [hp, Option.map_some, Option.some.injEq] at hfound
      exact fun _ _ => hfound ▸ rfl
    · exact hu other found hfound
  have hdrives : s.PacesTo mark spared
      (mapStreams (fun streams => streams.setPipe id { pipe with pumping := true }) s) :=
    .nothingLoosened hr (.drive true hp) (fun _ => .drive true hp hr.composed hr.linked)
      (.drive true .refl hp) hdriven
  have honly : Unfed pipe.destination
      (mapStreams (fun streams => streams.setPipe id { pipe with pumping := true }) s) := by
    obtain ⟨held, spent, horderly⟩ := hsteady.orderly
    intro other found hfound hr' he
    rw [streams_mapStreams, Registry.pipe?_setPipe] at hfound
    split at hfound
    · rw [hp, Option.map_some, Option.some.injEq] at hfound
      exact hfound ▸ rfl
    · next hne => exact absurd (horderly.destination_inj hfound hr' hp hrunning he) hne
  have hpumps := hdrives.trans (ih.pumpSteps (hdrives.steady hsteady) honly hfree hsteps)
  simp only [mapStreams, parked]
  cases hp' : t.streams.pipe? id with
  | none => exact hpumps.passes
  | some pipe' =>
    have hregular := hpumps.passes.regular hr
    exact hpumps.passes.step (.drive false hp')
      ⟨hregular.eased (.drive false hp') fun _ =>
        .drive false hp' hregular.composed hregular.linked, fun _ _ hm =>
        absurd hm List.not_mem_nil, fun _ _ =>
          (NothingLoosened.drive false hp' hregular.composed hregular.linked).nothingAdded⟩

/-- The destination is as ready for the chunk as it was when the pipe looked. -/
theorem pumpSteps_succ {id : PipeId} {pipe : Pipe} {steps : Nat} {r : Nat × Session H E}
    (hsteady : s.Steady mark spared) (hu : Unfed pipe.destination s)
    (hfree : pipe.destination ∉ spared)
    (h : EdgeStreams.drive (Session.pumpSteps (fuel + 1) id pipe steps) s = some r) :
    s.PacesTo mark spared r.2 := by
  have hr := hsteady.toRegular
  rcases pumpSteps_cases h with ⟨error, -, rfl⟩ |
    ⟨hfault, ⟨-, rfl⟩ | ⟨hready, found, t, hread, hfound⟩⟩
  · exact pacesTo_failPipe hr id pipe error
  · exact .refl s
  have hadmits : s.AdmitsWrite mark pipe.destination :=
    hr.admits_of_ready (Registry.destinationFault?_eq_none_iff.mp hfault) hready
  have hwider : s.Steady mark (insert pipe.destination spared) :=
    { hsteady with
      unfed := by
        rintro w (rfl | hw)
        · exact hu
        · exact hsteady.unfed w hw }
  have hreads : s.PacesTo mark (insert pipe.destination spared) t := by
    rcases readByPipe_cases hread with hread | ⟨rfl, -⟩
    · exact ih.readUnchecked hwider hread
    · exact .refl _
  have hmoved : s.PacesTo mark spared t := hreads.mono (Set.subset_insert _ _)
  have hregular := (hmoved.steady hsteady).toRegular
  -- whatever a pipe ends with, only its own locks go
  have hends : ∀ {u : Session H E} {state : PipeState}, s.PacesTo mark spared u → state ≠ .running →
      s.PacesTo mark spared (pipeFinished id state u) := fun hpaced hstopped =>
    hpaced.trans (pacesTo_pipeFinished (hpaced.passes.regular hr) id hstopped)
  have hwrites : ∀ {data outcome u}, exec (write pipe.destination data (some pipe.writer)) t =
      (outcome, u) → s.PacesTo mark spared u := by
    intro data outcome u hwrite
    have hpaces : t.PacesTo mark spared
        (exec (write pipe.destination data (some pipe.writer)) t).2 :=
      pacesTo_write hregular hfree (hreads.passes.admits hr (Set.mem_insert _ _) hadmits)
    rw [hwrite] at hpaces
    exact hmoved.trans hpaces
  cases hfound with
  | starved => exact hmoved
  | failed error => exact hends (hmoved.trans (pacesTo_abortDestination hregular pipe)) (by simp)
  | drained =>
    exact hends (hmoved.trans (pacesTo_closeDestination hregular pipe))
      (changesWithin_closeDestination pipe t).2
  | refused data error u hwrite =>
    have hwritten := hwrites hwrite
    exact hends (hwritten.trans (pacesTo_cancelSource (hwritten.passes.regular hr) pipe)) (by simp)
  | carried data u hwrite hrest =>
    have hwritten := hwrites hwrite
    exact hwritten.trans (ih.pumpSteps (hwritten.steady hsteady) (hwritten.unfed _ hu) hfree hrest)

end FlowPaces

/-- By induction on the fuel. -/
theorem flowPaces (mark : UInt64) (fuel : Nat) : FlowPaces H E mark fuel := by
  induction fuel with
  | zero => exact .zero
  | succ fuel ih =>
    exact ⟨ih.readUnchecked_succ, ih.pullIfNeeded_succ, ih.pull_succ, ih.pumpPipe_succ,
      ih.pumpSteps_succ⟩

/-! ### Operations -/

section Operations

variable {fuel : Nat} (hs : s.Steady mark spared)
include hs

theorem pacesTo_read {id : ReadableId} {token : Option ReaderToken}
    {r : Except StreamError ReadOutcome × Session H E}
    (h : attempt (read fuel id token) s = some r) : s.PacesTo mark spared r.2 := by
  simp only [read, attempt_bind, attempt_finite, exec_onStreams, Registry.exec_checkReader,
    Option.bind_some] at h
  split at h
  · exact (flowPaces mark fuel).readUnchecked hs h
  · simp only [Option.some.injEq] at h
    exact h ▸ .refl s

theorem pacesTo_pumpPipe {id : PipeId} {r : Nat × Session H E}
    (h : EdgeStreams.drive (pumpPipe fuel id) s = some r) : s.PacesTo mark spared r.2 :=
  (flowPaces mark fuel).pumpPipe hs h

/-- By induction on the pipes. -/
theorem pacesTo_pumpEach {pipes : List PipeId} {r : Nat × Session H E}
    (h : EdgeStreams.drive (pumpEach fuel pipes) s = some r) : s.PacesTo mark spared r.2 := by
  induction pipes generalizing s r with
  | nil =>
    simp only [drive_pumpEach_nil, Option.some.injEq] at h
    exact h ▸ .refl s
  | cons id rest ih =>
    rw [drive_pumpEach_cons] at h
    obtain ⟨first, hfirst, h⟩ := Option.bind_eq_some_iff.mp h
    obtain ⟨others, hothers, rfl⟩ := Option.map_eq_some_iff.mp h
    have hpumps := pacesTo_pumpPipe hs hfirst
    exact hpumps.trans (ih (hpumps.steady hs) (r := others) hothers)

/-- By induction on the rounds. -/
theorem pacesTo_pump {r : Nat × Session H E} (h : EdgeStreams.drive (pump fuel) s = some r) :
    s.PacesTo mark spared r.2 := by
  induction fuel generalizing s r with
  | zero => cases h
  | succ fuel ih =>
    rw [drive_pump] at h
    obtain ⟨round, hround, h⟩ := Option.bind_eq_some_iff.mp h
    have hpumps := pacesTo_pumpEach hs (r := round) hround
    split at h
    · simp only [Option.some.injEq] at h
      exact h ▸ hpumps
    · obtain ⟨others, hothers, rfl⟩ := Option.map_eq_some_iff.mp h
      exact hpumps.trans (ih (hpumps.steady hs) (r := others) hothers)

omit hs in
theorem pacesTo_abortCorrelated (hr : s.Regular mark) (source : ReadableId)
    (reason : Option String) :
    s.PacesTo mark spared (exec (abortCorrelated source reason) s).2 := by
  simp only [abortCorrelated, exec_bind, exec_get]
  cases s.streams.pipeFrom? source with
  | some found =>
    obtain ⟨id, pipe⟩ := found
    simp only [exec_bind, exec_caught, exec_modify]
    have haborts : s.PacesTo mark spared
        (exec (abort pipe.destination reason (some pipe.writer)) s).2 :=
      pacesTo_abort hr _ _ _
    have hcancels := haborts.trans (pacesTo_cancel (haborts.passes.regular hr) source reason
      (some pipe.reader))
    exact hcancels.trans (pacesTo_pipeFinished (hcancels.passes.regular hr) id (by simp))
  | none =>
    -- an unlocked stream is cancelled once what it is piped to has been aborted
    have hcancel : ∀ {t : Session H E}, t.Regular mark → t.PacesTo mark spared (exec (do
        if (← get).streams.isLocked source then pure ()
        else cancelUnchecked source reason : Action H E StreamError Unit) t).2 := by
      intro t hr
      simp only [exec_bind, exec_get]
      split
      · exact .refl t
      · exact pacesTo_cancelUnchecked hr source reason
    dsimp only
    rw [exec_bind, exec_get]
    dsimp only
    cases s.streams.pipedTo? source with
    | none => exact hcancel hr
    | some destination =>
      have haborts : s.PacesTo mark spared (exec (abortUnchecked destination reason) s).2 :=
        pacesTo_abortUnchecked hr destination reason
      dsimp only
      rw [exec_bind]
      generalize exec (abortUnchecked destination reason) s = aborted at haborts
      obtain ⟨outcome, t⟩ := aborted
      cases outcome with
      | error error => exact haborts
      | ok => exact haborts.trans (hcancel (haborts.passes.regular hr))

end Operations

end Session

end EdgeStreams
