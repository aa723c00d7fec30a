import EdgeStreams.Proofs.Piping.Endings

/-!
# What pipes do, one act after another

Reading, pulling and driving pipes call each other to any depth. All that they come to is a sequence
of acts, and each of them is done for a reason: a pipe ends its destination because its source has
ended, fails it with the error that its source has failed with, hands on a chunk that is taken, or
gives up on a destination that takes no more.

## Main definitions

- `Session.Quiet`: streams are read or pulled, and pipes start or stop being driven
- `Session.GivesUp`: a pipe fails because of its destination
- `Session.ActOf`: what a pipe does at once, with its reason
- `Session.Act`: one act
- `Session.Acts`: one act after another; pipes that others are driving are left alone

## Main statements

- `Session.Act.wired`: what holds while pipes are driven holds after each act
- `Session.flowActs`: the functions that make data flow
- `Session.acts_pump`: all pipes are driven as far as they go

## Design notes

The pipe of an act runs when the act begins. A pipe that is being driven is left alone by all
others, so whoever drives it finds it running after each read.
-/

namespace EdgeStreams

variable {H E : Type}

/-- A reader leaves an open stream open. -/
theorem ReadableController.IsOpen.takeReady_snd {controller : ReadableController}
    (h : controller.IsOpen) : controller.takeReady.2.IsOpen := by
  obtain ⟨hstate, hclose⟩ := h
  simp only [ReadableController.takeReady, hstate]
  cases hq : controller.queue with
  | nil => simpa [ReadableController.dequeue, hq] using ⟨hstate, hclose⟩
  | cons chunk rest =>
    exact ⟨by simp [ReadableController.dequeue, hq, hclose, hstate], by
      simp [ReadableController.dequeue, hq, hclose]⟩

/-- What a reader finds at the end of a stream, or in a failed one. -/
theorem ReadableController.takeReady_over (controller : ReadableController) :
    (controller.takeReady.1 = .ok (some .done) → controller.takeReady.2.state = .closed) ∧
      ∀ error, controller.takeReady.1 = .error error →
        controller.takeReady.2.state = .errored error := by
  cases hstate : controller.state with
  | closed =>
    exact ⟨fun _ => by simp [takeReady, hstate], fun error h => by simp [takeReady, hstate] at h⟩
  | errored failure =>
    refine ⟨fun h => by simp [takeReady, hstate] at h, fun error h => ?_⟩
    simp only [takeReady, hstate, Except.error.injEq] at h ⊢
    exact congrArg _ h
  | readable =>
    cases hq : controller.queue <;>
      exact ⟨fun h => by simp [takeReady, hstate, dequeue, hq] at h,
        fun error h => by simp [takeReady, hstate, dequeue, hq] at h⟩

/-- A pipe that ends leaves the others alone. -/
theorem Registry.pipe?_finishPipe_of_ne {streams : Registry E} {id other : PipeId}
    {state : PipeState} (h : other ≠ id) :
    (streams.finishPipe id state).pipe? other = streams.pipe? other := by
  by_cases hrun : ∃ pipe, streams.pipe? id = some pipe ∧ pipe.isRunning
  · obtain ⟨pipe, hp, hr⟩ := hrun
    rw [pipe?_finishPipe state hp hr, if_neg h]
  · rw [finishPipe_of_not_running state fun pipe hp hr => hrun ⟨pipe, hp, hr⟩]

namespace Session

variable [Host H] {s t u : Session H E} {mark : UInt64}

/-- Deeds and moves keep what holds while pipes are driven. -/
theorem Wired.course {made : List (WritableId × Bytes)} (hw : s.Wired mark)
    (hcourse : Course s made t) (hmoves : MovesTo s t) : t.Wired mark := by
  obtain ⟨held, spent, horderly⟩ := hw.orderly
  refine ⟨hcourse.composed hw.composed, hcourse.couples hw.composed hw.couples,
    ⟨held, spent, hmoves.orderly horderly⟩, fun hs' => ?_⟩
  obtain ⟨source, hs, -⟩ := hcourse.stayed hw.composed hs'
  obtain ⟨first, hinOrder⟩ := hw.passedInOrder hs
  exact ⟨first, hcourse.passedInOrder hw.composed hinOrder⟩

/-! ### One act -/

/-- Streams are read or pulled, and pipes start or stop being driven. No sink changes, and a
transform stream that takes chunks still does. -/
structure Quiet (s t : Session H E) : Prop where
  course : ∃ made, Course s made t
  movesTo : MovesTo s t
  sink : ∀ id, t.streams.sink? id = s.streams.sink? id
  opens : ∀ {id source}, s.streams.source? id = some source → source.IsTransform →
    source.controller.IsOpen → ∃ source', t.streams.source? id = some source' ∧
      source'.controller.IsOpen
  pipe : ∀ {name pipe}, s.streams.pipe? name = some pipe →
    ∃ pumping, t.streams.pipe? name = some { pipe with pumping }

/-- A reader of the source comes to the error. -/
def Fails (source : Source E) (error : StreamError) : Prop :=
  source.controller.state = .errored error ∨ source.start = .rejected error

/-- A pipe fails because of its destination, and cancels its source: the destination does not take a
chunk, or takes no more. -/
inductive GivesUp (name : PipeId) (pipe : Pipe) (s : Session H E) : Session H E → Prop
  | refused {chunk : Bytes} {error : StreamError} :
    (exec (write pipe.destination chunk (some pipe.writer)) s).1 = .error error →
      GivesUp name pipe s (pipeFinished name (.failed error)
        (cancelSource pipe (exec (write pipe.destination chunk (some pipe.writer)) s).2).2)
  | faulted {error : StreamError} : ¬ s.streams.Accepts pipe.destination →
    GivesUp name pipe s (pipeFinished name (.failed error) (cancelSource pipe s).2)

/-- What a pipe does at once, with its reason. -/
inductive ActOf (name : PipeId) (pipe : Pipe) (s : Session H E) : Session H E → Prop
  /-- The source has ended, and the pipe with it. -/
  | ended {source : Source E} : s.streams.source? pipe.source = some source →
    source.controller.state = .closed → ActOf name pipe s
      (pipeFinished name (closeDestination pipe s).1 (closeDestination pipe s).2)
  /-- The source has failed, and the pipe with it. -/
  | failed {source : Source E} {error : StreamError} : s.streams.source? pipe.source = some source →
    Fails source error → ActOf name pipe s
      (pipeFinished name (.failed error) (abortDestination pipe s).2)
  /-- A chunk is handed on. -/
  | wrote {chunk : Bytes} : (exec (write pipe.destination chunk (some pipe.writer)) s).1 = .ok () →
    ActOf name pipe s (exec (write pipe.destination chunk (some pipe.writer)) s).2
  | gaveUp {t : Session H E} : GivesUp name pipe s t → ActOf name pipe s t

/-- One act. Every pipe that acts is running. -/
inductive Act (s : Session H E) : Session H E → Prop
  | quiet {t : Session H E} : Quiet s t → Act s t
  | pipe {name : PipeId} {pipe : Pipe} {t : Session H E} : s.streams.RunsAs name pipe →
    ActOf name pipe s t → Act s t

/-- A pipe works on its destination, and then on its source if it gives up, and then it may come to
its end. -/
theorem ActOf.parts {name : PipeId} {pipe : Pipe} (h : ActOf name pipe s t)
    (hc : s.streams.Composed) : ∃ during last, s.FlowsTo during ∧
    ChangesWithin (s.streams.sinkReach pipe.destination) s during ∧
      (last = during ∨ GivesUp name pipe s t ∧ during.FlowsTo last ∧
        ChangesWithin (during.streams.sourceReach pipe.source) during last) ∧
      (t = last ∨ ∃ state, state ≠ .running ∧ t = pipeFinished name state last) := by
  cases h with
  | ended =>
    obtain ⟨htouches, hstopped⟩ := changesWithin_closeDestination pipe s
    exact ⟨_, _, flowsTo_closeDestination hc pipe, htouches, .inl rfl, .inr ⟨_, hstopped, rfl⟩⟩
  | failed =>
    exact ⟨_, _, flowsTo_abortDestination hc pipe, changesWithin_abortDestination pipe s, .inl rfl,
      .inr ⟨_, by simp, rfl⟩⟩
  | wrote => exact ⟨_, _, flowsTo_write hc _ _ _, changesWithin_write s _ _ _, .inl rfl, .inl rfl⟩
  | gaveUp hgives =>
    cases id hgives with
    | refused =>
      have hwrites := flowsTo_write hc
      exact ⟨_, _, hwrites _ _ _, changesWithin_write s _ _ _,
        .inr ⟨hgives, flowsTo_cancelSource ((hwrites _ _ _).composed hc) pipe,
        changesWithin_cancelSource pipe _⟩, .inr ⟨_, by simp, rfl⟩⟩
    | faulted =>
      exact ⟨s, _, .refl s, .refl,
        .inr ⟨hgives, flowsTo_cancelSource hc pipe, changesWithin_cancelSource pipe s⟩,
          .inr ⟨_, by simp, rfl⟩⟩

namespace Act

theorem course (h : Act s t) (hc : s.streams.Composed) : ∃ made, Course s made t := by
  cases h with
  | quiet hquiet => exact hquiet.course
  | pipe _ hact =>
    obtain ⟨during, last, hflows, -, hlast, hend⟩ := hact.parts hc
    have hdone : s.FlowsTo last := by
      rcases hlast with rfl | ⟨-, hcancels, -⟩
      · exact hflows
      · exact hflows.trans hcancels
    rcases hend with rfl | ⟨state, -, rfl⟩
    · exact hdone.course
    · exact (hdone.trans (flowsTo_pipeFinished _ _)).course

theorem movesTo (h : Act s t) (hc : s.streams.Composed) : MovesTo s t := by
  cases h with
  | quiet hquiet => exact hquiet.movesTo
  | pipe _ hact =>
    obtain ⟨during, last, -, htouches, hlast, hend⟩ := hact.parts hc
    have hdone : MovesTo s last := by
      rcases hlast with rfl | ⟨-, -, hcancels⟩
      · exact .of_changesWithin htouches
      · exact (MovesTo.of_changesWithin htouches).touch hcancels
    rcases hend with rfl | ⟨state, hstopped, rfl⟩
    · exact hdone
    · exact hdone.finish _ hstopped

theorem wired (h : Act s t) (hw : s.Wired mark) : t.Wired mark := by
  obtain ⟨made, hcourse⟩ := h.course hw.composed
  exact hw.course hcourse (h.movesTo hw.composed)

end Act

/-! ### One act after another -/

/-- One act after another. Pipes that are being driven are left alone, but for those of some
names. -/
structure Acts (but : Set PipeId) (s t : Session H E) : Prop where
  acts : Relation.ReflTransGen Act s t
  spares : ∀ {name pipe}, name ∉ but → s.streams.pipe? name = some pipe → pipe.pumping = true →
    t.streams.pipe? name = some pipe

namespace Acts

variable {but : Set PipeId}

theorem refl (but : Set PipeId) (s : Session H E) : Acts but s s := ⟨.refl, fun _ hp _ => hp⟩

theorem trans (h : Acts but s t) (h' : Acts but t u) : Acts but s u :=
  ⟨h.acts.trans h'.acts, fun hname hp hd => h'.spares hname (h.spares hname hp hd) hd⟩

theorem widen (h : Acts ∅ s t) (but : Set PipeId) : Acts but s t :=
  ⟨h.acts, fun _ => h.spares (Set.notMem_empty _)⟩

/-- An act that leaves the pipes alone. -/
theorem of_pipes (h : Act s t) (hp : t.streams.pipes = s.streams.pipes) : Acts but s t :=
  ⟨.single h, fun _ hfound _ => (Registry.pipe?_congr hp _).trans hfound⟩

/-- By induction on the acts. -/
theorem wired (h : Acts but s t) (hw : s.Wired mark) : t.Wired mark := by
  obtain ⟨hacts, -⟩ := h
  induction hacts with
  | refl => exact hw
  | tail _ hact ih => exact hact.wired ih

/-- What is kept by one act is kept by one after another. By induction on the acts. -/
theorem keeps {P : Session H E → Prop} (h : Acts but s t) (hw : s.Wired mark)
    (hact : ∀ {u v : Session H E}, u.Wired mark → Act u v → P u → P v) (hs : P s) : P t := by
  obtain ⟨hacts, -⟩ := h
  suffices hkept : P t ∧ t.Wired mark from hkept.1
  induction hacts with
  | refl => exact ⟨hs, hw⟩
  | tail _ hnext ih => exact ⟨hact ih.2 hnext ih.1, hnext.wired ih.2⟩

theorem course (h : Acts but s t) (hw : s.Wired mark) : ∃ made, Course s made t := by
  refine h.keeps (P := fun u => ∃ made, Course s made u) hw (fun {u v} hwired hact hbefore => ?_)
    ⟨[], .refl⟩
  obtain ⟨made, hcourse⟩ := hbefore
  obtain ⟨more, hnext⟩ := hact.course hwired.composed
  exact ⟨more ++ made, hcourse.trans hnext⟩

theorem movesTo (h : Acts but s t) (hw : s.Wired mark) : MovesTo s t :=
  h.keeps hw (fun hwired hact hmoves => hmoves.trans (hact.movesTo hwired.composed)) .refl

/-- A pipe comes to its end. -/
theorem finish {name : PipeId} {state : PipeState} (h : Act s (pipeFinished name state t))
    (hp : t.streams.pipes = s.streams.pipes) : Acts {name} s (pipeFinished name state t) := by
  refine ⟨.single h, fun {other found} hother hfound _ => ?_⟩
  rw [pipeFinished, streams_mapStreams, Registry.pipe?_finishPipe_of_ne hother,
    Registry.pipe?_congr hp, hfound]

/-- A pipe that was not being driven need not be named. -/
theorem narrow {name : PipeId} {pipe : Pipe} (h : Acts {name} s t)
    (hp : s.streams.pipe? name = some pipe) (hparked : pipe.pumping = false) : Acts ∅ s t := by
  refine ⟨h.acts, fun {other found} _ hfound hdriven => ?_⟩
  by_cases he : other = name
  · subst he
    cases hp.symm.trans hfound
    rw [hparked] at hdriven
    cases hdriven
  · exact h.spares he hfound hdriven

/-- Streams are read or pulled, and the pipes are as they were. -/
theorem quiet (hcourse : ∃ made, Course s made t) (hmoves : MovesTo s t)
    (hk : ∀ id, t.streams.sink? id = s.streams.sink? id)
    (hopens : ∀ {id source}, s.streams.source? id = some source → source.IsTransform →
      source.controller.IsOpen → ∃ source', t.streams.source? id = some source' ∧
        source'.controller.IsOpen)
    (hp : t.streams.pipes = s.streams.pipes) : Acts but s t :=
  of_pipes (.quiet ⟨hcourse, hmoves, hk, hopens, fun hfound =>
    ⟨_, (Registry.pipe?_congr hp _).trans hfound⟩⟩) hp

/-- A pipe starts or stops being driven that has not been driven by others. -/
theorem drive {name : PipeId} {pipe : Pipe} (pumping : Bool) (hp : s.streams.pipe? name = some pipe)
    (hbut : name ∈ but ∨ pipe.pumping = false) :
    Acts but s (mapStreams (fun streams => streams.setPipe name { pipe with pumping }) s) := by
  refine ⟨.single (.quiet ⟨⟨_, .step .refl (.drive pumping hp)⟩, .drive pumping .refl hp,
    fun _ => rfl, fun {_ source} hs _ hopen => ⟨source, hs, hopen⟩,
    fun {other found} hfound => ?_⟩), fun {other found} hother hfound hdriven => ?_⟩
  · rw [streams_mapStreams, Registry.pipe?_setPipe]
    split
    · next he =>
      subst he
      cases hp.symm.trans hfound
      exact ⟨pumping, by rw [hp]; rfl⟩
    · exact ⟨found.pumping, hfound⟩
  · have hne : other ≠ name := by
      rintro rfl
      cases hp.symm.trans hfound
      rcases hbut with hm | hparked
      · exact hother hm
      · rw [hparked] at hdriven
        cases hdriven
    rwa [streams_mapStreams, Registry.pipe?_setPipe, if_neg hne]

end Acts

/-! ### What a reader comes to -/

/-- The end of a reader's stream, or its failure. -/
def Ends (id : ReadableId) (r : Except StreamError ReadOutcome × Session H E) : Prop :=
  (r.1 = .ok .done → ∃ source, r.2.streams.source? id = some source ∧
      source.controller.state = .closed) ∧
    ∀ error, r.1 = .error error → ∃ source, r.2.streams.source? id = some source ∧
      Fails source error

omit [Host H] in
theorem ends_takeReady {id : ReadableId} {source : Source E}
    (hs : s.streams.source? id = some source) :
    Ends id ((exec (takeReady id) s).1.map orPending, (exec (takeReady id) s).2) := by
  obtain ⟨hdone, herror⟩ := source.controller.takeReady_over
  have hs' := source?_takeReady hs
  rw [exec_takeReady hs] at hs' ⊢
  dsimp only at hs' ⊢
  generalize source.controller.takeReady = taken at hdone herror hs' ⊢
  obtain ⟨found, controller⟩ := taken
  refine ⟨fun h => ⟨_, hs', hdone ?_⟩, fun error h => ⟨_, hs', .inl (herror error ?_)⟩⟩
  · cases found with
    | error error => cases h
    | ok found =>
      rcases found with _ | ⟨⟨⟩⟩ <;> simp_all [Except.map, orPending]
  · cases found with
    | error found => simpa [Except.map] using h
    | ok found => cases h

/-- A reader finds an end only where the stream has ended, and an error only where it has failed. -/
theorem ends_readUnchecked {fuel : Nat} {id : ReadableId} {source : Source E}
    {r : Except StreamError ReadOutcome × Session H E} (hw : s.Wired mark)
    (hs : s.streams.source? id = some source)
    (h : attempt (readUnchecked fuel id) s = some r) : Ends id r := by
  cases fuel with
  | zero => cases h
  | succ fuel =>
    obtain ⟨made, hcourse⟩ := ((flowRuns mark (fuel + 1)).readUnchecked hw h).course
    rcases readUnchecked_cases hs h with ⟨-, rfl⟩ | ⟨error, hstart, rfl⟩ |
      ⟨-, found, t, htake, hfound⟩
    · exact ⟨nofun, nofun⟩
    · refine ⟨nofun, fun error' h => ⟨source, hs, .inr ?_⟩⟩
      cases h
      exact hstart
    have hends := ends_takeReady (source?_disturb hs)
    simp only [htake] at hends
    cases hfound with
    | settled => exact hends
    | full => exact ⟨nofun, nofun⟩
    | empty u hpull =>
      obtain ⟨last, hlast, -⟩ := hcourse.stays hw.composed hs
      cases hp : u.streams.source? id with
      | some last => exact ends_takeReady hp
      | none =>
        -- the stream is there to the end
        have hgone : (exec (takeReady id) u).2 = u := by simp [takeReady, exec_bind, hp]
        rw [hgone, hp] at hlast
        cases hlast

/-! ### Quiet parts -/

namespace Acts

variable {but : Set PipeId} {id : ReadableId} {source source' : Source E}

/-- Work on one source. The readable half of a transform stream stays open. -/
theorem revised {calls : List StreamEvent} {host : H} {env : E}
    (hs : s.streams.source? id = some source) (hcourse : ∃ made, Course s made t)
    (hmoves : MovesTo s t) (h : Revised id source' calls host env s t)
    (hopens : source.IsTransform → source.controller.IsOpen → source'.controller.IsOpen) :
    Acts but s t := by
  obtain ⟨new, -, rfl⟩ := h
  refine .quiet hcourse hmoves (fun _ => rfl) (fun {other found} hfound ht hopen => ?_) rfl
  rw [streams_setSource, Registry.source?_setSource]
  split
  · next he =>
    subst he
    cases hs.symm.trans hfound
    exact ⟨source', by rw [hs]; rfl, hopens ht hopen⟩
  · exact ⟨found, hfound, hopen⟩

/-- A read of a host body or of a guest. -/
theorem read {fuel : Nat} {r : Except StreamError ReadOutcome × Session H E}
    (hc : s.streams.Composed) (hs : s.streams.source? id = some source) (hn : ¬ source.IsTransform)
    (h : attempt (readUnchecked fuel id) s = some r) : Acts but s r.2 := by
  have hp := hc.native hs hn
  have hcourse := ((flowDeeds fuel).readUnchecked hc h).course
  have hmoves := (flowMoves fuel).readUnchecked h
  rcases revised_readUnchecked hs hn hp (hc.notAsked hs hp) h with
    ⟨_, -, hrevised⟩ | ⟨_, _, _, _, -, hrevised, -⟩
  · exact revised hs hcourse hmoves hrevised fun ht => absurd ht hn
  · exact revised hs hcourse hmoves hrevised fun ht => absurd ht hn

variable (hs : s.streams.source? id = some source) (ht : source.IsTransform)
include hs ht

theorem disturb : Acts but s (disturb id source s) :=
  revised hs ⟨_, .step .refl (.disturb hs ht)⟩ (MovesTo.refl.disturb hs)
    ((Revised.refl hs).setSource _) fun _ h => h

variable (hd : s.streams.isDisturbed id = true)
include hd

theorem takeReady : Acts but s (exec (takeReady id) s).2 :=
  revised hs ⟨_, .step .refl (.take hs ht)⟩ (movesTo_takeReady hd)
    ((Revised.refl hs).takeReady hs) fun _ h => h.takeReady_snd

theorem ask (hp : source.pulling = true) :
    Acts but s (setSource id { source with pullAgain := true } s) :=
  revised hs ⟨_, .step .refl (.ask hs ht hp)⟩
    (MovesTo.refl.setSource hd hs ⟨rfl, rfl, rfl, rfl, rfl, rfl, fun h => h, fun h => h⟩)
    ((Revised.refl hs).setSource _) fun _ h => h

theorem beginPull {waits : Bool} (hwants : source.wantsPull waits = true)
    (hp : source.pulling = false) :
    Acts but s (note (.pullBegan id) (setSource id { source with pulling := true } s)) := by
  have hmoves : MovesTo s (setSource id { source with pulling := true } s) :=
    MovesTo.refl.setSource hd hs ⟨rfl, rfl, rfl, rfl, rfl, rfl, fun h => h, fun h => h⟩
  exact revised hs ⟨_, .step .refl (.beginPull hs ht hwants hp)⟩ (hmoves.note _)
    (((Revised.refl hs).setSource _).call rfl) fun _ h => h

theorem endPull (hp : source.pulling = true) :
    Acts but s (setSource id { source with pulling := false, pullAgain := false }
      (note (.pullEnded id (.ok ())) s)) :=
  revised hs ⟨_, .step .refl (.endPull hs ht hp)⟩
    ((MovesTo.refl.note _).setSource hd hs ⟨rfl, rfl, rfl, rfl, rfl, rfl, fun h => h, fun h => h⟩)
    (((Revised.refl hs).call rfl).setSource _) fun _ h => h

end Acts

/-! ### The functions that call each other -/

/-- With some fuel, whatever there is an outcome of comes to acts. Whoever drives a pipe may change
it and the pipes that are not being driven, and no others. -/
structure FlowActs (H E : Type) [Host H] (mark : UInt64) (fuel : Nat) : Prop where
  readUnchecked {s : Session H E} {id : ReadableId}
    {r : Except StreamError ReadOutcome × Session H E} : s.Wired mark →
    attempt (Session.readUnchecked fuel id) s = some r → Acts ∅ s r.2
  pullIfNeeded {s : Session H E} {id : ReadableId} {source : Source E} {readerWaits : Bool}
    {r : Unit × Session H E} : s.Wired mark → s.streams.source? id = some source →
      source.IsTransform → s.streams.isDisturbed id = true →
        EdgeStreams.drive (Session.pullIfNeeded fuel id readerWaits) s = some r → Acts ∅ s r.2
  pull {s : Session H E} {id : ReadableId} {source : Source E}
    {r : Except StreamError Unit × Session H E} : s.Wired mark →
      s.streams.source? id = some source → source.IsTransform →
        attempt (Session.pull fuel id) s = some r → Acts ∅ s r.2
  pumpPipe {s : Session H E} {id : PipeId} {r : Nat × Session H E} : s.Wired mark →
    EdgeStreams.drive (Session.pumpPipe fuel id) s = some r → Acts ∅ s r.2
  pumpSteps {s : Session H E} {id : PipeId} {pipe : Pipe} {steps : Nat} {r : Nat × Session H E} :
    s.Wired mark → s.streams.pipe? id = some { pipe with state := .running, pumping := true } →
      EdgeStreams.drive (Session.pumpSteps fuel id pipe steps) s = some r → Acts {id} s r.2

namespace FlowActs

theorem zero : FlowActs H E mark 0 where
  readUnchecked _ h := by cases h
  pullIfNeeded _ _ _ _ h := by cases h
  pull _ _ _ h := by cases h
  pumpPipe _ h := by cases h
  pumpSteps _ _ h := by cases h

variable {fuel : Nat} (ih : FlowActs H E mark fuel)
include ih

theorem readUnchecked_succ {id : ReadableId} {r : Except StreamError ReadOutcome × Session H E}
    (hw : s.Wired mark) (h : attempt (Session.readUnchecked (fuel + 1) id) s = some r) :
    Acts ∅ s r.2 := by
  have hc := hw.composed
  by_cases hnative : ∀ source, s.streams.source? id = some source → ¬ source.IsTransform
  · cases hs : s.streams.source? id with
    | none => exact readUnchecked_of_gone hs h ▸ .refl ∅ s
    | some source => exact .read hc hs (hnative source hs) h
  · simp only [not_forall, not_not] at hnative
    obtain ⟨source, hs, ht⟩ := hnative
    have hmarks : Acts ∅ s (Session.disturb id source s) := .disturb hs ht
    have hd := isDisturbed_disturb hs
    have hwired := hmarks.wired hw
    obtain ⟨marked, hs', ht'⟩ := (flowsTo_disturb hs ht).isTransform hc hs ht
    have htake : ∀ t, Acts ∅ (Session.disturb id source s) t →
        Acts ∅ (Session.disturb id source s) (exec (Session.takeReady id) t).2 := fun t hacts => by
      obtain ⟨made, hcourse⟩ := hacts.course hwired
      obtain ⟨last, hlast, htransform⟩ := hcourse.isTransform hwired.composed hs' ht'
      exact hacts.trans (.takeReady hlast htransform ((hacts.movesTo hwired).disturbed hd))
    refine (readUnchecked_keeps (Acts ∅ (Session.disturb id source s)) hs h (.refl ∅ _) htake
      fun waits t _ hpull => ?_).elim (fun heq => heq ▸ .refl ∅ s) hmarks.trans
    have htaken := htake _ (.refl ∅ _)
    obtain ⟨made, hcourse⟩ := htaken.course hwired
    obtain ⟨last, hlast, htransform⟩ := hcourse.isTransform hwired.composed hs' ht'
    exact htaken.trans (ih.pullIfNeeded (htaken.wired hwired) hlast htransform
      ((htaken.movesTo hwired).disturbed hd) hpull)

theorem pullIfNeeded_succ {id : ReadableId} {source : Source E} {readerWaits : Bool}
    {r : Unit × Session H E} (hw : s.Wired mark) (hs : s.streams.source? id = some source)
    (ht : source.IsTransform) (hd : s.streams.isDisturbed id = true)
    (h : EdgeStreams.drive (Session.pullIfNeeded (fuel + 1) id readerWaits) s = some r) :
    Acts ∅ s r.2 := by
  rcases (flowDeeds fuel).pullIfNeeded_cases hw.composed hs ht h with
    ⟨-, rfl⟩ | ⟨hwants, ⟨hp, rfl⟩ | ⟨hp, t, last, hpull, hnext⟩⟩
  · exact .refl ∅ s
  · exact .ask hs ht hd hp
  · have hbegan : Acts ∅ s _ := .beginPull hs ht hd hwants hp
    have hdbegan : (Session.note (.pullBegan id)
        (setSource id { source with pulling := true } s)).streams.isDisturbed id = true :=
      (FlowRuns.runsTo_beginPull hs ht hd hwants hp).movesTo.disturbed hd
    have hpulled := hbegan.trans (ih.pull (hbegan.wired hw) hpull.during ht hpull.pull)
    have hd' := ((flowMoves fuel).pull hdbegan hpull.pull).disturbed hdbegan
    have hdone := hpulled.trans (.endPull hpull.found hpull.isTransform hd' hpull.pulling)
    rcases hnext with rfl | hagain
    · exact hdone
    · have hdlast :=
        (FlowRuns.runsTo_endPull hpull.found hpull.isTransform hd' hpull.pulling).movesTo.disturbed
          hd'
      exact hdone.trans
        (ih.pullIfNeeded (hdone.wired hw) hpull.ended hpull.isTransform hdlast hagain)

omit ih in
theorem acts_request {but : Set PipeId} {id : BridgeId} {bridge : Bridge E}
    (hb : s.streams.bridge? id = some bridge) :
    Acts but s (setBridge id { bridge with pullRequested := true } s) :=
  .quiet (FlowDeeds.flowsTo_request hb).course (FlowRuns.runsTo_request hb).movesTo (fun _ => rfl)
    (fun hs _ hopen => ⟨_, hs, hopen⟩) rfl

theorem pull_succ {id : ReadableId} {source : Source E} {r : Except StreamError Unit × Session H E}
    (hw : s.Wired mark) (hs : s.streams.source? id = some source) (ht : source.IsTransform)
    (h : attempt (Session.pull (fuel + 1) id) s = some r) : Acts ∅ s r.2 := by
  obtain ⟨name, hback⟩ := ht
  obtain ⟨bridge, hb, -⟩ := hw.composed.readable hs hback
  have hasked : Acts ∅ s _ := acts_request hb
  rcases pull_cases hs hback hb h with ⟨-, rfl⟩ | ⟨pipe, steps, t, -, hpump, rfl⟩
  · exact hasked
  · exact hasked.trans (ih.pumpPipe (hasked.wired hw) hpump)

theorem pumpPipe_succ {id : PipeId} {r : Nat × Session H E} (hw : s.Wired mark)
    (h : EdgeStreams.drive (Session.pumpPipe (fuel + 1) id) s = some r) : Acts ∅ s r.2 := by
  rcases pumpPipe_cases h with ⟨-, rfl⟩ | ⟨pipe, steps, t, hp, hr, hparked, hsteps, rfl⟩
  · exact .refl ∅ s
  · have hdrives : Acts {id} s _ := .drive true hp (.inr hparked)
    have hduring : (mapStreams (fun streams => streams.setPipe id { pipe with pumping := true })
        s).streams.pipe? id = some { pipe with state := .running, pumping := true } := by
      rw [← Registry.isRunning_iff.mp hr]
      simp [Registry.pipe?_setPipe, hp]
    have hpumped := hdrives.trans (ih.pumpSteps (hdrives.wired hw) hduring hsteps)
    refine Acts.narrow ?_ hp hparked
    simp only [mapStreams, parked]
    cases ht : t.streams.pipe? id with
    | none => exact hpumped
    | some pipe' => exact hpumped.trans (.drive false ht (.inl rfl))

theorem pumpSteps_succ {id : PipeId} {pipe : Pipe} {steps : Nat} {r : Nat × Session H E}
    (hw : s.Wired mark)
    (hp : s.streams.pipe? id = some { pipe with state := .running, pumping := true })
    (h : EdgeStreams.drive (Session.pumpSteps (fuel + 1) id pipe steps) s = some r) :
    Acts {id} s r.2 := by
  have hc := hw.composed
  obtain ⟨held, spent, horderly⟩ := hw.orderly
  obtain ⟨source, hs, hlock, -⟩ := (horderly.holds id _ hp rfl).source
  obtain ⟨sink, hk, -⟩ := (horderly.holds id _ hp rfl).sink
  rcases pumpSteps_cases h with ⟨error, hfault, rfl⟩ | ⟨-, ⟨-, rfl⟩ | ⟨-, found, t, hread, hfound⟩⟩
  · have hdead : ¬ s.streams.Accepts pipe.destination := fun ha => by
      rw [Registry.destinationFault?_eq_none_iff.mpr ha] at hfault
      cases hfault
    rw [failPipe_snd (by simp [Registry.containsWritable, hk])]
    exact .finish (.pipe ⟨true, hp⟩ (.gaveUp (.faulted hdead)))
      (changesWithin_cancelSource pipe s).pipes_eq
  · exact .refl _ s
  rw [attempt_readByPipe fuel s pipe hs hlock] at hread
  -- whatever the read drives, this pipe is in use and is spared
  have hmoved := ih.readUnchecked hw hread
  have hstill := hmoved.spares (Set.notMem_empty _) hp rfl
  have hruns : t.streams.RunsAs id pipe := ⟨true, hstill⟩
  obtain ⟨hdone, hfails⟩ := ends_readUnchecked hw hs hread
  have hwide := hmoved.widen {id}
  cases hfound with
  | starved => exact hwide
  | failed error =>
    obtain ⟨last, hlast, hfailed⟩ := hfails error rfl
    exact hwide.trans
      (.finish (.pipe hruns (.failed hlast hfailed))
        (changesWithin_abortDestination pipe t).pipes_eq)
  | drained =>
    obtain ⟨last, hlast, hended⟩ := hdone rfl
    exact hwide.trans
      (.finish (.pipe hruns (.ended hlast hended))
        (changesWithin_closeDestination pipe t).1.pipes_eq)
  | refused data error u hwrite =>
    have htouches := changesWithin_write t pipe.destination data (some pipe.writer)
    have hrefuses : Act t _ := .pipe hruns (.gaveUp (.refused (congrArg Prod.fst hwrite)))
    rw [hwrite] at htouches hrefuses
    exact hwide.trans (.finish hrefuses ((changesWithin_cancelSource pipe u).pipes_eq.trans
      htouches.pipes_eq))
  | carried data u hwrite hrest =>
    have htouches := changesWithin_write t pipe.destination data (some pipe.writer)
    have hwrites : Act t _ := .pipe hruns (.wrote (congrArg Prod.fst hwrite))
    rw [hwrite] at htouches hwrites
    have hnext := hwide.trans (.of_pipes hwrites htouches.pipes_eq)
    have hpipe := (Registry.pipe?_congr htouches.pipes_eq id).trans hstill
    exact hnext.trans (ih.pumpSteps (hnext.wired hw) hpipe hrest)

end FlowActs

/-- By induction on the fuel. -/
theorem flowActs (mark : UInt64) (fuel : Nat) : FlowActs H E mark fuel := by
  induction fuel with
  | zero => exact .zero
  | succ fuel ih =>
    exact ⟨ih.readUnchecked_succ, ih.pullIfNeeded_succ, ih.pull_succ, ih.pumpPipe_succ,
      ih.pumpSteps_succ⟩

/-! ### Operations -/

section Operations

variable {fuel : Nat} (hw : s.Wired mark)
include hw

theorem acts_pumpEach {pipes : List PipeId} {r : Nat × Session H E}
    (h : EdgeStreams.drive (pumpEach fuel pipes) s = some r) : Acts ∅ s r.2 := by
  induction pipes generalizing s r with
  | nil =>
    simp only [drive_pumpEach_nil, Option.some.injEq] at h
    exact h ▸ .refl ∅ s
  | cons id rest ih =>
    rw [drive_pumpEach_cons] at h
    obtain ⟨first, hfirst, h⟩ := Option.bind_eq_some_iff.mp h
    obtain ⟨others, hothers, rfl⟩ := Option.map_eq_some_iff.mp h
    have hpumps := (flowActs mark fuel).pumpPipe hw hfirst
    exact hpumps.trans (ih (r := others) (hpumps.wired hw) hothers)

/-- By induction on the rounds. -/
theorem acts_pump {r : Nat × Session H E} (h : EdgeStreams.drive (pump fuel) s = some r) :
    Acts ∅ s r.2 := by
  induction fuel generalizing s r with
  | zero => cases h
  | succ fuel ih =>
    rw [drive_pump] at h
    obtain ⟨round, hround, h⟩ := Option.bind_eq_some_iff.mp h
    have hpumps := acts_pumpEach hw (r := round) hround
    split at h
    · simp only [Option.some.injEq] at h
      exact h ▸ hpumps
    · obtain ⟨others, hothers, rfl⟩ := Option.map_eq_some_iff.mp h
      exact hpumps.trans (ih (r := others) (hpumps.wired hw) hothers)

end Operations

end Session

end EdgeStreams
