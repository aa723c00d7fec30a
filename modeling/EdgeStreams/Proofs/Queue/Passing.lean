import EdgeStreams.Proofs.Queue.Conveying
import EdgeStreams.Proofs.Session.Amounting
import EdgeStreams.Proofs.Session.Ending

/-!
# Chunks pass in order

Every deed and every operation keeps the order in which chunks pass through the readable streams,
from the making of a stream on and as long as its name is not given to another one.

## Main statements

- `Session.Deed.passedInOrder`: every deed
- `Session.OperationStep.passedInOrder`, `Session.OperationStep.passedInOrder_made`: every operation
- `Session.Reaches.passedInOrder`: any number of operations
-/

namespace EdgeStreams

variable {H E : Type}

namespace Session

variable {id other : ReadableId} {source : Source E} {first s t : Session H E}

section Deeds

variable [Host H]

/-! ### Sinks -/

/-- A write is what the sink does, between changes of the sink. -/
theorem passedInOrder_writeUnchecked (hc : s.streams.Composed) (h : PassedInOrder id first s)
    (name : WritableId) (chunk : Bytes) :
    PassedInOrder id first (exec (writeUnchecked name chunk) s).2 := by
  cases hs : s.streams.sink? name with
  | none => simpa [writeUnchecked, exec_bind, hs] using h
  | some sink =>
    by_cases hw : sink.controller.state = .writable
    · have hsilent := asksNothing_writeAlgorithm name chunk (setSink name sink.working s)
      have hworked := preserves_writeAlgorithm name chunk _ (h.setSink name sink.working)
      cases hwork : exec (writeAlgorithm name chunk) (setSink name sink.working s) with
      | mk outcome s' =>
        rw [hwork] at hsilent hworked
        have hduring : (setSink name sink.working s).streams.sink? name = some sink.working := by
          simp [Registry.sink?_setSink, hs]
        obtain ⟨sink', hlast, hr⟩ := SlotMap.rel_some_left (hduring ▸ hsilent.sink name)
        rw [exec_writeUnchecked_of_idle hs (hc.idle hs) hw hwork hlast hr]
        exact (hworked.note rfl).setSink _ _
    · obtain ⟨error, hwrite⟩ : ∃ error, exec (writeUnchecked name chunk) s = (.error error, s) :=
        exec_writeUnchecked_of_not_writable hs hw
      rw [hwrite]
      exact h

theorem passedInOrder_write (hc : s.streams.Composed) (h : PassedInOrder id first s)
    (name : WritableId) (chunk : Bytes) (token : Option WriterToken) :
    PassedInOrder id first (exec (write name chunk token) s).2 := by
  simp only [write, exec_bind, exec_onStreams, Registry.exec_checkWriter]
  split
  · exact passedInOrder_writeUnchecked hc h name chunk
  · exact h

theorem passedInOrder_closeUnchecked (hc : s.streams.Composed) (h : PassedInOrder id first s)
    (name : WritableId) : PassedInOrder id first (exec (closeUnchecked name) s).2 := by
  cases hs : s.streams.sink? name with
  | none => simpa [closeUnchecked, exec_bind, hs] using h
  | some sink =>
    cases hterminal : sink.controller.state.isTerminal with
    | true =>
      obtain ⟨result, hclose, -⟩ := exec_closeUnchecked_of_terminal hs hterminal
      rw [hclose]
      exact h
    | false =>
      have hw := (hc.idle hs).writable hterminal
      have hsilent := asksNothing_closeAlgorithm name
        (setSink name (sink.inState .closing).working s)
      have hworked := preserves_closeAlgorithm name _
        (h.setSink name (sink.inState .closing).working)
      cases hwork : exec (closeAlgorithm name) (setSink name (sink.inState .closing).working s) with
      | mk outcome s' =>
        rw [hwork] at hsilent hworked
        have hduring : (setSink name (sink.inState .closing).working s).streams.sink? name =
            some (sink.inState .closing).working := by simp [Registry.sink?_setSink, hs]
        have hkept : s'.streams.sink? name = some (sink.inState .closing).working := by
          obtain ⟨sink', hlast, rfl | ⟨hwritable, -⟩⟩ :=
            SlotMap.rel_some_left (hduring ▸ hsilent.sink name)
          · exact hlast
          · cases hwritable
        rw [exec_closeUnchecked_of_idle hs (hc.idle hs) hw hwork hkept]
        exact (hworked.note rfl).setSink _ _

theorem passedInOrder_abortUnchecked (hc : s.streams.Composed) (h : PassedInOrder id first s)
    (name : WritableId) (reason : Option String) :
    PassedInOrder id first (exec (abortUnchecked name reason) s).2 := by
  cases hs : s.streams.sink? name with
  | none => simpa [abortUnchecked, exec_bind, hs] using h
  | some sink =>
    cases hterminal : sink.controller.state.isTerminal with
    | true =>
      rw [exec_abortUnchecked_of_terminal hs hterminal]
      exact h
    | false =>
      rw [exec_abortUnchecked_of_idle hs (hc.idle hs) ((hc.idle hs).writable hterminal)]
      exact Preserves.noting (preserves_abortAlgorithm name reason) (fun _ _ h => h.note rfl) _
        (h.setSink name (sink.failing .aborted))

/-! ### Reading a host body or a guest -/

/-- One pull of a host body or a guest. -/
theorem passedInOrder_pull {fuel : Nat} {r : Except StreamError Unit × Session H E}
    (h : PassedInOrder id first s) (hs : s.streams.source? other = some source)
    (hn : ¬ source.IsTransform) (hr : attempt (pull fuel other) s = some r) :
    PassedInOrder id first r.2 := by
  cases fuel with
  | zero => cases hr
  | succ fuel =>
    rw [attempt_pull, hs] at hr
    dsimp only at hr
    split at hr
    · cases hr
      exact preserves_pullBody other _ _ s h
    · cases hr
      exact preserves_pullScript other _ s h
    · next name hb => exact absurd ⟨name, hb⟩ hn

theorem passedInOrder_pullIfNeeded {fuel : Nat} {waits : Bool} {r : Unit × Session H E}
    (h : PassedInOrder id first s) (hs : s.streams.source? other = some source)
    (hn : ¬ source.IsTransform) (hp : source.pulling = false) (ha : source.pullAgain = false)
    (hr : drive (pullIfNeeded fuel other waits) s = some r) : PassedInOrder id first r.2 := by
  cases fuel with
  | zero => cases hr
  | succ fuel =>
    rcases pullIfNeeded_cases hs hr with ⟨-, rfl⟩ |
      ⟨hwants, ⟨hpulling, -⟩ | ⟨-, outcome, t, hpull, hafter⟩⟩
    · exact h
    · cases hp.symm.trans hpulling
    have hpullable : source.Pullable := Source.pullable_of_wantsPull hwants
    have hbegan := ((Revised.refl hs).setSource { source with pulling := true }).call
      (show (StreamEvent.pullBegan other).isCall = true from rfl)
    obtain ⟨controller, host, env, -, hpulled, -⟩ :=
      hbegan.pull hs ⟨hpullable.readable, hpullable.unended⟩ hn hpull
    have hfound := hpulled.source? hs
    have hconveyed : PassedInOrder id first (note (.pullEnded other outcome) t) := by
      refine (passedInOrder_pull ?_ (hbegan.source? hs) hn hpull).note rfl
      exact (h.setSource hs { source with pulling := true } fun hq => hq).note rfl
    cases hafter with
    | gone _ hgone => cases hfound.symm.trans hgone
    | failed error last ht => exact hconveyed.setSource ht _ (·.error error)
    | settled last ht => exact hconveyed.setSource ht _ fun hq => hq
    | again last ht hagain =>
      cases hfound.symm.trans ht
      cases ha.symm.trans hagain

theorem passedInOrder_readUnchecked {fuel : Nat} {r : Except StreamError ReadOutcome × Session H E}
    (h : PassedInOrder id first s) (hs : s.streams.source? other = some source)
    (hn : ¬ source.IsTransform) (hp : source.pulling = false) (ha : source.pullAgain = false)
    (hr : attempt (readUnchecked fuel other) s = some r) : PassedInOrder id first r.2 := by
  cases fuel with
  | zero => cases hr
  | succ fuel =>
    have hmarked : PassedInOrder id first (disturb other source s) :=
      h.setSource hs { source with disturbed := true } fun hq => hq
    have hdisturbed : (disturb other source s).streams.source? other =
        some { source with disturbed := true } := source?_disturb hs
    have hentry := source?_takeReady hdisturbed
    rcases readUnchecked_keeps (PassedInOrder id first) hs hr hmarked (fun t ht =>
      ht.takeReady other) fun waits t _ hpull =>
        passedInOrder_pullIfNeeded (hmarked.takeReady other) hentry hn hp ha hpull with heq | hread
    · exact heq ▸ h
    · exact hread

/-! ### Deeds -/

omit [Host H] in
theorem passedInOrder_pipeFinished (h : PassedInOrder id first s) (name : PipeId)
    (state : PipeState) : PassedInOrder id first (pipeFinished name state s) := by
  by_cases hrun : ∃ pipe, s.streams.pipe? name = some pipe ∧ pipe.isRunning
  · obtain ⟨pipe, hp, hr⟩ := hrun
    cases hs : s.streams.source? pipe.source with
    | none =>
      refine h.congr ?_ rfl rfl
      rw [pipeFinished, streams_mapStreams, Registry.source?_finishPipe state hp hr, hs]
      split
      · next he => simp [he, hs]
      · rfl
    | some source =>
      refine h.change hs { Registry.unlockReader pipe.reader source with pipedTo := none } [] [] ?_
        (by simp; rfl) (by simp; rfl) fun hq => ?_
      · rw [pipeFinished, streams_mapStreams, Registry.source?_finishPipe state hp hr, hs]
        rfl
      · unfold Registry.unlockReader
        split <;> exact hq
  · rw [pipeFinished, mapStreams, Registry.finishPipe_of_not_running]
    · exact h
    · exact fun pipe hp hr => hrun ⟨pipe, hp, hr⟩

/-- Every deed keeps the order of the chunks. -/
theorem Deed.passedInOrder {made : List (WritableId × Bytes)} (hd : Deed s made t)
    (hc : s.streams.Composed) (h : PassedInOrder id first s) : PassedInOrder id first t := by
  have hflags : ∀ {other : ReadableId} {source : Source E} (pulling pullAgain disturbed : Bool),
      s.streams.source? other = some source →
        PassedInOrder id first (setSource other { source with pulling, pullAgain, disturbed } s) :=
    fun _ _ _ hs => h.setSource hs _ fun hq => hq
  cases hd with
  | read hs hn hr =>
    have hp := hc.native hs hn
    exact passedInOrder_readUnchecked h hs hn hp (hc.notAsked hs hp) hr
  | disturb hs _ => exact hflags _ _ _ hs
  | take _ _ => exact h.takeReady _
  | ask hs _ _ => exact hflags _ _ _ hs
  | beginPull hs _ _ _ => exact (hflags _ _ _ hs).note rfl
  | @endPull other _ hs _ _ =>
    have hended : PassedInOrder id first (note (.pullEnded other (.ok ())) s) := h.note rfl
    exact hended.setSource hs _ fun hq => hq
  | request _ => exact h.setBridge _ _
  | cancel other reason => exact preserves_cancelUnchecked other reason s h
  | write chunk _ | refuse chunk _ => exact passedInOrder_write hc h _ chunk _
  | close name => exact passedInOrder_closeUnchecked hc h name
  | abort name reason => exact passedInOrder_abortUnchecked hc h name reason
  | drive pumping _ => exact h.congr (by simp) rfl rfl
  | finish name state => exact passedInOrder_pipeFinished h name state

/-- By induction on the deeds. -/
theorem Course.passedInOrder {made : List (WritableId × Bytes)} (h : Course s made t)
    (hc : s.streams.Composed) (hs : PassedInOrder id first s) : PassedInOrder id first t := by
  induction h with
  | refl => exact hs
  | step hbefore hdeed ih => exact hdeed.passedInOrder (hbefore.composed hc) ih

theorem FlowsTo.passedInOrder (hf : s.FlowsTo t) (hc : s.streams.Composed)
    (h : PassedInOrder id first s) : PassedInOrder id first t := by
  obtain ⟨⟨made, hcourse⟩, -⟩ := hf
  exact hcourse.passedInOrder hc h

end Deeds

/-! ### Operations -/

/-- Streams have been made or taken out. -/
theorem PassedInOrder.turnover (h : PassedInOrder id first s) (hs : s.Turnover t)
    (hk : KeepsSource id s t) (hput : t.enqueued id = s.enqueued id)
    (htaken : t.delivered id = s.delivered id) :
    PassedInOrder id first t := by
  obtain ⟨put, taken, hp, htk, hpassed⟩ := h
  refine ⟨put, taken, hput.trans hp, htaken.trans htk, ?_⟩
  have hshift := hs.streams.source id
  generalize hold : s.streams.source? id = old at hshift hpassed
  generalize hnew : t.streams.source? id = new at hshift
  cases hshift with
  | kept hsame =>
    cases hpassed with
    | lives hq =>
      refine .lives ?_
      rwa [hsame.controller, hsame.canceled]
  | gone =>
    cases hpassed with
    | lives hq => exact .gone hq.nonempty hq.delivered_prefix
    | gone hnonempty hprefix => exact .gone hnonempty hprefix
  | made =>
    rw [hk hold] at hnew
    cases hnew

/-- A source has been made, and it has been given some chunks, last first. -/
structure MakesSource (new : ReadableId) (put : List Bytes) (source : Source E)
    (s t : Session H E) : Prop where
  unmade : s.streams.source? new = none
  found : ∀ id, t.streams.source? id = if id = new then some source else s.streams.source? id
  enqueued : ∀ id, t.enqueued id = (if new = id then put else []) ++ s.enqueued id
  delivered : ∀ id, t.delivered id = s.delivered id
  accounts : source.controller.AccountsFor put [] source.canceled

namespace MakesSource

variable {new : ReadableId} {put : List Bytes}

/-- The new stream. -/
theorem passedInOrder_made (h : MakesSource new put source s t) : PassedInOrder new s t := by
  refine ⟨put, [], ?_, h.delivered new, ?_⟩
  · rw [h.enqueued, if_pos rfl]
  · rw [h.found, if_pos rfl]
    exact .lives h.accounts

/-- Another stream. -/
theorem passedInOrder_other (h : MakesSource new put source s t) (hk : KeepsSource id s t)
    (hc : PassedInOrder id first s) : PassedInOrder id first t := by
  have hne : id ≠ new := by
    rintro rfl
    have hgone := hk h.unmade
    rw [h.found, if_pos rfl] at hgone
    cases hgone
  refine hc.congr ?_ ?_ (h.delivered id)
  · rw [h.found, if_neg hne]
  · rw [h.enqueued, if_neg (Ne.symm hne), List.nil_append]

end MakesSource

section Making

variable (wf : s.streams.WellFormed)
include wf

theorem makesSource_bodySource (handle : BodyHandle) :
    MakesSource (s.streams.bodySource handle).1 []
      { backing := .body handle s.streams.config.bodyChunkSize
        controller := { highWaterMark := s.streams.config.bodyHighWaterMark } } s
      (s.mapStreams fun streams => (streams.bodySource handle).2) where
  unmade := Registry.source?_addSource_fst wf _
  found id := Registry.source?_addSource wf _ id
  enqueued id := by
    rw [ite_self]
    rfl
  delivered id := rfl
  accounts := .new _

omit wf in
theorem journal_scriptSource (guest : UnderlyingSource E) (highWaterMark : UInt64) :
    ∃ event, ((scriptSource guest highWaterMark : Step H E ReadableId) s).2.journal =
      .sourceStarted ((scriptSource guest highWaterMark : Step H E ReadableId) s).1 event ::
        (noteEnqueued ((scriptSource guest highWaterMark : Step H E ReadableId) s).1
          ((guest.start s.env).run SourceDesk.perform
            { controller := { highWaterMark } }).2.accepted
            s).journal := by
  change ∃ event, (StateT.run
    (scriptSource guest highWaterMark : Step H E ReadableId) s).2.journal =
    .sourceStarted (StateT.run (scriptSource guest highWaterMark : Step H E ReadableId) s).1 event
      :: (noteEnqueued (StateT.run (scriptSource guest highWaterMark : Step H E ReadableId)
        s).1 _ _).journal
  simp only [scriptSource, StateT.run_bind, StateT.run_get, pure_bind]
  obtain ⟨⟨result, env⟩, desk⟩ :=
    (guest.start s.env).run SourceDesk.perform { controller := { highWaterMark } }
  exact ⟨result, rfl⟩

/-- A new stream over a guest has what the guest has queued at its start. -/
theorem makesSource_scriptSource (guest : UnderlyingSource E) (highWaterMark : UInt64) :
    MakesSource ((scriptSource guest highWaterMark : Step H E ReadableId) s).1
      ((guest.start s.env).run SourceDesk.perform { controller := { highWaterMark } }).2.accepted
      { backing := .script guest, controller := startedController guest highWaterMark s.env } s
      ((scriptSource guest highWaterMark : Step H E ReadableId) s).2 where
  unmade := by
    rw [scriptSource_fst]
    exact Registry.source?_addSource_fst wf _
  found id := by
    rw [streams_scriptSource, scriptSource_fst]
    exact Registry.source?_addSource wf _ id
  enqueued id := by
    obtain ⟨event, hjournal⟩ := journal_scriptSource (s := s) guest highWaterMark
    rw [Session.enqueued, hjournal]
    exact enqueued_noteEnqueued ..
  delivered id := by
    obtain ⟨event, hjournal⟩ := journal_scriptSource (s := s) guest highWaterMark
    rw [Session.delivered, hjournal]
    exact delivered_noteEnqueued ..
  accounts := by
    have hrun := (ReadableController.AccountsFor.new highWaterMark).run (guest.start s.env)
    rw [List.append_nil] at hrun
    unfold startedController
    generalize (guest.start s.env).run SourceDesk.perform { controller := { highWaterMark } } =
      worked
      at hrun
    obtain ⟨⟨result, env⟩, desk⟩ := worked
    cases result with
    | error error => exact hrun.error error
    | ok => exact hrun

omit wf in
theorem journal_startedTransform (transformer : Transformer E) :
    (startedTransform transformer s).journal =
      (startWork transformer s).2.accepted.map (.enqueued (nextStream transformer s).readable) ++
        s.journal := by
  unfold startedTransform transformed spread marked
  split <;> split <;> rfl

/-- A new transform stream has what the transformer has queued at its start. -/
theorem makesSource_createTransform (transformer : Transformer E) :
    MakesSource (nextStream transformer s).readable (startWork transformer s).2.accepted
      (newHalf transformer s) s ((createTransform transformer : Step H E TransformStream) s).2 where
  unmade := (Registry.none_enterTransform wf transformer).1
  found id := by
    rw [createTransform_eq wf, streams_mapStreams, streams_note, source?_startSettled wf]
  enqueued id := by
    have hnoted := enqueued_noteEnqueued id (nextStream transformer s).readable
      (startWork transformer s).2.accepted s
    rw [createTransform_eq wf, ← hnoted]
    change List.filterMap _ (_ :: (startedTransform transformer s).journal) = _
    rw [journal_startedTransform]
    rfl
  delivered id := by
    have hnoted := delivered_noteEnqueued id (nextStream transformer s).readable
      (startWork transformer s).2.accepted s
    rw [createTransform_eq wf, ← hnoted]
    change List.filterMap _ (_ :: (startedTransform transformer s).journal) = _
    rw [journal_startedTransform]
    rfl
  accounts := by
    have hstart := TransformWork.keepsAccounts_start transformer s.env
      (ReadableController.AccountsFor.new s.streams.config.transformHighWaterMark)
    rw [List.append_nil] at hstart
    exact hstart.leftBy

end Making

section Operations

variable [Host H]

/-- An operation keeps the order of the chunks of a stream whose name is not given to another
one. -/
theorem OperationStep.passedInOrder (hd : OperationStep s t) (hr : s.Resting)
    (hk : KeepsSource id s t) (h : PassedInOrder id first s) : PassedInOrder id first t := by
  have wf := hr.wellFormed
  cases hd.operationEffect hr with
  | @deeds between t hturnover _ hnone hjournal hflows =>
    have hsame : PassedInOrder id first between := h.turnover hturnover hnone.source
      (congrArg (List.filterMap _) hjournal) (congrArg (List.filterMap _) hjournal)
    exact hflows.passedInOrder (hturnover.streams.composed hr.composed) hsame
  | bodySource handle => exact (makesSource_bodySource wf handle).passedInOrder_other hk h
  | scriptSource guest mark =>
    exact (makesSource_scriptSource wf guest mark).passedInOrder_other hk h
  | bodySink handle => exact h.congr rfl rfl rfl
  | scriptSink guest => exact h.congr rfl rfl rfl
  | createTransform transformer =>
    exact (makesSource_createTransform wf transformer).passedInOrder_other hk h

/-- What an operation has made has passed its chunks on in order. -/
theorem OperationStep.passedInOrder_made (hd : OperationStep s t) (hr : s.Resting)
    (hnone : s.streams.source? id = none)
    (hsome : t.streams.source? id = some source) : PassedInOrder id s t := by
  have wf := hr.wellFormed
  have hnew : ∀ {new put source'}, MakesSource new put source' s t → PassedInOrder id s t := by
    intro new put source' hm
    by_cases he : id = new
    · exact he ▸ hm.passedInOrder_made
    · rw [hm.found, if_neg he, hnone] at hsome
      cases hsome
  cases hd.operationEffect hr with
  | @deeds between t hturnover _ hmakes _ hflows =>
    have hgone := (hflows.source?_eq_none_iff (hturnover.streams.composed hr.composed)).mpr
      (hmakes.source hnone)
    rw [hsome] at hgone
    cases hgone
  | bodySource handle => exact hnew (makesSource_bodySource wf handle)
  | scriptSource guest mark => exact hnew (makesSource_scriptSource wf guest mark)
  | bodySink | scriptSink => cases hnone.symm.trans hsome
  | createTransform transformer => exact hnew (makesSource_createTransform wf transformer)

/-- By induction on the operations. -/
theorem Reaches.passedInOrder (hrun : Reaches (KeepsSource id) s t) (hr : s.Resting)
    (h : PassedInOrder id first s) : PassedInOrder id first t := by
  induction hrun with
  | refl => exact h
  | step hbefore hoperation hkeeps ih =>
    exact hoperation.passedInOrder (hbefore.resting hr) hkeeps ih

end Operations

end Session

end EdgeStreams
