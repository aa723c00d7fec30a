import EdgeStreams.Proofs.Session.Shifting

/-!
# Sources over host bodies between two deeds

A source over a host body is read only when a reader finds nothing in its queue, and the reader then
takes what has been read. So nothing waits in it between two deeds, and the end of the body is the
end of the stream at once.

## Main definitions

- `ReadableController.Light`: at most one chunk waits

## Main statements

- `Session.queue_readUnchecked`: reading a host body
- `Session.Deed.queue_eq_nil`: any deed
-/

namespace EdgeStreams

variable {H E : Type}

namespace ReadableController

variable {controller : ReadableController}

/-- At most one chunk waits, and only in a stream that has neither ended nor failed. -/
def Light (controller : ReadableController) : Prop :=
  controller.queue = [] ∨ ∃ chunk, controller.queue = [chunk] ∧ controller.state = .readable

theorem Light.queue_takeReady (h : controller.Light) : controller.takeReady.2.queue = [] := by
  rcases h with h | ⟨chunk, h, hs⟩
  · exact controller.queue_takeReady_of_nil h
  · simp [takeReady, hs, dequeue, h]

theorem Light.error (h : controller.Light) (error : StreamError) :
    (controller.error error).Light := by
  unfold ReadableController.error
  split
  · exact .inl rfl
  · exact h

theorem light_close (h : controller.queue = []) : controller.close.2.Light := by
  unfold ReadableController.close
  split <;> exact .inl h

theorem IsOpen.light_queued (h : controller.IsOpen) (hq : controller.queue = []) (chunk : Bytes) :
    (controller.queued chunk).Light := .inr ⟨chunk, by simp [queued, hq], h.state⟩

end ReadableController

namespace Session

variable {s t : Session H E} {id : ReadableId} {source : Source E}
variable {handle : BodyHandle} {size : UInt64}

section Reading

variable [Host H]

theorem light_pullBody (hs : s.streams.source? id = some source) (hopen : source.controller.IsOpen)
    (hq : source.controller.queue = []) :
    ∃ controller, (exec (pullBody id handle size) s).2.streams.source? id =
      some { source with controller } ∧ controller.Light := by
  cases hread : exec (Host.bodyRead handle size) s.host with
  | mk result host =>
    cases result with
    | error error =>
      rw [exec_pullBody_error hread]
      exact ⟨_, hs, .inl hq⟩
    | ok chunk =>
      by_cases hchunk : chunk = []
      · subst hchunk
        rw [exec_pullBody_end hs hopen.state hopen.close hread]
        refine ⟨source.controller.close.2, ?_, ReadableController.light_close hq⟩
        simp [Registry.source?_setSource, hs, ReadableController.finish]
      · rw [exec_pullBody_chunk hs hopen.state hopen.close hchunk hread]
        exact ⟨_, by simp [Registry.source?_setSource, hs], hopen.light_queued hq chunk⟩

theorem light_pull {fuel : Nat} {r : Except StreamError Unit × Session H E}
    (hs : s.streams.source? id = some source) (hb : source.backing = .body handle size)
    (hopen : source.controller.IsOpen) (hq : source.controller.queue = [])
    (h : attempt (pull fuel id) s = some r) :
    ∃ controller, r.2.streams.source? id = some { source with controller } ∧ controller.Light := by
  cases fuel with
  | zero => cases h
  | succ fuel =>
    rw [attempt_pull, hs] at h
    simp only [hb, Option.some.injEq] at h
    rw [← h]
    exact light_pullBody hs hopen hq

/-- A pull leaves at most one chunk. -/
theorem light_pullIfNeeded {fuel : Nat} {waits : Bool} {r : Unit × Session H E}
    (hs : s.streams.source? id = some source) (hb : source.backing = .body handle size)
    (hp : source.pulling = false) (ha : source.pullAgain = false)
    (hq : source.controller.queue = []) (h : drive (pullIfNeeded fuel id waits) s = some r) :
    ∃ source', r.2.streams.source? id = some source' ∧ source'.controller.Light := by
  cases fuel with
  | zero => cases h
  | succ fuel =>
    rcases pullIfNeeded_cases hs h with ⟨-, rfl⟩ |
      ⟨hwants, ⟨hpulling, -⟩ | ⟨-, outcome, t, hpull, hafter⟩⟩
    · exact ⟨source, hs, .inl hq⟩
    · cases hp.symm.trans hpulling
    have hduring : (note (.pullBegan id)
        (setSource id { source with pulling := true } s)).streams.source?
        id = some { source with pulling := true } := by simp [Registry.source?_setSource, hs]
    have hpullable : source.Pullable := Source.pullable_of_wantsPull hwants
    obtain ⟨controller, ht, hlight⟩ :=
      light_pull hduring hb ⟨hpullable.readable, hpullable.unended⟩ hq hpull
    cases hafter with
    | gone _ hgone => cases ht.symm.trans hgone
    | failed error last hlast =>
      cases ht.symm.trans hlast
      exact ⟨{ source with pulling := false, controller := controller.error error },
        by simp [Registry.source?_setSource, ht], hlight.error error⟩
    | settled last hlast =>
      cases ht.symm.trans hlast
      exact ⟨{ source with pulling := false, pullAgain := false, controller },
        by simp [Registry.source?_setSource, ht], hlight⟩
    | again last hlast hagain =>
      cases ht.symm.trans hlast
      cases ha.symm.trans hagain

omit [Host H] in
theorem source?_takeReady (hs : s.streams.source? id = some source) :
    (exec (takeReady id) s).2.streams.source? id =
      some { source with controller := source.controller.takeReady.2 } := by
  rw [exec_takeReady hs]
  simp [streams_noteDelivered, Registry.source?_setSource, hs]

/-- A reader takes what has been read for it. -/
theorem queue_readUnchecked {fuel : Nat} {r : Except StreamError ReadOutcome × Session H E}
    (hs : s.streams.source? id = some source) (hb : source.backing = .body handle size)
    (hp : source.pulling = false) (ha : source.pullAgain = false)
    (hq : source.controller.queue = []) (h : attempt (readUnchecked fuel id) s = some r) :
    ∃ source', r.2.streams.source? id = some source' ∧ source'.controller.queue = [] := by
  cases fuel with
  | zero => cases h
  | succ fuel =>
    rcases readUnchecked_cases hs h with ⟨-, rfl⟩ | ⟨error, -, rfl⟩ | ⟨-, found, t, htake, hfound⟩
    · exact ⟨source, hs, hq⟩
    · exact ⟨source, hs, hq⟩
    have htaken := source?_takeReady (source?_disturb hs)
    have hempty := source.controller.queue_takeReady_of_nil hq
    have hready := congrArg Prod.fst htake
    rw [exec_takeReady (source?_disturb hs)] at hready
    simp only [htake] at htaken
    cases hfound with
    | settled => exact ⟨_, htaken, hempty⟩
    | full data u hpull =>
      -- nothing is ready
      cases hstate : source.controller.state <;>
        simp [ReadableController.takeReady, hstate, ReadableController.dequeue, hq] at hready
    | empty u hpull =>
      obtain ⟨last, hlast, hlight⟩ := light_pullIfNeeded htaken hb hp ha hempty hpull
      exact ⟨_, source?_takeReady hlast, hlight.queue_takeReady⟩

end Reading

/-! ### Deeds -/

end Session

namespace Registry

theorem controller_unlockReader (token : ReaderToken) (source : Source E) :
    (unlockReader token source).controller = source.controller := by
  unfold unlockReader
  split <;> rfl

variable {streams : Registry E} {id : ReadableId}

theorem not_mem_bridgeReach (hj : ¬ streams.Joins id) (name : BridgeId) :
    id ∉ (streams.bridgeReach name).readables := by
  intro hm
  unfold bridgeReach at hm
  cases hb : streams.bridge? name with
  | none => simp [hb] at hm
  | some bridge =>
    rw [hb] at hm
    exact hj ⟨name, bridge, hb, hm.symm⟩

/-- Work on a sink comes to a source over a bridge only. -/
theorem not_mem_sinkReach (hj : ¬ streams.Joins id) (other : WritableId) :
    id ∉ (streams.sinkReach other).readables := by
  rintro (hm | hm)
  · exact hm
  · cases hs : streams.sink? other with
    | none => simp [hs] at hm
    | some sink =>
      rw [hs] at hm
      cases hb : sink.backing with
      | body handle | script guest => simp [hb, drainReach] at hm
      | transform name =>
        simp only [hb, drainReach] at hm
        exact not_mem_bridgeReach hj name hm

/-- Work on another source comes to a source over a bridge only. -/
theorem not_mem_sourceReach (hj : ¬ streams.Joins id) {other : ReadableId} (hne : id ≠ other) :
    id ∉ (streams.sourceReach other).readables := by
  rintro (hm | hm)
  · exact hne hm
  · cases hs : streams.source? other with
    | none => simp [hs] at hm
    | some source =>
      rw [hs] at hm
      cases hb : source.backing with
      | body handle size | script guest => simp [hb, backingReach] at hm
      | transform name =>
        simp only [hb, backingReach] at hm
        exact not_mem_bridgeReach hj name hm

end Registry

namespace Session

variable {s t : Session H E} {id : ReadableId} {source : Source E}
variable {handle : BodyHandle} {size : UInt64} [Host H]

/-- Nothing waits in a source over a host body that has been cancelled. -/
theorem queue_cancelUnchecked (hs : s.streams.source? id = some source)
    (hb : source.backing = .body handle size) (hq : source.controller.queue = [])
    (reason : Option String) :
    ∃ source', (exec (cancelUnchecked id reason) s).2.streams.source? id = some source' ∧
      source'.controller.queue = [] := by
  simp only [cancelUnchecked, exec_bind, exec_source, hs, Registry.need_some]
  cases hstate : source.controller.state with
  | closed | errored =>
    refine ⟨{ source with disturbed := true }, ?_, hq⟩
    change (setSource id { source with disturbed := true } s).streams.source? id = _
    simp [Registry.source?_setSource, hs]
  | readable =>
    cases hcanceled : source.canceled with
    | true =>
      refine ⟨{ source with disturbed := true, canceled := true }, ?_, hq⟩
      change (setSource id { source with disturbed := true, canceled := true }
        s).streams.source? id = _
      simp [Registry.source?_setSource, hs]
    | false =>
      have hduring : (setSource id (canceledSource source) s).streams.source? id =
          some (canceledSource source) := by simp [Registry.source?_setSource, hs]
      refine ⟨canceledSource source, ?_, by simp [canceledSource, ReadableController.cancel, hstate,
        ReadableController.clear]⟩
      change (exec (noting (.canceled id) (cancelAlgorithm id reason))
        (setSource id (canceledSource source) s)).2.streams.source? id = _
      rw [exec_noting, exec_cancelAlgorithm_body hduring hb]
      exact hduring

/-- Nothing waits in a source over a host body between two deeds, unless a bridge leads into it. -/
theorem Deed.queue_eq_nil {made : List (WritableId × Bytes)} (h : Deed s made t)
    (hc : s.streams.Composed) (hj : ¬ s.streams.Joins id) (hs : s.streams.source? id = some source)
    (hb : source.backing = .body handle size) (hq : source.controller.queue = []) :
    ∃ source', t.streams.source? id = some source' ∧ source'.controller.queue = [] := by
  have hnative : ¬ source.IsTransform := by
    rintro ⟨name, hname⟩
    cases hname.symm.trans hb
  have hother : ∀ {other : ReadableId} {found : Source E}, s.streams.source? other = some found →
      found.IsTransform → id ≠ other := by
    rintro other found hfound ht rfl
    rw [hs] at hfound
    cases hfound
    exact hnative ht
  have hkept : t.streams.source? id = s.streams.source? id →
      ∃ source', t.streams.source? id = some source' ∧ source'.controller.queue = [] :=
    fun hsame => ⟨source, hsame.trans hs, hq⟩
  -- what comes through a transform stream concerns another source; the rest reaches this one
  -- only where it is named
  cases h with
  | @read fuel other found r hfound hn hr =>
    by_cases he : id = other
    · subst he
      have hp := hc.native hs hnative
      exact queue_readUnchecked hs hb hp (hc.notAsked hs hp) hq hr
    · have hp := hc.native hfound hn
      refine hkept ?_
      rcases revised_readUnchecked hfound hn hp (hc.notAsked hfound hp) hr with
        ⟨source', -, hrev⟩ | ⟨outcome, source', host, env, -, hrev, -⟩
      · exact hrev.source?_other he
      · exact hrev.source?_other he
  | disturb hfound ht =>
    exact hkept (by simp [Session.disturb, Registry.source?_setSource, hother hfound ht])
  | take hfound ht =>
    refine hkept ?_
    rw [exec_takeReady hfound]
    simp [Registry.source?_setSource, hother hfound ht]
  | ask hfound ht hp => exact hkept (by simp [Registry.source?_setSource, hother hfound ht])
  | beginPull hfound ht hw hp =>
    exact hkept (by simp [Registry.source?_setSource, hother hfound ht])
  | endPull hfound ht hp => exact hkept (by simp [Registry.source?_setSource, hother hfound ht])
  | request hb => exact hkept rfl
  | cancel other reason =>
    by_cases he : id = other
    · subst he
      exact queue_cancelUnchecked hs hb hq reason
    · exact hkept ((changesWithin_cancelUnchecked .refl reason s .refl).source?_outside
        (Registry.not_mem_sourceReach hj he))
  | write chunk htakes | refuse chunk hrefused =>
    exact hkept ((changesWithin_write s _ chunk _).source?_outside
      (Registry.not_mem_sinkReach hj _))
  | close other =>
    exact hkept ((changesWithin_closeUnchecked .refl s .refl).source?_outside
      (Registry.not_mem_sinkReach hj other))
  | abort other reason =>
    exact hkept ((changesWithin_abortUnchecked .refl reason s .refl).source?_outside
      (Registry.not_mem_sinkReach hj other))
  | drive pumping hp => exact hkept rfl
  | finish name state =>
    by_cases hrun : ∃ pipe, s.streams.pipe? name = some pipe ∧ pipe.isRunning
    · obtain ⟨pipe, hp, hr⟩ := hrun
      rw [pipeFinished, streams_mapStreams, Registry.source?_finishPipe state hp hr]
      split
      · next he =>
        rw [← he, hs]
        refine ⟨_, rfl, ?_⟩
        change (Registry.unlockReader pipe.reader source).controller.queue = []
        rw [Registry.controller_unlockReader]
        exact hq
      · exact ⟨source, hs, hq⟩
    · rw [pipeFinished, mapStreams, Registry.finishPipe_of_not_running]
      · exact ⟨source, hs, hq⟩
      · exact fun pipe hp hr => hrun ⟨pipe, hp, hr⟩

end Session

end EdgeStreams
