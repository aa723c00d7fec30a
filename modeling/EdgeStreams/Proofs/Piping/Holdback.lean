import EdgeStreams.Proofs.Piping.Coupling
import EdgeStreams.Proofs.Piping.Pacing

/-!
# What holds writers back, whatever is done

Every operation makes streams, changes the registry without any new stream, or does deeds. Only
deeds ask anything of a transform stream, and only a write that is not a pipe's pays no heed to
backpressure.

## Main definitions

- `Session.TransformsUnasked`: nothing has been asked of any transform stream
- `Session.PacedOperation`: what an operation comes to
- `Session.Drives`: the operations that drive pipes, deed by deed

## Main statements

- `Session.OperationStep.pacedOperation`: every operation
- `Session.PacedOperation.pressed`, `Session.PacedOperation.bounded`: what holds after it
- `Session.Steady.drives`: what holds during it
-/

namespace EdgeStreams

variable {H E : Type}

namespace Session

variable {s t : Session H E} {mark : UInt64} {w : WritableId}

/-- Nothing has been asked of any transform stream. There may be a new one: it has not been asked
for a chunk, and with an identity transformer nothing is queued in it. -/
structure TransformsUnasked (s t : Session H E) : Prop where
  journal : ∃ new, t.journal = new ++ s.journal ∧ ∀ w chunk outcome, .written w chunk outcome ∉ new
  spansBridge : ∀ {name bridge source'}, t.streams.SpansBridge name bridge source' →
    (∃ source, s.streams.SpansBridge name bridge source ∧ source'.controller = source.controller ∧
      (t.streams.Accepts bridge.writable → s.streams.Accepts bridge.writable)) ∨
    bridge.pullRequested = false ∧
      (bridge.transformer = .identity → source'.controller.queuedBytes = 0) ∧
      (t.streams.Accepts bridge.writable → ¬ source'.controller.HasFailed)

/-- What fails the readable half at its start fails the writable half too. -/
theorem not_accepts_of_failedHalf (wf : s.streams.WellFormed) (transformer : Transformer E)
    (hfailed : (newHalf transformer s).controller.HasFailed) :
    ¬ (settleTransform (nextStream transformer s) (startWork transformer s).1.1
      (startedTransform transformer s).streams).Accepts (nextStream transformer s).writable := by
  have hsound : ¬ ({ highWaterMark := s.streams.config.transformHighWaterMark } :
      ReadableController).HasFailed := by rintro ⟨error, ⟨⟩⟩
  obtain ⟨error, hfault⟩ := writableFault?_of_failed (transformer.start s.env) hsound hfailed
  have hentered := Registry.sink?_enterTransform wf transformer (nextStream transformer s).writable
  rw [if_pos rfl] at hentered
  have hhalf : (startedTransform transformer s).streams.sink?
      (nextStream transformer s).writable = _ :=
    sink?_transformed_of_fault (s := { s with streams := (enterTransform transformer s.streams).2 })
      (nextStream transformer s).bridge (newBridge transformer s) _ hfault hentered rfl
  rintro ⟨sink, hk, hw⟩
  rw [sink?_settleTransform, if_pos rfl, hhalf, Option.map_some, Option.some.injEq] at hk
  subst hk
  revert hw
  cases (startWork transformer s).1.1 <;> exact not_writable_of_error _

namespace TransformsUnasked

theorem pulledSince (h : s.TransformsUnasked t) {r : ReadableId} (hp : s.PulledSince r w) :
    t.PulledSince r w := by
  obtain ⟨new, hnew, hunwritten⟩ := h.journal
  obtain ⟨before, after, hbefore, hafter⟩ := hp
  refine ⟨before, new ++ after, by rw [hnew, hbefore, List.append_assoc],
    fun chunk outcome hm => ?_⟩
  exact (List.mem_append.mp hm).elim (hunwritten w chunk outcome) (hafter chunk outcome)

theorem pressed (h : s.TransformsUnasked t) (hp : s.Pressed mark) : t.Pressed mark := by
  intro name bridge source' hspans ha
  rcases h.spansBridge hspans with ⟨source, hbefore, hsame, haccepts⟩ | ⟨hflag, -, hsound⟩
  · obtain ⟨hsound, hpulled⟩ := hp name bridge source hbefore (haccepts ha)
    rw [hsame]
    exact ⟨hsound, fun hflag => (hpulled hflag).imp_left h.pulledSince⟩
  · refine ⟨hsound ha, fun hraised => ?_⟩
    rw [hflag] at hraised
    cases hraised

theorem bounded (h : s.TransformsUnasked t) (hb : s.Bounded mark w) : t.Bounded mark w := by
  intro name bridge source' longest hspans he hid hshort
  rcases h.spansBridge hspans with ⟨source, hbefore, hsame, -⟩ | ⟨-, hempty, -⟩
  · rw [hsame]
    refine hb name bridge source longest hbefore he hid fun chunk outcome hm =>
      hshort chunk outcome ?_
    obtain ⟨new, hnew, -⟩ := h.journal
    rw [sinkCalls, hnew, List.filterMap_append]
    exact List.mem_append_right _ hm
  · rw [hempty hid]
    exact Nat.zero_le _

/-- The registry has changed without any new stream. -/
theorem of_turnover (hs : s.Turnover t) (hm : s.streams.MakesNone t.streams)
    (hj : t.journal = s.journal) : s.TransformsUnasked t where
  journal := ⟨[], hj, fun _ _ _ => List.not_mem_nil⟩
  spansBridge {name bridge source'} hspans := by
    obtain ⟨source, hbefore, hsame⟩ := hs.streams.source_before hm hspans.lives
    refine .inl ⟨source, ⟨hm.bridge hspans.joins, hbefore⟩, hsame.controller,
      fun ⟨sink', hk', hw⟩ => ?_⟩
    obtain ⟨sink, hk, hsameSink⟩ := hs.streams.sink_before hm hk'
    exact ⟨sink, hk, hsameSink.controller ▸ hw⟩

/-- A source over a host body or a guest has been made. -/
theorem addSource (wf : s.streams.WellFormed) {source : Source E} (hn : ¬ source.IsTransform)
    (ht : t.streams = (s.streams.addSource source).2)
    (hj : ∃ new, t.journal = new ++ s.journal ∧ ∀ w chunk outcome, .written w chunk outcome ∉ new)
    (hm : t.streams.Mutual) : s.TransformsUnasked t where
  journal := hj
  spansBridge {name bridge source'} hspans := by
    have hback := hm _ _ _ hspans
    obtain ⟨hjoins, hlives⟩ := hspans
    rw [ht] at hjoins hlives
    rw [Registry.source?_addSource wf] at hlives
    split at hlives
    · cases hlives
      exact absurd ⟨name, hback⟩ hn
    · exact .inl ⟨source', ⟨hjoins, hlives⟩, rfl,
        fun ⟨sink, hk, hw⟩ => ⟨sink, by rwa [ht] at hk, hw⟩⟩

/-- A sink over a host body or a guest has been made. -/
theorem addSink (h : s.Coupled) {sink : Sink E} (ht : t.streams = (s.streams.addSink sink).2)
    (hj : ∃ new, t.journal = new ++ s.journal ∧ ∀ w chunk outcome, .written w chunk outcome ∉ new) :
    s.TransformsUnasked t where
  journal := hj
  spansBridge {name bridge source'} hspans := by
    obtain ⟨hjoins, hlives⟩ := hspans
    rw [ht] at hjoins hlives
    refine .inl ⟨source', ⟨hjoins, hlives⟩, rfl, fun ⟨found, hk, hw⟩ => ⟨found, ?_, hw⟩⟩
    rwa [ht, h.sink?_addSink sink hjoins] at hk

/-- A transform stream has been made. Its writable half takes writes only if the transformer has not
failed the readable half at its start. -/
theorem createTransform (h : s.Coupled) (transformer : Transformer E)
    (hm : ((createTransform transformer : Step H E TransformStream) s).2.streams.Mutual) :
    s.TransformsUnasked ((createTransform transformer : Step H E TransformStream) s).2 := by
  have wf := h.resting.wellFormed
  have hentered := Registry.bridge?_enterTransform wf transformer (nextStream transformer s).bridge
  rw [if_pos rfl] at hentered
  rw [createTransform_eq wf] at hm ⊢
  refine ⟨⟨_ :: _, congrArg (_ :: ·) (journal_startedTransform transformer), by simp⟩,
    fun {name bridge' source'} hspans => ?_⟩
  have hback := hm _ _ _ hspans
  obtain ⟨hjoins, hlives⟩ := hspans
  rw [streams_mapStreams, streams_note] at hjoins hlives ⊢
  rw [bridge?_settleTransform] at hjoins
  rw [source?_startSettled wf] at hlives
  by_cases hn : name = (nextStream transformer s).bridge
  · subst hn
    obtain ⟨found, hfound, hkeeps⟩ := bridge?_startedTransform_new wf transformer
    cases hjoins.symm.trans hfound
    obtain ⟨found, hfound, hflag⟩ := bridge?_transformed
      (s := { s with streams := (enterTransform transformer s.streams).2 })
      (startWork transformer s) hentered
      (s.streams.newReadable (nextStream transformer s).bridge .pending)
    cases hjoins.symm.trans hfound
    rw [hkeeps.readable, newBridge, if_pos rfl] at hlives
    cases hlives
    refine .inr ⟨hflag, fun hid => ?_, ?_⟩
    · rw [hkeeps.transformer] at hid
      cases (hid : transformer = .identity)
      rfl
    · rintro ⟨sink, hk, hw⟩ hfailed
      rw [hkeeps.writable] at hk
      exact not_accepts_of_failedHalf wf transformer hfailed ⟨sink, hk, hw⟩
  · rw [startedTransform, bridge?_transformed_other hn,
      Registry.bridge?_enterTransform wf, if_neg hn]
      at hjoins
    split at hlives
    · cases hlives
      cases (hback : SourceBacking.transform (nextStream transformer s).bridge = .transform name)
      exact absurd rfl hn
    · have hne := h.ne_nextStream transformer hjoins
      refine .inl ⟨source', ⟨hjoins, hlives⟩, rfl, ?_⟩
      rintro ⟨sink, hk, hw⟩
      refine ⟨sink, ?_, hw⟩
      rwa [sink?_settleTransform, if_neg hne, sink?_startedTransform_old wf transformer hne] at hk

end TransformsUnasked

/-! ### Pipes that are opened -/

/-- What holds of transform streams is left alone where no stream is made. -/
theorem Regular.turnover (h : s.Regular mark) (hs : s.Turnover t)
    (hm : s.streams.MakesNone t.streams) (hj : t.journal = s.journal) : t.Regular mark where
  composed := hs.streams.composed h.composed
  couples := h.couples.turnover hs.streams hm
  linked name bridge source' hspans := by
    obtain ⟨source, hsource, hsame⟩ := hs.streams.source_before hm hspans.lives
    exact hsame.backing.trans (h.linked name bridge source ⟨hm.bridge hspans.joins, hsource⟩)
  pressed := (TransformsUnasked.of_turnover hs hm hj).pressed h.pressed

section Operations

variable [Host H]

/-- The session once a pipe has been opened, or not. -/
def withOpened (source : ReadableId) (destination : WritableId) (options : PipeOptions)
    (s : Session H E) : Session H E :=
  { s with streams := (exec (Registry.openPipe source destination options) s.streams).2 }

namespace Steady

variable (h : s.Steady mark ∅)
include h

omit [Host H] in
theorem withOpened (source : ReadableId) (destination : WritableId) (options : PipeOptions) :
    s.TransformsUnasked (s.withOpened source destination options) ∧
      (s.withOpened source destination options).Steady mark ∅ := by
  obtain ⟨held, spent, horderly⟩ := h.orderly
  have hturnover : s.Turnover (s.withOpened source destination options) :=
    ⟨.openPipe horderly.wellFormed source destination options, rfl⟩
  have hnone := Registry.makesNone_openPipe s.streams source destination options
  exact ⟨.of_turnover hturnover hnone rfl,
    { toRegular := h.toRegular.turnover hturnover hnone rfl
      orderly := ⟨held, spent, horderly.openPipe source destination options⟩
      unfed := fun _ hw => absurd hw (Set.notMem_empty _) }⟩

theorem pipeTo {fuel : Nat} {source : ReadableId} {destination : WritableId} {options : PipeOptions}
    {r : Except StreamError PipeId × Session H E}
    (hr : attempt (Session.pipeTo fuel source destination options) s = some r) :
    (s.withOpened source destination options).PacesTo mark ∅ r.2 := by
  have hopened := (h.withOpened source destination options).2
  rw [attempt_pipeTo] at hr
  unfold Session.withOpened at hopened ⊢
  generalize exec (Registry.openPipe source destination options) s.streams = opened at hr hopened ⊢
  obtain ⟨result, streams⟩ := opened
  cases result with
  | error error =>
    simp only [Option.some.injEq] at hr
    exact hr ▸ .refl _
  | ok id =>
    obtain ⟨pumped, hpump, rfl⟩ := Option.map_eq_some_iff.mp hr
    exact pacesTo_pumpPipe hopened hpump

end Steady

/-! ### Every operation -/

/-- What an operation comes to: nothing is asked of any transform stream, and then there are deeds
that transform streams pace; or somebody writes. -/
inductive PacedOperation (mark : UInt64) (s : Session H E) : Session H E → Prop
  | transformsUnasked {t : Session H E} : s.TransformsUnasked t → PacedOperation mark s t
  | pacesTo {between t : Session H E} : s.TransformsUnasked between → between.Regular mark →
    between.PacesTo mark ∅ t → PacedOperation mark s t
  | writes {w : WritableId} (chunk : Bytes) {token : Option WriterToken} : s.streams.Takes w token →
    PacedOperation mark s (exec (write w chunk token) s).2

theorem OperationStep.pacedOperation (hd : OperationStep s t) (hc : s.Coupled) (h : s.Steady mark ∅)
    (hm : t.streams.Mutual) : s.PacedOperation mark t := by
  have hr := h.toRegular
  have hstill : s.TransformsUnasked s := .of_turnover ⟨.refl _, rfl⟩ (.refl _) rfl
  have hmade : ∃ new, s.journal = new ++ s.journal ∧
      ∀ w chunk outcome, .written w chunk outcome ∉ new := ⟨[], rfl, fun _ _ _ => List.not_mem_nil⟩
  cases hd.operationCase hc.resting.wellFormed with
  | turnover hs _ hnone hj => exact .transformsUnasked (.of_turnover hs hnone hj)
  | read hread => exact .pacesTo hstill hr (pacesTo_read h hread)
  | cancel id reason token => exact .pacesTo hstill hr (pacesTo_cancel hr id reason token)
  | close id token => exact .pacesTo hstill hr (pacesTo_close hr id token)
  | abort id reason token => exact .pacesTo hstill hr (pacesTo_abort hr id reason token)
  | pump hpump => exact .pacesTo hstill hr (pacesTo_pump h hpump)
  | abortCorrelated source reason =>
    exact .pacesTo hstill hr (pacesTo_abortCorrelated hr source reason)
  | pipeTo hpipe =>
    obtain ⟨hopens, hopened⟩ := h.withOpened _ _ _
    exact .pacesTo hopens hopened.toRegular (h.pipeTo hpipe)
  | write id chunk token =>
    by_cases htakes : s.streams.Takes id token
    · exact .writes chunk htakes
    · obtain ⟨error, hrefused⟩ := exec_write_of_refused chunk htakes
      rw [hrefused]
      exact .transformsUnasked hstill
  | bodySource handle =>
    exact .transformsUnasked (.addSource hc.resting.wellFormed (by rintro ⟨name, ⟨⟩⟩) rfl hmade hm)
  | scriptSource guest highWaterMark =>
    obtain ⟨event, hj⟩ := journal_scriptSource (s := s) guest highWaterMark
    exact .transformsUnasked (.addSource hc.resting.wellFormed (by rintro ⟨name, ⟨⟩⟩)
      (streams_scriptSource guest highWaterMark) ⟨_ :: _, hj, by simp⟩ hm)
  | bodySink handle => exact .transformsUnasked (.addSink hc rfl hmade)
  | scriptSink guest =>
    exact .transformsUnasked (.addSink hc (streams_scriptSink guest) ⟨[_], rfl, by simp⟩)
  | createTransform transformer => exact .transformsUnasked (.createTransform hc transformer hm)

/-- Between two operations a chunk is let through only where there is room or a reader waits. -/
theorem PacedOperation.pressed (hf : s.PacedOperation mark t) (hr : s.Regular mark) :
    t.Pressed mark := by
  cases hf with
  | transformsUnasked hs => exact hs.pressed hr.pressed
  | pacesTo _ hbetween hpaces => exact (hpaces.passes.regular hbetween).pressed
  | writes chunk htakes => exact (hr.write chunk htakes).pressed

/-- Somebody writes to the stream who is not a pipe. -/
def WritesTo (w : WritableId) (s t : Session H E) : Prop :=
  ∃ chunk token, s.streams.Takes w token ∧ t = (exec (write w chunk token) s).2

/-- Paced deeds keep to what may be queued, all the way. -/
theorem Bounded.passes {spared : Set WritableId} (hb : s.Bounded mark w) (hr : s.Regular mark)
    (h : Passes (Paced mark spared) s t) :
    t.Bounded mark w ∧ Passes (fun _ _ u => u.Bounded mark w) s t := by
  obtain ⟨hlast, hall⟩ := h.holds (P := fun u => u.Regular mark ∧ u.Bounded mark w) ⟨hr, hb⟩
    fun hdeed hpaced ⟨hr, hb⟩ => ⟨hpaced.regular, hb.paced hr hdeed hpaced⟩
  exact ⟨hlast.2, hall.mono fun _ hboth => hboth.2⟩

/-- Only those who are not pipes write to a transform stream that is full. -/
theorem PacedOperation.bounded (hf : s.PacedOperation mark t) (hr : s.Regular mark)
    (hb : s.Bounded mark w) (hw : ¬ WritesTo w s t) : t.Bounded mark w := by
  cases hf with
  | transformsUnasked hs => exact hs.bounded hb
  | pacesTo hs hbetween hpaces => exact ((hs.bounded hb).passes hbetween hpaces.passes).1
  | @writes other chunk token htakes =>
    have hne : w ≠ other := by
      rintro rfl
      exact hw ⟨chunk, token, htakes, rfl⟩
    have hdeed : Deed s [(other, chunk)] (exec (write other chunk token) s).2 := .write chunk htakes
    refine hb.nothingAdded hdeed hr.composed ?_
    obtain ⟨sink, hk, rfl, -⟩ := htakes
    rw [exec_write_of_lock hk]
    exact (NothingLoosened.write hr.composed hr.linked chunk hne).nothingAdded

/-! ### Operations that drive pipes -/

/-- What drives pipes comes to deeds as allowed. A pipe that is opened is driven at once. -/
structure Drives (allowed : Session H E → List (WritableId × Bytes) → Session H E → Prop)
    (s : Session H E) : Prop where
  read : ∀ fuel id token r, attempt (Session.read fuel id token) s = some r → Passes allowed s r.2
  pump : ∀ fuel r, drive (Session.pump fuel) s = some r → Passes allowed s r.2
  pipeTo : ∀ fuel source destination options r,
    attempt (Session.pipeTo fuel source destination options) s = some r →
      Passes allowed (s.withOpened source destination options) r.2
  pipeThrough : ∀ fuel source stream options r,
    attempt (Session.pipeThrough fuel source stream options) s = some r →
      Passes allowed (s.withOpened source stream.writable options) r.2
  abortCorrelated : ∀ source reason,
    Passes allowed s (exec (Session.abortCorrelated source reason) s).2

/-- Whatever follows from paced deeds holds of what drives pipes. -/
theorem Steady.drives (h : s.Steady mark ∅)
    {allowed : Session H E → List (WritableId × Bytes) → Session H E → Prop}
    (hallowed : ∀ {start t}, s.TransformsUnasked start → start.Regular mark →
      Passes (Paced mark ∅) start t → Passes allowed start t) : s.Drives allowed := by
  have hstill : s.TransformsUnasked s := .of_turnover ⟨.refl _, rfl⟩ (.refl _) rfl
  have hpipes : ∀ fuel source destination options r,
      attempt (Session.pipeTo fuel source destination options) s = some r →
        Passes allowed (s.withOpened source destination options) r.2 := by
    intro fuel source destination options r hr
    obtain ⟨hopens, hopened⟩ := h.withOpened source destination options
    exact hallowed hopens hopened.toRegular (h.pipeTo hr).passes
  refine ⟨fun _ _ _ _ hr => ?_, fun _ _ hr => ?_, hpipes, fun _ _ stream _ _ hr => ?_,
    fun source reason => ?_⟩
  · exact hallowed hstill h.toRegular (pacesTo_read h hr).passes
  · exact hallowed hstill h.toRegular (pacesTo_pump h hr).passes
  · rw [attempt_pipeThrough] at hr
    obtain ⟨piped, hpiped, rfl⟩ := Option.map_eq_some_iff.mp hr
    exact hpipes _ _ _ _ _ hpiped
  · exact hallowed hstill h.toRegular (pacesTo_abortCorrelated h.toRegular source reason).passes

end Operations

end Session

end EdgeStreams
