import EdgeStreams.Proofs.Session.Operating

/-!
# Chunks on their way through a readable stream

A readable stream hands on what it queues, in order, each chunk once. What it has queued and what it
has delivered stand in the journal; what has been queued and not yet delivered waits in its queue,
unless an error or a cancellation has dropped it.

## Main definitions

- `Program.calls`: the calls that a program makes, with their answers
- `Session.enqueued`, `Session.delivered`: the chunks that a stream has queued and delivered
- `ReadableController.AccountsFor`: how the queue goes with what has been queued and delivered
- `Session.PassedInOrder`: the same for a stream of a session, which may be gone

## Main statements

- `ReadableController.AccountsFor.run`, `ReadableController.AccountsFor.takeReady`: what a source
  and a reader do
- `SourceDesk.accepted_run`, `TransformDesk.accepted_run`: the chunks that a guest's calls have
  queued
- `Session.preserves_withTransformer`, `Session.preserves_cancelAlgorithm` and their like: what
  comes to a stream from its source, its transformer and its consumer
-/

namespace EdgeStreams

variable {H E : Type}

/-! ### Calls that queue chunks -/

namespace Program

variable {Op : Type} {Answer : Op → Type} {α σ : Type}

/-- The calls that a program makes when they act on a state, each with its answer, last first. -/
def calls (perform : (op : Op) → σ → Answer op × σ) :
    Program Answer α → σ → List ((op : Op) × Answer op)
  | .done _, _ => []
  | .call op next, state =>
    (next (perform op state).1).calls perform (perform op state).2 ++ [⟨op, (perform op state).1⟩]

end Program

/-- The chunk that a source has queued by a call: one that is not empty, and whose call has
succeeded. -/
def SourceCall.queued? : (call : SourceCall) × call.Answer → Option Bytes
  | ⟨.enqueue chunk, (outcome : Except StreamError Unit)⟩ =>
    if outcome.isOk && !chunk.isEmpty then some chunk else none
  | _ => none

/-- The chunk that a transformer has queued by a call. -/
def TransformCall.queued? : (call : TransformCall) × call.Answer → Option Bytes
  | ⟨.enqueue chunk, (outcome : Except StreamError Unit)⟩ =>
    if outcome.isOk && !chunk.isEmpty then some chunk else none
  | _ => none

/-- What a source has been given to queue is what its calls have queued. By induction on the
calls. -/
theorem SourceDesk.accepted_run {α : Type} (program : Program SourceCall.Answer α)
    (desk : SourceDesk) : (program.run SourceDesk.perform desk).2.accepted =
      (program.calls SourceDesk.perform desk).filterMap SourceCall.queued? ++ desk.accepted := by
  induction program generalizing desk with
  | done result => rfl
  | call op next ih =>
    rw [Program.run, Program.calls, ih, List.filterMap_append, List.append_assoc]
    congr 1
    cases op with
    | enqueue chunk =>
      simp only [SourceDesk.perform, SourceDesk.enqueue, SourceCall.queued?, List.filterMap_cons,
        List.filterMap_nil]
      split <;> rfl
    | close | error | desiredSize => rfl

theorem TransformDesk.accepted_run {α : Type} (program : Program TransformCall.Answer α)
    (desk : TransformDesk) :
    (program.run TransformDesk.perform desk).2.accepted =
      (program.calls TransformDesk.perform desk).filterMap TransformCall.queued? ++
        desk.accepted := by
  induction program generalizing desk with
  | done result => rfl
  | call op next ih =>
    rw [Program.run, Program.calls, ih, List.filterMap_append, List.append_assoc]
    congr 1
    cases op with
    | enqueue chunk =>
      simp only [TransformDesk.perform, SourceDesk.enqueue, TransformCall.queued?,
        List.filterMap_cons, List.filterMap_nil]
      split <;> rfl
    | error | terminate | desiredSize => rfl

/-! ### The journal -/

namespace StreamEvent

/-- The chunk that a stream has queued. -/
def enqueued? (id : ReadableId) : StreamEvent → Option Bytes
  | .enqueued other chunk => if other = id then some chunk else none
  | _ => none

/-- The chunk that a reader of a stream has taken. -/
def delivered? (id : ReadableId) : StreamEvent → Option Bytes
  | .delivered other chunk => if other = id then some chunk else none
  | _ => none

end StreamEvent

/-- The chunk that a reader takes of what it finds. -/
def chunkFound : Except StreamError (Option ReadOutcome) → List Bytes
  | .ok (some (.chunk data)) => [data]
  | _ => []

namespace Session

variable {s : Session H E} {id : ReadableId}

/-- The chunks that a stream has queued, last first. -/
def enqueued (id : ReadableId) (s : Session H E) : List Bytes :=
  s.journal.filterMap (StreamEvent.enqueued? id)

/-- The chunks that the readers of a stream have taken, last first. -/
def delivered (id : ReadableId) (s : Session H E) : List Bytes :=
  s.journal.filterMap (StreamEvent.delivered? id)

theorem enqueued_noteEnqueued (id other : ReadableId) (chunks : List Bytes) (s : Session H E) :
    (noteEnqueued other chunks s).enqueued id =
      (if other = id then chunks else []) ++ s.enqueued id := by
  rw [enqueued, noteEnqueued, List.filterMap_append, enqueued, List.filterMap_map]
  congr 1
  split
  · next he => simp [StreamEvent.enqueued?, he]
  · next hne => simp [Function.comp_def, StreamEvent.enqueued?, hne]

theorem delivered_noteEnqueued (id other : ReadableId) (chunks : List Bytes) (s : Session H E) :
    (noteEnqueued other chunks s).delivered id = s.delivered id := by
  rw [delivered, noteEnqueued, List.filterMap_append, delivered, List.filterMap_map]
  simp [Function.comp_def, StreamEvent.delivered?]

theorem enqueued_noteDelivered (id other : ReadableId)
    (found : Except StreamError (Option ReadOutcome)) (s : Session H E) :
    (noteDelivered other found s).enqueued id = s.enqueued id := by
  unfold noteDelivered
  split <;> rfl

theorem delivered_noteDelivered (id other : ReadableId)
    (found : Except StreamError (Option ReadOutcome)) (s : Session H E) :
    (noteDelivered other found s).delivered id =
      (if other = id then chunkFound found else []) ++ s.delivered id := by
  unfold noteDelivered chunkFound
  split
  · by_cases he : other = id <;> simp [delivered, note, StreamEvent.delivered?, he]
  · simp

/-- A call on a source or a sink moves no chunk. -/
theorem enqueued_note {event : StreamEvent} (he : event.isCall = true) (id : ReadableId)
    (s : Session H E) : (note event s).enqueued id = s.enqueued id := by
  cases event <;> first | rfl | cases he

theorem delivered_note {event : StreamEvent} (he : event.isCall = true) (id : ReadableId)
    (s : Session H E) : (note event s).delivered id = s.delivered id := by
  cases event <;> first | rfl | cases he

end Session

/-! ### Controllers -/

namespace ReadableController

/-- What has been queued and what has been delivered, last first, and what waits. What neither waits
nor has been delivered was dropped by an error or a cancellation. -/
structure AccountsFor (put taken : List Bytes) (canceled : Bool) (controller : ReadableController) :
    Prop where
  nonempty : ∀ chunk ∈ put, chunk ≠ []
  order : put.reverse = taken.reverse ++ controller.queue ∨
    (canceled = true ∨ ∃ error, controller.state = .errored error) ∧ taken.reverse <+: put.reverse
  emptied : controller.state ≠ .readable → controller.queue = []
  shut : canceled = true → controller.state ≠ .readable
  closed : controller.state = .closed → canceled = true ∨ controller.closeRequested = true

variable {put taken : List Bytes} {canceled : Bool} {controller : ReadableController}

theorem state_of_unrefused (h : controller.refusal? = none) : controller.state = .readable := by
  unfold refusal? at h
  split at h
  · cases h
  · cases h
  · assumption

theorem AccountsFor.new (highWaterMark : UInt64) : AccountsFor [] [] false { highWaterMark } where
  nonempty := nofun
  order := .inl rfl
  emptied _ := rfl
  shut := nofun
  closed := nofun

namespace AccountsFor

/-- What has been delivered comes first. -/
theorem delivered_prefix (h : controller.AccountsFor put taken canceled) :
    taken.reverse <+: put.reverse := by
  rcases h.order with h | ⟨-, h⟩
  · exact ⟨controller.queue, h.symm⟩
  · exact h

/-- Nothing is missing in a stream that is readable. -/
theorem order_of_readable (h : controller.AccountsFor put taken canceled)
    (hs : controller.state = .readable) : put.reverse = taken.reverse ++ controller.queue := by
  rcases h.order with h' | ⟨hc | ⟨error, herror⟩, -⟩
  · exact h'
  · exact absurd hs (h.shut hc)
  · rw [hs] at herror
    cases herror

/-- Nothing is missing in a stream that has ended and has not been cancelled. -/
theorem eq_of_closed (h : controller.AccountsFor put taken canceled)
    (hs : controller.state = .closed) (hc : canceled = false) : put = taken := by
  rcases h.order with h' | ⟨hc' | ⟨error, herror⟩, -⟩
  · rw [h.emptied (by simp [hs]), List.append_nil] at h'
    exact List.reverse_injective h'
  · rw [hc] at hc'
    cases hc'
  · rw [hs] at herror
    cases herror

/-! ### Calls of a source -/

theorem enqueue (h : controller.AccountsFor put taken canceled) (chunk : Bytes) :
    (controller.enqueue chunk).2.AccountsFor
      ((if (controller.enqueue chunk).1.isOk && !chunk.isEmpty then [chunk] else []) ++ put) taken
      canceled := by
  cases hrefusal : controller.refusal? with
  | some error => simpa [ReadableController.enqueue, hrefusal, Except.isOk, Except.toBool] using h
  | none =>
    have hs := state_of_unrefused hrefusal
    by_cases hchunk : chunk = []
    · simpa [ReadableController.enqueue, hrefusal, hchunk] using h
    · simp only [ReadableController.enqueue, hrefusal, Except.isOk, Except.toBool, hchunk,
        List.isEmpty_iff, if_false, Bool.not_eq_true', Bool.true_and,
        List.isEmpty_eq_false_iff, ne_eq, not_false_eq_true, if_true, List.singleton_append]
      constructor
      · simpa [hchunk] using h.nonempty
      · exact .inl (by simp [h.order_of_readable hs])
      · exact fun hne => absurd hs hne
      · exact h.shut
      · exact h.closed

theorem close (h : controller.AccountsFor put taken canceled) :
    controller.close.2.AccountsFor put taken canceled := by
  cases hrefusal : controller.refusal? with
  | some error => simpa [ReadableController.close, hrefusal] using h
  | none =>
    have hs := state_of_unrefused hrefusal
    simp only [ReadableController.close, hrefusal]
    refine ⟨h.nonempty, .inl (h.order_of_readable hs), fun hne => ?_, fun hc => ?_,
      fun _ => .inr rfl⟩
    · simpa using hne
    · exact absurd hs (h.shut hc)

theorem error (h : controller.AccountsFor put taken canceled) (error : StreamError) :
    (controller.error error).AccountsFor put taken canceled := by
  cases hs : controller.state with
  | closed | errored => simpa [ReadableController.error, hs] using h
  | readable =>
    simp only [ReadableController.error, hs, ReadableController.clear]
    exact ⟨h.nonempty, .inr ⟨.inr ⟨error, rfl⟩, h.delivered_prefix⟩, fun _ => rfl,
      (fun _ h => by cases h), fun h => by cases h⟩

/-- One call of a source. -/
theorem perform (desk : SourceDesk)
    (h : desk.controller.AccountsFor (desk.accepted ++ put) taken canceled) (call : SourceCall) :
    (SourceDesk.perform call desk).2.controller.AccountsFor
      ((SourceDesk.perform call desk).2.accepted ++ put) taken canceled := by
  cases call with
  | enqueue chunk =>
    have hqueued := h.enqueue chunk
    simp only [SourceDesk.perform, SourceDesk.enqueue]
    split
    · next hnew => simpa [hnew] using hqueued
    · next hnone => simpa [hnone] using hqueued
  | close => exact h.close
  | error error => exact h.error error
  | desiredSize => exact h

/-- One call of a transformer. -/
theorem performTransform (desk : TransformDesk)
    (h : desk.controller.AccountsFor (desk.accepted ++ put) taken canceled) (call : TransformCall) :
    (TransformDesk.perform call desk).2.controller.AccountsFor
      ((TransformDesk.perform call desk).2.accepted ++ put) taken canceled := by
  cases call with
  | enqueue chunk => exact AccountsFor.perform desk.toSourceDesk h (.enqueue chunk)
  | error error => exact h.error error
  | terminate => exact h.close
  | desiredSize => exact h

/-- Whatever calls a source makes. -/
theorem run {α : Type} (h : controller.AccountsFor put taken canceled)
    (program : Program SourceCall.Answer α) :
    (program.run SourceDesk.perform { controller }).2.controller.AccountsFor
      ((program.run SourceDesk.perform { controller }).2.accepted ++ put) taken canceled :=
  program.run_preserves SourceDesk.perform
    (fun desk => desk.controller.AccountsFor (desk.accepted ++ put) taken canceled)
    (fun call desk h => AccountsFor.perform desk h call) { controller } h

/-- Whatever calls a transformer makes. -/
theorem runTransform {α : Type} (desk : TransformDesk)
    (h : desk.controller.AccountsFor (desk.accepted ++ put) taken canceled)
    (program : Program TransformCall.Answer α) :
    (program.run TransformDesk.perform desk).2.controller.AccountsFor
      ((program.run TransformDesk.perform desk).2.accepted ++ put) taken canceled :=
  program.run_preserves TransformDesk.perform
    (fun desk => desk.controller.AccountsFor (desk.accepted ++ put) taken canceled)
    (fun call desk h => performTransform desk h call) desk h

/-! ### What a reader takes -/

theorem takeReady (h : controller.AccountsFor put taken canceled) :
    controller.takeReady.2.AccountsFor put
    (chunkFound controller.takeReady.1 ++ taken) canceled := by
  cases hs : controller.state with
  | closed | errored => simpa [ReadableController.takeReady, hs, chunkFound] using h
  | readable =>
    cases hq : controller.queue with
    | nil => simpa [ReadableController.takeReady, hs, dequeue, hq, chunkFound] using h
    | cons chunk rest =>
      have horder := h.order_of_readable hs
      rw [hq] at horder
      simp only [ReadableController.takeReady, hs, dequeue, hq, chunkFound, List.singleton_append]
      refine ⟨h.nonempty, .inl (by simp [horder]), fun hne => ?_, fun hc => ?_, fun hclosed => ?_⟩
      · simp only [Bool.and_eq_true, List.isEmpty_iff, ne_eq, ite_eq_right_iff, not_forall] at hne
        exact hne.1.2
      · exact absurd hs (h.shut hc)
      · simp only [Bool.and_eq_true, List.isEmpty_iff] at hclosed
        split at hclosed
        · next hended => exact .inr hended.1
        · cases hclosed

theorem cancel (h : controller.AccountsFor put taken false) (hs : controller.state = .readable) :
    controller.cancel.AccountsFor put taken true := by
  simp only [ReadableController.cancel, hs, ReadableController.clear]
  exact ⟨h.nonempty, .inr ⟨.inl rfl, h.delivered_prefix⟩, fun _ => rfl, nofun, fun _ => .inl rfl⟩

end AccountsFor

end ReadableController

/-! ### Sessions -/

namespace Session

/-- What a stream has queued and delivered, last first, and what is left of it. -/
inductive Passed (put taken : List Bytes) : Option (Source E) → Prop
  | lives {source : Source E} : source.controller.AccountsFor put taken source.canceled →
    Passed put taken (some source)
  | gone : (∀ chunk ∈ put, chunk ≠ []) → taken.reverse <+: put.reverse → Passed put taken none

/-- What a stream has queued and delivered since some session has passed through it in order. -/
def PassedInOrder (id : ReadableId) (first t : Session H E) : Prop :=
  ∃ put taken, t.enqueued id = put ++ first.enqueued id ∧
    t.delivered id = taken ++ first.delivered id ∧ Passed put taken (t.streams.source? id)

variable {id other : ReadableId} {source source' : Source E} {first s t : Session H E}

namespace PassedInOrder

/-- Nothing has happened to the stream. -/
theorem congr (h : PassedInOrder id first s) (hs : t.streams.source? id = s.streams.source? id)
    (hput : t.enqueued id = s.enqueued id) (htaken : t.delivered id = s.delivered id) :
    PassedInOrder id first t := by
  obtain ⟨put, taken, hp, ht, hpassed⟩ := h
  exact ⟨put, taken, hput.trans hp, htaken.trans ht, hs ▸ hpassed⟩

/-- Some stream has changed. -/
theorem change (h : PassedInOrder id first s) (hs : s.streams.source? other = some source)
    (source' : Source E) (new out : List Bytes)
    (ht : t.streams.source? id =
      if id = other then some source' else s.streams.source? id)
    (hput : t.enqueued id = (if other = id then new else []) ++ s.enqueued id)
    (htaken : t.delivered id = (if other = id then out else []) ++ s.delivered id)
    (hc : ∀ {put taken}, source.controller.AccountsFor put taken source.canceled →
      source'.controller.AccountsFor (new ++ put) (out ++ taken) source'.canceled) :
    PassedInOrder id first t := by
  by_cases he : other = id
  · subst he
    obtain ⟨put, taken, hp, htk, hpassed⟩ := h
    rw [if_pos rfl] at ht hput htaken
    rw [hs] at hpassed
    cases hpassed with
    | lives hinOrder =>
      exact ⟨new ++ put, out ++ taken, by rw [hput, hp, List.append_assoc],
        by rw [htaken, htk, List.append_assoc], ht ▸ .lives (hc hinOrder)⟩
  · rw [if_neg (Ne.symm he)] at ht
    rw [if_neg he, List.nil_append] at hput htaken
    exact h.congr ht hput htaken

/-- A source has changed and has neither queued nor delivered anything. -/
theorem setSource (h : PassedInOrder id first s) (hs : s.streams.source? other = some source)
    (source' : Source E)
    (hc : ∀ {put taken}, source.controller.AccountsFor put taken source.canceled →
      source'.controller.AccountsFor put taken source'.canceled) :
    PassedInOrder id first (setSource other source' s) := by
  refine h.change hs source' [] [] ?_ (by simp; rfl) (by simp; rfl) hc
  simp [Registry.source?_setSource, hs]

/-- A source has worked at its controller. -/
theorem feed (h : PassedInOrder id first s) (hs : s.streams.source? other = some source)
    {controller : ReadableController} {chunks : List Bytes}
    (hc : ∀ {put taken}, source.controller.AccountsFor put taken source.canceled →
      controller.AccountsFor (chunks ++ put) taken source.canceled) :
    PassedInOrder id first
      (noteEnqueued other chunks (Session.setSource other { source with controller } s)) := by
  refine h.change hs { source with controller } chunks [] ?_
    (enqueued_noteEnqueued ..) ((delivered_noteEnqueued ..).trans (by simp; rfl)) hc
  simp [Registry.source?_setSource, hs]

/-- A reader takes what is ready. -/
theorem takeReady (h : PassedInOrder id first s) (other : ReadableId) :
    PassedInOrder id first (exec (takeReady other) s).2 := by
  cases hs : s.streams.source? other with
  | none => simpa [Session.takeReady, exec_bind, hs] using h
  | some source =>
    rw [exec_takeReady hs]
    refine h.change hs { source with controller := source.controller.takeReady.2 } []
      (chunkFound source.controller.takeReady.1) ?_ ?_ ?_ (·.takeReady)
    · simp [Registry.source?_setSource, hs]
    · rw [enqueued_noteDelivered]
      simp
      rfl
    · exact delivered_noteDelivered ..

/-- A call on a source or a sink is entered in the journal. -/
theorem note (h : PassedInOrder id first s) {event : StreamEvent} (he : event.isCall = true) :
    PassedInOrder id first (note event s) :=
      h.congr rfl (enqueued_note he id s) (delivered_note he id s)

/-- A sink changes. -/
theorem setSink (h : PassedInOrder id first s) (name : WritableId) (sink : Sink E) :
    PassedInOrder id first (setSink name sink s) := h.congr rfl rfl rfl

theorem modifySink (h : PassedInOrder id first s) (name : WritableId) (change : Sink E → Sink E) :
    PassedInOrder id first (mapStreams (fun streams => streams.modifySink name change) s) :=
  h.congr (by simp) rfl rfl

/-- A bridge changes. -/
theorem setBridge (h : PassedInOrder id first s) (name : BridgeId) (bridge : Bridge E) :
    PassedInOrder id first (setBridge name bridge s) := h.congr rfl rfl rfl

/-- A source fails. -/
theorem fail (h : PassedInOrder id first s) (other : ReadableId) (error : StreamError) :
    PassedInOrder id first (mapStreams (fun streams => streams.modifySource other fun source =>
      { source with controller := source.controller.error error }) s) := by
  cases hs : s.streams.source? other with
  | none => simpa [mapStreams, Registry.modifySource, hs] using h
  | some source =>
    simpa [mapStreams, Registry.modifySource, hs, Session.setSource] using
      h.setSource hs { source with controller := source.controller.error error } (·.error error)

end PassedInOrder

end Session

/-! ### What comes from sources, transformers and consumers -/

/-- A transformer hands on what it has been given to queue. -/
def TransformWork.KeepsAccounts (work : TransformWork E) : Prop :=
  ∀ (transformer : Transformer E) (env : E) {put taken : List Bytes} {canceled : Bool}
    {controller : ReadableController}, controller.AccountsFor put taken canceled →
      (work transformer env { controller }).2.controller.AccountsFor
        ((work transformer env { controller }).2.accepted ++ put) taken canceled

namespace TransformWork

theorem keepsAccounts_start : (start : TransformWork E).KeepsAccounts :=
    fun transformer env _ _ _ _ h =>
  .runTransform { controller := _ } h (transformer.start env)

theorem keepsAccounts_transform (chunk : Bytes) :
    (transform chunk : TransformWork E).KeepsAccounts :=
  fun transformer env _ _ _ _ h =>
    .runTransform { controller := _ } h (transformer.transform chunk env)

theorem keepsAccounts_flush : (flush : TransformWork E).KeepsAccounts := by
  intro transformer env put taken canceled controller h
  have hrun := ReadableController.AccountsFor.runTransform { controller } h (transformer.flush env)
  unfold flush
  split
  · next heq => exact (heq ▸ hrun).close
  · exact hrun

end TransformWork

/-- The source fails if its transformer has. -/
theorem ReadableController.AccountsFor.leftBy {put taken : List Bytes} {canceled : Bool}
    {worked : GuestResult E × TransformDesk}
    (h : worked.2.controller.AccountsFor put taken canceled) :
    (Session.leftBy worked).AccountsFor put taken canceled := by
  unfold Session.leftBy
  split
  · exact h.error _
  · exact h

namespace Session

variable {id other : ReadableId} {first s : Session H E}

/-- The writable half and the bridge may fail besides. -/
theorem PassedInOrder.transformed {bridge : Bridge E} {worked : GuestResult E × TransformDesk}
    {source : Source E} (h : PassedInOrder id first s) (name : BridgeId)
    (hs : s.streams.source? bridge.readable = some source)
    (hc : ∀ {put taken}, source.controller.AccountsFor put taken source.canceled →
      worked.2.controller.AccountsFor (worked.2.accepted ++ put) taken source.canceled) :
    PassedInOrder id first (transformed bridge worked s name source) := by
  have henv : PassedInOrder id first { s with env := worked.1.2 } := h.congr rfl rfl rfl
  have hfed : PassedInOrder id first (fed bridge worked s source) :=
    henv.feed hs fun hq => (hc hq).leftBy
  have hmarked : PassedInOrder id first
      (marked bridge worked (fed bridge worked s source) name) := by
    unfold marked
    split
    · exact hfed.setBridge _ _
    · exact hfed
  unfold Session.transformed spread
  split
  · exact hmarked.modifySink _ _
  · exact hmarked

theorem preserves_withTransformer (name : BridgeId) {work : TransformWork E}
    (hw : work.KeepsAccounts) : Preserves (PassedInOrder id first) (withTransformer name work) := by
  intro s h
  rw [exec_withTransformer]
  cases s.streams.bridge? name with
  | none => exact h
  | some bridge =>
    dsimp only
    cases hs : s.streams.source? bridge.readable with
    | none => exact h
    | some source =>
      dsimp only
      split
      · exact h
      · exact h.transformed name hs fun hq => hw _ _ hq

section Algorithms

variable [Host H]

theorem preserves_writeAlgorithm (name : WritableId) (chunk : Bytes) :
    Preserves (PassedInOrder id first) (writeAlgorithm name chunk) := by
  refine .sink fun s sink h _ => ?_
  cases sink.backing with
  | body handle => exact h.congr rfl rfl rfl
  | script guest => exact h.congr rfl rfl rfl
  | transform bridgeId =>
    refine Preserves.bridge (fun t bridge h _ => ?_) s h
    exact preserves_withTransformer bridgeId (TransformWork.keepsAccounts_transform chunk)
      _ (h.setBridge _ _)

theorem preserves_closeAlgorithm (name : WritableId) :
    Preserves (PassedInOrder id first) (closeAlgorithm name) := by
  refine .sink fun s sink h _ => ?_
  cases sink.backing with
  | body handle => exact h.congr rfl rfl rfl
  | script guest => exact h.congr rfl rfl rfl
  | transform bridgeId =>
    exact preserves_withTransformer bridgeId TransformWork.keepsAccounts_flush s h

theorem preserves_abortAlgorithm (name : WritableId) (reason : Option String) :
    Preserves (PassedInOrder id first) (abortAlgorithm name reason) := by
  refine .sink fun s sink h _ => ?_
  cases sink.backing with
  | body handle => exact h.congr rfl rfl rfl
  | script guest => exact h.congr rfl rfl rfl
  | transform bridgeId =>
    refine Preserves.bridge (fun t bridge h _ => ?_) s h
    exact (h.setBridge bridgeId { bridge with errored := true }).fail bridge.readable .aborted

theorem preserves_cancelAlgorithm (other : ReadableId) (reason : Option String) :
    Preserves (PassedInOrder id first) (cancelAlgorithm other reason) := by
  refine .source fun s source h _ => ?_
  cases source.backing with
  | body handle size => exact h.congr rfl rfl rfl
  | script guest => exact h.congr rfl rfl rfl
  | transform bridgeId =>
    refine Preserves.bridge (fun t bridge h _ => ?_) s h
    exact (h.setBridge bridgeId { bridge with errored := true }).modifySink _ _

theorem preserves_cancelUnchecked (other : ReadableId) (reason : Option String) :
    Preserves (PassedInOrder id first) (cancelUnchecked other reason) := by
  refine .source fun s source h hs => ?_
  have hmarked : PassedInOrder id first (setSource other { source with disturbed := true } s) :=
    h.setSource hs _ fun hq => hq
  cases hstate : source.controller.state with
  | closed => simpa only [hstate, exec_modify] using hmarked
  | errored error => simpa only [hstate, exec_bind, exec_modify, exec_throw] using hmarked
  | readable =>
    cases hcanceled : source.canceled with
    | true =>
      rw [hcanceled] at hmarked
      simpa only [hstate, if_true, exec_modify] using hmarked
    | false =>
      have hcancel : PassedInOrder id first (setSource other (canceledSource source) s) :=
        h.setSource hs _ fun hq => (hcanceled ▸ hq).cancel hstate
      simp only [hstate, Bool.false_eq_true, if_false]
      exact Preserves.noting (preserves_cancelAlgorithm other reason)
        (fun _ _ h => h.note rfl) _ hcancel

theorem preserves_pullBody (other : ReadableId) (handle : BodyHandle) (size : UInt64) :
    Preserves (PassedInOrder id first) (pullBody other handle size) := by
  refine .bind (fun s h => h.congr rfl rfl rfl) fun chunk => .source fun s source h hs => ?_
  split
  · exact h.setSource hs _ fun hq => hq.close
  · exact h.feed hs fun hq => ReadableController.AccountsFor.perform { controller := _ }
      hq (.enqueue chunk)

omit [Host H] in
/-- What comes into a stream from a guest is what the guest's calls have queued. -/
theorem enqueued_pullScript {source : Source E} (hs : s.streams.source? id = some source)
    (guest : UnderlyingSource E) :
    (exec (pullScript id guest) s).2.enqueued id =
      ((guest.pull s.env).calls SourceDesk.perform
        { controller := source.controller }).filterMap SourceCall.queued? ++ s.enqueued id := by
  have hrun := SourceDesk.accepted_run (guest.pull s.env) { controller := source.controller }
  rw [List.append_nil] at hrun
  rw [← hrun]
  simp only [pullScript, exec_bind, exec_source, hs]
  exact (enqueued_noteEnqueued ..).trans (by rw [if_pos rfl]; rfl)

omit [Host H] in
theorem preserves_pullScript (other : ReadableId) (guest : UnderlyingSource E) :
    Preserves (PassedInOrder id first) (pullScript other guest) := by
  refine .source fun s source h hs => ?_
  have henv : ∀ env, PassedInOrder id first { s with env } := fun _ => h.congr rfl rfl rfl
  exact (henv _).feed hs fun hq => hq.run (guest.pull s.env)

end Algorithms

end Session

end EdgeStreams
