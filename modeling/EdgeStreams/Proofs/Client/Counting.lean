import EdgeStreams.Proofs.Client.Public
import EdgeStreams.Proofs.Session.Counting

/-!
# Counting at every moment

Between two operations nothing waits for any sink. So what the controller of a sink counts shows
only while an operation is under way: between two of its deeds, and while a sink that has been
called is at work. At all these moments the controllers of all streams are consistent.

## Main definitions

- `SinkTask`: what a sink is called for
- `Session.Calls`: the calls that writing, ending and aborting a stream come to, with the session
  that each of them is made in
- `Session.Underway`: the sessions between two operations and in the course of an operation

## Main statements

- `Session.advanceRounds_of_not_called`: there are no other moments at which a sink is handed
  something
- `Session.Calls.consistent`: the controllers are consistent when a sink is called
- `Session.Underway.consistent`: they are at any moment
- `controllers_stay_consistent`: any changes of a controller, any moment of any operations

## Design notes

A sink is set to work before it is called, and a write has been taken out of the queue by then. The
moments at which a sink is called are those of `Session.advanceRounds`, `Session.settle` and
`Session.abortUnchecked`, in the order of their steps.
-/

namespace EdgeStreams

variable {H E : Type}

/-- What a sink is called for. -/
inductive SinkTask where
  | write (chunk : Bytes)
  | close
  | abort (reason : Option String)

/-- The sink may be set to work: it has been started, is not at work, and has neither ended nor
failed. -/
structure Sink.Free (sink : Sink E) : Prop where
  started : sink.start.isResolved = true
  waiting : sink.controller.inFlight = false
  unended : sink.controller.state.isTerminal = false

namespace Session

variable [Host H] {s t first : Session H E} {id : WritableId} {task : SinkTask}

/-! ### Calls on sinks -/

/-- A sink is called, and the outcome is entered in the journal. -/
def call (id : WritableId) : SinkTask → Action H E StreamError Unit
  | .write chunk => noting (.written id chunk) (writeAlgorithm id chunk)
  | .close => noting (.closed id) (closeAlgorithm id)
  | .abort reason => noting (.aborted id) (abortAlgorithm id reason)

theorem atWork_call (id : WritableId) (task : SinkTask) : Preserves (AtWork s) (call id task) := by
  cases task with
  | write chunk => exact atWork_noting _ (atWork_writeAlgorithm id chunk)
  | close => exact atWork_noting _ (atWork_closeAlgorithm id)
  | abort reason => exact atWork_noting _ (atWork_abortAlgorithm id reason)

/-- What a sink that is set to work is called for: its task, and then the abort that has come
meanwhile. -/
inductive Engages (id : WritableId) (sink : Sink E) (controller : WritableController)
    (task : SinkTask) (s : Session H E) : SinkTask → Session H E → Prop
  | task : Engages id sink controller task s task (engaged id sink controller s)
  | abort {later : Sink E} :
    (exec (call id task) (engaged id sink controller s)).2.streams.sink? id = some later →
      later.controller.abortRequested = true →
        Engages id sink controller task s (.abort none)
          (setSink id { later with
            controller := { later.controller with inFlight := false, abortRequested := false } }
              (exec (call id task) (engaged id sink controller s)).2)

/-- What a sink is called for in some rounds. -/
inductive HandsOver (id : WritableId) : Nat → Session H E → SinkTask → Session H E → Prop
  /-- The first write that waits is taken out and handed over. -/
  | write {rounds : Nat} {s t : Session H E} {sink : Sink E} {chunk : Bytes}
    {controller : WritableController} {task : SinkTask} :
    s.streams.sink? id = some sink → sink.Free →
      sink.controller.pop = some (chunk, controller) →
        Engages id sink controller (.write chunk) s task t → HandsOver id (rounds + 1) s task t
  /-- The other rounds come after a write that has succeeded. -/
  | later {rounds : Nat} {s t : Session H E} {sink : Sink E} {chunk : Bytes}
    {controller : WritableController} {task : SinkTask} :
    s.streams.sink? id = some sink → sink.Free →
      sink.controller.pop = some (chunk, controller) →
        (exec (engage id sink controller (call id (.write chunk))) s).1 = .ok () →
          HandsOver id rounds (exec (engage id sink controller (call id (.write chunk))) s).2 task
            t → HandsOver id (rounds + 1) s task t
  /-- Nothing waits any more, and the end comes. -/
  | close {rounds : Nat} {s t : Session H E} {sink : Sink E} {task : SinkTask} :
    s.streams.sink? id = some sink → sink.Free → sink.controller.pop = none →
      sink.controller.state = .closing → Engages id sink sink.controller .close s task t →
        HandsOver id (rounds + 1) s task t

/-- Rounds in which the sink is not called change nothing. -/
theorem advanceRounds_of_not_called {rounds : Nat} (h : ∀ task t, ¬ HandsOver id rounds s task t) :
    (exec (advanceRounds id rounds) s).2 = s := by
  cases rounds with
  | zero => rfl
  | succ rounds =>
    simp only [advanceRounds, exec_bind, exec_sink]
    cases hs : s.streams.sink? id with
    | none => rfl
    | some sink =>
      simp only [Registry.need_some]
      split
      · rfl
      · next hready =>
        simp only [Bool.or_eq_true, Bool.not_eq_true', not_or, Bool.not_eq_true,
          Bool.not_eq_false] at hready
        split
        · rfl
        · rfl
        · next herrored hclosed =>
          have hfree : sink.Free := by
            refine ⟨hready.2, hready.1, ?_⟩
            cases hstate : sink.controller.state with
            | closed => exact absurd hstate hclosed
            | errored error => exact absurd hstate (herrored error)
            | writable | closing => rfl
          split
          -- the task itself is the first call of a sink that is set to work
          · next hpop => exact absurd (.write hs hfree hpop .task) (h _ _)
          · next hpop =>
            split
            · next hclosing => exact absurd (.close hs hfree hpop hclosing .task) (h _ _)
            · rfl

/-- What a sink is called for when its stream is written, ended or aborted. -/
inductive Calls (id : WritableId) (s : Session H E) : SinkTask → Session H E → Prop
  | write {sink : Sink E} {chunk : Bytes} {task : SinkTask} {t : Session H E} :
    s.streams.sink? id = some sink → sink.controller.state = .writable →
      (∀ error, sink.start ≠ .rejected error) →
        HandsOver id ((sink.controller.push chunk).pending.length + 1)
          (setSink id { sink with controller := sink.controller.push chunk } s) task t →
            Calls id s task t
  | close {sink : Sink E} {task : SinkTask} {t : Session H E} :
    s.streams.sink? id = some sink → sink.controller.state = .writable →
      HandsOver id (sink.controller.pending.length + 1)
        (setSink id { sink with controller := { sink.controller with state := .closing } } s)
          task t → Calls id s task t
  | abort {sink : Sink E} (reason : Option String) : s.streams.sink? id = some sink →
    sink.controller.state.isTerminal = false → sink.controller.inFlight = false →
      Calls id s (.abort reason)
        (setSink id { sink with controller := sink.controller.error .aborted } s)

theorem Engages.consistent {sink : Sink E} {controller : WritableController} {work : SinkTask}
    (h : Engages id sink controller work s task t) (hs : s.Consistent)
    (hc : controller.Consistent) :
    t.Consistent := by
  have hengaged := hs.engaged id sink hc
  cases h with
  | task => exact hengaged
  | abort hlater _ =>
    have hworked := (atWork_call id work _ .refl).consistent hengaged
    exact hworked.setSink id ((hworked.sink hlater).flagged false false)

/-- By induction on the rounds. -/
theorem HandsOver.consistent {rounds : Nat} (h : HandsOver id rounds s task t) (hs : s.Consistent) :
    t.Consistent := by
  induction h with
  | write hsink _ hpop hengages => exact hengages.consistent hs ((hs.sink hsink).pop hpop)
  | @later rounds s t sink chunk controller task hsink _ hpop _ _ ih =>
    have hengaged := hs.engaged id sink ((hs.sink hsink).pop hpop)
    have hwork := atWork_engage (s := s) id sink controller fun _ => atWork_call id (.write chunk)
    exact ih (hwork.consistent hengaged)
  | close hsink _ _ _ hengages => exact hengages.consistent hs (hs.sink hsink)

/-- When a sink is called, the controllers of all streams are consistent. -/
theorem Calls.consistent (h : Calls id s task t) (hs : s.Consistent) : t.Consistent := by
  cases h with
  | @write sink chunk _ _ hsink hwritable _ hreadInOrder =>
    have hopen : sink.controller.state.isTerminal = false := by rw [hwritable]; rfl
    exact hreadInOrder.consistent (hs.setSink id ((hs.sink hsink).push hopen chunk))
  | @close sink _ _ hsink _ hreadInOrder =>
    have hclosing : WritableController.Consistent { sink.controller with state := .closing } :=
      ⟨(hs.sink hsink).counted, fun hterminal => by cases hterminal⟩
    exact hreadInOrder.consistent (hs.setSink id hclosing)
  | abort reason hsink _ _ => exact hs.setSink id ((hs.sink hsink).error .aborted)

/-! ### Moments of operations -/

/-- By induction on the operations. -/
theorem LeadsTo.consistent (h : s.LeadsTo t) (hr : s.Resting) (hs : s.Consistent) :
    t.Consistent := by
  induction h with
  | refl => exact hs
  | step hleads hoperation _ ih => exact hoperation.consistent (hleads.resting hr) ih

/-- The sessions that operations of all kinds lead to, and those in the course of an operation. -/
inductive Underway (first : Session H E) : Session H E → Prop
  | rest {s : Session H E} : Operates first s → Underway first s
  /-- A pipe has been opened and is not yet driven. -/
  | opened {s : Session H E} (source : ReadableId) (destination : WritableId)
      (options : PipeOptions) : Operates first s → Underway first { s with
      streams := (exec (Registry.openPipe source destination options) s.streams).2 }
  /-- A transform stream has been entered, and its transformer is not yet started. -/
  | entered {s : Session H E} (transformer : Transformer E) : Operates first s →
    Underway first { s with streams := (enterTransform transformer s.streams).2 }
  | deed {s t : Session H E} {made : List (WritableId × Bytes)} : Underway first s → Deed s made t →
    Underway first t
  /-- A sink is called. -/
  | called {s t : Session H E} {id : WritableId} {task : SinkTask} : Underway first s →
    Calls id s task t → Underway first t
  /-- A sink is at work, or a transformer that is started. -/
  | works {s t : Session H E} : Underway first s → AtWork s t → Underway first t

/-- At every moment the controllers of all streams are consistent. By induction on the moments. -/
theorem Underway.consistent (h : Underway first s) (hr : first.Resting)
    (hfirst : first.Consistent) : s.Consistent := by
  -- a pipe is opened, and a transform stream entered, in a session at rest
  have hrest : ∀ {s}, Operates first s → s.Resting ∧ s.Consistent := fun hoperates =>
    ⟨hoperates.leads.resting hr, LeadsTo.consistent hoperates.leads hr hfirst⟩
  induction h with
  | rest hoperates => exact (hrest hoperates).2
  | opened source destination options hoperates =>
    obtain ⟨hresting, hs⟩ := hrest hoperates
    exact hs.turnover (.openPipe hresting.wellFormed source destination options)
      (Registry.makesNone_openPipe _ source destination options)
  | entered transformer hoperates =>
    obtain ⟨hresting, hs⟩ := hrest hoperates
    exact consistent_enterTransform hresting.wellFormed hs transformer
  | deed _ hdeed ih => exact hdeed.consistent ih
  | called _ hcalls ih => exact hcalls.consistent ih
  | works _ hwork ih => exact hwork.consistent ih

end Session

/-- A consumer that counts the bytes it is given. -/
def countingSink : UnderlyingSink Nat where
  write chunk env := (.ok (), env + chunk.length)

/-- A host of bodies, with guests that count. -/
def countingSession : Session MemoryHost Nat where
  host := {}
  env := 0
  streams := .new {}

/-- Whatever is done to a new readable controller, its count is the sum of what is queued, no empty
chunk is queued, nothing is queued once it has ended or failed, and where an end has been requested
it can be read exactly as long as something is queued. So a chunk that is taken out never takes off
more than is counted, and a requested end comes with the last chunk. The same goes, at every moment
of any operations, for the readable streams of a registry; and the writable ones count what waits
for their sinks, which is nothing once they have ended or failed. That is so when a sink is called,
and whatever it does then. -/
theorem controllers_stay_consistent [Host H] (host : H) (env : E) (config : StreamConfig) :
    (∀ (highWaterMark : UInt64) (changes : List ReadableController.Change)
        (controller : ReadableController),
      (changes.map ReadableController.Change.offered).sum < 2 ^ 64 →
        controller = ReadableController.changedBy { highWaterMark } changes →
          controller.Consistent ∧ controller.queuedBytes < 2 ^ 64 ∧
            ∀ chunk rest, controller.dequeue = some (chunk, rest) →
              controller.queuedBytes = chunk.length + rest.queuedBytes ∧
                (controller.closeRequested = true → (rest.state = .closed ↔ rest.queue = []))) ∧
    (∀ s, Session.Underway { host, env, streams := .new config } s → s.streams.Consistent) ∧
    ∀ s id task t, Session.Underway { host, env, streams := .new config } s →
      Session.Calls id s task t → t.streams.Consistent ∧
      t.AtWork (exec (Session.call id task) t).2 := by
  have hunderway : ∀ s, Session.Underway { host, env, streams := .new config } s →
      s.streams.Consistent := fun s h =>
    h.consistent (Session.resting_new host env config) (Registry.consistent_new config)
  refine ⟨?_, hunderway, ?_⟩
  · rintro highWaterMark changes controller hoffered rfl
    have hconsistent := ReadableController.consistent_changedBy highWaterMark changes
    have hcounted := ReadableController.queuedBytes_changedBy_le { highWaterMark } changes
    have hnone : ({ highWaterMark } : ReadableController).queuedBytes = 0 := rfl
    exact ⟨hconsistent, by omega, fun chunk rest hd => hconsistent.dequeue_eq hd⟩
  · intro s id task t hs hcalls
    exact ⟨hcalls.consistent (hunderway s hs), Session.atWork_call id task t .refl⟩

theorem controllers_stay_consistent_at_work :
    (ReadableController.changedBy { highWaterMark := 0 }
      [.enqueue [1, 2], .close, .enqueue [3], .dequeue]).Consistent ∧
    ∃ id, ∃ s t : Session MemoryHost Nat, s.streams.Consistent ∧
      Session.Calls id s (.write [1, 2, 3]) t ∧ t.streams.Consistent ∧
        t.AtWork (exec (Session.call id (.write [1, 2, 3])) t).2 := by
  obtain ⟨hchanges, hmoments, hcalls⟩ := controllers_stay_consistent
    countingSession.host countingSession.env {}
  refine ⟨(hchanges 0 _ _ (by decide) rfl).1, ?_⟩
  have hrest : Session.Underway countingSession
      (Session.scriptSink countingSink countingSession).2 :=
    .rest (.operationStep (.refl _) (.operate (.scriptSink countingSink) 0 rfl))
  have hcall : Session.Calls (Session.scriptSink countingSink countingSession).1
      (Session.scriptSink countingSink countingSession).2 (.write [1, 2, 3]) _ :=
    .write rfl rfl (fun error h => by cases h) (.write rfl ⟨rfl, rfl, rfl⟩ rfl .task)
  exact ⟨_, _, _, hmoments _ hrest, hcall, hcalls _ _ _ _ hrest hcall⟩

end EdgeStreams
