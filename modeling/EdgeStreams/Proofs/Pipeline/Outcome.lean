import EdgeStreams.Proofs.Pipeline.Schedule

/-!
# What comes of a pipeline

Whatever is done to a pipeline, what has come out of it is the beginning of what it was given; as
long as no host call fails, the rest is still on its way. Once all pipes have been started and
driven, the pipeline has settled from end to end, and what failed has failed the last pipe.

## Main definitions

- `Pipeline.written`, `Pipeline.queued`, `Pipeline.unread`: where the octets are
- `Pipeline.PipeFinished`: a pipe has finished
- `Pipeline.Settled`: nothing can happen to a pipeline any more

## Main statements

- `pipeline_keeps_octets`: while no host call fails
- `pipeline_settles`: whatever host calls fail
-/

namespace EdgeStreams

variable {E : Type}

/-- The octets in the queue of a readable stream. -/
def Session.queuedIn (s : Session MemoryHost E) (id : ReadableId) : Bytes :=
  ((s.streams.source? id).map fun source => source.controller.queue.flatten).getD []

namespace Pipeline

variable (p : Pipeline) (s : Session MemoryHost E)

/-- What has come out of a pipeline. -/
def written : Option Bytes := s.host.bodyContents? p.destination

/-- What is queued in the readable halves up to one of them, which comes first. -/
def queuedUpto : Nat → Bytes
  | 0 => []
  | i + 1 => s.queuedIn (p.readable (i + 1)) ++ queuedUpto i

/-- What is queued in the readable halves, the last of them first. -/
def queued : Bytes := p.queuedUpto s p.length

/-- What has not been read from the host body. -/
def unread : Bytes := ((s.host.bodies.find? p.origin.raw).map MemoryBody.unread).getD []

/-- The pipe of a number has finished in one of some states. Its entry is there, unless it may have
been swept. -/
structure PipeFinished (i : Nat) (swept : Prop) (states : PipeState → Prop) : Prop where
  state : ∀ id pipe, s.streams.pipe? id = some pipe → pipe.destination = p.writable i →
    pipe.source = p.readable i ∧ states pipe.state
  entered : swept ∨ ∃ id pipe, s.streams.pipe? id = some pipe ∧ pipe.destination = p.writable i

/-- No pipe is running, every stream of the pipeline has ended or failed and is unlocked, and the
last pipe tells whether everything has come out. -/
structure Settled (content : Bytes) (swept : Prop) : Prop where
  quiet : ∀ id pipe, s.streams.pipe? id = some pipe → pipe.isRunning = false
  pipe : ∀ i, i ≤ p.length → p.PipeFinished s i swept (· ≠ .running)
  readable : ∀ i, i ≤ p.length → ∃ source, s.streams.source? (p.readable i) = some source ∧
    source.controller.state ≠ .readable ∧ source.readerLock = none
  writable : ∀ i, i ≤ p.length → ∃ sink, s.streams.sink? (p.writable i) = some sink ∧
    sink.controller.state.isTerminal = true ∧ sink.writerLock = none
  last : ∀ id pipe, s.streams.pipe? id = some pipe → pipe.destination = p.sink →
    (pipe.state = .done ↔ p.written s = some content ∧ s.host.bodyIsClosed p.destination = true)

end Pipeline

namespace Supply

variable {supply : Supply} {taken incoming : Bytes} {controller : ReadableController}

theorem Shows.queue_eq (h : supply.Shows controller) : controller.queue = supply.queue := by
  cases supply with
  | flowing queue => exact h.2.2
  | draining queue => exact h.2.2.1
  | ended | canceled | failed error => exact h.2

/-- While nothing is lost, what has come in has been taken or is queued. -/
theorem Accounts.eq_append (h : supply.Accounts taken incoming) (hh : supply.IsHealthy) :
    incoming = taken ++ supply.queue.flatten := by
  cases supply with
  | flowing queue | draining queue => exact h
  | ended => exact (show incoming = taken from h).trans (List.append_nil _).symm
  | canceled | failed error => exact hh.elim

end Supply

namespace Passage

variable {p : Passage} {s : Session MemoryHost E} {below : List Cell} {last cell : Cell}
variable {intake : Intake} {i : Nat} {lock : Option WriterToken}

/-! ### No octet is lost -/

/-- While no host call fails, a pipe hands on what it takes. -/
theorem Joins.octets_eq (h : p.Joins cell intake) (hu : ∀ error, intake.state ≠ .errored error) :
    intake.octets = cell.taken := by
  have hcarried := h.carried
  cases hstate : intake.state with
  | writable | closed => simp only [hstate] at hcarried; exact hcarried.1
  | closing => rw [hstate] at hcarried; exact hcarried.elim
  | errored error => exact absurd hstate (hu error)

theorem Crossing.unbroken (h : p.Crossing i cell intake lock s) (hc : p.calm)
    (error : StreamError) : intake.state ≠ .errored error := fun hstate => by
  have hhealthy := h.healthy hc
  have hanswers := h.answers
  rw [hstate] at hanswers
  cases hsupply : cell.supply with
  | flowing queue | draining queue | ended => rw [hsupply] at hanswers; cases hanswers
  | canceled | failed error => rw [hsupply] at hhealthy; exact hhealthy

/-- The queues of all streams but the source hold what is on its way. -/
theorem Upto.queuedUpto (h : p.Upto below cell s) (hr : cell.Rests below) :
    ((cell :: below).flatMap fun cell => cell.supply.queue.flatten) =
      p.toPipeline.queuedUpto s below.length := by
  induction below generalizing cell with
  | nil => simp [hr.dry rfl, Pipeline.queuedUpto]
  | cons last below ih =>
    obtain ⟨hlast, hrests, -, intake, hcross, -⟩ := h
    obtain ⟨source, hs, -, hstands⟩ := hcross.source
    have hqueued : s.queuedIn (p.readable (below.length + 1)) = cell.supply.queue.flatten := by
      rw [Session.queuedIn, hs, Option.map_some, Option.getD_some, hstands.shows.queue_eq]
    rw [List.flatMap_cons, ih hlast hrests, ← hqueued]
    rfl

/-- While no host call fails, every octet has been taken at the end, is queued on the way or has not
been read. -/
theorem Upto.conserved (h : p.Upto below cell s) (hc : p.calm) :
    cell.taken ++ ((cell :: below).flatMap fun cell => cell.supply.queue.flatten) ++
      p.toPipeline.unread s = p.content := by
  induction below generalizing cell with
  | nil =>
    obtain ⟨body, entered, hfound, ⟨hcontent, -⟩, haccounts, -⟩ := Spring.origin h
    have hentered := haccounts.eq_append (Spring.healthy h hc)
    rw [Pipeline.unread, hfound, Option.map_some, Option.getD_some, hcontent, hentered]
    simp
  | cons last below ih =>
    obtain ⟨hlast, -, -, intake, hcross, hjoins⟩ := h
    have hoctets := hjoins.octets_eq (hcross.unbroken hc)
    have hentered := hcross.accounts.eq_append (hcross.healthy hc)
    rw [List.flatMap_cons, ← List.append_assoc, ← hentered, hoctets]
    exact ih hlast

/-- A stream that has ended has given everything. -/
theorem Upto.taken_of_ended (h : p.Upto below cell s) (he : cell.supply = .ended) :
    cell.taken = p.content := by
  induction below generalizing cell with
  | nil =>
    obtain ⟨body, entered, -, ⟨hcontent, -⟩, haccounts, -, hend⟩ := Spring.origin h
    rw [he] at haccounts hend
    rw [hcontent, hend trivial fun ho => ho, List.append_nil]
    exact haccounts.symm
  | cons last below ih =>
    obtain ⟨hlast, -, -, intake, hcross, hjoins⟩ := h
    have hanswers := hcross.answers
    have haccounts := hcross.accounts
    have hcarried := hjoins.carried
    rw [he] at hanswers haccounts
    simp only [show intake.state = .closed from hanswers] at hcarried
    rw [← show intake.octets = cell.taken from haccounts, hcarried.1]
    exact ih hlast hcarried.2.2

/-- While no host call fails, no octet is lost. -/
theorem Holds.conserved (h : p.Holds below last s) (hc : p.calm) :
    ∃ written, p.toPipeline.written s = some written ∧
      written ++ p.toPipeline.queued s ++ p.toPipeline.unread s = p.content := by
  obtain ⟨intake, hmouth, hjoins⟩ := h.mouth
  obtain ⟨body, hfound, hcontents, -⟩ := hmouth.basin.body
  refine ⟨last.taken, ?_, ?_⟩
  · rw [Pipeline.written, MemoryHost.bodyContents?, hfound, Option.map_some, hcontents,
      hjoins.octets_eq (hmouth.basin.unbroken hc)]
  · rw [Pipeline.queued, show p.toPipeline.length = below.length from h.length.symm,
      ← h.upto.queuedUpto h.resting]
    exact h.upto.conserved hc

/-- What has come out of a pipeline is the beginning of what it was given. -/
theorem Holds.written_prefix (h : p.Holds below last s) :
    ∃ written, p.toPipeline.written s = some written ∧ written <+: p.content := by
  obtain ⟨intake, hmouth, hjoins⟩ := h.mouth
  obtain ⟨body, hfound, hcontents, -⟩ := hmouth.basin.body
  refine ⟨intake.octets, ?_, hjoins.octets_prefix.trans h.upto.taken_prefix⟩
  rw [Pipeline.written, MemoryHost.bodyContents?, hfound, Option.map_some, hcontents]

/-! ### Once all pipes have finished -/

theorem Joins.terminal (h : p.Joins cell intake) (hf : cell.link.IsFinished) :
    intake.state.isTerminal = true := by
  have hcarried := h.carried
  cases hstate : intake.state with
  | writable => rw [hstate] at hcarried; exact absurd hf hcarried.2
  | closing => rw [hstate] at hcarried; exact hcarried.elim
  | closed | errored error => rfl

theorem Holds.length_cells (h : p.Holds below last s) : (last :: below).length = p.length + 1 :=
  congrArg (· + 1) h.length

/-- Where all pipes have finished, the pipeline has settled. -/
theorem Holds.settled (h : p.Holds below last s)
    (hall : ∀ cell ∈ last :: below, cell.link.IsFinished) :
    p.toPipeline.Settled s p.content p.swept := by
  -- what there is at each number
  have hat : ∀ i, i ≤ p.length → ∃ above cell rest, last :: below = above ++ cell :: rest ∧
      rest.length = i ∧ ∃ outcome, cell.link = .finished outcome := by
    intro i hi
    obtain ⟨above, cell, rest, he, hrest⟩ := exists_split
      (show i < (last :: below).length by rw [h.length_cells]; omega)
    have hfinished := hall cell (by rw [he]; simp)
    cases hlink : cell.link with
    | idle | running id reader writer => rw [hlink] at hfinished; exact hfinished.elim
    | finished outcome => exact ⟨above, cell, rest, he, hrest, outcome, hlink⟩
  refine ⟨fun id pipe hs => ?_, fun i hi => ?_, fun i hi => ?_, fun i hi => ?_, ?_⟩
  · refine Bool.eq_false_iff.mpr fun hr => ?_
    obtain ⟨above, cell, rest, reader, writer, he, hlink, -⟩ := h.split_of_running hs hr
    have hfinished := hall cell (by rw [he]; simp)
    rw [hlink] at hfinished
    exact hfinished
  · obtain ⟨above, cell, rest, he, rfl, outcome, hlink⟩ := hat i hi
    have hpipe := (h.link_of_split he).1
    rw [hlink] at hpipe
    exact ⟨fun id pipe hs hd => ⟨(hpipe.1 id pipe hs hd).1,
      (hpipe.1 id pipe hs hd).2.1 ▸ (hpipe.1 id pipe hs hd).2.2⟩, hpipe.2⟩
  · obtain ⟨above, cell, rest, he, rfl, outcome, hlink⟩ := hat i hi
    obtain ⟨-, intake, -, hjoins⟩ := h.link_of_split he
    obtain ⟨source, hs, hstands⟩ := (h.upto.suffix he).source
    refine ⟨source, hs, hstands.shows.not_readable (hjoins.settled (by rw [hlink]; trivial)), ?_⟩
    rw [hstands.lock, hlink]
    rfl
  · obtain ⟨above, cell, rest, he, rfl, outcome, hlink⟩ := hat i hi
    obtain ⟨-, intake, ⟨backing, sink, hs, -, hrests⟩, hjoins⟩ := h.link_of_split he
    refine ⟨sink, hs, ?_, ?_⟩
    · rw [hrests.state]
      exact hjoins.terminal (by rw [hlink]; trivial)
    · rw [hrests.lock, hlink]
      rfl
  · intro id pipe hs hd
    obtain ⟨intake, hmouth, hjoins⟩ := h.mouth
    obtain ⟨body, hfound, hcontents, -, hclosed, -⟩ := hmouth.basin.body
    have hfinished := hall last List.mem_cons_self
    cases hlink : last.link with
    | idle | running id reader writer => rw [hlink] at hfinished; exact hfinished.elim
    | finished outcome =>
      have hpipe := h.pipe
      rw [hlink] at hpipe
      obtain ⟨-, hstate, -⟩ := hpipe.1 id pipe hs (p.writable_length.symm ▸ hd)
      have hcarried := hjoins.carried
      have hisClosed : s.host.bodyIsClosed p.destination = true ↔ intake.state = .closed := by
        rw [← hclosed]
        simp [MemoryHost.bodyIsClosed, MemoryHost.bodyState?, hfound]
      have hwritten : p.toPipeline.written s = some intake.octets := by
        rw [Pipeline.written, MemoryHost.bodyContents?, hfound, Option.map_some, hcontents]
      rw [hstate, hisClosed, hwritten]
      cases hintake : intake.state with
      | writable => rw [hintake, hlink] at hcarried; exact absurd trivial hcarried.2
      | closing => rw [hintake] at hcarried; exact hcarried.elim
      | closed =>
        simp only [hintake, hlink, LinkStatus.finished.injEq] at hcarried
        obtain ⟨hoctets, hdone, hended⟩ := hcarried
        simp [hdone, hoctets, h.upto.taken_of_ended hended]
      | errored error =>
        simp only [hintake, hlink] at hcarried
        exact iff_of_false (fun hdone => hcarried.2 (hdone ▸ rfl)) (by simp)

/-- While no host call fails no pipe fails. -/
theorem Holds.unfailed (h : p.Holds below last s) (hc : p.calm) (hi : i ≤ p.length) (id : PipeId)
    (pipe : Pipe) (hs : s.streams.pipe? id = some pipe) (hd : pipe.destination = p.writable i)
    (error : StreamError) : pipe.state ≠ .failed error := by
  obtain ⟨above, cell, rest, he, rfl⟩ := exists_split
    (show i < (last :: below).length by rw [h.length_cells]; omega)
  obtain ⟨hpipe, intake, -, hjoins⟩ := h.link_of_split he
  cases hlink : cell.link with
  | idle =>
    rw [hlink] at hpipe
    exact absurd hd (hpipe id pipe hs)
  | running same reader writer =>
    rw [hlink] at hpipe
    obtain rfl := hpipe.2 id pipe hs hd
    obtain rfl := Option.some_inj.mp (hs.symm.trans hpipe.1)
    exact nofun
  | finished outcome =>
    rw [hlink] at hpipe
    rw [(hpipe.1 id pipe hs hd).2.1, hjoins.calm hc outcome hlink]
    exact nofun

/-- While no host call fails, everything has come out once all pipes have finished. -/
theorem Holds.complete (h : p.Holds below last s) (hc : p.calm)
    (hall : ∀ cell ∈ last :: below, cell.link.IsFinished) :
    p.toPipeline.written s = some p.content ∧ s.host.bodyIsClosed p.destination = true := by
  obtain ⟨intake, hmouth, hjoins⟩ := h.mouth
  obtain ⟨body, hfound, hcontents, -, hclosed, -⟩ := hmouth.basin.body
  have hterminal := hjoins.terminal (hall last List.mem_cons_self)
  have hcarried := hjoins.carried
  cases hintake : intake.state with
  | writable | closing => rw [hintake] at hterminal; cases hterminal
  | errored error => exact absurd hintake (hmouth.basin.unbroken hc error)
  | closed =>
    simp only [hintake] at hcarried
    obtain ⟨hoctets, -, hended⟩ := hcarried
    rw [Pipeline.written, MemoryHost.bodyContents?, MemoryHost.bodyIsClosed, MemoryHost.bodyState?,
      hfound]
    simp [hcontents, hoctets, h.upto.taken_of_ended hended, hclosed.mpr hintake]

end Passage

/-- A pipe that has finished and has not failed is done. -/
theorem Pipeline.Settled.done {p : Pipeline} {s : Session MemoryHost E} {content : Bytes}
    {swept : Prop} {i : Nat} (h : p.Settled s content swept) (hi : i ≤ p.length)
    (hu : ∀ id pipe, s.streams.pipe? id = some pipe → pipe.destination = p.writable i →
      ∀ error, pipe.state ≠ .failed error) : p.PipeFinished s i swept (· = .done) := by
  obtain ⟨hstate, hentered⟩ := h.pipe i hi
  refine ⟨fun id pipe hs hd => ⟨(hstate id pipe hs hd).1, ?_⟩, hentered⟩
  have hstopped := (hstate id pipe hs hd).2
  cases hp : pipe.state with
  | running => exact absurd hp hstopped
  | done => rfl
  | failed error => exact absurd hp (hu id pipe hs hd error)

/-- The passage of some content along a pipeline on which some operations work. -/
def Pipeline.passage (p : Pipeline) (content : Bytes) (ops : List PipelineOp) (modest : Prop) :
    Passage where
  toPipeline := p
  content := content
  faultless := ∀ op ∈ ops, op.IsCalm
  calm := ∀ op ∈ ops, op.IsCalm
  faultless_of_calm := id
  modest := modest
  swept := .sweep ∈ ops

section Working

variable {p : Pipeline} {content : Bytes} {s : Session MemoryHost E} {ops : List PipelineOp}
variable {modest : Prop}

theorem Cell.startedBy_replicate (count : Nat) :
    Cell.StartedBy [] (List.replicate count Cell.fresh) := by
  induction count with
  | zero => trivial
  | succ count ih => exact ⟨iff_of_true trivial List.not_mem_nil, ih⟩

variable (h : p.Laid content s) (hops : PipelineOp.Proper p.length ops)
variable (hmodest : modest →
  content.length + s.host.readLimit s.streams.config.bodyChunkSize < UInt64.size ∧
    s.host.overrun = none)
include h hops hmodest

/-- A pipeline that has been laid can be worked. -/
theorem Pipeline.Laid.runAll :
    ∃ below last s', Settles (fun fuel => PipelineOp.runAll p fuel ops s) s' ∧
      (p.passage content ops modest).Holds below last s' ∧
      ((∀ i, i ≤ p.length → i ∈ PipelineOp.starts ops) →
        ¬ ∃ cell ∈ last :: below, cell.link.IsIdle) := by
  have hp : (p.passage content ops modest).Distinct := h.distinct
  have hexpects : ∀ op ∈ ops, (p.passage content ops modest).ExpectsOperation op := fun op hmem =>
    ⟨hops.fits op hmem, fun hc => hc op hmem, fun he => show .sweep ∈ ops from he ▸ hmem⟩
  have hlaid : (p.passage content ops modest).Holds (List.replicate p.length .fresh) .fresh s :=
    h.holds _ _ _ _ _ hmodest
  obtain ⟨below, last, s', started, hsettles, hholds, hstarted, hall⟩ :=
    hlaid.runAll hp ops (Cell.startedBy_replicate (p.length + 1)) hexpects hops.nodup
      fun _ _ => List.not_mem_nil
  refine ⟨below, last, s', hsettles, hholds, fun hstarts => ?_⟩
  refine hstarted.not_idle fun i hi => hall i (.inl (hstarts i ?_))
  rw [hholds.length_cells] at hi
  exact Nat.le_of_lt_succ hi

/-- A pipeline that has been laid can be worked, and then driven until all its pipes have
finished. -/
theorem Pipeline.Laid.work :
    ∃ below last s', Settles (fun fuel => PipelineOp.runAll p fuel ops s) s' ∧
      (p.passage content ops modest).Holds below last s' ∧
      ((∀ i, i ≤ p.length → i ∈ PipelineOp.starts ops) →
        ∃ steps below' last' s'', Settles (fun fuel => drive (Session.pump fuel) s') (steps, s'') ∧
          (p.passage content ops modest).Holds below' last' s'' ∧
          ∀ cell ∈ last' :: below', cell.link.IsFinished) := by
  obtain ⟨below, last, s', hsettles, hholds, hstarted⟩ := h.runAll hops hmodest
  refine ⟨below, last, s', hsettles, hholds, fun hstarts => ?_⟩
  obtain ⟨steps, below', last', s'', hpump, hholds', -, hall⟩ :=
    hholds.finish h.distinct (hstarted hstarts)
  exact ⟨steps, below', last', s'', hpump, hholds', hall⟩

end Working

/-- No body but the one that is written has been read too far. -/
theorem Passage.Upto.intact {p : Passage} {below : List Cell} {last : Cell}
    {s : Session MemoryHost E} (h : p.Upto below last s) (hm : p.modest) :
    ∀ handle ∈ p.unwritten, s.host.overrun ≠ some handle := by
  induction below generalizing last with
  | nil => exact Spring.intact h hm
  | cons next below ih => exact ih h.1

/-- No read has gone too far, of any body. -/
theorem Passage.Holds.intact {p : Passage} {below : List Cell} {last : Cell}
    {s : Session MemoryHost E} (h : p.Holds below last s) (hm : p.modest) :
    s.host.overrun = none := by
  obtain ⟨intake, hmouth, -⟩ := h.mouth
  cases hoverrun : s.host.overrun with
  | none => rfl
  | some handle =>
    by_cases hne : handle = p.destination
    · exact absurd (hne ▸ hoverrun) (hmouth.basin.intact hm)
    · exact absurd hoverrun (h.upto.intact hm handle (.inr hne))

/-- Of what goes into a pipeline no octet is lost while no host call fails: what has come out, what
is queued on the way and what has not been read make up the whole, in this order, and no pipe fails.
Once all pipes have been started, driving them finishes them all, and everything has come out. No
read goes too far if a read that begins at the end of the content does not. -/
theorem pipeline_keeps_octets {s : Session MemoryHost E} (hs : s.Fit) (content : Bytes)
    (count : Nat)
    (hreach : content.length + s.host.readLimit s.streams.config.bodyChunkSize < UInt64.size)
    (hintact : s.host.overrun = none) :
    ∃ p laid, exec (Session.layPipeline content count) s = (.ok p, laid) ∧ p.length = count ∧
      ∀ ops, PipelineOp.Proper count ops → (∀ op ∈ ops, op.IsCalm) →
        ∃ s', Settles (fun fuel => PipelineOp.runAll p fuel ops laid) s' ∧
          (∃ written, p.written s' = some written ∧
            written ++ p.queued s' ++ p.unread s' = content) ∧
          (∀ i, i ≤ count → ∀ id pipe, s'.streams.pipe? id = some pipe →
            pipe.destination = p.writable i → ∀ error, pipe.state ≠ .failed error) ∧
          s'.host.overrun = none ∧
          ((∀ i, i ≤ count → i ∈ PipelineOp.starts ops) →
            ∃ steps s'', Settles (fun fuel => drive (Session.pump fuel) s') (steps, s'') ∧
              (∀ i, i ≤ count → p.PipeFinished s'' i (.sweep ∈ ops) (· = .done)) ∧
              p.written s'' = some content ∧ s''.host.bodyIsClosed p.destination = true ∧
              s''.host.overrun = none) := by
  obtain ⟨p, laid, hlay, hlength, hlaid, hconfig, hchunk, hoverrun⟩ := hs.lay content count
  subst hlength
  refine ⟨p, laid, hlay, rfl, fun ops hops hcalm => ?_⟩
  have hmodest : True →
    content.length + laid.host.readLimit laid.streams.config.bodyChunkSize < UInt64.size ∧
      laid.host.overrun = none := fun _ =>
    ⟨by rwa [hconfig, MemoryHost.readLimit_congr _ hchunk], hoverrun.trans hintact⟩
  obtain ⟨below, last, s', hsettles, hholds, hpump⟩ := hlaid.work hops hmodest
  have hc : (p.passage content ops True).calm := hcalm
  refine ⟨s', hsettles, hholds.conserved hc, fun i hi => hholds.unfailed hc hi,
    hholds.intact trivial, fun hstarts => ?_⟩
  obtain ⟨steps, below', last', s'', hsettles', hholds', hall⟩ := hpump hstarts
  have hsettled := hholds'.settled hall
  obtain ⟨hwritten, hclosed⟩ := hholds'.complete hc hall
  exact ⟨steps, s'', hsettles', fun i hi => hsettled.done hi (hholds'.unfailed hc hi), hwritten,
    hclosed, hholds'.intact trivial⟩

/-- A pipeline whose last pipe is started first, in a new session. -/
theorem pipeline_keeps_octets_last_first :
    ∃ (p : Pipeline) (laid s' : Session MemoryHost Unit) (steps : Nat)
    (s'' : Session MemoryHost Unit), exec (Session.layPipeline [1, 2, 3] 1)
          { host := .withChunkSize 1, env := (), streams := .new {} } = (.ok p, laid) ∧
        Settles (fun fuel => PipelineOp.runAll p fuel [.pipeTo 1, .pump, .sweep,
          .pipeThrough 0] laid) s' ∧
        (∃ written, p.written s' = some written ∧
          written ++ p.queued s' ++ p.unread s' = [1, 2, 3]) ∧
        Settles (fun fuel => drive (Session.pump fuel) s') (steps, s'') ∧
        p.written s'' = some [1, 2, 3] ∧ s''.host.bodyIsClosed p.destination = true ∧
        s''.host.overrun = none := by
  obtain ⟨p, laid, hlay, -, hwork⟩ :=
    pipeline_keeps_octets (Session.fit_new 1 {} ()) [1, 2, 3] 1 (by decide) rfl
  have hproper : PipelineOp.Proper 1 [.pipeTo 1, .pump, .sweep, .pipeThrough 0] :=
    ⟨by simp [PipelineOp.Fits], by decide⟩
  obtain ⟨s', hsettles, hkept, -, -, hpump⟩ := hwork _ hproper (by simp [PipelineOp.IsCalm])
  have hstarts : ∀ i, i ≤ 1 →
      i ∈ PipelineOp.starts [.pipeTo 1, .pump, .sweep, .pipeThrough 0] := by decide
  obtain ⟨steps, s'', hsettles', -, hwritten, hclosed, hreads⟩ := hpump hstarts
  exact ⟨p, laid, s', steps, s'', hlay, hsettles, hkept, hsettles', hwritten, hclosed, hreads⟩

/-- Where reads may be as long as a word can say, the read that is to find the end of one octet goes
too far, and the program ends before the pipe has finished. -/
theorem pipeline_overruns :
    ∃ (p : Pipeline) (laid s' : Session MemoryHost Unit),
      exec (Session.layPipeline [97] 0)
          { host := .withChunkSize 0xFFFFFFFFFFFFFFFF, env := (),
            streams := .new { bodyChunkSize := 0xFFFFFFFFFFFFFFFF } } = (.ok p, laid) ∧
        Settles (fun fuel => PipelineOp.runAll p fuel [.pipeTo 0] laid) s' ∧
        s'.host.overrun = some p.origin := by
  have hends : ((exec (Session.layPipeline [97] 0)
        ({ host := .withChunkSize 0xFFFFFFFFFFFFFFFF, env := (),
           streams := .new { bodyChunkSize := 0xFFFFFFFFFFFFFFFF } } : Session MemoryHost Unit)) |>
      fun laid => laid.1.toOption.bind fun p =>
        (PipelineOp.runAll p 8 [.pipeTo 0] laid.2).map fun s =>
          decide (s.host.overrun = some p.origin)) = some true := by decide +kernel
  obtain ⟨p, laid, hlay, -⟩ :=
    (Session.fit_new 0xFFFFFFFFFFFFFFFF { bodyChunkSize := 0xFFFFFFFFFFFFFFFF } ()).lay [97] 0
  rw [hlay] at hends
  obtain ⟨s', hrun, hover⟩ := Option.map_eq_some_iff.mp hends
  exact ⟨p, laid, s', hlay, .of_more (fun _ _ => PipelineOp.runAll_more) hrun,
    of_decide_eq_true hover⟩

/-- Whatever host calls fail, what has come out of a pipeline is the beginning of what went in. Once
all pipes have been started, driving them settles the pipeline from end to end. -/
theorem pipeline_settles {s : Session MemoryHost E} (hs : s.Fit) (content : Bytes) (count : Nat) :
    ∃ p laid, exec (Session.layPipeline content count) s = (.ok p, laid) ∧ p.length = count ∧
      ∀ ops, PipelineOp.Proper count ops →
        ∃ s', Settles (fun fuel => PipelineOp.runAll p fuel ops laid) s' ∧
          (∃ written, p.written s' = some written ∧ written <+: content) ∧
          ((∀ i, i ≤ count → i ∈ PipelineOp.starts ops) →
            ∃ steps s'', Settles (fun fuel => drive (Session.pump fuel) s') (steps, s'') ∧
              (∃ written, p.written s'' = some written ∧ written <+: content) ∧
              p.Settled s'' content (.sweep ∈ ops)) := by
  obtain ⟨p, laid, hlay, hlength, hlaid, -⟩ := hs.lay content count
  subst hlength
  refine ⟨p, laid, hlay, rfl, fun ops hops => ?_⟩
  obtain ⟨below, last, s', hsettles, hholds, hpump⟩ := hlaid.work hops False.elim
  refine ⟨s', hsettles, hholds.written_prefix, fun hstarts => ?_⟩
  obtain ⟨steps, below', last', s'', hsettles', hholds', hall⟩ := hpump hstarts
  exact ⟨steps, s'', hsettles', hholds'.written_prefix, hholds'.settled hall⟩

/-- A pipeline in a new session, with a write that fails. -/
theorem pipeline_settles_after_failed_write :
    ∃ (p : Pipeline) (laid s' : Session MemoryHost Unit) (steps : Nat)
    (s'' : Session MemoryHost Unit), exec (Session.layPipeline [1, 2, 3] 1)
          { host := .withChunkSize 1, env := (), streams := .new {} } = (.ok p, laid) ∧
        Settles (fun fuel => PipelineOp.runAll p fuel
          [.failNext .bodyWrite .generic, .pipeTo 1, .pipeThrough 0] laid) s' ∧
        Settles (fun fuel => drive (Session.pump fuel) s') (steps, s'') ∧
        p.Settled s'' [1, 2, 3] False := by
  obtain ⟨p, laid, hlay, -, hwork⟩ := pipeline_settles (Session.fit_new 1 {} ()) [1, 2, 3] 1
  have hproper : PipelineOp.Proper 1
      [.failNext .bodyWrite .generic, .pipeTo 1, .pipeThrough 0] :=
    ⟨by simp [PipelineOp.Fits], by decide⟩
  obtain ⟨s', hsettles, -, hpump⟩ := hwork _ hproper
  have hstarts : ∀ i, i ≤ 1 → i ∈ PipelineOp.starts
      [.failNext .bodyWrite .generic, .pipeTo 1, .pipeThrough 0] := by decide
  obtain ⟨steps, s'', hsettles', -, hsettled⟩ := hpump hstarts
  rw [show (PipelineOp.sweep ∈ _) = False by simp] at hsettled
  exact ⟨p, laid, s', steps, s'', hlay, hsettles, hsettles', hsettled⟩

end EdgeStreams
