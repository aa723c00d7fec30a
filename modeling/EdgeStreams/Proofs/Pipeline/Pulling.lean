import EdgeStreams.Proofs.Pipeline.Pumping

/-!
# Pulling along a pipeline

A pull of the readable half of a transform stream drives the pipe into its writable half, which
reads the readable stream before it. So every readable stream of a pipeline is pulled and read as it
should be, by induction on its number.

## Main definitions

- `Passage.Turns`: what driving a pipe into a transform stream does

## Main statements

- `Passage.Reads.turns`: a pipe on the strength of a read of its source
- `Passage.Reads.pulls`: a pull on the strength of a read of the stream before
- `Passage.pulls`, `Passage.reads`: every readable stream of a pipeline
-/

namespace EdgeStreams

variable {E : Type}

/-- The one cell is the other with a supply that may be another, unless that had come to an end. -/
structure Cell.Resupplied (cell cell' : Cell) : Prop where
  taken : cell'.taken = cell.taken
  link : cell'.link = cell.link
  pulling : cell'.pulling = cell.pulling
  terminal : cell.supply.IsTerminal → cell'.supply = cell.supply
  canceled : cell'.supply = .canceled → cell.supply = .canceled

namespace Passage

variable {p : Passage} {i : Nat} {s s' : Session MemoryHost E} {cell : Cell} {intake : Intake}

/-- The running pipe into a writable stream of a pipeline. -/
theorem PipeAt.pipeInto? {link : LinkStatus} {pumping : Bool} (h : p.PipeAt i link pumping s) :
    s.streams.pipeInto? (p.writable i) = link.pipe? := by
  cases link with
  | idle => exact Registry.pipeInto?_eq_none _ fun id pipe hs _ => h id pipe hs
  | running id reader writer =>
    exact Registry.pipeInto?_eq_some _ h.1 rfl fun other pipe hs _ => h.2 other pipe hs
  | finished outcome =>
    refine Registry.pipeInto?_eq_none _ fun id pipe hs hr hd => ?_
    obtain ⟨-, hstate, hne⟩ := h.1 id pipe hs hd
    simp only [Pipe.isRunning, hstate, beq_iff_eq] at hr
    exact hne hr

/-- A pulled transform stream takes another chunk. -/
theorem Crossing.sinkReady {lock : Option WriterToken} (h : p.Crossing i cell intake lock s)
    {bridge : Bridge E} (hb : s.streams.bridge? (p.bridge i) = some bridge)
    (hpull : bridge.pullRequested = true) : s.streams.sinkReady (p.writable i) = true := by
  obtain ⟨sink, hs, hback, hrests⟩ := h.sink
  simp [Registry.sinkReady, hs, hback, hrests.idle, hrests.pending, Registry.backpressure, hb,
    hpull]

/-- A transform stream as the pipe into it sees it. -/
theorem Crossing.outlet {lock : Option WriterToken} (hp : p.Distinct) (hi : i < p.length)
    (h : p.Crossing i cell intake lock s) :
    (p.crossingOutlet E hp i hi cell).Stands intake lock s :=
  ⟨h.sink, cell.supply, h.source, h.bridge, h.answers, h.accounts, h.healthy, id, fun _ => rfl⟩

/-- What can be written is behind a pipe that is not finished. -/
theorem Crossing.writable {lock : Option WriterToken} (h : p.Crossing i cell intake lock s)
    (ho : cell.supply.IsOpen) : intake.state = .writable := by
  have hanswers := h.answers
  rw [ho.eq] at hanswers
  exact hanswers

theorem Joins.unfinished (h : p.Joins cell intake) (hs : intake.state = .writable) :
    intake.octets = cell.taken ∧ ¬ cell.link.IsFinished := by
  have hcarried := h.carried
  rw [hs] at hcarried
  exact hcarried

/-- What driving a pipe into a transform stream does. `target` is the cell of the source of the
pipe, `rest` are the cells before it, and `next` is the cell behind the pipe. -/
structure Turns (p : Passage) (rest : List Cell) (target next : Cell) (s : Session MemoryHost E)
    (total : Nat) (rest' : List Cell) (target' next' : Cell) (s' : Session MemoryHost E) :
    Prop where
  upto : p.Upto (target' :: rest') next' s'
  frame : Frame (p.upstream (rest.length + 1)) s s'
  growsTo : List.Forall₂ Cell.GrowsTo (target :: rest) (target' :: rest')
  resupplied : next.Resupplied next'
  progress :
    total = 0 ∧ target'.link = target.link ∧
        (rest' = rest ∧ next'.supply.IsOpen ∧
            s.streams.sinkReady (p.writable rest.length) = false ∨
          ∃ cell ∈ rest', cell.link.IsIdle) ∨
      0 < total ∧ (target'.link.IsFinished ∨ target.taken.length < target'.taken.length)

section Turning

variable {rest rest' : List Cell} {target target' next next' : Cell} {total : Nat}

theorem course_within_upstream {hp : p.Distinct} {hi : i < p.length} :
    (p.crossingOutlet E hp i hi cell).course.Within (p.upstream (i + 1)) :=
  (Pipeline.upstream_within (Nat.le_succ i)).union
    ((Pipeline.link_within (Nat.lt_succ_self i)).union
      ⟨fun _ e => ⟨i + 1, Nat.le_refl _, e⟩, fun _ e => ⟨i, Nat.lt_succ_self i, e⟩,
        fun _ e => ⟨i, Nat.lt_succ_self i, e⟩, fun _ e => e.elim, fun _ e => e.elim⟩)

/-- A pipe into a transform stream is driven as it should be. -/
theorem Reads.turns (hp : p.Distinct) (hi : rest.length < p.length) (hread : p.Reads E rest.length)
    (h : p.Upto (target :: rest) next s) {id : PipeId} {reader : ReaderToken}
    {writer : WriterToken} (hlink : target.link = .running id reader writer) :
    ∃ total rest' target' next' s',
      Settles (fun fuel => drive (Session.pumpPipe fuel id) s) (total, s') ∧
        p.Turns rest target next s total rest' target' next' s' := by
  obtain ⟨htarget, hrests, hpipe, intake, hcross, hjoins⟩ := h
  have hout := hcross.outlet hp hi
  rw [hlink] at hout
  obtain ⟨total, rest', target', intake', s', hsettles, hdriven⟩ :=
    hread.pumpPipe hp hi.le rfl htarget hrests hlink hpipe hout hjoins
  have hlen := hdriven.length
  obtain ⟨hsink, supply, hsource, hbridge, hanswers, haccounts, hhealthy, huncanceled, hterminal⟩ :=
    hdriven.outlet
  refine ⟨total, rest', target', { next with supply }, s', hsettles,
    ⟨hdriven.upto, hdriven.rests, hlen.symm ▸ hdriven.pipe, intake', hlen.symm ▸ ?_,
      hdriven.joins⟩, hdriven.frame.mono course_within_upstream, hdriven.growsTo,
    ⟨rfl, rfl, rfl, hterminal, huncanceled⟩, ?_⟩
  · exact ⟨hsource, hsink, hbridge, hanswers, haccounts, hhealthy⟩
  · refine hdriven.progress.imp_left fun ⟨htotal, hsame, hwait⟩ => ⟨htotal, hsame, ?_⟩
    refine hwait.imp_left fun ⟨hrest, hstate, hready⟩ => ⟨hrest, ?_, hready⟩
    rw [hstate] at hanswers
    exact hanswers.open_of_writable

/-- A pipe that has been driven and is not finished has put something into the queue, or waits for a
pipe that has not been started. -/
theorem Turns.pulled (h : p.Turns rest target next s total rest' target' next' s')
    (hready : s.streams.sinkReady (p.writable rest.length) = true)
    (haccounts : next.supply.Accounts next.taken target.taken)
    (hempty : next'.supply = .flowing []) : ∃ waiting ∈ target' :: rest', waiting.link.IsIdle := by
  obtain ⟨-, -, -, intake', hcross, hjoins⟩ := h.upto
  obtain ⟨hoctets, hunfinished⟩ := hjoins.unfinished (hcross.writable (by rw [hempty]; trivial))
  rcases h.progress with ⟨-, -, ⟨-, -, hwait⟩ | ⟨waiting, hmem, hidle⟩⟩ | ⟨-, hmore⟩
  · rw [hready] at hwait
    exact absurd hwait (by simp)
  · exact ⟨waiting, List.mem_cons_of_mem _ hmem, hidle⟩
  · have hmore := hmore.resolve_left hunfinished
    have hqueue := hcross.accounts
    have hall := (Supply.Accounts.prefix' haccounts).length_le
    simp only [hempty, Supply.Accounts, List.flatten_nil, List.append_nil] at hqueue
    rw [← hoctets, hqueue, h.resupplied.taken] at hmore
    exact absurd hmore (Nat.not_lt.mpr hall)

end Turning

/-- A pull of a readable half, on the strength of reading the stream before it. -/
theorem Reads.pulls (hp : p.Distinct) (hi : i < p.length) (hread : p.Reads E i) :
    p.Pulls E (i + 1) := by
  intro below cell s hlen h hopen
  cases below with
  | nil => cases hlen
  | cons last below =>
  obtain rfl : below.length = i := Nat.succ.inj hlen
  obtain ⟨hlast, hrests, hpipe, intake, hcross, hjoins⟩ := h
  obtain ⟨source, hs, hback, -⟩ := hcross.source
  obtain ⟨bridge, hb, hbr, hbw, hbt⟩ := hcross.bridge
  obtain ⟨hoctets, hunfinished⟩ := hjoins.unfinished (hcross.writable hopen)
  -- the bridge remembers the pull
  let asked := Session.setBridge (p.bridge below.length) { bridge with pullRequested := true } s
  have hb' : asked.streams.bridge? (p.bridge below.length) =
      some { bridge with pullRequested := true } := by
    simp [asked, Registry.bridge?_setBridge, hb]
  have hframe : Frame { bridges := {p.bridge below.length} } s asked := Frame.setBridge s _ _
  have hapart : ({ bridges := {p.bridge below.length} } : Footprint).Apart
      (p.upstream below.length) :=
    (hp.upstream_apart_crossing hi).symm.within Pipeline.bridge_within_crossing
  have hcross' : p.Crossing below.length cell intake last.link.writer? asked :=
    ⟨hcross.source.of_frame hframe (Set.notMem_empty _),
      hcross.sink.of_frame hframe (Set.notMem_empty _), ⟨_, hb', hbr, hbw, hbt⟩, hcross.answers,
      hcross.accounts, hcross.healthy⟩
  have hupto : p.Upto (last :: below) cell asked :=
    ⟨hlast.of_frame hframe hapart, hrests, hpipe.of_frame hframe (Set.notMem_empty _), intake,
      hcross', hjoins⟩
  have hwide : Frame (p.upstream (below.length + 1)) s asked :=
    (hframe.mono Pipeline.bridge_within_crossing).mono
      (Pipeline.crossing_within (Nat.lt_succ_self _))
  have hinto : s.streams.pipeInto? bridge.writable = last.link.pipe? := hbw ▸ hpipe.pipeInto?
  have hpull : ∀ fuel, attempt (Session.pull (fuel + 1) (p.readable (below.length + 1))) s = _ :=
    fun fuel => Session.attempt_pull fuel s (p.readable (below.length + 1))
  simp only [hs, hback, hb, hinto] at hpull
  cases hlink : last.link with
  | idle =>
    rw [hlink] at hpull
    refine ⟨_, last :: below, cell, asked, .now hpull, .here hupto hwide rfl id, fun _ => ?_, rfl,
      rfl, nofun⟩
    exact ⟨last, List.mem_cons_self, by rw [hlink]; trivial⟩
  | finished outcome =>
    rw [hlink] at hunfinished
    exact absurd trivial hunfinished
  | running id reader writer =>
    rw [hlink] at hpull
    obtain ⟨total, below', last', cell', s', hsettles, hturns⟩ := hread.turns hp hi hupto hlink
    have hsame := hturns.resupplied
    refine ⟨.ok (), last' :: below', cell', s', hsettles.step fun fuel hfuel => ?_,
      ⟨hturns.upto, hwide.trans hturns.frame, hturns.growsTo, hsame.link, hsame.canceled⟩, ?_,
      hsame.pulling, hsame.taken, nofun⟩
    · rw [hpull]
      change (drive (Session.pumpPipe fuel id) asked).map _ = _
      rw [hfuel]
      rfl
    · exact hturns.pulled (hcross'.sinkReady hb' rfl) (hoctets ▸ hcross.accounts)

/-- Every readable stream of a pipeline is pulled as it should be. -/
theorem pulls (hp : p.Distinct) (hi : i ≤ p.length) : p.Pulls E i := by
  induction i with
  | zero => exact pulls_zero
  | succ i ih =>
    have hi' : i < p.length := hi
    exact ((ih hi'.le).reads hp hi'.le).pulls hp hi'

/-- Every readable stream of a pipeline is read as it should be. -/
theorem reads (hp : p.Distinct) (hi : i ≤ p.length) : p.Reads E i := (pulls hp hi).reads hp hi

end Passage

end EdgeStreams
