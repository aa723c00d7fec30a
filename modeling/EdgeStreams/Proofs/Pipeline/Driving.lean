import EdgeStreams.Proofs.Pipeline.Outlet
import EdgeStreams.Proofs.Pipeline.Pulling
import Mathlib.Algebra.GroupWithZero.Nat
import Mathlib.Data.List.Induction

/-!
# Driving a whole pipeline

Whichever of its pipes is driven, a pipeline stays as it should be. Every step of a pipe takes
something off what the pipeline can still go through, so that driving all pipes again and again
comes to an end. If none of them makes a step, each of those that are still running waits for the
one behind it, and the last one for nothing: so none is running, unless one has not been started.

What is done to a pipe in the middle of a pipeline concerns the cells up to the one behind the pipe.
The cells after that one only see that its supply may have changed.

## Main definitions

- `Passage.remaining`: a measure of what a pipeline can still go through
- `Passage.PipesDriven`: what driving some pipes of a pipeline does

## Main statements

- `Passage.Upto.suffix`: the part of a pipeline up to one of its cells
- `Passage.Upto.splice`: the part up to one of its cells is replaced
- `Passage.Holds.pumpPipe`: one pipe is driven
- `Passage.Holds.pump`: all pipes are driven as far as they go
-/

namespace EdgeStreams

variable {E : Type}

/-! ### Changing a part of a pipeline -/

theorem Cell.Resupplied.refl (cell : Cell) : cell.Resupplied cell :=
    ⟨rfl, rfl, rfl, fun _ => rfl, id⟩

theorem Cell.Resupplied.growsTo {cell cell' : Cell} (h : cell.Resupplied cell') :
    cell.GrowsTo cell' :=
  ⟨h.taken ▸ List.prefix_rfl, .inl h.link⟩

namespace Passage

variable {p : Passage} {i : Nat} {s s' : Session MemoryHost E} {intake : Intake}
variable {above below rest rest' : List Cell} {cell cell' next next' : Cell}

/-- The pipe out of a stream does not mind what happens to the supply. -/
theorem Joins.resupplied (h : p.Joins cell intake) (hs : cell.Resupplied cell') :
    p.Joins cell' intake := by
  refine ⟨fun hf => ?_, fun hc => hs.link ▸ h.released (hs.canceled hc), hs.link ▸ h.calm, ?_⟩
  · have hterminal := h.settled (hs.link ▸ hf)
    rwa [hs.terminal hterminal]
  · have hcarried := h.carried
    rw [hs.link, hs.taken]
    cases hstate : intake.state with
    | closed =>
      simp only [hstate] at hcarried ⊢
      obtain ⟨hoctets, hlink, hended⟩ := hcarried
      refine ⟨hoctets, hlink, ?_⟩
      rw [hs.terminal (by rw [hended]; trivial), hended]
    | closing => rw [hstate] at hcarried; exact hcarried.elim
    | writable | errored error => simpa only [hstate] using hcarried

/-- Up to each of its cells a pipeline is as it should be. -/
theorem Upto.suffix (h : p.Upto below cell s) (he : cell :: below = above ++ next :: rest) :
    p.Upto rest next s := by
  induction above generalizing cell below with
  | nil =>
    obtain ⟨rfl, rfl⟩ := List.cons_eq_cons.mp he
    exact h
  | cons first above ih =>
    obtain ⟨rfl, htail⟩ := List.cons_eq_cons.mp he
    cases below with
    | nil => simp at htail
    | cons last below => exact ih h.1 htail

/-- The cells up to one of them are replaced; the cells after that one stay as they are, except that
its own supply may have changed. -/
theorem Upto.splice (hp : p.Distinct) (h : p.Upto below cell s)
    (he : cell :: below = above ++ next :: rest) (hlen : below.length ≤ p.length)
    (hf : Frame (p.upstream rest.length) s s') (hupto : p.Upto rest' next' s')
    (hrest : rest'.length = rest.length) (hne : rest ≠ []) (hnext : next.Resupplied next') :
    ∃ cell' below', cell' :: below' = above ++ next' :: rest' ∧ below'.length = below.length ∧
      cell.Resupplied cell' ∧ p.Upto below' cell' s' := by
  induction above generalizing cell below with
  | nil =>
    obtain ⟨rfl, rfl⟩ := List.cons_eq_cons.mp he
    exact ⟨next', rest', rfl, hrest, hnext, hupto⟩
  | cons first above ih =>
    obtain ⟨rfl, htail⟩ := List.cons_eq_cons.mp he
    cases below with
    | nil => simp at htail
    | cons last below =>
      obtain ⟨hlast, hrests, hpipe, intake, hcross, hjoins⟩ := h
      have hlen' : below.length < p.length := hlen
      obtain ⟨last', below', he', hlength, hlast', hupto'⟩ := ih hlast htail hlen'.le
      have hshort : rest.length ≤ below.length := by
        have hlengths : (last :: below).length = (above ++ next :: rest).length :=
          congrArg List.length htail
        simp only [List.length_cons, List.length_append] at hlengths
        omega
      have hwide := hf.mono (Pipeline.upstream_within hshort)
      have hdry : below' = [] → last'.supply.queue = [] := fun hb => by
        rw [hb, List.length_nil] at hlength
        exact absurd (List.length_eq_zero_iff.mp (by omega)) hne
      refine ⟨cell, last' :: below', by rw [he', List.cons_append], congrArg (· + 1) hlength,
        .refl cell, hupto', ⟨hlast'.pulling.trans hrests.pulling, hdry⟩, ?_, intake, ?_,
        hjoins.resupplied hlast'⟩
      · rw [hlength, hlast'.link]
        exact hpipe.of_frame hwide (hp.writable_notMem_pipes hlen'.le (Nat.le_refl _))
      · rw [hlength, hlast'.link]
        exact hcross.of_frame hwide (hp.upstream_apart_crossing hlen')

end Passage

/-! ### What can still happen -/

/-- What can still happen to a cell: octets are taken from it, and its pipe finishes. -/
def Cell.remaining (size : Nat) (cell : Cell) : Nat :=
  (size - cell.taken.length) + if cell.link.IsRunning then 1 else 0

namespace Cell

variable {cell cell' : Cell} {cells cells' : List Cell} {size : Nat}

theorem GrowsTo.remaining_le (h : cell.GrowsTo cell') :
    cell'.remaining size ≤ cell.remaining size := by
  have htaken := h.taken.length_le
  have hlink : (if cell'.link.IsRunning then 1 else 0) ≤ if cell.link.IsRunning then 1 else 0 := by
    rcases h.link with he | ⟨hr, -⟩
    · rw [he]
    · rw [if_pos hr]
      split <;> omega
  unfold remaining
  omega

theorem GrowsTo.remaining_lt (h : cell.GrowsTo cell') (hr : cell.link.IsRunning)
    (hsize : cell'.taken.length ≤ size)
    (hmore : cell'.link.IsFinished ∨ cell.taken.length < cell'.taken.length) :
    cell'.remaining size < cell.remaining size := by
  have htaken := h.taken.length_le
  unfold remaining
  rw [if_pos hr]
  rcases hmore with hf | hlt
  · have hstopped : ¬ cell'.link.IsRunning := by
      cases hl : cell'.link <;> simp_all [LinkStatus.IsRunning, LinkStatus.IsFinished]
    rw [if_neg hstopped]
    omega
  · split <;> omega

theorem sum_remaining_le (h : List.Forall₂ GrowsTo cells cells') :
    (cells'.map (remaining size)).sum ≤ (cells.map (remaining size)).sum := by
  induction h with
  | nil => exact Nat.le_refl _
  | cons hgrows _ ih => exact Nat.add_le_add hgrows.remaining_le ih

theorem GrowsTo.isIdle (h : cell.GrowsTo cell') : cell'.link.IsIdle ↔ cell.link.IsIdle := by
  rcases h.link with he | ⟨hr, hf⟩
  · rw [he]
  · cases hl : cell.link <;> cases hl' : cell'.link <;>
      simp_all [LinkStatus.IsRunning, LinkStatus.IsFinished, LinkStatus.IsIdle]

theorem exists_idle_of_growsTo (h : List.Forall₂ GrowsTo cells cells') :
    (∃ cell ∈ cells', cell.link.IsIdle) ↔ ∃ cell ∈ cells, cell.link.IsIdle := by
  induction h with
  | nil => rfl
  | cons hgrows _ ih => simp only [List.exists_mem_cons_iff, hgrows.isIdle, ih]

theorem growsTo_refl (cells : List Cell) : List.Forall₂ GrowsTo cells cells :=
  List.forall₂_same.mpr fun cell _ => .refl cell

end Cell

namespace Passage

variable {p : Passage} {s s' : Session MemoryHost E} {below below' : List Cell} {last last' : Cell}

/-- What a pipeline can still go through. -/
def remaining (p : Passage) (cells : List Cell) : Nat :=
  (cells.map (Cell.remaining p.content.length)).sum

/-- A running pipe waits for the one behind it. -/
def Waits (links : List LinkStatus) (id : PipeId) : Prop :=
  ∀ above reader writer rest, links = above ++ .running id reader writer :: rest →
    ∃ further next, above = further ++ [next] ∧ ¬ next.IsFinished

/-- What driving some pipes does, with `total` steps. If it makes none, no pipe has come any
further and each of those that are running waits for the one behind it, unless one has not been
started. -/
structure PipesDriven (p : Passage) (ids : List PipeId) (cells : List Cell) (total : Nat)
    (cells' : List Cell) : Prop where
  growsTo : List.Forall₂ Cell.GrowsTo cells cells'
  fewer : 0 < total → p.remaining cells' < p.remaining cells
  stuck : total = 0 → (∃ cell ∈ cells', cell.link.IsIdle) ∨
    cells'.map Cell.link = cells.map Cell.link ∧ ∀ id ∈ ids, Waits (cells.map Cell.link) id

theorem PipesDriven.none {ids : List PipeId} {cells : List Cell}
    (h : ∀ id ∈ ids, Waits (cells.map Cell.link) id) : p.PipesDriven ids cells 0 cells :=
  ⟨Cell.growsTo_refl cells, fun h => absurd h (Nat.lt_irrefl 0), fun _ => .inr ⟨rfl, h⟩⟩

theorem PipesDriven.append {ids ids' : List PipeId} {cells cells' cells'' : List Cell}
    {total total' : Nat} (h : p.PipesDriven ids cells total cells')
    (h' : p.PipesDriven ids' cells' total' cells'') :
    p.PipesDriven (ids ++ ids') cells (total + total') cells'' where
  growsTo := Cell.growsTo_trans h.growsTo h'.growsTo
  fewer hpos := by
    have hle : p.remaining cells' ≤ p.remaining cells := Cell.sum_remaining_le h.growsTo
    have hle' : p.remaining cells'' ≤ p.remaining cells' := Cell.sum_remaining_le h'.growsTo
    rcases Nat.eq_zero_or_pos total with hzero | htotal
    · have := h'.fewer (by omega)
      omega
    · have := h.fewer htotal
      omega
  stuck hzero := by
    rcases h.stuck (by omega) with hidle | ⟨hlinks, hwaits⟩
    · exact .inl ((Cell.exists_idle_of_growsTo h'.growsTo).mpr hidle)
    · refine (h'.stuck (by omega)).imp_right fun ⟨hlinks', hwaits'⟩ => ⟨hlinks'.trans hlinks, ?_⟩
      intro id hid
      rcases List.mem_append.mp hid with hid | hid
      · exact hwaits id hid
      · exact hlinks ▸ hwaits' id hid

/-! ### The parts of a pipeline -/

theorem exists_split {cells : List Cell} {i : Nat} (h : i < cells.length) :
    ∃ above cell rest, cells = above ++ cell :: rest ∧ rest.length = i := by
  induction cells with
  | nil => exact absurd h (Nat.not_lt_zero i)
  | cons first cells ih =>
    rcases Nat.lt_succ_iff_lt_or_eq.mp h with hlt | rfl
    · obtain ⟨above, cell, rest, he, hrest⟩ := ih hlt
      exact ⟨first :: above, cell, rest, by rw [he, List.cons_append], hrest⟩
    · exact ⟨[], first, cells, rfl, rfl⟩

section Parts

variable {above rest : List Cell} {cell : Cell}

/-- The pipe out of each of the cells, and what it leads into. -/
theorem Holds.link_of_split (h : p.Holds below last s)
    (he : last :: below = above ++ cell :: rest) :
    p.PipeAt rest.length cell.link false s ∧ ∃ intake,
      (∃ backing, p.SinkAt rest.length backing intake.state cell.link.writer? s) ∧
        p.Joins cell intake := by
  rcases above.eq_nil_or_concat with rfl | ⟨further, next, rfl⟩
  · obtain ⟨rfl, rfl⟩ := List.cons_eq_cons.mp he
    obtain ⟨intake, hmouth, hjoins⟩ := h.mouth
    exact ⟨h.length.symm ▸ h.pipe, intake, ⟨_, h.length.symm ▸ hmouth.sink⟩, hjoins⟩
  · rw [List.concat_eq_append, List.append_assoc] at he
    obtain ⟨-, -, hpipe, intake, hcross, hjoins⟩ := h.upto.suffix he
    exact ⟨hpipe, intake, ⟨_, hcross.sink⟩, hjoins⟩

theorem Holds.length_of_split (h : p.Holds below last s)
    (he : last :: below = above ++ cell :: rest) : rest.length ≤ p.length := by
  have hlengths := congrArg List.length he
  simp only [List.length_cons, List.length_append, h.length] at hlengths
  omega

/-- The running pipe of a name is found at one place only. -/
theorem Holds.waits (hp : p.Distinct) (h : p.Holds below last s)
    (he : last :: below = above ++ cell :: rest) {id : PipeId} {reader : ReaderToken}
    {writer : WriterToken} (hlink : cell.link = .running id reader writer)
    {further : List Cell} {next : Cell} (ha : above = further ++ [next])
    (hn : ¬ next.link.IsFinished) : Waits ((last :: below).map Cell.link) id := by
  intro links reader' writer' links' hlinks
  obtain ⟨hentry, -⟩ : p.PipeAt rest.length (.running id reader writer) false s :=
    hlink ▸ (h.link_of_split he).1
  obtain ⟨above', rest', hsplit, rfl, hrest⟩ := List.map_eq_append_iff.mp hlinks
  obtain ⟨cell', rest', rfl, hlink', rfl⟩ := List.map_eq_cons_iff.mp hrest
  obtain ⟨hentry', -⟩ : p.PipeAt rest'.length (.running id reader' writer') false s :=
    hlink' ▸ (h.link_of_split hsplit).1
  have hsame : p.writable rest.length = p.writable rest'.length :=
    congrArg Pipe.destination (Option.some_inj.mp (hentry.symm.trans hentry'))
  have hlength := hp.writable _ _ (h.length_of_split he) (h.length_of_split hsplit) hsame
  obtain ⟨rfl, -⟩ := List.append_inj' (he.symm.trans hsplit) (congrArg (· + 1) hlength)
  exact ⟨further.map Cell.link, next.link, by simp [ha], hn⟩

/-- The running pipes of a session with a pipeline are pipes of the pipeline. -/
theorem Holds.split_of_running (h : p.Holds below last s) {id : PipeId} {pipe : Pipe}
    (hs : s.streams.pipe? id = some pipe) (hr : pipe.isRunning) :
    ∃ above cell rest reader writer, last :: below = above ++ cell :: rest ∧
      cell.link = .running id reader writer ∧ pipe.pumping = false := by
  obtain ⟨i, hi, hd⟩ := h.alone id pipe hs hr
  obtain ⟨above, cell, rest, he, rfl⟩ := exists_split
    (show i < (last :: below).length by rw [List.length_cons, h.length]; omega)
  have hpipe := (h.link_of_split he).1
  cases hlink : cell.link with
  | idle =>
    rw [hlink] at hpipe
    exact absurd hd (hpipe id pipe hs)
  | finished outcome =>
    rw [hlink] at hpipe
    obtain ⟨-, hstate, hne⟩ := hpipe.1 id pipe hs hd
    simp only [Pipe.isRunning, hstate, beq_iff_eq] at hr
    exact absurd hr hne
  | running same reader writer =>
    rw [hlink] at hpipe
    obtain rfl := hpipe.2 id pipe hs hd
    obtain rfl := Option.some_inj.mp (hs.symm.trans hpipe.1)
    exact ⟨above, cell, rest, reader, writer, he, hlink, rfl⟩

/-- What happens to the pipes of a pipeline is no business of other running pipes. -/
theorem alone_of_frame {f : Footprint} (hf : Frame f s s')
    (hpipes : ∀ id ∈ f.pipes, ∃ i, i ≤ p.length ∧ id = p.writable i)
    (h : ∀ id pipe, s.streams.pipe? id = some pipe → pipe.isRunning →
      ∃ i, i ≤ p.length ∧ pipe.destination = p.writable i) (id : PipeId) (pipe : Pipe)
    (hs : s'.streams.pipe? id = some pipe) (hr : pipe.isRunning) :
    ∃ i, i ≤ p.length ∧ pipe.destination = p.writable i := by
  by_cases hd : pipe.destination ∈ f.pipes
  · exact hpipes _ hd
  · exact h id pipe ((hf.pipe id pipe hd).mp hs) hr

/-- The cells up to one of them are replaced in a session with a pipeline. -/
theorem Holds.splice (hp : p.Distinct) (h : p.Holds below last s) {next next' : Cell}
    {rest' : List Cell} (he : last :: below = above ++ next :: rest)
    (hf : Frame (p.upstream rest.length) s s') (hupto : p.Upto rest' next' s')
    (hrest : rest'.length = rest.length) (hne : rest ≠ []) (hnext : next.Resupplied next') :
    ∃ below' last', last' :: below' = above ++ next' :: rest' ∧ p.Holds below' last' s' := by
  obtain ⟨last', below', he', hlength, hlast, hupto'⟩ :=
    h.upto.splice hp he h.length.le hf hupto hrest hne hnext
  have hwide : Frame (p.upstream p.length) s s' :=
    hf.mono (Pipeline.upstream_within (h.length_of_split he))
  obtain ⟨intake, hmouth, hjoins⟩ := h.mouth
  refine ⟨below', last', he', hlength.trans h.length, hupto',
    ⟨hlast.pulling.trans h.resting.pulling, fun hb => ?_⟩, ?_,
    ⟨intake, ?_, hjoins.resupplied hlast⟩,
    alone_of_frame hwide (fun id ⟨j, hj, hid⟩ => ⟨j, hj.le, hid⟩) h.alone,
    hwide.wellFormed h.wellFormed⟩
  · have hlengths := congrArg List.length he'
    simp only [hb, List.length_cons, List.length_append, List.length_nil, hrest] at hlengths
    exact absurd (List.length_eq_zero_iff.mp (by omega)) hne
  · rw [hlast.link]
    exact h.pipe.of_frame hwide (hp.writable_notMem_pipes (Nat.le_refl _) (Nat.le_refl _))
  · rw [hlast.link]
    exact hmouth.of_frame hwide hp.upstream_apart_mouth

end Parts

/-! ### One pipe -/

section Pumping

variable {id : PipeId} {reader : ReaderToken} {writer : WriterToken}
variable (hp : p.Distinct) (h : p.Holds below last s)
include hp h

/-- The last pipe is driven. -/
theorem Holds.pump_last (hlink : last.link = .running id reader writer) :
    ∃ total below' last' s',
      Settles (fun fuel => drive (Session.pumpPipe fuel id) s) (total, s') ∧
        p.Holds below' last' s' ∧ p.PipesDriven [id] (last :: below) total (last' :: below') := by
  obtain ⟨intake, hmouth, hjoins⟩ := h.mouth
  have hout : (p.mouthOutlet E hp).Stands intake last.link.writer? s := ⟨hmouth.sink, hmouth.basin⟩
  rw [hlink] at hout
  obtain ⟨total, below', last', intake', s', hsettles, hdriven⟩ :=
    (reads hp (Nat.le_refl p.length)).pumpPipe hp (Nat.le_refl _) h.length h.upto h.resting hlink
      h.pipe hout hjoins
  refine ⟨total, below', last', s', hsettles, ⟨hdriven.length, hdriven.upto, hdriven.rests,
    hdriven.pipe, ⟨intake', ⟨hdriven.outlet.sink, hdriven.outlet.behind⟩, hdriven.joins⟩,
    alone_of_frame hdriven.frame ?_ h.alone, hdriven.frame.wellFormed h.wellFormed⟩,
    hdriven.growsTo, fun htotal => ?_, fun hzero => ?_⟩
  · rintro id (⟨j, hj, rfl⟩ | rfl | hid)
    · exact ⟨j, hj.le, rfl⟩
    · exact ⟨p.length, Nat.le_refl _, rfl⟩
    · exact hid.elim
  · rcases hdriven.progress with ⟨hzero, -⟩ | ⟨-, hmore⟩
    · omega
    · cases hdriven.growsTo with
      | cons hlast hbelow =>
        refine Nat.add_lt_add_of_lt_of_le (hlast.remaining_lt ?_ ?_ hmore)
          (Cell.sum_remaining_le hbelow)
        · rw [hlink]
          trivial
        · exact hdriven.upto.taken_prefix.length_le
  · rcases hdriven.progress with ⟨-, -, ⟨-, -, hwait⟩ | ⟨cell, hmem, hidle⟩⟩ | ⟨htotal, -⟩
    · -- the sink is always ready
      obtain ⟨sink, hs, hback, hrests⟩ := hmouth.sink
      rw [Registry.sinkReady, hs] at hwait
      simp [hback, hrests.idle, hrests.pending] at hwait
    · exact .inl ⟨cell, List.mem_cons_of_mem _ hmem, hidle⟩
    · omega

/-- A pipe before the last is driven. -/
theorem Holds.pump_inner {further rest : List Cell} {next target : Cell}
    (he : last :: below = further ++ next :: target :: rest)
    (hlink : target.link = .running id reader writer) :
    ∃ total below' last' s',
      Settles (fun fuel => drive (Session.pumpPipe fuel id) s) (total, s') ∧
        p.Holds below' last' s' ∧ p.PipesDriven [id] (last :: below) total (last' :: below') := by
  have hi : rest.length < p.length := h.length_of_split he
  obtain ⟨total, rest', target', next', s', hsettles, hturns⟩ :=
    (reads hp hi.le).turns hp hi (h.upto.suffix he) hlink
  obtain ⟨below', last', he', h'⟩ :=
    h.splice hp he hturns.frame hturns.upto hturns.growsTo.length_eq.symm (List.cons_ne_nil _ _)
      hturns.resupplied
  have hgrows : List.Forall₂ Cell.GrowsTo (last :: below) (last' :: below') := by
    rw [he, he']
    exact List.rel_append (Cell.growsTo_refl further)
      (.cons hturns.resupplied.growsTo hturns.growsTo)
  refine ⟨total, below', last', s', hsettles, h', hgrows, fun htotal => ?_, fun hzero => ?_⟩
  -- a step takes octets or finishes the pipe, so less remains to be moved
  · rcases hturns.progress with ⟨hzero, -⟩ | ⟨-, hmore⟩
    · omega
    · obtain ⟨-, hturned⟩ :=
        List.forall₂_cons.mp (show List.Forall₂ Cell.GrowsTo (next :: target :: rest)
        (next' :: target' :: rest') from .cons hturns.resupplied.growsTo hturns.growsTo)
      obtain ⟨htarget, hrest⟩ := List.forall₂_cons.mp hturned
      have hlt := htarget.remaining_lt (by rw [hlink]; trivial)
        (Upto.taken_prefix hturns.upto.1).length_le hmore
      have hle : next'.remaining p.content.length ≤ next.remaining p.content.length :=
        hturns.resupplied.growsTo.remaining_le
      have hle' : (rest'.map (Cell.remaining p.content.length)).sum ≤
          (rest.map (Cell.remaining p.content.length)).sum := Cell.sum_remaining_le hrest
      simp only [remaining, he, he', List.map_append, List.sum_append, List.map_cons,
        List.sum_cons]
      omega
  -- without a step it waits for its destination, or for a pipe that has not been started
  · rcases hturns.progress with ⟨-, hsame, ⟨hrest, hopen, -⟩ | ⟨cell, hmem, hidle⟩⟩ | ⟨htotal, -⟩
    · refine .inr ⟨?_, fun same hid => ?_⟩
      · simp only [he, he', List.map_append, List.map_cons, hsame, hturns.resupplied.link, hrest]
      · obtain rfl := List.mem_singleton.mp hid
        have hnext : ¬ next.link.IsFinished := fun hf => by
          obtain ⟨-, intake, -, hjoins⟩ := h.link_of_split he
          have hterminal := hjoins.settled hf
          rw [hturns.resupplied.terminal hterminal] at hopen
          exact hopen.not_terminal hterminal
        have hsplit : last :: below = (further ++ [next]) ++ target :: rest := by
          rw [he, List.append_assoc, List.singleton_append]
        exact h.waits hp hsplit hlink rfl hnext
    · refine .inl ⟨cell, ?_, hidle⟩
      rw [he']
      simp [hmem]
    · omega

/-- Whatever pipe is driven, a pipeline stays as it should be. -/
theorem Holds.pumpPipe (id : PipeId) :
    ∃ total below' last' s',
      Settles (fun fuel => drive (Session.pumpPipe fuel id) s) (total, s') ∧
        p.Holds below' last' s' ∧ p.PipesDriven [id] (last :: below) total (last' :: below') := by
  by_cases hrun : ∃ pipe, s.streams.pipe? id = some pipe ∧ pipe.isRunning
  · obtain ⟨pipe, hs, hr⟩ := hrun
    obtain ⟨above, cell, rest, reader, writer, he, hlink, -⟩ := h.split_of_running hs hr
    rcases above.eq_nil_or_concat with rfl | ⟨further, next, rfl⟩
    · obtain ⟨rfl, rfl⟩ := List.cons_eq_cons.mp he
      exact h.pump_last hp hlink
    · rw [List.concat_eq_append, List.append_assoc] at he
      exact h.pump_inner hp he hlink
  · refine ⟨0, below, last, s, .now fun fuel => ?_, h, .none fun same hid => ?_⟩
    · rw [Session.drive_pumpPipe]
      cases hs : s.streams.pipe? id with
      | none => rfl
      | some pipe =>
        have hr : pipe.isRunning = false := Bool.eq_false_iff.mpr fun hr => hrun ⟨pipe, hs, hr⟩
        simp [hr]
    · obtain rfl := List.mem_singleton.mp hid
      intro above reader writer rest hlinks
      obtain ⟨above, rest, he, -, hrest⟩ := List.map_eq_append_iff.mp hlinks
      obtain ⟨cell, rest, rfl, hlink, -⟩ := List.map_eq_cons_iff.mp hrest
      obtain ⟨hentry, -⟩ : p.PipeAt rest.length (.running same reader writer) false s :=
        hlink ▸ (h.link_of_split he).1
      exact absurd ⟨_, hentry, rfl⟩ hrun

end Pumping

/-! ### All pipes -/

/-- Some pipes are driven, one after the other. -/
theorem Holds.pumpEach (hp : p.Distinct) (ids : List PipeId) (h : p.Holds below last s) :
    ∃ total below' last' s',
      Settles (fun fuel => drive (Session.pumpEach fuel ids) s) (total, s') ∧
        p.Holds below' last' s' ∧ p.PipesDriven ids (last :: below) total (last' :: below') := by
  induction ids generalizing below last s with
  | nil =>
    exact ⟨0, below, last, s, .now fun fuel => Session.drive_pumpEach_nil _ s, h,
      .none fun _ hid => absurd hid List.not_mem_nil⟩
  | cons id ids ih =>
    obtain ⟨total, below', last', s', hsettles, h', hsilent⟩ := h.pumpPipe hp id
    obtain ⟨total', below'', last'', s'', hsettles', h'', hsilent'⟩ := ih h'
    refine ⟨total + total', below'', last'', s'',
      hsettles.both hsettles' fun fuel hfuel hnext => ?_, h'', hsilent.append hsilent'⟩
    simp only [Session.drive_pumpEach_cons, hfuel, Option.bind_some, hnext, Option.map_some]

/-- Where no pipe has made a step, a pipe is finished or waits for the one behind it. -/
theorem Holds.finished_or_waits (h : p.Holds below last s) {above rest : List LinkStatus}
    {link : LinkStatus} (he : (last :: below).map Cell.link = above ++ link :: rest)
    (hstarted : ∀ link ∈ (last :: below).map Cell.link, ¬ link.IsIdle)
    (hwaits : ∀ id ∈ s.streams.runningPipes.map Prod.fst,
      Waits ((last :: below).map Cell.link) id) :
    link.IsFinished ∨ ∃ further next, above = further ++ [next] ∧ ¬ next.IsFinished := by
  cases link with
  | idle => exact absurd trivial (hstarted .idle (by rw [he]; simp))
  | finished outcome => exact .inl trivial
  | running id reader writer =>
    obtain ⟨cells, cells', hsplit, -, hrest⟩ := List.map_eq_append_iff.mp he
    obtain ⟨cell, cells', rfl, hlink, -⟩ := List.map_eq_cons_iff.mp hrest
    obtain ⟨hentry, -⟩ : p.PipeAt cells'.length (.running id reader writer) false s :=
      hlink ▸ (h.link_of_split hsplit).1
    have hmem := (Registry.mem_runningPipes s.streams).mpr ⟨hentry, rfl⟩
    exact .inr (hwaits id (List.mem_map_of_mem hmem) above reader writer rest he)

/-- A round in which no step is made leaves no pipe running, unless one has not been started. -/
theorem Holds.quiet (h : p.Holds below last s)
    (hsilent : p.PipesDriven (s.streams.runningPipes.map Prod.fst) (last :: below) 0
      (last' :: below')) :
    (∃ cell ∈ last' :: below', cell.link.IsIdle) ∨
      ∀ cell ∈ last' :: below', cell.link.IsFinished := by
  rcases hsilent.stuck rfl with hidle | ⟨hlinks, hwaits⟩
  · exact .inl hidle
  · refine or_iff_not_imp_left.mpr fun hnone => ?_
    have hstarted : ∀ link ∈ (last :: below).map Cell.link, ¬ link.IsIdle := by
      intro link hmem hidle
      rw [← hlinks] at hmem
      obtain ⟨cell, hcell, rfl⟩ := List.mem_map.mp hmem
      exact hnone ⟨cell, hcell, hidle⟩
    have hstopped : ∀ above link rest,
        (last :: below).map Cell.link = above ++ link :: rest → link.IsFinished := by
      -- from the last pipe on
      intro above
      induction above using List.reverseRecOn with
      | nil =>
        intro link rest he
        exact (h.finished_or_waits he hstarted hwaits).resolve_right fun ⟨further, next, hc, _⟩ =>
          absurd hc (by simp)
      | append_singleton above next ih =>
        intro link rest he
        refine (h.finished_or_waits he hstarted hwaits).resolve_right
          fun ⟨further, same, hc, hunfinished⟩ => hunfinished ?_
        obtain ⟨rfl, hnext⟩ := List.append_inj' hc rfl
        obtain rfl := List.singleton_inj.mp hnext
        exact ih next (link :: rest) (by rw [he, List.append_assoc, List.singleton_append])
    intro cell hmem
    obtain ⟨above, rest, he⟩ := List.append_of_mem (List.mem_map_of_mem hmem)
    exact hstopped above cell.link rest (hlinks ▸ he)

/-- All pipes are driven as far as they go. -/
theorem Holds.pump (hp : p.Distinct) (h : p.Holds below last s) :
    ∃ total below' last' s',
      Settles (fun fuel => drive (Session.pump fuel) s) (total, s') ∧
        p.Holds below' last' s' ∧ List.Forall₂ Cell.GrowsTo (last :: below) (last' :: below') ∧
        ((∃ cell ∈ last' :: below', cell.link.IsIdle) ∨
          ∀ cell ∈ last' :: below', cell.link.IsFinished) := by
  induction hsize : p.remaining (last :: below) using Nat.strong_induction_on
    generalizing below last s with
  | h size ih =>
  obtain ⟨total, below', last', s', hsettles, h', hsilent⟩ :=
    h.pumpEach hp (s.streams.runningPipes.map Prod.fst)
  rcases Nat.eq_zero_or_pos total with rfl | hpos
  · refine ⟨0, below', last', s', hsettles.step fun fuel hfuel => ?_, h', hsilent.growsTo,
      h.quiet hsilent⟩
    rw [Session.drive_pump, hfuel]
    rfl
  · obtain ⟨others, below'', last'', s'', hsettles', h'', hgrows, hquiet⟩ :=
      ih _ (hsize ▸ hsilent.fewer hpos) h' rfl
    refine ⟨total + others, below'', last'', s'',
      .later (hsettles.both hsettles' fun fuel hfuel hnext => ?_), h'',
      Cell.growsTo_trans hsilent.growsTo hgrows, hquiet⟩
    rw [Session.drive_pump, hfuel, Option.bind_some, if_neg (Nat.pos_iff_ne_zero.mp hpos), hnext]
    rfl

/-- Once all pipes have been started they are driven until they have finished. -/
theorem Holds.finish (hp : p.Distinct) (h : p.Holds below last s)
    (hstarted : ¬ ∃ cell ∈ last :: below, cell.link.IsIdle) :
    ∃ total below' last' s',
      Settles (fun fuel => drive (Session.pump fuel) s) (total, s') ∧
        p.Holds below' last' s' ∧ List.Forall₂ Cell.GrowsTo (last :: below) (last' :: below') ∧
        ∀ cell ∈ last' :: below', cell.link.IsFinished := by
  obtain ⟨total, below', last', s', hsettles, h', hgrows, hquiet⟩ := h.pump hp
  exact ⟨total, below', last', s', hsettles, h', hgrows, hquiet.resolve_left fun hidle =>
    hstarted ((Cell.exists_idle_of_growsTo hgrows).mp hidle)⟩

end Passage

end EdgeStreams
