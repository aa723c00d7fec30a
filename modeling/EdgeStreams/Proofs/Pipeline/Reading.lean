import EdgeStreams.Proofs.Pipeline.Kept

/-!
# Reading from a pipeline

What a read of one of the readable streams comes to, provided that a pull of the same stream comes
to what it should.

## Main definitions

- `Supply.found`, `Cell.afterTake`: what a reader finds at once, and what it leaves
- `Cell.GrowsTo`: what may happen to a cell that is not read itself
- `Passage.AdvancesTo`: what reading and pulling may do
- `Passage.Pulls`, `Passage.Reads`: a pull and a read of the readable stream of a number

## Main statements

- `Passage.pulls_zero`: a pull of the source
- `Passage.Pulls.reads`: reading on the strength of pulling
-/

namespace EdgeStreams

variable {E : Type}

/-! ### What is ready -/

namespace Supply

/-- What a reader finds at once. -/
def found : Supply → Except StreamError (Option ReadOutcome)
  | flowing [] | draining [] => .ok none
  | flowing (chunk :: _) | draining (chunk :: _) => .ok (some (.chunk chunk))
  | ended | canceled => .ok (some .done)
  | failed error => .error error

/-- The octets that a reader finds at once. -/
def gift (supply : Supply) : Bytes := supply.queue.headD []

/-- What a reader leaves. -/
def rest : Supply → Supply
  | flowing queue => flowing queue.tail
  | draining queue => if queue.tail = [] then ended else draining queue.tail
  | supply => supply

variable {supply : Supply}

theorem queue_rest : supply.rest.queue = supply.queue.tail := by
  cases supply with
  | draining chunks =>
    by_cases h : chunks.tail = []
    · simp [rest, queue, h]
    · simp [rest, queue, h]
  | flowing chunks | ended | canceled | failed error => rfl

theorem found_chunk {chunk : Bytes} (h : supply.found = .ok (some (.chunk chunk))) :
    supply.gift = chunk ∧ chunk ∈ supply.queue := by
  cases supply with
  | flowing chunks | draining chunks => cases chunks <;> simp_all [found, gift, queue]
  | ended | canceled | failed error => simp [found] at h

theorem found_none (h : supply.found = .ok none) : supply.queue = [] ∧ ¬ supply.IsTerminal := by
  cases supply with
  | flowing chunks | draining chunks => cases chunks <;> simp_all [found, queue, IsTerminal]
  | ended | canceled | failed error => simp [found] at h

theorem found_done (h : supply.found = .ok (some .done)) : supply = ended ∨ supply = canceled := by
  cases supply with
  | flowing chunks | draining chunks => cases chunks <;> simp [found] at h
  | ended => exact .inl rfl
  | canceled => exact .inr rfl
  | failed error => simp [found] at h

theorem found_ne_pending : supply.found ≠ .ok (some .pending) := by
  cases supply with
  | flowing chunks | draining chunks => cases chunks <;> simp [found]
  | ended | canceled | failed error => simp [found]

theorem found_error {error : StreamError} (h : supply.found = .error error) :
    supply = failed error := by
  cases supply with
  | flowing chunks | draining chunks => cases chunks <;> simp [found] at h
  | ended | canceled => simp [found] at h
  | failed error => simpa [found] using h

end Supply

/-- The cell once a reader has taken what is ready. -/
def Cell.afterTake (cell : Cell) : Cell :=
  { cell with taken := cell.taken ++ cell.supply.gift, supply := cell.supply.rest }

theorem Source.Stands.takeReady {source : Source E} {cell : Cell} (h : source.Stands cell) :
    source.controller.takeReady.1 = cell.supply.found ∧
      ({ source with controller := source.controller.takeReady.2 } : Source E).Stands
        cell.afterTake := by
  obtain ⟨taken, supply, link, pulling⟩ := cell
  obtain ⟨hstart, hkept, hpull, hask, hlock, huncanceled, hshows, hnonempty⟩ := h
  cases supply with
  | flowing queue =>
    obtain ⟨hs, hc, rfl⟩ := hshows
    cases hq : source.controller.queue with
    | nil =>
      simp only [ReadableController.takeReady, hs, ReadableController.dequeue, hq]
      refine ⟨rfl, hstart, hkept, hpull, hask, hlock, fun _ _ => huncanceled _ (.inl rfl),
        ⟨hs, hc, hq⟩, by simp [Cell.afterTake, Supply.rest, Supply.queue]⟩
    | cons chunk queue =>
      simp only [ReadableController.takeReady, hs, ReadableController.dequeue, hq]
      refine ⟨rfl, hstart, hkept, hpull, hask, hlock, fun _ _ => huncanceled _ (.inl rfl),
        ⟨by simp [hc], hc, rfl⟩, fun x hx => hnonempty x ?_⟩
      simp only [Supply.queue, hq]
      exact List.mem_cons_of_mem _ hx
  | draining queue =>
    obtain ⟨hs, hc, rfl, hne⟩ := hshows
    cases hq : source.controller.queue with
    | nil => exact absurd hq hne
    | cons chunk queue =>
      simp only [ReadableController.takeReady, hs, ReadableController.dequeue, hq]
      cases queue with
      | nil =>
        refine ⟨rfl, hstart, hkept, hpull, hask, hlock, fun _ _ => huncanceled _ (.inr rfl),
          ⟨by simp [hc], rfl⟩, by simp [Cell.afterTake, Supply.rest, Supply.queue]⟩
      | cons next queue =>
        refine ⟨rfl, hstart, hkept, hpull, hask, hlock, fun _ _ => huncanceled _ (.inr rfl),
          ⟨by simp [hc], hc, rfl, by simp⟩, fun x hx => hnonempty x ?_⟩
        simp only [Supply.queue, hq]
        exact List.mem_cons_of_mem _ hx
  | ended =>
    simp only [ReadableController.takeReady, hshows.1]
    exact ⟨rfl, hstart, hkept, hpull, hask, hlock,
      fun _ h => by simp [Cell.afterTake, Supply.rest] at h, hshows, hnonempty⟩
  | canceled =>
    simp only [ReadableController.takeReady, hshows.1]
    exact ⟨rfl, hstart, hkept, hpull, hask, hlock,
      fun _ h => by simp [Cell.afterTake, Supply.rest] at h, hshows, hnonempty⟩
  | failed error =>
    simp only [ReadableController.takeReady, hshows.1]
    exact ⟨rfl, hstart, hkept, hpull, hask, hlock,
      fun _ h => by simp [Cell.afterTake, Supply.rest] at h, hshows, hnonempty⟩

@[simp] theorem Cell.link_afterTake (cell : Cell) : cell.afterTake.link = cell.link := rfl

@[simp] theorem Cell.pulling_afterTake (cell : Cell) : cell.afterTake.pulling = cell.pulling := rfl

namespace Passage

variable {cell : Cell}

/-- A reader takes no more than came in. -/
theorem Follows.afterTake (cell : Cell) : Follows cell cell.afterTake := by
  obtain ⟨taken, supply, link, pulling⟩ := cell
  cases supply with
  | flowing queue =>
    refine ⟨fun incoming h => ?_, fun _ h => h, fun h => h, fun _ h => (h trivial).elim, fun h => h⟩
    cases queue <;> simpa [Cell.afterTake, Supply.rest, Supply.gift, Supply.queue, Supply.Accounts]
      using h
  | draining queue =>
    match queue with
    | [] | [chunk] =>
      refine ⟨fun incoming h => ?_, fun _ h => h, fun h => h.elim,
        fun _ _ => ⟨trivial, fun h => h⟩, fun _ => trivial⟩
      simpa [Cell.afterTake, Supply.rest, Supply.gift, Supply.queue, Supply.Accounts] using h
    | chunk :: next :: queue =>
      refine ⟨fun incoming h => ?_, fun _ h => h, fun h => h.elim,
        fun _ _ => ⟨trivial, fun h => h⟩, fun _ => trivial⟩
      simpa [Cell.afterTake, Supply.rest, Supply.gift, Supply.queue, Supply.Accounts] using h
  | ended => exact Follows.of_eq rfl (by simp [Cell.afterTake, Supply.gift, Supply.queue])
  | canceled => exact Follows.of_eq rfl (by simp [Cell.afterTake, Supply.gift, Supply.queue])
  | failed error => exact Follows.of_eq rfl (by simp [Cell.afterTake, Supply.gift, Supply.queue])

end Passage

theorem Source.Stands.wantsPull_of_not_open {source : Source E} {cell : Cell}
    (h : source.Stands cell) (ho : ¬ cell.supply.IsOpen) (waits : Bool) :
    source.wantsPull waits = false := by
  have hshows := h.shows
  cases hs : cell.supply with
  | flowing queue => exact absurd (by rw [hs]; trivial) ho
  | draining queue =>
    rw [hs] at hshows
    simp [Source.wantsPull, hshows.2.1]
  | ended | canceled | failed error =>
    rw [hs] at hshows
    simp [Source.wantsPull, hshows.1]

/-- A stream that is open is pulled for a reader that waits. -/
theorem Source.Stands.wantsPull_of_open {source : Source E} {cell : Cell} (h : source.Stands cell)
    (ho : cell.supply.IsOpen) : source.wantsPull true = true := by
  cases hs : cell.supply with
  | flowing queue =>
    have hshows := h.shows
    rw [hs] at hshows
    simp [Source.wantsPull, StartState.isResolved, h.started, h.uncanceled queue (.inl hs),
      hshows.1, hshows.2.1]
  | draining queue | ended | canceled | failed error =>
    rw [hs] at ho
    exact ho.elim

/-! ### What reading may do -/

/-- What may happen to a cell that is not read itself: more is taken from it, and the pipe out of it
finishes. -/
structure Cell.GrowsTo (cell cell' : Cell) : Prop where
  taken : cell.taken <+: cell'.taken
  link : cell'.link = cell.link ∨ cell.link.IsRunning ∧ cell'.link.IsFinished

theorem Cell.GrowsTo.refl (cell : Cell) : cell.GrowsTo cell := ⟨List.prefix_rfl, .inl rfl⟩

theorem Cell.GrowsTo.trans {first second third : Cell} (h : first.GrowsTo second)
    (h' : second.GrowsTo third) : first.GrowsTo third := by
  refine ⟨h.taken.trans h'.taken, ?_⟩
  rcases h.link with he | ⟨hr, hf⟩
  · rw [← he]
    exact h'.link
  · rcases h'.link with he | ⟨hr', -⟩
    · rw [he]
      exact .inr ⟨hr, hf⟩
    · cases hl : second.link <;> simp_all [LinkStatus.IsRunning, LinkStatus.IsFinished]

theorem Cell.growsTo_trans {first second third : List Cell}
    (h : List.Forall₂ Cell.GrowsTo first second) (h' : List.Forall₂ Cell.GrowsTo second third) :
    List.Forall₂ Cell.GrowsTo first third := by
  induction h generalizing third with
  | nil => exact h'
  | cons hgrows _ ih =>
    cases h' with
    | cons hgrows' h' => exact .cons (hgrows.trans hgrows') (ih h')

namespace Passage

variable {p : Passage} {s s' s'' : Session MemoryHost E}
variable {below below' below'' : List Cell} {cell cell' cell'' : Cell}

/-- What reading and pulling the last readable stream may do. -/
structure AdvancesTo (p : Passage) (below : List Cell) (cell : Cell) (s : Session MemoryHost E)
    (below' : List Cell) (cell' : Cell) (s' : Session MemoryHost E) : Prop where
  upto : p.Upto below' cell' s'
  frame : Frame (p.upstream below.length) s s'
  growsTo : List.Forall₂ Cell.GrowsTo below below'
  link : cell'.link = cell.link
  uncanceled : cell'.supply = .canceled → cell.supply = .canceled

/-- Nothing happens before the last readable stream. -/
theorem AdvancesTo.here (h : p.Upto below cell' s') (hf : Frame (p.upstream below.length) s s')
    (hlink : cell'.link = cell.link)
    (huncanceled : cell'.supply = .canceled → cell.supply = .canceled) :
    p.AdvancesTo below cell s below cell' s' :=
  ⟨h, hf, List.forall₂_same.mpr fun cell _ => .refl cell, hlink, huncanceled⟩

theorem AdvancesTo.refl (h : p.Upto below cell s) : p.AdvancesTo below cell s below cell s :=
  .here h (Frame.refl _ s) rfl fun h => h

theorem AdvancesTo.congr (h : p.AdvancesTo below cell s below' cell' s')
    (hs : s''.streams = s'.streams) (hh : s''.host = s'.host) :
    p.AdvancesTo below cell s below' cell' s'' :=
  ⟨h.upto.congr hs hh, h.frame.congr hs hh, h.growsTo, h.link, h.uncanceled⟩

theorem AdvancesTo.noteEnqueued (h : p.AdvancesTo below cell s below' cell' s') (id : ReadableId)
    (chunks : List Bytes) :
    p.AdvancesTo below cell s below' cell' (Session.noteEnqueued id chunks s') :=
  h.congr rfl rfl

theorem AdvancesTo.note (h : p.Upto below cell s) (event : StreamEvent) :
    p.AdvancesTo below cell s below cell (Session.note event s) :=
  (AdvancesTo.refl h).congr rfl rfl

theorem AdvancesTo.length (h : p.AdvancesTo below cell s below' cell' s') :
    below'.length = below.length := h.growsTo.length_eq.symm

theorem AdvancesTo.trans (h : p.AdvancesTo below cell s below' cell' s')
    (h' : p.AdvancesTo below' cell' s' below'' cell'' s'') :
    p.AdvancesTo below cell s below'' cell'' s'' := by
  refine ⟨h'.upto, h.frame.trans (h.length ▸ h'.frame), ?_, h'.link.trans h.link,
    fun hc => h.uncanceled (h'.uncanceled hc)⟩
  exact Cell.growsTo_trans h.growsTo h'.growsTo

section TakeReady

variable {i : Nat} (hp : p.Distinct) (hi : i ≤ p.length) (hlen : below.length = i)
include hp hi hlen

/-- A reader finds what the supply has ready. -/
theorem Upto.takeReady (h : p.Upto below cell s) :
    ∃ s', exec (Session.takeReady (p.readable i)) s = (cell.supply.found, s') ∧
      p.AdvancesTo below cell s below cell.afterTake s' := by
  subst hlen
  obtain ⟨source, hs, hstands⟩ := h.source
  obtain ⟨hfound, hafter⟩ := hstands.takeReady
  have hset := h.setSource hp hi hs
    { source with controller := source.controller.takeReady.2 } rfl hafter
    (.afterTake cell)
  have hframe := (Frame.setSource s (p.readable below.length)
    { source with controller := source.controller.takeReady.2 }).mono Pipeline.readable_within
  have htake := Session.exec_takeReady hs
  rw [hfound] at htake
  refine ⟨_, htake, .here (hset.congr (by simp) (by simp)) (hframe.congr (by simp) (by simp)) rfl
    fun hc => ?_⟩
  cases hsupply : cell.supply with
  | draining queue =>
    simp only [Cell.afterTake, hsupply, Supply.rest] at hc
    split at hc <;> cases hc
  | flowing queue | ended | failed error => simp [Cell.afterTake, hsupply, Supply.rest] at hc
  | canceled => rfl

/-- A change of the last readable stream that its cell does not see. -/
theorem Upto.touch (h : p.Upto below cell s) {source : Source E}
    (hs : s.streams.source? (p.readable i) = some source) (source' : Source E) (cell' : Cell)
    (hb : source'.backing = source.backing) (hstands : source'.Stands cell')
    (hsupply : cell'.supply = cell.supply) (htaken : cell'.taken = cell.taken)
    (hlink : cell'.link = cell.link) :
    p.AdvancesTo below cell s below cell' (Session.setSource (p.readable i) source' s) := by
  subst hlen
  exact .here (h.setSource hp hi hs source' hb hstands (.of_eq hsupply htaken))
    ((Frame.setSource s _ _).mono Pipeline.readable_within) hlink fun h => hsupply ▸ h

end TakeReady

/-! ### Pulling -/

/-- What the outcome of a pull says. Only a host body fails, and a stream that is still empty waits
for a pipe that has not been started. -/
def Pulled (p : Passage) (below : List Cell) (cell : Cell) : Except StreamError Unit → Prop
  | .ok () => cell.supply = .flowing [] → ∃ last ∈ below, last.link.IsIdle
  | .error _ => below = [] ∧ ¬ p.calm ∧ cell.supply.IsOpen

/-- A pull of the readable stream of a number does what it should. -/
def Pulls (E : Type) (p : Passage) (i : Nat) : Prop :=
  ∀ (below : List Cell) (cell : Cell) (s : Session MemoryHost E), below.length = i →
    p.Upto below cell s → cell.supply.IsOpen →
    ∃ result below' cell' s',
      Settles (fun fuel => attempt (Session.pull fuel (p.readable i)) s) (result, s') ∧
        p.AdvancesTo below cell s below' cell' s' ∧ p.Pulled below' cell' result ∧
        cell'.pulling = cell.pulling ∧ cell'.taken = cell.taken ∧
        (below' = [] → cell'.supply.queue.length ≤ cell.supply.queue.length + 1)

/-- A failed read of the host body fails the source. -/
theorem Spring.fail (h : p.Spring cell s) (hc : ¬ p.calm) (ho : cell.supply.IsOpen)
    {source : Source E} (hs : s.streams.source? (p.readable 0) = some source)
    (hstands : source.Stands cell) (error : StreamError) :
    p.Spring { cell with supply := .failed error, pulling := false }
      (Session.afterPull (p.readable 0) source (.error error) s) := by
  cases hsupply : cell.supply with
  | draining queue | ended | canceled | failed error =>
    rw [hsupply] at ho
    exact ho.elim
  | flowing queue =>
    have hshows := hstands.shows
    rw [hsupply] at hshows
    have hcontroller : source.controller.error error =
        { source.controller.clear with state := .errored error } := by
      simp [ReadableController.error, hshows.1]
    refine h.replace (Frame.setSource s _ _) (fun _ _ => Set.notMem_empty _) hs
      { source with pulling := false, controller := source.controller.error error }
      (by simp [Session.afterPull, Registry.source?_setSource, hs]) rfl ?_ ?_ ?_ ?_ ?_
    · rw [hcontroller]
      exact ⟨hstands.started, hstands.kept, rfl, hstands.unasked, hstands.lock, by simp,
        ⟨rfl, rfl⟩, by simp [Supply.queue]⟩
    · intro incoming hin
      rw [hsupply] at hin
      exact ⟨_, hin.symm⟩
    · exact fun hn => hn.elim
    · exact fun hn => hn.elim
    · exact fun hn => absurd hn hc

section PullIfNeeded

variable {i : Nat} (hp : p.Distinct) (hi : i ≤ p.length) (hpull : p.Pulls E i)
include hp hi hpull

theorem Pulls.pullIfNeeded (hlen : below.length = i) (h : p.Upto below cell s)
    (hrest : cell.pulling = false) (waits : Bool) :
    ∃ below' cell' s',
      Settles (fun fuel => drive (Session.pullIfNeeded fuel (p.readable i) waits) s) ((), s') ∧
        p.AdvancesTo below cell s below' cell' s' ∧ cell'.pulling = false ∧
        cell'.taken = cell.taken ∧ (¬ cell.supply.IsOpen → cell'.supply = cell.supply) ∧
        (waits = true → cell'.supply = .flowing [] → ∃ last ∈ below', last.link.IsIdle) ∧
        (below' = [] → cell'.supply.queue.length ≤ cell.supply.queue.length + 1) := by
  obtain ⟨source, hs, hstands⟩ := h.source
  rw [hlen] at hs
  cases hwants : source.wantsPull waits with
  | false =>
    refine ⟨below, cell, s, .now fun fuel => ?_, .refl h, hrest, rfl, fun _ => rfl, fun hw hq => ?_,
      fun _ => Nat.le_succ _⟩
    · simp [Session.drive_pullIfNeeded, hs, hwants]
    · subst hw
      rw [hstands.wantsPull_of_open (by rw [hq]; trivial)] at hwants
      exact absurd hwants (by simp)
  | true =>
    have hopen : cell.supply.IsOpen := by
      by_contra ho
      rw [hstands.wantsPull_of_not_open ho] at hwants
      exact absurd hwants (by simp)
    have hidle : source.pulling = false := hstands.pulling.trans hrest
    -- the stream is marked, pulled, and then unmarked
    have hmark := h.touch hp hi hlen hs { source with pulling := true }
      { cell with pulling := true } rfl
      ⟨hstands.started, hstands.kept, rfl, hstands.unasked, hstands.lock, hstands.uncanceled,
        hstands.shows, hstands.nonempty⟩ rfl rfl rfl
    have hbegan := hmark.trans (.note hmark.upto (.pullBegan (p.readable i)))
    obtain ⟨result, below', cell', s', hsettles, hadv, hpulled, hpulling, htaken, hqueue⟩ :=
      hpull below _ _ hlen hbegan.upto hopen
    have hlen' : below'.length = i := hadv.length.trans hlen
    have hended := (hbegan.trans hadv).trans (.note hadv.upto (.pullEnded (p.readable i) result))
    obtain ⟨source', hs', hstands'⟩ := hadv.upto.source
    rw [hlen'] at hs'
    cases result with
    | error error =>
      obtain ⟨rfl, hcalm, hopen'⟩ := hpulled
      obtain rfl : i = 0 := hlen'.symm
      have hfailed : p.AdvancesTo [] cell' _ []
          { cell' with supply := .failed error, pulling := false } _ :=
        .here (Spring.fail hended.upto hcalm hopen' hs' hstands' error)
          ((Frame.setSource _ (p.readable 0) _).mono Pipeline.readable_within) rfl nofun
      refine ⟨[], _, _, .step hsettles fun fuel hfuel => ?_, hended.trans hfailed, rfl, htaken,
        fun ho => absurd hopen ho, nofun, fun _ => Nat.zero_le _⟩
      simp [Session.drive_pullIfNeeded, hs, hwants, hidle, hfuel, hs']
    | ok =>
      have hclear := hended.upto.touch hp hi hlen' hs'
        { source' with pulling := false } { cell' with pulling := false } rfl
        ⟨hstands'.started, hstands'.kept, rfl, hstands'.unasked, hstands'.lock,
          hstands'.uncanceled, hstands'.shows, hstands'.nonempty⟩ rfl rfl rfl
      refine ⟨below', _, _, .step hsettles fun fuel hfuel => ?_, hended.trans hclear, rfl, htaken,
        fun ho => absurd hopen ho, fun _ => hpulled, hqueue⟩
      simp [Session.drive_pullIfNeeded, hs, hwants, hidle, hfuel, hs', hstands'.unasked,
        Session.afterPull]

end PullIfNeeded

/-! ### Reading -/

/-- What the outcome of a read says. -/
def Found (below : List Cell) (cell cell' : Cell) : Except StreamError ReadOutcome → Prop
  | .ok (.chunk data) => data ≠ [] ∧ cell'.taken = cell.taken ++ data
  | .ok .done => cell'.taken = cell.taken ∧ (cell'.supply = .ended ∨ cell'.supply = .canceled)
  | .ok .pending => cell'.taken = cell.taken ∧ ∃ last ∈ below, last.link.IsIdle
  | .error error => cell'.taken = cell.taken ∧ cell'.supply = .failed error

/-- A read of the readable stream of a number does what it should. -/
def Reads (E : Type) (p : Passage) (i : Nat) : Prop :=
  ∀ (below : List Cell) (cell : Cell) (s : Session MemoryHost E), below.length = i →
    p.Upto below cell s → cell.Rests below →
    ∃ outcome below' cell' s',
      Settles (fun fuel => attempt (Session.readUnchecked fuel (p.readable i)) s) (outcome, s') ∧
        p.AdvancesTo below cell s below' cell' s' ∧ cell'.Rests below' ∧
        Found below' cell cell' outcome

/-- A stream that drains has something left. -/
theorem Upto.ne_draining (h : p.Upto below cell s) : cell.supply ≠ .draining [] := by
  obtain ⟨source, -, hstands⟩ := h.source
  intro hd
  have hshows := hstands.shows
  rw [hd] at hshows
  exact hshows.2.2.2 rfl

theorem Upto.nonempty (h : p.Upto below cell s) : ∀ chunk ∈ cell.supply.queue, chunk ≠ [] := by
  obtain ⟨source, -, hstands⟩ := h.source
  exact hstands.nonempty

/-- What is ready after a pull is the outcome of the read. -/
theorem Found.orPending (h : p.Upto below' cell' s') (htaken : cell'.taken = cell.taken)
    (hidle : cell'.supply = .flowing [] → ∃ last ∈ below', last.link.IsIdle) :
    Found below' cell cell'.afterTake (cell'.supply.found.map Session.orPending) := by
  cases hfound : cell'.supply.found with
  | error error =>
    have hs := Supply.found_error hfound
    exact ⟨by simp [Cell.afterTake, hs, Supply.gift, Supply.queue, htaken],
      by simp [Cell.afterTake, hs, Supply.rest]⟩
  | ok found =>
    cases found with
    | none =>
      obtain ⟨hq, hterminal⟩ := Supply.found_none hfound
      refine ⟨by simp [Cell.afterTake, Supply.gift, hq, htaken], hidle ?_⟩
      cases hs : cell'.supply with
      | flowing queue => rw [hs] at hq; exact congrArg _ hq
      | draining queue =>
        rw [hs] at hq
        exact absurd (hs.trans (congrArg _ hq)) h.ne_draining
      | ended | canceled | failed error => rw [hs] at hterminal; exact absurd trivial hterminal
    | some outcome =>
      cases outcome with
      | chunk data =>
        obtain ⟨hgift, hmem⟩ := Supply.found_chunk hfound
        exact ⟨h.nonempty data hmem, by simp [Cell.afterTake, hgift, htaken]⟩
      | done =>
        rcases Supply.found_done hfound with hs | hs
        · exact ⟨by simp [Cell.afterTake, hs, Supply.gift, Supply.queue, htaken],
            .inl (by simp [Cell.afterTake, hs, Supply.rest])⟩
        · exact ⟨by simp [Cell.afterTake, hs, Supply.gift, Supply.queue, htaken],
            .inr (by simp [Cell.afterTake, hs, Supply.rest])⟩
      | pending => exact absurd hfound Supply.found_ne_pending

/-- A stream is read as it should be if it is pulled as it should be. -/
theorem Pulls.reads {i : Nat} (hp : p.Distinct) (hi : i ≤ p.length) (hpull : p.Pulls E i) :
    p.Reads E i := by
  intro below cell s hlen h hrest
  obtain ⟨source, hs, hstands⟩ := h.source
  rw [hlen] at hs
  have hdisturb := h.touch hp hi hlen hs { source with disturbed := true } cell rfl
    ⟨hstands.started, hstands.kept, hstands.pulling, hstands.unasked, hstands.lock,
      hstands.uncanceled, hstands.shows, hstands.nonempty⟩ rfl rfl rfl
  obtain ⟨s₁, htake, hadv₁⟩ := hdisturb.upto.takeReady hp hi hlen
  replace hadv₁ := hdisturb.trans hadv₁
  have hread : ∀ fuel, attempt (Session.readUnchecked (fuel + 1) (p.readable i)) s = _ :=
    fun fuel => Session.attempt_readUnchecked fuel s (p.readable i)
  simp only [hs, Session.disturb, htake] at hread
  simp only [hstands.started] at hread
  -- the source keeps nothing, whatever is taken
  have hdry : below = [] → cell.afterTake.supply.queue = [] := fun hb => by
    rw [Cell.afterTake, Supply.queue_rest, hrest.dry hb, List.tail_nil]
  cases hfound : cell.supply.found with
  | error error =>
    rw [hfound] at hread
    refine ⟨_, below, _, s₁, .now hread, hadv₁, ⟨hrest.pulling, hdry⟩, ?_⟩
    have hsays : Found below cell cell.afterTake _ :=
      Found.orPending h rfl fun hq => by rw [hq] at hfound; cases hfound
    rw [hfound] at hsays
    exact hsays
  | ok found =>
    rw [hfound] at hread
    cases found with
    | none =>
      obtain ⟨below', cell', s₂, hsettles, hadv₂, hpulling, htaken, -, hidle, hqueue⟩ :=
        hpull.pullIfNeeded hp hi hlen hadv₁.upto hrest.pulling true
      have hlen' : below'.length = i := hadv₂.length.trans hlen
      obtain ⟨s₃, htake', hadv₃⟩ := hadv₂.upto.takeReady hp hi hlen'
      refine ⟨_, below', _, s₃, .step hsettles fun fuel hfuel => ?_,
        (hadv₁.trans hadv₂).trans hadv₃, ⟨hpulling, fun hb => ?_⟩,
        Found.orPending hadv₂.upto ?_ (hidle rfl)⟩
      · simp only [hread, hfuel, Option.map_some, htake']
      · have hb' : below = [] := List.length_eq_zero_iff.mp (by rw [← hadv₂.length, hb]; rfl)
        have hshort := hqueue hb
        rw [hdry hb', List.length_nil] at hshort
        rw [Cell.afterTake, Supply.queue_rest, ← List.length_eq_zero_iff, List.length_tail]
        omega
      · rw [htaken, Cell.afterTake, Supply.gift, (Supply.found_none hfound).1]
        exact List.append_nil _
    | some outcome =>
      cases outcome with
      | chunk data =>
        obtain ⟨hgift, hmem⟩ := Supply.found_chunk hfound
        obtain ⟨below', cell', s₂, hsettles, hadv₂, hpulling, htaken, -, -, -⟩ :=
          hpull.pullIfNeeded hp hi hlen hadv₁.upto hrest.pulling false
        refine ⟨.ok (.chunk data), below', cell', s₂, .step hsettles fun fuel hfuel => ?_,
          hadv₁.trans hadv₂, ⟨hpulling, fun hb => ?_⟩, h.nonempty data hmem, ?_⟩
        · simp only [hread, hfuel, Option.map_some]
        · have hb' : below = [] := List.length_eq_zero_iff.mp (by rw [← hadv₂.length, hb]; rfl)
          rw [hrest.dry hb'] at hmem
          exact absurd hmem List.not_mem_nil
        · rw [htaken, Cell.afterTake, hgift]
      | done =>
        refine ⟨_, below, _, s₁, .now hread, hadv₁, ⟨hrest.pulling, hdry⟩, ?_⟩
        have hsays : Found below cell cell.afterTake _ :=
          Found.orPending h rfl fun hq => by rw [hq] at hfound; cases hfound
        rw [hfound] at hsays
        exact hsays
      | pending => exact absurd hfound Supply.found_ne_pending

end Passage

end EdgeStreams
