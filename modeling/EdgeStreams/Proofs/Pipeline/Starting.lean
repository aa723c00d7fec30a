import EdgeStreams.Proofs.Pipeline.Driving

/-!
# Starting the pipes of a pipeline

A pipe of a pipeline that has not been started can be started at any time: both its ends are locked,
it is entered, and it is driven as far as it goes.

## Main definitions

- `Cell.StartedBy`: which pipes of a pipeline have been started

## Main statements

- `Passage.open_link`: what opening a pipe does to its ends
- `Passage.Holds.start`: a pipe is started
-/

namespace EdgeStreams

variable {E : Type}

namespace Passage

variable {p : Passage} {s s' : Session MemoryHost E} {below below' : List Cell} {last last' : Cell}
variable {rest : List Cell} {target : Cell} {intake : Intake}

/-- A pipe that has not been started may be running. -/
theorem Joins.started (h : p.Joins target intake) (hidle : target.link = .idle) (id : PipeId)
    (reader : ReaderToken) (writer : WriterToken) :
    p.Joins { target with link := .running id reader writer } intake := by
  refine ⟨fun hf => hf.elim, fun hc => ?_, fun _ _ he => (nomatch he), ?_⟩
  · have hfinished := h.released hc
    rw [hidle] at hfinished
    exact hfinished.elim
  · have hcarried := h.carried
    cases hstate : intake.state with
    | writable =>
      simp only [hstate] at hcarried
      exact ⟨hcarried.1, fun hf => hf.elim⟩
    | closing => rw [hstate] at hcarried; exact hcarried.elim
    | closed => simp [hstate, hidle] at hcarried
    | errored error =>
      simp only [hstate] at hcarried
      exact ⟨hcarried.1, nofun⟩

/-- Opening a pipe locks its ends and enters it. -/
theorem open_link (hp : p.Distinct) (hi : rest.length ≤ p.length)
    (hwf : s.streams.pipes.WellFormed) (h : p.Upto rest target s) (hidle : target.link = .idle)
    (hpipe : p.PipeAt rest.length target.link false s) {backing : SinkBacking E}
    {state : WritableState} (hsink : p.SinkAt rest.length backing state none s) :
    ∃ id reader writer streams,
      exec (Registry.openPipe (p.readable rest.length) (p.writable rest.length) {}) s.streams =
          (.ok id, streams) ∧
        Frame (p.link rest.length) s { s with streams } ∧
        p.Upto rest { target with link := .running id reader writer } { s with streams } ∧
        p.PipeAt rest.length (.running id reader writer) false { s with streams } ∧
        p.SinkAt rest.length backing state (some writer) { s with streams } := by
  obtain ⟨source, hs, hstands⟩ := h.source
  obtain ⟨sink, hw, hback, hrests⟩ := hsink
  have hunlocked : source.readerLock = none := by rw [hstands.lock, hidle]; rfl
  obtain ⟨streams, hopen, hpipes, hsources, hsinks, hbridges⟩ :=
    Registry.exec_openPipe s.streams {} hs hunlocked hw hrests.lock
  have hframe : Frame (p.link rest.length) s { s with streams } :=
    Frame.openPipe hwf rfl hpipes hsources hsinks hbridges
  refine ⟨_, ⟨s.streams.nextToken⟩, ⟨s.streams.nextToken + 1⟩, streams, hopen, hframe, ?_,
    ⟨?_, fun id pipe hother hd => ?_⟩, ?_⟩
  · refine h.replace hframe (hp.apart_before hi subset_rfl subset_rfl rfl subset_rfl rfl) hs _
      ((hsources _).trans (if_pos rfl)) rfl ?_ (.of_eq rfl rfl)
    exact ⟨hstands.started, hstands.kept, hstands.pulling, hstands.unasked, rfl,
      hstands.uncanceled, hstands.shows, hstands.nonempty⟩
  · simp only [Registry.pipe?, hpipes, hwf.get?_insert, if_true]
    rfl
  · simp only [Registry.pipe?, hpipes, hwf.get?_insert] at hother
    split at hother
    · next hid => exact EntryId.key_inj.mp hid
    · rw [hidle] at hpipe
      exact absurd hd (hpipe id pipe hother)
  · exact ⟨_, (hsinks _).trans (if_pos rfl), hback, hrests.started, hrests.kept, hrests.pending,
      hrests.idle, hrests.unaborted, hrests.state, rfl⟩

/-- A pipe that has not been started is opened. -/
theorem Holds.open_pipe (hp : p.Distinct) (h : p.Holds below last s) {above : List Cell}
    (he : last :: below = above ++ target :: rest) (hidle : target.link = .idle) :
    ∃ id reader writer streams below' last',
      exec (Registry.openPipe (p.readable rest.length) (p.writable rest.length) {}) s.streams =
          (.ok id, streams) ∧
        p.Holds below' last' { s with streams } ∧
        last' :: below' = above ++ { target with link := .running id reader writer } :: rest := by
  have hi := h.length_of_split he
  obtain ⟨intake, hmouth, hjoins⟩ := h.mouth
  rcases above.eq_nil_or_concat with rfl | ⟨further, next, rfl⟩
  · -- the last pipe
    obtain ⟨rfl, rfl⟩ := List.cons_eq_cons.mp he
    have hsink := hmouth.sink
    rw [hidle, ← h.length] at hsink
    obtain ⟨id, reader, writer, streams, hopen, hframe, hupto, hpipe, hsink'⟩ :=
      open_link hp hi h.wellFormed h.upto hidle (h.length.symm ▸ h.pipe) hsink
    rw [h.length] at hframe hpipe hsink'
    refine ⟨id, reader, writer, streams, below, _, hopen, ⟨h.length, hupto,
      ⟨h.resting.pulling, h.resting.dry⟩, hpipe, ⟨intake, ⟨hsink', ?_⟩,
        hjoins.started hidle id reader writer⟩, alone_of_frame hframe ?_ h.alone,
      hframe.wellFormed h.wellFormed⟩, rfl⟩
    · exact hmouth.basin.of_frame hframe (Set.notMem_empty _)
    · rintro _ rfl
      exact ⟨p.length, Nat.le_refl _, rfl⟩
  · -- a pipe before the last
    rw [List.concat_eq_append, List.append_assoc, List.singleton_append] at he
    have hi' : rest.length < p.length := h.length_of_split he
    obtain ⟨htarget, hrests, hpipe, intake', hcross, hjoins'⟩ := h.upto.suffix he
    have hsink := hcross.sink
    rw [hidle] at hsink
    obtain ⟨id, reader, writer, streams, hopen, hframe, hupto, hpipe', hsink'⟩ :=
      open_link hp hi h.wellFormed htarget hidle hpipe hsink
    have hcross' : p.Crossing rest.length next intake' (some writer) { s with streams } := by
      refine ⟨hcross.source.of_frame hframe ?_, hsink', ?_, hcross.answers, hcross.accounts,
        hcross.healthy⟩
      · intro hid
        have := hp.readable _ _ hi' hi hid
        omega
      · obtain ⟨bridge, hb, hparts⟩ := hcross.bridge
        exact ⟨bridge, (hframe.bridge _ (Set.notMem_empty _)).trans hb, hparts⟩
    have hframe' : Frame (p.upstream (target :: rest).length) s { s with streams } :=
      hframe.mono (Pipeline.link_within (Nat.lt_succ_self _))
    obtain ⟨below', last', he', h'⟩ :=
      h.splice hp he hframe'
        (show p.Upto ({ target with link := .running id reader writer } :: rest) next _ from
          ⟨hupto, ⟨hrests.pulling, hrests.dry⟩, hpipe', intake', hcross',
            hjoins'.started hidle id reader writer⟩) rfl (List.cons_ne_nil _ _) (.refl next)
    refine ⟨id, reader, writer, streams, below', last', hopen, h', ?_⟩
    rw [he', List.concat_eq_append, List.append_assoc, List.singleton_append]

end Passage

/-! ### Which pipes have been started -/

/-- The pipes of some numbers have been started, and no other. -/
def Cell.StartedBy (started : List Nat) : List Cell → Prop
  | [] => True
  | cell :: below => (cell.link.IsIdle ↔ below.length ∉ started) ∧ Cell.StartedBy started below

namespace Cell

variable {started : List Nat} {cells cells' above rest : List Cell} {target target' : Cell}

theorem StartedBy.of_growsTo (h : StartedBy started cells)
    (hg : List.Forall₂ GrowsTo cells cells') :
    StartedBy started cells' := by
  induction hg with
  | nil => trivial
  | cons hcell hbelow ih => exact ⟨hbelow.length_eq ▸ hcell.isIdle.trans h.1, ih h.2⟩

theorem StartedBy.of_split (h : StartedBy started (above ++ target :: rest)) :
    target.link.IsIdle ↔ rest.length ∉ started := by
  induction above with
  | nil => exact h.1
  | cons first above ih => exact ih h.2

/-- One more pipe is started. -/
theorem StartedBy.start (h : StartedBy started (above ++ target :: rest))
    (ht : ¬ target'.link.IsIdle) :
    StartedBy (rest.length :: started) (above ++ target' :: rest) := by
  have hbefore : ∀ {cells : List Cell} {i : Nat}, StartedBy started cells → cells.length ≤ i →
      StartedBy (i :: started) cells := by
    intro cells i hcells hi
    induction cells with
    | nil => trivial
    | cons cell below ih =>
      rw [List.length_cons] at hi
      refine ⟨hcells.1.trans ?_, ih hcells.2 (by omega)⟩
      simp only [List.mem_cons, not_or]
      exact ⟨fun hn => ⟨by omega, hn⟩, And.right⟩
  induction above with
  | nil => exact ⟨by simpa using ht, hbefore h.2 (Nat.le_refl _)⟩
  | cons first above ih =>
    rw [List.cons_append] at h ⊢
    refine ⟨?_, ih h.2⟩
    have hlength : (above ++ target' :: rest).length = (above ++ target :: rest).length := by simp
    have hlt : rest.length < (above ++ target :: rest).length := by
      simp only [List.length_append, List.length_cons]
      omega
    rw [hlength]
    refine h.1.trans ?_
    simp only [List.mem_cons, not_or]
    exact ⟨fun hn => ⟨by omega, hn⟩, And.right⟩

/-- Once all pipes have been started none is idle. -/
theorem StartedBy.not_idle (h : StartedBy started cells)
    (hall : ∀ i, i < cells.length → i ∈ started) : ¬ ∃ cell ∈ cells, cell.link.IsIdle := by
  induction cells with
  | nil => simp
  | cons cell below ih =>
    rintro ⟨same, hmem, hidle⟩
    rcases List.mem_cons.mp hmem with rfl | hmem
    · exact h.1.mp hidle (hall _ (Nat.lt_succ_self _))
    · exact ih h.2 (fun i hi => hall i (Nat.lt_succ_of_lt hi)) ⟨same, hmem, hidle⟩

end Cell

namespace Passage

variable {p : Passage} {s : Session MemoryHost E} {below : List Cell} {last : Cell}
variable {started : List Nat}

/-- A pipe that has not been started is started. -/
theorem Holds.start (hp : p.Distinct) (h : p.Holds below last s)
    (hstarted : Cell.StartedBy started (last :: below)) {i : Nat} (hi : i ≤ p.length)
    (hnew : i ∉ started) :
    ∃ id below' last' s',
      Settles (fun fuel => attempt (Session.pipeTo fuel (p.readable i) (p.writable i)) s)
          (.ok id, s') ∧
        p.Holds below' last' s' ∧ Cell.StartedBy (i :: started) (last' :: below') := by
  obtain ⟨above, target, rest, he, rfl⟩ := exists_split
    (show i < (last :: below).length by rw [List.length_cons, h.length]; omega)
  rw [he] at hstarted
  have hidle : target.link = .idle := by
    have hidle := hstarted.of_split.mpr hnew
    cases hlink : target.link <;> simp_all [LinkStatus.IsIdle]
  obtain ⟨id, reader, writer, streams, below₁, last₁, hopen, hopened, he₁⟩ :=
    h.open_pipe hp he hidle
  obtain ⟨total, below₂, last₂, s₂, ⟨bound, hsettles⟩, hdriven, hsilent⟩ := hopened.pumpPipe hp id
  refine ⟨id, below₂, last₂, s₂, ⟨bound, fun fuel hfuel => ?_⟩, hdriven, ?_⟩
  · simp only [Session.attempt_pipeTo, hopen]
    simp only [hsettles fuel hfuel, Option.map_some]
  · refine Cell.StartedBy.of_growsTo ?_ hsilent.growsTo
    rw [he₁]
    exact hstarted.start fun hidle => hidle

end Passage

end EdgeStreams
