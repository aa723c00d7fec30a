import EdgeStreams.Proofs.Pipeline.Cancel

/-!
# Driving a pipe of a pipeline

A pipe is driven until it finishes or has to wait. It waits for its destination, or for a pipe
before it that has not been started.

## Main definitions

- `Passage.Driven`: what driving a pipe does
- `Passage.HasRead`: a pipe between what it reads and what it does with it

## Main statements

- `Passage.Upto.finish`: a pipe finishes
- `Passage.Reads.pumpSteps`, `Passage.Reads.pumpPipe`: a pipe is driven as it should be if its
  source is read as it should be
-/

namespace EdgeStreams

variable {E : Type}

namespace Passage

variable {p : Passage} {i : Nat} {s s' : Session MemoryHost E} {below below' : List Cell}
variable {last last' : Cell} {intake : Intake}

/-- A pipe carries no more than has been taken from its source. -/
theorem Joins.octets_prefix (h : p.Joins last intake) : intake.octets <+: last.taken := by
  have hcarried := h.carried
  cases hstate : intake.state with
  | writable | closed => simp only [hstate] at hcarried; exact hcarried.1 ▸ List.prefix_rfl
  | closing => rw [hstate] at hcarried; exact hcarried.elim
  | errored error => simp only [hstate] at hcarried; exact hcarried.1

/-- Nobody but the pipe out of a stream cancels it. -/
theorem Joins.uncanceled (h : p.Joins last intake) (hr : last.link.IsRunning) :
    last.supply ≠ .canceled := fun hc => by
  have hfinished := h.released hc
  cases hl : last.link <;> simp_all [LinkStatus.IsRunning, LinkStatus.IsFinished]

/-- A pipe that is under way. -/
theorem Joins.of_running (hr : last.link.IsRunning) (hu : last.supply ≠ .canceled)
    (hs : intake.state = .writable) (ho : intake.octets = last.taken) : p.Joins last intake := by
  have hfinished : ¬ last.link.IsFinished := by
    cases hl : last.link <;> simp_all [LinkStatus.IsRunning, LinkStatus.IsFinished]
  refine ⟨fun hf => absurd hf hfinished, fun hc => absurd hc hu, fun _ outcome he => ?_, ?_⟩
  · exact absurd (he ▸ trivial) hfinished
  · rw [hs]
    exact ⟨ho, hfinished⟩

theorem Upto.healthy (h : p.Upto below last s) (hc : p.calm) : last.supply.IsHealthy := by
  cases below with
  | nil => exact Spring.healthy h hc
  | cons next below =>
    obtain ⟨-, -, -, intake, hcross, -⟩ := h
    exact hcross.healthy hc

/-- Wherever octets are taken from, they are the first of the content. -/
theorem Upto.taken_prefix (h : p.Upto below last s) : last.taken <+: p.content := by
  induction below generalizing last with
  | nil =>
    obtain ⟨body, entered, -, ⟨hcontent, -⟩, haccounts, -⟩ := Spring.origin h
    exact (Supply.Accounts.prefix' haccounts).trans ⟨_, hcontent.symm⟩
  | cons next below ih =>
    obtain ⟨hnext, -, -, intake, hcross, hjoin⟩ := h
    exact (Supply.Accounts.prefix' hcross.accounts).trans
      (hjoin.octets_prefix.trans (ih hnext))

/-! ### A pipe that is driven -/

/-- A pipe of a pipeline while it is driven, between two of its steps. -/
structure Going (p : Passage) {i : Nat} (o : p.Outlet E i) (id : PipeId) (reader : ReaderToken)
    (writer : WriterToken) (below : List Cell) (last : Cell) (intake : Intake)
    (s : Session MemoryHost E) : Prop where
  length : below.length = i
  upto : p.Upto below last s
  rests : last.Rests below
  link : last.link = .running id reader writer
  pipe : p.PipeAt i last.link true s
  outlet : o.Stands intake (some writer) s

theorem Going.running {o : p.Outlet E i} {id : PipeId} {reader : ReaderToken}
    {writer : WriterToken} (h : p.Going o id reader writer below last intake s) :
    last.link.IsRunning := by
  rw [h.link]
  trivial

theorem Going.entry {o : p.Outlet E i} {id : PipeId} {reader : ReaderToken}
    {writer : WriterToken} (h : p.Going o id reader writer below last intake s) :
    ∃ pipe, s.streams.pipe? id = some pipe ∧ pipe.destination = p.writable i := by
  have hpipe := h.pipe
  rw [h.link] at hpipe
  exact ⟨_, hpipe.1, rfl⟩

/-- What may change when a pipe is driven. -/
def Outlet.course (o : p.Outlet E i) : Footprint := p.upstream i ∪ (p.link i ∪ o.reach)

/-- What driving a pipe that has made `steps` steps does; it makes `total` steps in all. If it makes
no more it waits, either for its destination, and then nothing has happened, or for a pipe before it
that has not been started. -/
structure Driven (p : Passage) {i : Nat} (o : p.Outlet E i) (id : PipeId) (pumping : Bool)
    (below : List Cell) (last : Cell) (s : Session MemoryHost E) (steps total : Nat)
    (below' : List Cell) (last' : Cell) (intake' : Intake) (s' : Session MemoryHost E) :
    Prop where
  length : below'.length = i
  upto : p.Upto below' last' s'
  rests : last'.Rests below'
  pipe : p.PipeAt i last'.link pumping s'
  outlet : o.Stands intake' last'.link.writer? s'
  joins : p.Joins last' intake'
  frame : Frame o.course s s'
  growsTo : List.Forall₂ Cell.GrowsTo (last :: below) (last' :: below')
  entry : ∃ pipe, s'.streams.pipe? id = some pipe ∧ pipe.destination = p.writable i
  progress :
    total = steps ∧ last'.link = last.link ∧
        (below' = below ∧ intake'.state = .writable ∧
            s.streams.sinkReady (p.writable i) = false ∨
          ∃ cell ∈ below', cell.link.IsIdle) ∨
      steps < total ∧ (last'.link.IsFinished ∨ last.taken.length < last'.taken.length)

section Frames

variable {o : p.Outlet E i}

theorem Outlet.upstream_within : (p.upstream i).Within o.course := Footprint.within_union_left

theorem Outlet.link_within : (p.link i).Within o.course :=
  ⟨fun _ h => .inr (.inl h), fun _ h => .inr (.inl h), fun _ h => .inr (.inl h),
    fun _ h => .inr (.inl h), fun _ h => .inr (.inl h)⟩

theorem Outlet.reach_within : o.reach.Within o.course :=
  ⟨fun _ h => .inr (.inr h), fun _ h => .inr (.inr h), fun _ h => .inr (.inr h),
    fun _ h => .inr (.inr h), fun _ h => .inr (.inr h)⟩

theorem Outlet.link_apart : (p.link i).Apart o.footprint where
  readables := by
    rintro _ rfl h
    exact o.apart.readables _ h ⟨i, Nat.le_refl i, rfl⟩
  writables := fun _ _ h => by rw [o.unwritten] at h; exact h
  bridges := fun _ h => h.elim
  pipes := fun _ _ h => by rw [o.unpiped] at h; exact h
  bodies := fun _ h => h.elim

theorem Outlet.reach_apart (hp : p.Distinct) (hi : i ≤ p.length) :
    o.reach.Apart (p.upstream i) where
  readables := o.apart.readables
  writables := by
    rintro _ rfl ⟨j, hj, he⟩
    have := hp.writable _ _ hi (by omega) he
    omega
  bridges := o.apart.bridges
  pipes := o.apart.pipes
  bodies := o.apart.bodies

end Frames

section Steps

variable {o : p.Outlet E i} {id : PipeId} {reader : ReaderToken} {writer : WriterToken}
variable {intake' : Intake} {t : Session MemoryHost E} {outcome : PipeState} {steps : Nat}
variable (hp : p.Distinct) (hi : i ≤ p.length)
include hp hi

/-- What happens before the source of a pipe keeps the pipe going. -/
theorem Going.of_upstream (h : p.Going o id reader writer below last intake s)
    (hf : Frame (p.upstream i) s t) (hupto : p.Upto below' last' t)
    (hlen : below'.length = below.length) (hlink : last'.link = last.link)
    (hrests : last'.Rests below') : p.Going o id reader writer below' last' intake t := by
  refine ⟨hlen.trans h.length, hupto, hrests, hlink.trans h.link, ?_, ?_⟩
  · exact hlink ▸ h.pipe.of_frame hf (hp.writable_notMem_pipes hi (Nat.le_refl i))
  · refine h.outlet.of_frame hf o.apart.symm fun ⟨j, hj, he⟩ => ?_
    have := hp.writable _ _ hi (by omega) he
    omega

/-- What a pipe does to its destination keeps it going. -/
theorem Going.of_reach (h : p.Going o id reader writer below last intake s)
    (hf : Frame o.reach s t) (hout : o.Stands intake' (some writer) t) :
    p.Going o id reader writer below last intake' t := by
  refine ⟨h.length, h.upto.of_frame hf ?_, h.rests, h.link, h.pipe.of_frame hf ?_, hout⟩
  · rw [h.length]
    exact Outlet.reach_apart hp hi
  · rw [Outlet.reach, o.unpiped]
    exact Set.notMem_empty _

/-- A running pipe finishes, and both its ends are unlocked. -/
theorem Upto.finish (hlen : below.length = i) (h : p.Upto below last t)
    (hlink : last.link = .running id reader writer) {pumping : Bool}
    (hpipe : p.PipeAt i last.link pumping t) (hout : o.Stands intake (some writer) t)
    (ho : outcome ≠ .running) :
    p.Upto below { last with link := .finished outcome } (Session.pipeFinished id outcome t) ∧
      p.PipeAt i (.finished outcome) pumping (Session.pipeFinished id outcome t) ∧
      o.Stands intake none (Session.pipeFinished id outcome t) ∧
      Frame (p.link i) t (Session.pipeFinished id outcome t) ∧
      ∃ pipe, (Session.pipeFinished id outcome t).streams.pipe? id = some pipe ∧
        pipe.destination = p.writable i := by
  obtain rfl := hlen
  rw [hlink] at hpipe
  obtain ⟨hentry, honly⟩ := hpipe
  have hframe : Frame (p.link below.length) t (Session.pipeFinished id outcome t) :=
    Frame.finishPipe t outcome hentry rfl
  obtain ⟨source, hs, hstands⟩ := h.source
  have hlock : source.readerLock = some reader := by rw [hstands.lock, hlink]; rfl
  let ended : Pipe := { p.pipe below.length reader writer with state := outcome, pumping }
  have hended : (Session.pipeFinished id outcome t).streams.pipe? id = some ended := by
    simp only [Session.pipeFinished, Session.streams_mapStreams,
      Registry.pipe?_finishPipe outcome hentry rfl, if_true]
    rfl
  refine ⟨?_, ⟨fun other pipe hother hd => ?_, .inr ⟨id, ended, hended, rfl⟩⟩, ⟨?_, ?_⟩, hframe,
    ended, hended, rfl⟩
  · refine h.replace hframe
      (hp.apart_before hi subset_rfl subset_rfl rfl subset_rfl rfl) hs
      { Registry.unlockReader reader source with pipedTo := none } ?_ ?_ ?_ (.of_eq rfl rfl)
    · simp [Session.pipeFinished, Registry.source?_finishPipe outcome hentry rfl, Pipeline.pipe, hs]
    · simp [Registry.unlockReader, hlock]
    · simp only [Registry.unlockReader, hlock, if_true]
      exact ⟨hstands.started, hstands.kept, hstands.pulling, hstands.unasked, rfl,
        hstands.uncanceled, hstands.shows, hstands.nonempty⟩
  · simp only [Session.pipeFinished, Session.streams_mapStreams,
      Registry.pipe?_finishPipe outcome hentry rfl] at hother
    split at hother
    · cases hother
      exact ⟨rfl, rfl, ho⟩
    · next hne => exact absurd (honly other pipe hother hd) hne
  · obtain ⟨sink, hw, hb, hr⟩ := hout.sink
    refine ⟨Registry.unlockWriter writer sink, ?_, by simpa using hb, hr.unlock rfl⟩
    simp [Session.pipeFinished, Registry.sink?_finishPipe outcome hentry rfl, Pipeline.pipe, hw]
  · exact o.frame hframe Outlet.link_apart hout.behind

/-- The last step of a pipe finishes it. -/
theorem Going.driven (h : p.Going o id reader writer below' last' intake t)
    (hframe : Frame o.course s t)
    (hgrows : List.Forall₂ Cell.GrowsTo (last :: below) (last' :: below'))
    (ho : outcome ≠ .running)
    (hjoins : p.Joins { last' with link := .finished outcome } intake) :
    p.Driven o id true below last s steps
    (steps + 1) below' { last' with link := .finished outcome }
      intake (Session.pipeFinished id outcome t) := by
  cases hgrows with
  | cons hlast hbelow =>
    obtain ⟨hupto', hpipe', hout', hframe', hentry⟩ :=
      h.upto.finish hp hi h.length h.link h.pipe h.outlet ho
    refine ⟨h.length, hupto', ⟨h.rests.pulling, h.rests.dry⟩, hpipe', hout', hjoins,
      hframe.trans (hframe'.mono Outlet.link_within),
      .cons ⟨hlast.taken, .inr ⟨?_, trivial⟩⟩ hbelow, hentry,
        .inr ⟨Nat.lt_succ_self steps, .inl trivial⟩⟩
    rcases hlast.link with he | ⟨hr, -⟩
    · rw [← he, h.link]
      trivial
    · exact hr

/-- A pipe whose destination has failed cancels its source and finishes. -/
theorem Going.fail (steps : Nat) (error : StreamError) {broken : StreamError} (hc : ¬ p.calm)
    (h : p.Going o id reader writer below' last' intake t) (hframe : Frame o.course s t)
    (hgrows : List.Forall₂ Cell.GrowsTo (last :: below) (last' :: below'))
    (hbroken : intake.state = .errored broken) (hoctets : intake.octets <+: last'.taken) :
    p.Driven o id true below last s steps (steps + 1) below'
      { last' with supply := last'.supply.afterCancel, link := .finished (.failed error) } intake
      (Session.pipeFinished id (.failed error)
        (Session.cancelSource (p.pipe i reader writer) t).2) := by
  obtain ⟨t', ht', hcancel, hframe'⟩ :=
    h.upto.cancel hp hi h.length hc
      (show last'.link.reader? = some reader by rw [h.link]; rfl) none
  have hsnd : (Session.cancelSource (p.pipe i reader writer) t).2 = t' := by
    rw [Session.cancelSource_snd rfl]
    exact ht'
  rw [hsnd]
  have hgrows' : List.Forall₂ Cell.GrowsTo (last :: below)
      ({ last' with supply := last'.supply.afterCancel } :: below') := by
    cases hgrows with
    | cons hlast hbelow => exact .cons ⟨hlast.taken, hlast.link⟩ hbelow
  have hgoing : p.Going o id reader writer below'
      { last' with supply := last'.supply.afterCancel } intake t' := by
    refine h.of_upstream hp hi hframe' hcancel rfl rfl ⟨h.rests.pulling, fun hb => ?_⟩
    have hdry := h.rests.dry hb
    cases hsupply : last'.supply <;> simp_all [Supply.afterCancel, Supply.queue]
  refine hgoing.driven hp hi (hframe.trans (hframe'.mono Outlet.upstream_within)) hgrows' (by simp)
    ⟨fun _ => Supply.isTerminal_afterCancel _, fun _ => trivial, fun hn => absurd hn hc, ?_⟩
  rw [hbroken]
  exact ⟨hoctets, by simp⟩

/-- A pipe whose source has ended closes its destination and finishes. -/
theorem Going.close (steps : Nat) (h : p.Going o id reader writer below' last' intake t)
    (hframe : Frame o.course s t)
    (hgrows : List.Forall₂ Cell.GrowsTo (last :: below) (last' :: below'))
    (hstate : intake.state = .writable) (hoctets : intake.octets = last'.taken)
    (hended : last'.supply = .ended) :
    ∃ last'' intake'',
      p.Driven o id true below last s steps (steps + 1) below' last'' intake''
        (Session.pipeFinished id (Session.closeDestination (p.pipe i reader writer) t).1
          (Session.closeDestination (p.pipe i reader writer) t).2) := by
  obtain ⟨outcome, t', hclose, hframe', hout⟩ := h.outlet.exec_close hstate
  have heq : Session.closeDestination (p.pipe i reader writer) t =
      (Session.closedState outcome, t') := by
    rw [Session.closeDestination_eq rfl]
    simp only [Pipeline.pipe, hclose]
  have hgoing := h.of_reach hp hi hframe' hout
  rw [heq]
  refine ⟨_, _, hgoing.driven hp hi (hframe.trans (hframe'.mono Outlet.reach_within)) hgrows ?_ ?_⟩
  · cases outcome <;> simp [Session.closedState]
  · have hterminal : last'.supply.IsTerminal := by rw [hended]; trivial
    cases outcome with
    | ok =>
      refine ⟨fun _ => hterminal, fun _ => trivial, fun _ state hs => ?_, hoctets, rfl, hended⟩
      cases hs
      rfl
    | error error =>
      refine ⟨fun _ => hterminal, fun _ => trivial, fun hc => ?_, hoctets ▸ List.prefix_rfl, ?_⟩
      · exact absurd rfl (o.unbroken hout.behind hc error)
      · simp [Session.closedState]

/-- A pipe whose source has failed aborts its destination and finishes. -/
theorem Going.abort (steps : Nat) {error : StreamError}
    (h : p.Going o id reader writer below' last' intake t)
    (hframe : Frame o.course s t)
    (hgrows : List.Forall₂ Cell.GrowsTo (last :: below) (last' :: below'))
    (hstate : intake.state = .writable) (hoctets : intake.octets = last'.taken)
    (hfailed : last'.supply = .failed error) :
    ∃ last'' intake'',
      p.Driven o id true below last s steps (steps + 1) below' last'' intake''
        (Session.pipeFinished id (.failed error)
          (Session.abortDestination (p.pipe i reader writer) t).2) := by
  have hc : ¬ p.calm := fun hc => by
    have hhealthy := h.upto.healthy hc
    rw [hfailed] at hhealthy
    exact hhealthy
  obtain ⟨outcome, t', habort, hframe', hout⟩ := h.outlet.exec_abort hstate hc none
  have heq : (Session.abortDestination (p.pipe i reader writer) t).2 = t' := by
    rw [Session.abortDestination_snd rfl]
    simp only [Pipeline.pipe, habort]
  have hgoing := h.of_reach hp hi hframe' hout
  rw [heq]
  refine ⟨_, _, hgoing.driven hp hi (hframe.trans (hframe'.mono Outlet.reach_within)) hgrows
    (by simp) ⟨fun _ => ?_, fun _ => trivial, fun hn => absurd hn hc,
      hoctets ▸ List.prefix_rfl, ?_⟩⟩
  · change last'.supply.IsTerminal
    rw [hfailed]
    trivial
  · simp

omit hp hi in
/-- The steps of a pipe after the first. -/
theorem Driven.after {total : Nat} {below'' : List Cell} {last'' : Cell} {intake'' : Intake}
    {s'' : Session MemoryHost E} (hframe : Frame o.course s t)
    (hgrows : List.Forall₂ Cell.GrowsTo (last :: below) (last' :: below'))
    (hmore : last.taken.length < last'.taken.length)
    (h : p.Driven o id true below' last' t (steps + 1) total below'' last'' intake'' s'') :
    p.Driven o id true below last s steps total below'' last'' intake'' s'' := by
  refine ⟨h.length, h.upto, h.rests, h.pipe, h.outlet, h.joins, hframe.trans h.frame,
    Cell.growsTo_trans hgrows h.growsTo, h.entry, .inr ?_⟩
  have hlonger : last'.taken.length ≤ last''.taken.length := by
    cases h.growsTo with
    | cons hlast _ => exact hlast.taken.length_le
  rcases h.progress with ⟨htotal, -, -⟩ | ⟨htotal, hend⟩
  · exact ⟨by omega, .inr (by omega)⟩
  · exact ⟨by omega, hend.imp_right fun _ => by omega⟩

end Steps

/-! ### What marks a pipe that is driven -/

section MarksBridge

variable {o : p.Outlet E i} {id : PipeId} {steps total : Nat} {intake' : Intake}
variable {t : Session MemoryHost E}

theorem Outlet.pipe_apart : ({ pipes := {p.writable i} } : Footprint).Apart o.footprint :=
  (o.link_apart).within ⟨Set.empty_subset _, Set.empty_subset _, Set.empty_subset _, subset_rfl,
    Set.empty_subset _⟩

theorem Outlet.pipe_within : ({ pipes := {p.writable i} } : Footprint).Within o.course :=
  ⟨Set.empty_subset _, Set.empty_subset _, Set.empty_subset _, fun _ h => .inr (.inl h),
    Set.empty_subset _⟩

/-- A pipe that is driven is marked first. -/
theorem Driven.of_marked (hf : Frame { pipes := {p.writable i} } s t)
    (hready : t.streams.sinkReady (p.writable i) = s.streams.sinkReady (p.writable i))
    (h : p.Driven o id true below last t steps total below' last' intake' s') :
    p.Driven o id true below last s steps total below' last' intake' s' :=
  ⟨h.length, h.upto, h.rests, h.pipe, h.outlet, h.joins,
    (hf.mono o.pipe_within).trans h.frame, h.growsTo, h.entry, hready ▸ h.progress⟩

/-- A pipe that is no longer driven is unmarked. -/
theorem PipeAt.parked {link : LinkStatus} (h : p.PipeAt i link true s)
    {pipe : Pipe} (hs : s.streams.pipe? id = some pipe) (hd : pipe.destination = p.writable i) :
    p.PipeAt i link false (Session.mapStreams
      (fun streams => streams.setPipe id { pipe with pumping := false }) s) := by
  have hlook : ∀ other, (Session.mapStreams (fun streams =>
      streams.setPipe id { pipe with pumping := false }) s).streams.pipe? other =
        if other = id then some { pipe with pumping := false } else s.streams.pipe? other := by
    intro other
    simp only [Session.streams_mapStreams, Registry.pipe?_setPipe, hs, Option.map_some]
  cases link with
  | idle => exact absurd hd (h id pipe hs)
  | running running reader writer =>
    obtain ⟨hentry, honly⟩ := h
    obtain rfl := honly id pipe hs hd
    obtain rfl := Option.some_inj.mp (hs.symm.trans hentry)
    refine ⟨by rw [hlook, if_pos rfl], fun other found hother hfound => ?_⟩
    rw [hlook] at hother
    split at hother
    · assumption
    · exact honly other found hother hfound
  | finished outcome =>
    refine ⟨fun other found hother hfound => ?_, .inr ⟨id, _, (hlook id).trans (if_pos rfl), hd⟩⟩
    rw [hlook] at hother
    split at hother
    · cases hother
      exact h.1 id pipe hs hd
    · exact h.1 other found hother hfound

theorem Driven.parked (hp : p.Distinct) (hi : i ≤ p.length)
    (h : p.Driven o id true below last s steps total below' last' intake' s') :
    p.Driven o id false below last s steps total below' last' intake'
      (Session.mapStreams (Session.parked id) s') := by
  obtain ⟨pipe, hentry, hd⟩ := h.entry
  have hparked : Session.mapStreams (Session.parked id) s' = Session.mapStreams
      (fun streams => streams.setPipe id { pipe with pumping := false }) s' := by
    simp only [Session.mapStreams, Session.parked, hentry]
  have hframe : Frame { pipes := {p.writable i} } s' (Session.mapStreams
      (fun streams => streams.setPipe id { pipe with pumping := false }) s') := by
    rw [← hd]
    exact Frame.setPipe s' hentry rfl
  rw [hparked]
  refine ⟨h.length, h.upto.of_frame hframe (h.length.symm ▸ hp.pipe_apart_upstream hi), h.rests,
    h.pipe.parked hentry hd,
    h.outlet.of_frame hframe o.pipe_apart (Set.notMem_empty _), h.joins,
    h.frame.trans (hframe.mono o.pipe_within), h.growsTo,
    ⟨{ pipe with pumping := false }, ?_, hd⟩, h.progress⟩
  simp [Registry.pipe?_setPipe, hentry]

end MarksBridge

/-- A pipe goes on only while its destination can be written. -/
theorem Outlet.Stands.destinationFault? {o : p.Outlet E i} {lock : Option WriterToken}
    (h : o.Stands intake lock s) :
    Session.destinationFault? s.streams (p.writable i) =
      match intake.state with
      | .writable => none
      | .errored error => some error
      | .closing | .closed => some .closed := by
  obtain ⟨sink, hs, -, hr⟩ := h.sink
  simp only [Session.destinationFault?, Registry.writableState?, hs, Option.map_some, hr.state]
  cases intake.state <;> rfl

section Driving

variable {o : p.Outlet E i} {id : PipeId} {reader : ReaderToken} {writer : WriterToken}
variable {found : Except StreamError ReadOutcome} {error : StreamError} {data : Bytes} {steps : Nat}

/-- A pipe can be driven from a session on, and does what it should. -/
def Drivable (p : Passage) {i : Nat} (o : p.Outlet E i) (id : PipeId) (reader : ReaderToken)
    (writer : WriterToken) (below : List Cell) (last : Cell)
    (s : Session MemoryHost E) (steps : Nat) :
    Prop :=
  ∃ total below' last' intake' s',
    Settles (fun fuel => drive (Session.pumpSteps fuel id (p.pipe i reader writer) steps) s)
      (total, s') ∧ p.Driven o id true below last s steps total below' last' intake' s'

/-- A pipe that is driven has read its source, and has not yet done anything with what it has
found. -/
structure HasRead (p : Passage) {i : Nat} (o : p.Outlet E i) (id : PipeId) (reader : ReaderToken)
    (writer : WriterToken) (below : List Cell) (last : Cell) (s : Session MemoryHost E)
    (found : Except StreamError ReadOutcome) (below' : List Cell) (last' : Cell) (intake : Intake)
    (s' : Session MemoryHost E) : Prop where
  settles {steps : Nat} {r : Nat × Session MemoryHost E} :
    Settles (fun fuel => Session.pumpFound id (p.pipe i reader writer) steps
      (fun s => drive (Session.pumpSteps fuel id (p.pipe i reader writer) (steps + 1)) s)
        (found, s')) r →
      Settles (fun fuel => drive (Session.pumpSteps fuel id (p.pipe i reader writer) steps) s) r
  going : p.Going o id reader writer below' last' intake s'
  frame : Frame o.course s s'
  link : last'.link = last.link
  growsTo : List.Forall₂ Cell.GrowsTo below below'
  found : Found below' last last' found
  state : intake.state = .writable
  octets : intake.octets = last.taken
  uncanceled : last'.supply ≠ .canceled

theorem HasRead.growsTo_of_prefix
    (hr : p.HasRead o id reader writer below last s found below' last' intake s')
    (htaken : last.taken <+: last'.taken) : List.Forall₂ Cell.GrowsTo (last :: below)
    (last' :: below') :=
  .cons ⟨htaken, .inl hr.link⟩ hr.growsTo

/-- A pipe waits whose source has nothing. -/
theorem HasRead.drivable_of_pending
    (hr : p.HasRead o id reader writer below last s (.ok .pending) below' last' intake s') :
    p.Drivable o id reader writer below last s steps := by
  obtain ⟨htaken, hidle⟩ := hr.found
  have hgoing := hr.going
  refine ⟨steps, below', last', intake, s', hr.settles ⟨0, fun _ _ => rfl⟩,
    hgoing.length, hgoing.upto, hgoing.rests, hgoing.pipe, ?_,
    .of_running hgoing.running hr.uncanceled hr.state (hr.octets.trans htaken.symm), hr.frame,
    hr.growsTo_of_prefix (htaken ▸ List.prefix_rfl), hgoing.entry, .inl ⟨rfl, hr.link, .inr hidle⟩⟩
  rw [hgoing.link]
  exact hgoing.outlet

section Ends

variable (hp : p.Distinct) (hi : i ≤ p.length)
include hp hi

/-- A pipe finds that its destination has failed. -/
theorem Going.drivable_of_errored (h : p.Going o id reader writer below last intake s)
    (hjoins : p.Joins last intake) (hstate : intake.state = .errored error) :
    p.Drivable o id reader writer below last s steps := by
  have hfault := h.outlet.destinationFault?
  rw [hstate] at hfault
  have hc : ¬ p.calm := fun hc => o.unbroken h.outlet.behind hc error hstate
  have hlives : s.streams.containsWritable (p.pipe i reader writer).destination = true := by
    obtain ⟨sink, hs, -⟩ := h.outlet.sink
    exact Option.isSome_iff_exists.mpr ⟨sink, hs⟩
  refine ⟨_, _, _, _, _, .now fun fuel => ?_, h.fail hp hi steps error hc (Frame.refl _ s)
    (List.forall₂_same.mpr fun cell _ => .refl cell) hstate hjoins.octets_prefix⟩
  rw [Session.drive_pumpSteps, show (p.pipe i reader writer).destination =
    p.writable i from rfl, hfault]
  simp only [Session.failPipe_snd hlives]
  rfl

/-- A pipe that can write reads its source. -/
theorem Going.hasRead (hread : p.Reads E i) (h : p.Going o id reader writer below last intake s)
    (hjoins : p.Joins last intake) (hstate : intake.state = .writable)
    (hready : s.streams.sinkReady (p.writable i) = true) :
    ∃ found below' last' s', p.HasRead o id reader writer below last s found below'
      last' intake s' := by
  have hfault := h.outlet.destinationFault?
  rw [hstate] at hfault
  have hcarried := hjoins.carried
  simp only [hstate] at hcarried
  obtain ⟨source, hs, hstands⟩ := h.upto.source
  rw [h.length] at hs
  have hlock : source.readerLock = some (p.pipe i reader writer).reader := by
    rw [hstands.lock, h.link]
    rfl
  obtain ⟨found, below', last', s', hsettles, hadv, hrests, hfound⟩ :=
    hread below last s h.length h.upto h.rests
  have hframe : Frame (p.upstream i) s s' := h.length ▸ hadv.frame
  refine ⟨found, below', last', s',
    ⟨fun hnext => .later (hsettles.both hnext fun fuel hfuel hfound => ?_),
    h.of_upstream hp hi hframe hadv.upto hadv.length hadv.link hrests,
    hframe.mono Outlet.upstream_within, hadv.link, hadv.growsTo, hfound, hstate, hcarried.1,
    fun hc => hjoins.uncanceled h.running (hadv.uncanceled hc)⟩⟩
  rw [Session.drive_pumpSteps, Session.attempt_readByPipe fuel s _ hs hlock]
  simp only [Pipeline.pipe] at hfound ⊢
  simp [hfault, hready, hfuel, hfound]

/-- A pipe finds that its source has failed. -/
theorem HasRead.drivable_of_error
    (hr : p.HasRead o id reader writer below last s (.error error) below' last' intake s') :
    p.Drivable o id reader writer below last s steps := by
  obtain ⟨htaken, hfailed⟩ := hr.found
  obtain ⟨last'', intake'', hdriven⟩ := hr.going.abort hp hi steps hr.frame
    (hr.growsTo_of_prefix (htaken ▸ List.prefix_rfl)) hr.state (hr.octets.trans htaken.symm) hfailed
  exact ⟨_, _, last'', intake'', _, hr.settles ⟨0, fun _ _ => rfl⟩, hdriven⟩

/-- A pipe finds that its source has ended. Nobody but the pipe cancels its source. -/
theorem HasRead.drivable_of_done
    (hr : p.HasRead o id reader writer below last s (.ok .done) below' last' intake s') :
    p.Drivable o id reader writer below last s steps := by
  obtain ⟨htaken, hended⟩ := hr.found
  obtain ⟨last'', intake'', hdriven⟩ := hr.going.close hp hi steps hr.frame
    (hr.growsTo_of_prefix (htaken ▸ List.prefix_rfl)) hr.state (hr.octets.trans htaken.symm)
    (hended.resolve_right hr.uncanceled)
  exact ⟨_, _, last'', intake'', _, hr.settles ⟨0, fun _ _ => rfl⟩, hdriven⟩

/-- A pipe writes what it has found, and either its destination refuses it or the pipe goes on with
more than before. -/
theorem HasRead.drivable_of_chunk
    (hr : p.HasRead o id reader writer below last s (.ok (.chunk data)) below' last' intake s')
    (hnext : ∀ {intake' : Intake} {t : Session MemoryHost E},
      p.Going o id reader writer below' last' intake' t → p.Joins last' intake' →
        last.taken.length < last'.taken.length →
          p.Drivable o id reader writer below' last' t (steps + 1)) :
    p.Drivable o id reader writer below last s steps := by
  obtain ⟨hdata, htaken⟩ := hr.found
  have hprefix : last.taken <+: last'.taken := ⟨data, htaken.symm⟩
  have hgrows := hr.growsTo_of_prefix hprefix
  obtain ⟨outcome, t, hwrite, hframe, hout⟩ := hr.going.outlet.exec_write hr.state hdata
  have hwide := hr.frame.trans (hframe.mono Outlet.reach_within)
  have hgoing := hr.going.of_reach hp hi hframe hout
  have hwrote : exec (Session.write (p.pipe i reader writer).destination data
    (some (p.pipe i reader writer).writer)) s' = (outcome, t) := hwrite
  cases outcome with
  | error error =>
    have hc : ¬ p.calm := fun hc => o.unbroken hout.behind hc error rfl
    refine ⟨_, _, _, _, _, hr.settles ⟨0, fun _ _ => ?_⟩,
      hgoing.fail hp hi steps error hc hwide hgrows rfl (hr.octets ▸ hprefix)⟩
    simp only [Session.pumpFound, hwrote]
  | ok =>
    have hmore : last.taken.length < last'.taken.length := by
      rw [htaken, List.length_append]
      exact Nat.lt_add_of_pos_right (List.length_pos_iff.mpr hdata)
    have hjoins : p.Joins last' (intake.afterWrite data (.ok ())) :=
      .of_running hr.going.running hr.uncanceled hr.state (htaken ▸ congrArg (· ++ data) hr.octets)
    obtain ⟨total, below'', last'', intake'', u, hsettles, hdriven⟩ := hnext hgoing hjoins hmore
    refine ⟨total, below'', last'', intake'', u, hr.settles ?_, hdriven.after hwide hgrows hmore⟩
    simpa only [Session.pumpFound, hwrote] using hsettles

end Ends

/-- A pipe waits whose destination cannot be written. -/
theorem Going.drivable_of_full (h : p.Going o id reader writer below last intake s)
    (hjoins : p.Joins last intake) (hstate : intake.state = .writable)
    (hready : s.streams.sinkReady (p.writable i) = false) :
    p.Drivable o id reader writer below last s steps := by
  have hfault := h.outlet.destinationFault?
  rw [hstate] at hfault
  refine ⟨steps, below, last, intake, s, .now fun fuel => ?_, h.length, h.upto, h.rests,
    h.pipe, ?_, hjoins, Frame.refl _ s, List.forall₂_same.mpr fun cell _ => .refl cell, h.entry,
    .inl ⟨rfl, rfl, .inl ⟨rfl, hstate, hready⟩⟩⟩
  · rw [Session.drive_pumpSteps]
    simp [Pipeline.pipe, hfault, hready]
  · rw [h.link]
    exact h.outlet

variable (hp : p.Distinct) (hi : i ≤ p.length) (hread : p.Reads E i)
include hp hi hread

/-- A pipe takes its steps as it should if its source is read as it should be. By induction on what
it has not yet taken of the content. -/
theorem Reads.pumpSteps (steps : Nat) (h : p.Going o id reader writer below last intake s)
    (hjoins : p.Joins last intake) : p.Drivable o id reader writer below last s steps := by
  induction hroom : p.content.length - last.taken.length using Nat.strong_induction_on
    generalizing below last intake s steps with
  | h room ih =>
  subst hroom
  have hcarried := hjoins.carried
  cases hstate : intake.state with
  | closing =>
    rw [hstate] at hcarried
    exact hcarried.elim
  | closed => simp only [hstate, h.link, reduceCtorEq, false_and, and_false] at hcarried
  | errored error => exact h.drivable_of_errored hp hi hjoins hstate
  | writable =>
    cases hready : s.streams.sinkReady (p.writable i) with
    | false => exact h.drivable_of_full hjoins hstate hready
    | true =>
      obtain ⟨found, below', last', s', hr⟩ := h.hasRead hp hi hread hjoins hstate hready
      cases found with
      | error error => exact hr.drivable_of_error hp hi
      | ok outcome =>
        cases outcome with
        | done => exact hr.drivable_of_done hp hi
        | pending => exact hr.drivable_of_pending
        | chunk data =>
          refine hr.drivable_of_chunk hp hi fun hgoing hjoins hmore => ?_
          have hbound := hr.going.upto.taken_prefix.length_le
          exact ih _ (by omega) _ hgoing hjoins rfl

/-- A pipe is driven as it should be if its source is read as it should be. -/
theorem Reads.pumpPipe (hlen : below.length = i) (h : p.Upto below last s)
    (hrests : last.Rests below) (hlink : last.link = .running id reader writer)
    (hpipe : p.PipeAt i last.link false s) (hout : o.Stands intake (some writer) s)
    (hjoins : p.Joins last intake) :
    ∃ total below' last' intake' s',
      Settles (fun fuel => drive (Session.pumpPipe fuel id) s) (total, s') ∧
        p.Driven o id false below last s 0 total below' last' intake' s' := by
  obtain ⟨hentry, honly⟩ : p.PipeAt i (.running id reader writer) false s := hlink ▸ hpipe
  let mark := Session.mapStreams (fun streams => streams.setPipe id
    { p.pipe i reader writer with pumping := true }) s
  have hframe : Frame { pipes := {p.writable i} } s mark := Frame.setPipe s hentry rfl
  have hmarked : p.PipeAt i last.link true mark := by
    rw [hlink]
    refine ⟨by simp [mark, Registry.pipe?_setPipe, hentry], fun other pipe hother hd => ?_⟩
    simp only [mark, Session.streams_mapStreams, Registry.pipe?_setPipe] at hother
    split at hother
    · assumption
    · exact honly other pipe hother hd
  have hgoing : p.Going o id reader writer below last intake mark :=
    ⟨hlen, h.of_frame hframe (hlen.symm ▸ hp.pipe_apart_upstream hi), hrests, hlink, hmarked,
      hout.of_frame hframe Outlet.pipe_apart (Set.notMem_empty _)⟩
  obtain ⟨total, below', last', intake', s', hsettles, hdriven⟩ :=
    hread.pumpSteps hp hi 0 hgoing hjoins
  refine ⟨total, below', last', intake', _, hsettles.step fun fuel hfuel => ?_,
    (hdriven.of_marked hframe rfl).parked hp hi⟩
  rw [Session.drive_pumpPipe, hentry]
  change (drive (Session.pumpSteps fuel id (p.pipe i reader writer) 0) mark).map _ = _
  rw [hfuel]
  rfl

end Driving

end Passage

end EdgeStreams
