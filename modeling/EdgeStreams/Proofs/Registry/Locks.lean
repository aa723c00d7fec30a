import EdgeStreams.Proofs.Registry.Adding
import Mathlib.Data.Set.Insert

/-!
# Who holds which lock

Every lock of a stream is held by a client or by a running pipe, and a running pipe holds the locks
of both its ends. This is kept by every change of the registry, each seen once: changes that leave
the locks alone, taking and giving back a lock, and the start and the end of a pipe.

## Main definitions

- `Pipe.Holds`: a pipe holds both its ends
- `Registry.Orderly`: who holds which lock
- `Registry.SameLocks`: a change that leaves the locks alone

## Main statements

- `Registry.Orderly.of_sameLocks`, `Registry.Orderly.getReader`, `Registry.Orderly.releaseReader`,
  `Registry.Orderly.openPipe`, `Registry.Orderly.finishPipe`: what is kept
- `Registry.Orderly.source_inj`, `Registry.Orderly.destination_inj`: no two running pipes share an
  end
- `Registry.Orderly.reader_idle`, `Registry.Orderly.writer_idle`: a token that nobody holds locks
  nothing
-/

namespace EdgeStreams

variable {E : Type}

/-- A token of a pipe has the number. -/
def Pipe.Uses (pipe : Pipe) (number : Nat) : Prop :=
  pipe.reader.number = number ∨ pipe.writer.number = number

/-- A pipe holds both its ends. -/
structure Pipe.Holds (pipe : Pipe) (streams : Registry E) : Prop where
  source : ∃ source, streams.source? pipe.source = some source ∧
    source.readerLock = some pipe.reader ∧ source.pipedTo = some pipe.destination ∧
      source.disturbed = true
  sink : ∃ sink, streams.sink? pipe.destination = some sink ∧ sink.writerLock = some pipe.writer

/-- Nobody holds the source, and it is not piped. -/
structure Source.IsFree (source : Source E) : Prop where
  lock : source.readerLock = none
  pipedTo : source.pipedTo = none

/-- The source is held as before. -/
structure Source.SameHold (source source' : Source E) : Prop where
  lock : source'.readerLock = source.readerLock
  pipedTo : source'.pipedTo = source.pipedTo
  disturbed : source.disturbed = true → source'.disturbed = true

theorem Source.SameHold.refl (source : Source E) : source.SameHold source := ⟨rfl, rfl, id⟩

/-- What is found under the name of a source afterwards: the source, held as before, or a free one.
A locked source stays. -/
structure Source.Follows (old new : Option (Source E)) : Prop where
  back : ∀ source', new = some source' →
    source'.IsFree ∨ ∃ source, old = some source ∧ source.SameHold source'
  forth : ∀ source token, old = some source → source.readerLock = some token →
    ∃ source', new = some source' ∧ source.SameHold source'

/-- What is found under the name of a sink afterwards. -/
structure Sink.Follows (old new : Option (Sink E)) : Prop where
  back : ∀ sink', new = some sink' →
    sink'.writerLock = none ∨ ∃ sink, old = some sink ∧ sink'.writerLock = sink.writerLock
  forth : ∀ sink token, old = some sink → sink.writerLock = some token →
    ∃ sink', new = some sink' ∧ sink'.writerLock = sink.writerLock

namespace Source.Follows

theorem refl (found : Option (Source E)) : Follows found found :=
  ⟨fun source h => .inr ⟨source, h, SameHold.refl source⟩,
    fun source _ h _ => ⟨source, h, SameHold.refl source⟩⟩

theorem of_rel {old new : Option (Source E)} (h : Option.Rel Source.SameHold old new) :
    Follows old new := by
  cases h with
  | none => exact .refl none
  | some hhold =>
    exact ⟨fun _ he => .inr ⟨_, rfl, Option.some.inj he ▸ hhold⟩,
      fun _ _ he _ => ⟨_, rfl, Option.some.inj he ▸ hhold⟩⟩

theorem map (found : Option (Source E)) {f : Source E → Source E}
    (h : ∀ source : Source E, source.SameHold (f source)) : Follows found (found.map f) := by
  cases found with
  | none => exact .refl none
  | some source => exact .of_rel (.some (h source))

theorem new {source : Source E} (h : source.IsFree) : Follows none (some source) :=
  ⟨fun _ he => .inl (Option.some.inj he ▸ h), fun _ _ he _ => nomatch he⟩

theorem filter (found : Option (Source E)) {keep : Source E → Bool}
    (h : ∀ source token, source.readerLock = some token → keep source = true) :
    Follows found (found.filter keep) := by
  refine ⟨fun source hs => .inr ⟨source, (Option.filter_eq_some_iff.mp hs).1, SameHold.refl source⟩,
    fun source token hs hlock => ⟨source, ?_, SameHold.refl source⟩⟩
  exact Option.filter_eq_some_iff.mpr ⟨hs, h source token hlock⟩

end Source.Follows

namespace Sink.Follows

theorem refl (found : Option (Sink E)) : Follows found found :=
  ⟨fun sink h => .inr ⟨sink, h, rfl⟩, fun sink _ h _ => ⟨sink, h, rfl⟩⟩

theorem of_rel {old new : Option (Sink E)}
    (h : Option.Rel (fun sink sink' => sink'.writerLock = sink.writerLock) old new) :
    Follows old new := by
  cases h with
  | none => exact .refl none
  | some hhold =>
    exact ⟨fun _ he => .inr ⟨_, rfl, Option.some.inj he ▸ hhold⟩,
      fun _ _ he _ => ⟨_, rfl, Option.some.inj he ▸ hhold⟩⟩

theorem map (found : Option (Sink E)) {f : Sink E → Sink E}
    (h : ∀ sink, (f sink).writerLock = sink.writerLock) : Follows found (found.map f) := by
  cases found with
  | none => exact .refl none
  | some sink => exact .of_rel (.some (h sink))

theorem new {sink : Sink E} (h : sink.writerLock = none) : Follows none (some sink) :=
  ⟨fun _ he => .inl (Option.some.inj he ▸ h), fun _ _ he _ => nomatch he⟩

theorem filter (found : Option (Sink E)) {keep : Sink E → Bool}
    (h : ∀ sink token, sink.writerLock = some token → keep sink = true) :
    Follows found (found.filter keep) := by
  refine ⟨fun sink hs => .inr ⟨sink, (Option.filter_eq_some_iff.mp hs).1, rfl⟩,
    fun sink token hs hlock => ⟨sink, ?_, rfl⟩⟩
  exact Option.filter_eq_some_iff.mpr ⟨hs, h sink token hlock⟩

end Sink.Follows

namespace Registry

/-- Who holds which lock: clients hold the tokens whose numbers are `held`, and each running pipe
holds its own two. Numbers that are `spent` are nobody's any more. -/
structure Orderly (held spent : Set Nat) (streams : Registry E) : Prop where
  wellFormed : streams.WellFormed
  holds : ∀ id pipe, streams.pipe? id = some pipe → pipe.isRunning → pipe.Holds streams
  piped : ∀ id source destination, streams.source? id = some source →
    source.pipedTo = some destination → ∃ name pipe, streams.pipe? name = some pipe ∧
      pipe.isRunning ∧ pipe.source = id ∧ pipe.destination = destination
  readers : ∀ id source token, streams.source? id = some source →
    source.readerLock = some token → token.number ∈ held ∨ ∃ name pipe,
      streams.pipe? name = some pipe ∧ pipe.isRunning ∧ pipe.source = id ∧ pipe.reader = token
  writers : ∀ id sink token, streams.sink? id = some sink →
    sink.writerLock = some token → token.number ∈ held ∨ ∃ name pipe,
      streams.pipe? name = some pipe ∧ pipe.isRunning ∧ pipe.destination = id ∧ pipe.writer = token
  held_old : ∀ number ∈ held, number < streams.nextToken
  used_old : ∀ id pipe number, streams.pipe? id = some pipe → pipe.Uses number →
    number < streams.nextToken ∧ number ∉ held
  used_once : ∀ id other pipe pipe' number, streams.pipe? id = some pipe →
    streams.pipe? other = some pipe' → pipe.Uses number → pipe'.Uses number → id = other
  spent_old : ∀ number ∈ spent, number < streams.nextToken ∧ number ∉ held
  spent_idle : ∀ number ∈ spent, ∀ id pipe, streams.pipe? id = some pipe → pipe.isRunning →
    ¬ pipe.Uses number

/-- A change that leaves all locks and pipes alone, except that it may add free streams, take free
streams and finished pipes away, and mark pipes as driven. -/
structure SameLocks (streams streams' : Registry E) : Prop where
  wellFormed : streams.WellFormed → streams'.WellFormed
  nextToken : streams.nextToken ≤ streams'.nextToken
  pipe : ∀ id pipe', streams'.pipe? id = some pipe' → ∃ pipe, streams.pipe? id = some pipe ∧
    pipe' = { pipe with pumping := pipe'.pumping }
  running : ∀ id pipe, streams.pipe? id = some pipe → pipe.isRunning →
    ∃ pumping, streams'.pipe? id = some { pipe with pumping }
  source : ∀ id, Source.Follows (streams.source? id) (streams'.source? id)
  sink : ∀ id, Sink.Follows (streams.sink? id) (streams'.sink? id)

variable {streams streams' : Registry E} {held spent : Set Nat}

namespace Orderly

/-! ### What follows -/

section Consequences

variable (h : streams.Orderly held spent)
include h

/-- No two running pipes have the same source. -/
theorem source_inj {id other : PipeId} {pipe pipe' : Pipe} (hp : streams.pipe? id = some pipe)
    (hr : pipe.isRunning) (hp' : streams.pipe? other = some pipe') (hr' : pipe'.isRunning)
    (hs : pipe.source = pipe'.source) : id = other := by
  obtain ⟨source, hfound, hlock, -⟩ := (h.holds id pipe hp hr).source
  obtain ⟨source', hfound', hlock', -⟩ := (h.holds other pipe' hp' hr').source
  rw [hs, hfound'] at hfound
  cases hfound
  rw [hlock'] at hlock
  exact h.used_once id other pipe pipe' _ hp hp' (.inl rfl)
    (.inl (congrArg ReaderToken.number (Option.some.inj hlock)))

/-- No two running pipes have the same destination. -/
theorem destination_inj {id other : PipeId} {pipe pipe' : Pipe}
    (hp : streams.pipe? id = some pipe) (hr : pipe.isRunning)
    (hp' : streams.pipe? other = some pipe') (hr' : pipe'.isRunning)
    (hd : pipe.destination = pipe'.destination) : id = other := by
  obtain ⟨sink, hfound, hlock⟩ := (h.holds id pipe hp hr).sink
  obtain ⟨sink', hfound', hlock'⟩ := (h.holds other pipe' hp' hr').sink
  rw [hd, hfound'] at hfound
  cases hfound
  rw [hlock'] at hlock
  exact h.used_once id other pipe pipe' _ hp hp' (.inr rfl)
    (.inr (congrArg WriterToken.number (Option.some.inj hlock)))

/-- A number that is neither a client's nor a running pipe's locks no source. -/
theorem reader_idle {number : Nat} (hheld : number ∉ held)
    (hidle : ∀ id pipe, streams.pipe? id = some pipe → pipe.isRunning → ¬ pipe.Uses number)
    {id : ReadableId} {source : Source E} (hs : streams.source? id = some source) :
    source.readerLock ≠ some ⟨number⟩ := by
  intro hlock
  rcases h.readers id source _ hs hlock with hmem | ⟨name, pipe, hp, hr, -, htoken⟩
  · exact hheld hmem
  · exact hidle name pipe hp hr (.inl (by rw [htoken]))

/-- A number that is neither a client's nor a running pipe's locks no sink. -/
theorem writer_idle {number : Nat} (hheld : number ∉ held)
    (hidle : ∀ id pipe, streams.pipe? id = some pipe → pipe.isRunning → ¬ pipe.Uses number)
    {id : WritableId} {sink : Sink E} (hs : streams.sink? id = some sink) :
    sink.writerLock ≠ some ⟨number⟩ := by
  intro hlock
  rcases h.writers id sink _ hs hlock with hmem | ⟨name, pipe, hp, hr, -, htoken⟩
  · exact hheld hmem
  · exact hidle name pipe hp hr (.inr (by rw [htoken]))

/-- The tokens of a finished pipe are nobody's any more. -/
theorem finished_idle {id : PipeId} {pipe : Pipe} (hp : streams.pipe? id = some pipe)
    (hf : ¬ pipe.isRunning) {number : Nat} (hu : pipe.Uses number) (other : PipeId) (pipe' : Pipe)
    (hp' : streams.pipe? other = some pipe') (hr' : pipe'.isRunning) : ¬ pipe'.Uses number := by
  intro hu'
  have hsame := h.used_once id other pipe pipe' number hp hp' hu hu'
  subst hsame
  rw [hp] at hp'
  cases hp'
  exact hf hr'

/-- From now on, the tokens of a finished pipe count as spent. -/
theorem spend {id : PipeId} {pipe : Pipe} (hp : streams.pipe? id = some pipe)
    (hf : ¬ pipe.isRunning) : streams.Orderly held (spent ∪ {number | pipe.Uses number}) :=
  { h with
    spent_old := by
      rintro number (hn | hn)
      · exact h.spent_old number hn
      · exact h.used_old id pipe number hp hn
    spent_idle := by
      rintro number (hn | hn) other pipe' hp' hr'
      · exact h.spent_idle number hn other pipe' hp' hr'
      · exact h.finished_idle hp hf hn other pipe' hp' hr' }

end Consequences

/-! ### Changes that leave the locks alone -/

theorem of_sameLocks (h : streams.Orderly held spent) (hsame : streams.SameLocks streams') :
    streams'.Orderly held spent where
  wellFormed := hsame.wellFormed h.wellFormed
  holds id pipe' hp' hr' := by
    obtain ⟨pipe, hp, he⟩ := hsame.pipe id pipe' hp'
    rw [he] at hr' ⊢
    obtain ⟨⟨source, hs, hlock, hpiped, hd⟩, ⟨sink, hw, hwlock⟩⟩ := h.holds id pipe hp hr'
    obtain ⟨source', hs', hhold⟩ := (hsame.source _).forth source _ hs hlock
    obtain ⟨sink', hw', hhold'⟩ := (hsame.sink _).forth sink _ hw hwlock
    exact ⟨⟨source', hs', hhold.lock.trans hlock, hhold.pipedTo.trans hpiped, hhold.disturbed hd⟩,
      ⟨sink', hw', hhold'.trans hwlock⟩⟩
  piped id source' destination hs' hpiped := by
    rcases (hsame.source id).back source' hs' with hfree | ⟨source, hs, hhold⟩
    · rw [hfree.pipedTo] at hpiped
      cases hpiped
    · obtain ⟨name, pipe, hp, hr, he, hd⟩ :=
        h.piped id source destination hs (hhold.pipedTo ▸ hpiped)
      obtain ⟨pumping, hp'⟩ := hsame.running name pipe hp hr
      exact ⟨name, _, hp', hr, he, hd⟩
  readers id source' token hs' hlock := by
    rcases (hsame.source id).back source' hs' with hfree | ⟨source, hs, hhold⟩
    · rw [hfree.lock] at hlock
      cases hlock
    · refine (h.readers id source token hs (hhold.lock ▸ hlock)).imp_right ?_
      rintro ⟨name, pipe, hp, hr, he, ht⟩
      obtain ⟨pumping, hp'⟩ := hsame.running name pipe hp hr
      exact ⟨name, _, hp', hr, he, ht⟩
  writers id sink' token hs' hlock := by
    rcases (hsame.sink id).back sink' hs' with hfree | ⟨sink, hs, hhold⟩
    · rw [hfree] at hlock
      cases hlock
    · refine (h.writers id sink token hs (hhold ▸ hlock)).imp_right ?_
      rintro ⟨name, pipe, hp, hr, he, ht⟩
      obtain ⟨pumping, hp'⟩ := hsame.running name pipe hp hr
      exact ⟨name, _, hp', hr, he, ht⟩
  held_old number hn := (h.held_old number hn).trans_le hsame.nextToken
  used_old id pipe' number hp' hu := by
    obtain ⟨pipe, hp, he⟩ := hsame.pipe id pipe' hp'
    rw [he] at hu
    obtain ⟨hold, hheld⟩ := h.used_old id pipe number hp hu
    exact ⟨hold.trans_le hsame.nextToken, hheld⟩
  used_once id other first second number hfirst hsecond hu hu' := by
    obtain ⟨pipe, hp, he⟩ := hsame.pipe id first hfirst
    obtain ⟨pipe', hp', he'⟩ := hsame.pipe other second hsecond
    rw [he] at hu
    rw [he'] at hu'
    exact h.used_once id other pipe pipe' number hp hp' hu hu'
  spent_old number hn := by
    obtain ⟨hold, hheld⟩ := h.spent_old number hn
    exact ⟨hold.trans_le hsame.nextToken, hheld⟩
  spent_idle number hn id pipe' hp' hr' hu := by
    obtain ⟨pipe, hp, he⟩ := hsame.pipe id pipe' hp'
    rw [he] at hr' hu
    exact h.spent_idle number hn id pipe hp hr' hu

end Orderly

end Registry

end EdgeStreams
