import EdgeStreams.Proofs.Registry.Holding

/-!
# Changes that honour the locks

Work on streams, by whomever, honours the locks that have been taken before: of those it gives back
only the locks of pipes that come to an end. What is locked on the way is numbered anew.

## Main definitions

- `Registry.Engaged`: a running pipe uses a token
- `Registry.HonoursLocks`: only pipes that come to an end give locks back

## Main statements

- `Registry.HonoursLocks.trans`: one change after another honours the locks
- `Registry.HonoursLocks.finishPipe`, `Registry.HonoursLocks.openPipe`: the end and the start of a
  pipe
- `Registry.HonoursLocks.underLock`: work under a new lock, which is given back at the end
-/

namespace EdgeStreams

variable {E : Type}

namespace Registry

/-- A running pipe uses the number. -/
def Engaged (streams : Registry E) (number : Nat) : Prop :=
  ∃ id pipe, streams.pipe? id = some pipe ∧ pipe.isRunning ∧ pipe.Uses number

/-- Of the tokens that were there before, only those of pipes that have come to an end have been
given back. -/
structure HonoursLocks (streams later : Registry E) : Prop where
  relocksTo : RelocksTo (fun _ number =>
    number < streams.nextToken → streams.Engaged number ∧ ¬ later.Engaged number) streams later
  /-- No pipe starts with a token that was there before. -/
  engaged : ∀ {number}, number < streams.nextToken → later.Engaged number → streams.Engaged number

variable {streams streams' later : Registry E} {held spent : Set Nat} {number : Nat}

theorem engaged_congr (h : later.pipes = streams.pipes) :
    later.Engaged number ↔ streams.Engaged number := by
  simp only [Engaged, pipe?_congr h]

theorem SameLocks.engaged (h : streams.SameLocks later) (he : later.Engaged number) :
    streams.Engaged number := by
  obtain ⟨id, pipe', hp', hr, hu⟩ := he
  obtain ⟨pipe, hp, hsame⟩ := h.pipe id pipe' hp'
  rw [hsame] at hr hu
  exact ⟨id, pipe, hp, hr, hu⟩

namespace HonoursLocks

theorem refl : streams.HonoursLocks streams := ⟨.refl, fun _ => id⟩

theorem trans (h : streams.HonoursLocks streams') (h' : streams'.HonoursLocks later) :
    streams.HonoursLocks later where
  relocksTo := by
    have hle := h.relocksTo.nextToken
    refine (h.relocksTo.mono fun hfreed hold => ?_).trans (h'.relocksTo.mono fun hfreed hold => ?_)
    · obtain ⟨hwas, hnot⟩ := hfreed hold
      exact ⟨hwas, fun hstill => hnot (h'.engaged (hold.trans_le hle) hstill)⟩
    · obtain ⟨hwas, hnot⟩ := hfreed (hold.trans_le hle)
      exact ⟨h.engaged hold hwas, hnot⟩
  engaged hold he := h.engaged hold (h'.engaged (hold.trans_le h.relocksTo.nextToken) he)

theorem of_sameLocks (h : streams.SameLocks later) : streams.HonoursLocks later :=
  ⟨.of_unlocksTo (h.unlocksTo _), fun _ => h.engaged⟩

theorem finishPipe (ho : streams.Orderly held spent) (id : PipeId) {state : PipeState}
    (hstate : state ≠ .running) : streams.HonoursLocks (streams.finishPipe id state) := by
  by_cases hrun : ∃ pipe, streams.pipe? id = some pipe ∧ pipe.isRunning
  swap
  · rw [finishPipe_of_not_running]
    · exact .refl
    · exact fun pipe hp hr => hrun ⟨pipe, hp, hr⟩
  obtain ⟨pipe, hp, hr⟩ := hrun
  have hpipe := pipe?_finishPipe state hp hr
  -- the pipes that still run are others
  have hstill : ∀ {number}, (streams.finishPipe id state).Engaged number →
      ∃ other found, other ≠ id ∧ streams.pipe? other = some found ∧ found.isRunning ∧
        found.Uses number := by
    rintro number ⟨other, found, hf, hrf, hu⟩
    rw [hpipe] at hf
    split at hf
    · cases hf
      exact absurd (eq_of_beq hrf) hstate
    · next hne => exact ⟨other, found, hne, hf, hrf, hu⟩
  refine ⟨.of_unlocksTo ((unlocksTo_finishPipe hp hr state).mono fun hu _ =>
    ⟨⟨id, pipe, hp, hr, hu⟩, fun he => ?_⟩), fun _ he => ?_⟩
  · obtain ⟨other, found, hne, hf, -, hu'⟩ := hstill he
    exact hne (ho.used_once other id found pipe _ hf hp hu' hu)
  · obtain ⟨other, found, -, hf, hrf, hu⟩ := hstill he
    exact ⟨other, found, hf, hrf, hu⟩

/-- A new pipe uses new tokens. -/
theorem openPipe (wf : streams.WellFormed) (r : ReadableId) (w : WritableId)
    (options : PipeOptions) :
    streams.HonoursLocks (exec (Registry.openPipe r w options) streams).2 := by
  refine ⟨relocksTo_openPipe r w options, fun {number} hold he => ?_⟩
  rcases exec_openPipe_cases streams r w options with
    ⟨source, sink, -, -, -, -, hopen⟩ | ⟨error, streams', hopen, hgives⟩
  · rw [hopen] at he
    obtain ⟨id, pipe, hp, hr, hu⟩ := he
    rw [pipe?_withPipe wf] at hp
    split at hp
    · cases hp
      rcases hu with rfl | rfl
      · exact absurd hold (Nat.lt_irrefl _)
      · exact absurd hold (Nat.not_lt.mpr (Nat.le_succ _))
    · exact ⟨id, pipe, hp, hr, hu⟩
  · rw [hopen] at he
    exact hgives.sameLocks.engaged he

/-- Work under a new lock, which is given back at the end. -/
theorem underLock {name : StreamName} {locked worked : Registry E} (hl : streams.Locks name locked)
    (hp : locked.pipes = streams.pipes) (h : locked.HonoursLocks worked)
    (hu : worked.UnlocksTo (fun _ number => number = streams.nextToken) later)
    (hp' : later.pipes = worked.pipes) : streams.HonoursLocks later := by
  have hle : streams.nextToken ≤ locked.nextToken := hl.nextToken ▸ Nat.le_succ _
  refine ⟨?_, fun hold he => (engaged_congr hp).mp
    (h.engaged (hold.trans_le hle) ((engaged_congr hp').mp he))⟩
  refine ((RelocksTo.of_locks hl).trans (h.relocksTo.mono fun hfreed hold => ?_)).unlock
    (hu.mono fun he hold => absurd he hold.ne)
  obtain ⟨hwas, hnot⟩ := hfreed (hold.trans_le hle)
  exact ⟨(engaged_congr hp).mp hwas, fun hstill => hnot ((engaged_congr hp').mp hstill)⟩

end HonoursLocks

/-! ### Tokens that lock nothing -/

namespace Orderly

variable (h : streams.Orderly held spent)
include h

/-- A number that is neither a client's nor a running pipe's locks nothing. -/
theorem idle (hheld : number ∉ held) (hengaged : ¬ streams.Engaged number) (name : StreamName) :
    streams.holder? name ≠ some number := by
  have hidle : ∀ id pipe, streams.pipe? id = some pipe → pipe.isRunning → ¬ pipe.Uses number :=
    fun id pipe hp hr hu => hengaged ⟨id, pipe, hp, hr, hu⟩
  intro hlocked
  cases name with
  | readable id =>
    obtain ⟨source, hs, hlock⟩ := holder?_readable.mp hlocked
    exact h.reader_idle hheld hidle hs hlock
  | writable id =>
    obtain ⟨sink, hk, hlock⟩ := holder?_writable.mp hlocked
    exact h.writer_idle hheld hidle hk hlock

omit h in
/-- A token that locks nothing need not be held by anybody. -/
theorem forget (h : streams.Orderly (insert number held) spent)
    (hidle : ∀ name, streams.holder? name ≠ some number) : streams.Orderly held spent where
  wellFormed := h.wellFormed
  holds := h.holds
  piped := h.piped
  readers id source token hs hlock := by
    refine (h.readers id source token hs hlock).imp_left fun hmem => hmem.resolve_left ?_
    rintro rfl
    exact hidle (.readable id) (holder?_readable.mpr ⟨source, hs, hlock⟩)
  writers id sink token hk hlock := by
    refine (h.writers id sink token hk hlock).imp_left fun hmem => hmem.resolve_left ?_
    rintro rfl
    exact hidle (.writable id) (holder?_writable.mpr ⟨sink, hk, hlock⟩)
  held_old number hn := h.held_old number (.inr hn)
  used_old id pipe number hp hu := (h.used_old id pipe number hp hu).imp_right fun hn hmem =>
    hn (.inr hmem)
  used_once := h.used_once
  spent_old number hn := (h.spent_old number hn).imp_right fun hnot hmem => hnot (.inr hmem)
  spent_idle := h.spent_idle

end Orderly

end Registry

end EdgeStreams
