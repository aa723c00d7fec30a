import EdgeStreams.Proofs.Body.Steps

/-!
# When a drain gives up

One who reads a stream to the end does so in rounds: a read, and after one that has found nothing a
pump of all pipes. An idle round is one in which nothing has been found and no pipe has moved. The
reading is given up in the second idle round after the last chunk. In between pipes may have moved,
any number of times: rounds that move pipes without a chunk for the reader do not make an idle round
forgotten.

## Main definitions

- `Body.Round`, `Body.Rounds`: the rounds of one who reads to the end
- `Body.GivesUp`: the rounds after which the reading is given up

## Main statements

- `Body.readAll_stalled_iff`: the reading stalls exactly after rounds at the last of which it is
  given up
- `Body.GivesUp.shape`: two idle rounds with none but moving ones between them are the last
- `Body.drain_stalled`: what has happened when a drain reports that the stream has stalled
-/

namespace EdgeStreams

variable {H E : Type} [Host H]

omit [Host H] in
/-- Work under the lock of a reader that has come to something has been done under a token, which
has been given back after it. -/
theorem Session.of_attempt_withReader_sure {α : Type} {id : ReadableId}
    {work : ReaderToken → Run H E α} {s t : Session H E} {a : α}
    (h : attempt (withReader id fun token => sure (work token)) s = some (.ok a, t)) :
    ∃ token streams closed, exec (Registry.getReader id) s.streams = (.ok token, streams) ∧
      drive (work token) { s with streams } = some (a, closed) ∧
      t = closed.mapStreams (Registry.quietly (Registry.releaseReader id token)) := by
  rw [attempt_withReader] at h
  generalize hlocked : exec (Registry.getReader id) s.streams = locked at h ⊢
  obtain ⟨_ | token, streams⟩ := locked
  · cases h
  · simp only [attempt_sure, Option.map_map, Option.map_eq_some_iff, Function.comp_apply,
      Prod.mk.injEq] at h
    obtain ⟨⟨result, closed⟩, hclosed, hresult, rfl⟩ := h
    cases hresult
    exact ⟨token, streams, closed, rfl, hclosed, rfl⟩

namespace Body

/-- What one round of reading has come to, if it is neither the end of the stream nor an error. -/
inductive Round where
  /-- A chunk has been read. -/
  | chunk (data : Bytes)
  /-- Nothing has been read, and pipes have been moved. -/
  | moved
  /-- Nothing has been read, and no pipe could be moved. -/
  | idle
deriving DecidableEq

/-- Successive rounds of one who reads, from one session to another. Every round has one unit of
fuel less than the one before. -/
inductive Rounds (id : ReadableId) (token : ReaderToken) :
    Nat → Session H E → List Round → Session H E → Prop where
  | nil {fuel : Nat} {s : Session H E} : Rounds id token fuel s [] s
  | chunk {fuel : Nat} {s t u : Session H E} {data : Bytes} {rounds : List Round}
      (read : attempt (Session.read fuel id (some token)) s = some (.ok (.chunk data), t))
      (rest : Rounds id token fuel t rounds u) :
      Rounds id token (fuel + 1) s (.chunk data :: rounds) u
  | moved {fuel steps : Nat} {s t u v : Session H E} {rounds : List Round}
      (read : attempt (Session.read fuel id (some token)) s = some (.ok .pending, t))
      (pump : drive (Session.pump fuel) t = some (steps, u)) (some : steps ≠ 0)
      (rest : Rounds id token fuel u rounds v) : Rounds id token (fuel + 1) s (.moved :: rounds) v
  | idle {fuel : Nat} {s t u v : Session H E} {rounds : List Round}
      (read : attempt (Session.read fuel id (some token)) s = some (.ok .pending, t))
      (pump : drive (Session.pump fuel) t = some (0, u))
      (rest : Rounds id token fuel u rounds v) : Rounds id token (fuel + 1) s (.idle :: rounds) v

/-- The reading is given up with the last of these rounds and not before, when it begins after an
idle round or not. Only a chunk makes an idle round forgotten. -/
def GivesUp : Bool → List Round → Prop
  | _, [] => False
  | _, .chunk _ :: rounds => GivesUp false rounds
  | idle, .moved :: rounds => GivesUp idle rounds
  | false, .idle :: rounds => GivesUp true rounds
  | true, .idle :: rounds => rounds = []

namespace GivesUp

/-- The reading is given up in an idle round. Either that is the only one since the beginning, which
is after an idle round, or there is one before it with nothing but moving rounds between the two. -/
theorem shape_from {idle : Bool} {rounds : List Round} (h : GivesUp idle rounds) :
    (idle = true ∧ ∃ n, rounds = List.replicate n .moved ++ [.idle]) ∨
      ∃ before n, rounds = before ++ .idle :: (List.replicate n .moved ++ [.idle]) := by
  induction rounds generalizing idle with
  | nil => exact h.elim
  | cons round rounds ih =>
    cases round with
    | chunk data =>
      obtain ⟨himpossible, -⟩ | ⟨before, n, rfl⟩ := ih (show GivesUp false rounds from h)
      · cases himpossible
      · exact .inr ⟨.chunk data :: before, n, rfl⟩
    | moved =>
      obtain ⟨hidle, n, rfl⟩ | ⟨before, n, rfl⟩ := ih (show GivesUp idle rounds from by
        cases idle <;> exact h)
      · exact .inl ⟨hidle, n + 1, rfl⟩
      · exact .inr ⟨.moved :: before, n, rfl⟩
    | idle =>
      cases idle with
      | true =>
        obtain rfl : rounds = [] := h
        exact .inl ⟨rfl, 0, rfl⟩
      | false =>
        obtain ⟨-, n, rfl⟩ | ⟨before, n, rfl⟩ := ih (show GivesUp true rounds from h)
        · exact .inr ⟨[], n, rfl⟩
        · exact .inr ⟨.idle :: before, n, rfl⟩

/-- One who has just begun gives up in an idle round that has another one before it, with nothing
but moving rounds between the two. -/
theorem shape {rounds : List Round} (h : GivesUp false rounds) :
    ∃ before n, rounds = before ++ .idle :: (List.replicate n .moved ++ [.idle]) := by
  obtain ⟨himpossible, -⟩ | hshape := h.shape_from
  · cases himpossible
  · exact hshape

end GivesUp

variable {id : ReadableId} {token : ReaderToken}

/-- The reading stalls exactly when rounds have been gone through with the last of which it is given
up. -/
theorem readAll_stalled_iff {fuel : Nat} {chunks : List Bytes} {idle : Bool} {s t : Session H E} :
    drive (readAll fuel id token chunks idle) s = some (.error .stalled, t) ↔
      ∃ rounds, Rounds id token fuel s rounds t ∧ GivesUp idle rounds := by
  induction fuel generalizing chunks idle s with
  | zero =>
    constructor
    · intro h
      cases h
    · rintro ⟨rounds, hrounds, hgives⟩
      cases hrounds
      exact hgives.elim
  | succ fuel ih =>
    rw [drive_readAll]
    constructor
    · intro h
      obtain ⟨⟨found, u⟩, hread, hon⟩ := Option.bind_eq_some_iff.mp h
      rcases found with error | (data | _ | _)
      · cases hon
      · obtain ⟨rounds, hrounds, hgives⟩ := ih.mp hon
        exact ⟨.chunk data :: rounds, .chunk hread hrounds, hgives⟩
      · cases hon
      · obtain ⟨⟨steps, v⟩, hpump, hnext⟩ := Option.bind_eq_some_iff.mp hon
        -- without a step the reading gives up if the round before was idle too
        by_cases hsteps : steps = 0
        · subst hsteps
          cases idle with
          | true =>
            simp only [if_true, Option.some.injEq, Prod.mk.injEq, true_and] at hnext
            subst hnext
            exact ⟨[.idle], .idle hread hpump .nil, rfl⟩
          | false =>
            simp only [if_true, Bool.false_eq_true, if_false] at hnext
            obtain ⟨rounds, hrounds, hgives⟩ := ih.mp hnext
            exact ⟨.idle :: rounds, .idle hread hpump hrounds, hgives⟩
        · simp only [if_neg hsteps] at hnext
          obtain ⟨rounds, hrounds, hgives⟩ := ih.mp hnext
          exact ⟨.moved :: rounds,
            .moved hread hpump hsteps hrounds, by cases idle <;> exact hgives⟩
    · rintro ⟨rounds, hrounds, hgives⟩
      cases hrounds with
      | nil => exact hgives.elim
      | chunk hread hrest => exact hread ▸ ih.mpr ⟨_, hrest, hgives⟩
      | moved hread hpump hsteps hrest =>
        have hrest : drive (readAll fuel id token chunks idle) _ = _ :=
          ih.mpr ⟨_, hrest, by cases idle <;> exact hgives⟩
        simpa only [hread, Option.bind_some, readOn, hpump, if_neg hsteps] using hrest
      | idle hread hpump hrest =>
        cases idle with
        | true =>
          obtain rfl : _ = [] := hgives
          cases hrest
          simp only [hread, Option.bind_some, readOn, hpump, if_true]
        | false =>
          have hrest : drive (readAll fuel id token chunks true) _ = _ := ih.mpr ⟨_, hrest, hgives⟩
          simpa only [hread, Option.bind_some, readOn, hpump, if_true, Bool.false_eq_true, if_false]
            using hrest

omit [Host H] in
/-- A body whose stream cannot be had has not stalled. -/
theorem stream_ne_stalled (body : Body) (s : Session H E) :
    (exec (body.stream : Action H E BodyError _) s).1 ≠ .error .stalled := by
  obtain ⟨owner, handle, readable, _ | _, used⟩ := body
  case true =>
    simp only [stream, exec_bind, exec_get, if_true, exec_throw, releasedError]
    split
    · split <;> simp
    · simp
  rcases readable with _ | found
  · rcases handle with _ | handle
    · simp [stream, exec_bind]
    · simp only [stream, exec_bind, exec_get, Bool.false_eq_true, if_false, exec_modifyGet,
        Session.changeStreams, Session.exec_adapt, Session.exec_onStreams]
      generalize (exec (Registry.setReadableOwner _ _) _).1 = owned
      cases owned <;> simp [Except.mapError]
  · simp only [stream, exec_bind, exec_get, Bool.false_eq_true, if_false]
    split <;> simp

/-- A drain that reports a stall has gone through rounds of reads and pumps. The last one was idle
and so was one before it, with nothing but moving rounds between the two; the lock of the reader has
been given back. -/
theorem drain_stalled {fuel : Nat} {body left : Body} {target : TargetType} {s t : Session H E}
    (h : drive (drain fuel body target) s = some ((.error .stalled, left), t)) :
    ∃ id token opened before n closed,
      Rounds id token fuel opened (before ++ .idle :: (List.replicate n .moved ++ [.idle])) closed ∧
        t = closed.mapStreams (Registry.quietly (Registry.releaseReader id token)) := by
  rw [drive_drain] at h
  split at h
  · cases h
  cases hopened : exec (body.stream : Action H E BodyError _) s with
  | mk found opened =>
    have hnot := body.stream_ne_stalled s
    rw [hopened] at h hnot
    rcases found with error | ⟨id, streamed⟩
    · simp only [Option.some.injEq, Prod.mk.injEq] at h
      exact absurd (congrArg Except.error (Except.error.inj h.1.1)) hnot
    simp only at h
    split at h
    · cases h
    split at h
    · cases h
    obtain ⟨⟨read, after⟩, hread, hdrained⟩ := Option.map_eq_some_iff.mp h
    simp only [Prod.mk.injEq] at hdrained
    obtain ⟨⟨hstalled, -⟩, rfl⟩ := hdrained
    obtain rfl : read = .ok (.error .stalled) := by
      rcases read with error | (error | data)
      · cases hstalled
      · cases hstalled
        rfl
      · exact absurd hstalled (Representation.decodeWith_ne_stalled _ data target)
    obtain ⟨token, streams, closed, -, hclosed, rfl⟩ := Session.of_attempt_withReader_sure hread
    obtain ⟨rounds, hrounds, hgives⟩ := readAll_stalled_iff.mp hclosed
    obtain ⟨before, n, rfl⟩ := hgives.shape
    exact ⟨id, token, _, before, n, closed, hrounds, rfl⟩

end Body

end EdgeStreams
