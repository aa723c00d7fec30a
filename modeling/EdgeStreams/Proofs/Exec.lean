import EdgeStreams.Stream.Flow

/-!
# Executing computations

The operations on hosts, registries and sessions are computations in stacks of transformers. Here
each stack is given its meaning as a plain function of the state, together with one equation for
each way of building a computation, so that no later proof opens a transformer.

## Main definitions

- `exec`: a computation that always ends and may fail
- `drive`: a computation that may be without outcome
- `attempt`: a computation that may be without outcome and may fail
- `Settles`: enough fuel gives an outcome, and more gives the same
- `Extends`: every outcome of one computation is an outcome of another

## Main statements

- `exec_bind`, `drive_bind`, `attempt_bind`: one computation after another
- `Settles.of_more`: where more fuel never changes an outcome, one outcome is enough
-/

namespace EdgeStreams

variable {σ ε φ α β γ H E : Type}

/-- The outcome of a computation that may fail, and the state that it leaves. -/
def exec (work : ExceptT ε (StateM σ) α) (state : σ) : Except ε α × σ := work.run.run state

/-- The result of a computation and the state that it leaves, if it has an outcome. -/
def drive (work : StateT σ Option α) (state : σ) : Option (α × σ) := work.run state

/-- The outcome of a computation that may fail and the state that it leaves, if it has one. -/
def attempt (work : ExceptT ε (StateT σ Option) α) (state : σ) : Option (Except ε α × σ) :=
  work.run.run state

/-- With enough fuel there is an outcome, and more fuel does not change it. -/
def Settles (run : Nat → Option α) (result : α) : Prop :=
  ∃ bound, ∀ fuel, bound ≤ fuel → run fuel = some result

namespace Settles

variable {run : Nat → Option α} {result : α} {other : Nat → Option β} {answer : β}

/-- One unit of fuel may go first. -/
theorem later (h : Settles (fun fuel => run (fuel + 1)) result) : Settles run result := by
  obtain ⟨bound, h⟩ := h
  refine ⟨bound + 1, fun fuel hfuel => ?_⟩
  obtain ⟨fuel, rfl⟩ := Nat.exists_eq_succ_of_ne_zero (show fuel ≠ 0 by omega)
  exact h fuel (by omega)

/-- What needs no more than one unit of fuel. -/
theorem now (h : ∀ fuel, run (fuel + 1) = some result) : Settles run result :=
  later ⟨0, fun fuel _ => h fuel⟩

/-- What needs one unit more than something that has an outcome. -/
theorem step (h : Settles other answer)
    (hrun : ∀ fuel, other fuel = some answer → run (fuel + 1) = some result) :
    Settles run result := by
  obtain ⟨bound, h⟩ := h
  exact later ⟨bound, fun fuel hfuel => hrun fuel (h fuel hfuel)⟩

/-- What has an outcome wherever two other things have. -/
theorem both {also : Nat → Option γ} {reply : γ} (h : Settles other answer)
    (h' : Settles also reply)
    (hrun : ∀ fuel, other fuel = some answer → also fuel = some reply →
      run fuel = some result) : Settles run result := by
  obtain ⟨bound, h⟩ := h
  obtain ⟨bound', h'⟩ := h'
  exact ⟨max bound bound', fun fuel hfuel => hrun fuel (h fuel (by omega)) (h' fuel (by omega))⟩

/-- There is one outcome only. -/
theorem unique {result' : α} (h : Settles run result) (h' : Settles run result') :
    result = result' := by
  obtain ⟨bound, h⟩ := h
  obtain ⟨bound', h'⟩ := h'
  have hboth := (h (max bound bound') (by omega)).symm.trans (h' (max bound bound') (by omega))
  exact Option.some_inj.mp hboth

/-- Where one unit of fuel more never changes an outcome, one outcome is enough. -/
theorem of_more (hmore : ∀ fuel r, run fuel = some r → run (fuel + 1) = some r) {bound : Nat}
    (h : run bound = some result) : Settles run result := by
  refine ⟨bound, fun fuel hfuel => ?_⟩
  induction hfuel with
  | refl => exact h
  | step _ ih => exact hmore _ result ih

end Settles

/-! ### Computations that always end -/

section Exec

variable (s : σ)

@[simp] theorem exec_pure (a : α) : exec (pure a : ExceptT ε (StateM σ) α) s = (.ok a, s) := rfl

@[simp] theorem exec_throw (e : ε) :
    exec (throw e : ExceptT ε (StateM σ) α) s = (.error e, s) := rfl

@[simp] theorem exec_get : exec (get : ExceptT ε (StateM σ) σ) s = (.ok s, s) := rfl

@[simp] theorem exec_set (t : σ) : exec (set t : ExceptT ε (StateM σ) Unit) s = (.ok (), t) := rfl

@[simp] theorem exec_modify (f : σ → σ) :
    exec (modify f : ExceptT ε (StateM σ) Unit) s = (.ok (), f s) := rfl

@[simp] theorem exec_modifyGet (f : σ → α × σ) :
    exec (modifyGet f : ExceptT ε (StateM σ) α) s = (.ok (f s).1, (f s).2) := rfl

@[simp] theorem exec_ofExcept (result : Except ε α) :
    exec (MonadExcept.ofExcept result : ExceptT ε (StateM σ) α) s = (result, s) := by
  cases result <;> rfl

theorem exec_bind (work : ExceptT ε (StateM σ) α) (next : α → ExceptT ε (StateM σ) β) :
    exec (work >>= next) s =
      match (exec work s).1 with
      | .ok a => exec (next a) (exec work s).2
      | .error e => (.error e, (exec work s).2) := by
  change exec (ExceptT.bind work next) s = _
  unfold exec ExceptT.bind
  change StateT.run (ExceptT.bindCont next (work.run.run s).1) (work.run.run s).2 = _
  cases work.run.run s with
  | mk result s => cases result <;> rfl

/-- A sequence that succeeds is taken apart. -/
theorem of_exec_bind_ok {work : ExceptT ε (StateM σ) α} {next : α → ExceptT ε (StateM σ) β}
    {s t : σ} {b : β} (h : exec (work >>= next) s = (.ok b, t)) :
    ∃ a u, exec work s = (.ok a, u) ∧ exec (next a) u = (.ok b, t) := by
  rw [exec_bind] at h
  cases hwork : exec work s with
  | mk result u =>
    rw [hwork] at h
    cases result with
    | ok a => exact ⟨a, u, rfl, h⟩
    | error error => cases h

/-- A sequence fails where its first part does, or else its second part. -/
theorem of_exec_bind_error {work : ExceptT ε (StateM σ) α} {next : α → ExceptT ε (StateM σ) β}
    {s t : σ} {error : ε} (h : exec (work >>= next) s = (.error error, t)) :
    exec work s = (.error error, t) ∨
      ∃ a u, exec work s = (.ok a, u) ∧ exec (next a) u = (.error error, t) := by
  rw [exec_bind] at h
  cases hwork : exec work s with
  | mk result u =>
    rw [hwork] at h
    cases result with
    | ok a => exact .inr ⟨a, u, rfl, h⟩
    | error error =>
      cases h
      exact .inl rfl

@[simp] theorem exec_map (f : α → β) (work : ExceptT ε (StateM σ) α) :
    exec (f <$> work) s = ((exec work s).1.map f, (exec work s).2) := by
  rw [map_eq_pure_bind, exec_bind]
  cases (exec work s).1 <;> simp [Except.map]

theorem exec_tryCatch (work : ExceptT ε (StateM σ) α) (handle : ε → ExceptT ε (StateM σ) α) :
    exec (tryCatch work handle) s =
      match (exec work s).1 with
      | .ok a => (.ok a, (exec work s).2)
      | .error e => exec (handle e) (exec work s).2 := by
  change exec (ExceptT.tryCatch work handle) s = _
  unfold exec ExceptT.tryCatch
  simp only [bind, StateT.bind, ExceptT.run, ExceptT.mk, StateT.run]
  cases work s with
  | mk result s => cases result <;> rfl

end Exec

namespace Session

variable (s : Session H E)

@[simp] theorem exec_caught (action : Action H E ε α) :
    exec (caught action : Action H E φ (Except ε α)) s =
      (.ok (exec action s).1, (exec action s).2) :=
  rfl

@[simp] theorem exec_settled (result : Except ε α) : exec (settled result) s = (result, s) := rfl

@[simp] theorem exec_onHost (call : HostCall H α) :
    exec (onHost call) s = ((exec call s.host).1, { s with host := (exec call s.host).2 }) := rfl

@[simp] theorem exec_onStreams (call : RegistryCall E α) :
    exec (onStreams call) s =
      ((exec call s.streams).1, { s with streams := (exec call s.streams).2 }) := rfl

@[simp] theorem exec_onGuest (work : E → GuestResult E) :
    exec (onGuest work) s = ((work s.env).1, { s with env := (work s.env).2 }) := rfl

theorem exec_adapt (f : ε → φ) (action : Action H E ε α) :
    exec (ExceptT.adapt f action) s =
      ((exec action s).1.mapError f, (exec action s).2) := rfl

@[simp] theorem exec_streamCall (operation : HostOperation) (call : HostCall H α) :
    exec (streamCall operation call) s =
      ((exec call s.host).1.mapError (.host operation),
        { s with host := (exec call s.host).2 }) := rfl

theorem exec_noting (event : Except StreamError Unit → StreamEvent)
    (action : Action H E StreamError Unit) :
    exec (noting event action) s =
      ((exec action s).1, note (event (exec action s).1) (exec action s).2) := rfl

@[simp] theorem outcome_apply (action : Action H E ε α) : outcome action s = exec action s := rfl

end Session

/-! ### Computations that may be without outcome -/

section Drive

variable (s : σ)

@[simp] theorem drive_pure (a : α) : drive (pure a : StateT σ Option α) s = some (a, s) := rfl

@[simp] theorem drive_get : drive (get : StateT σ Option σ) s = some (s, s) := rfl

@[simp] theorem drive_modify (f : σ → σ) :
    drive (modify f : StateT σ Option Unit) s = some ((), f s) := rfl

@[simp] theorem drive_modifyGet (f : σ → α × σ) :
    drive (modifyGet f : StateT σ Option α) s = some (f s) := rfl

@[simp] theorem drive_run (work : ExceptT ε (StateT σ Option) α) :
    drive work.run s = attempt work s := rfl

theorem drive_bind (work : StateT σ Option α) (next : α → StateT σ Option β) :
    drive (work >>= next) s = (drive work s).bind fun r => drive (next r.1) r.2 := by
  change drive (StateT.bind work next) s = _
  unfold drive StateT.bind
  rfl

@[simp] theorem drive_map (f : α → β) (work : StateT σ Option α) :
    drive (f <$> work) s = (drive work s).map fun r => (f r.1, r.2) := by
  rw [map_eq_pure_bind, drive_bind]
  cases drive work s <;> rfl

@[simp] theorem attempt_pure (a : α) :
    attempt (pure a : ExceptT ε (StateT σ Option) α) s = some (.ok a, s) := rfl

@[simp] theorem attempt_throw (e : ε) :
    attempt (throw e : ExceptT ε (StateT σ Option) α) s = some (.error e, s) := rfl

@[simp] theorem attempt_get :
    attempt (get : ExceptT ε (StateT σ Option) σ) s = some (.ok s, s) := rfl

@[simp] theorem attempt_modify (f : σ → σ) :
    attempt (modify f : ExceptT ε (StateT σ Option) Unit) s = some (.ok (), f s) := rfl

theorem attempt_bind (work : ExceptT ε (StateT σ Option) α)
    (next : α → ExceptT ε (StateT σ Option) β) :
    attempt (work >>= next) s =
      (attempt work s).bind fun r =>
        match r.1 with
        | .ok a => attempt (next a) r.2
        | .error e => some (.error e, r.2) := by
  change attempt (ExceptT.bind work next) s = _
  unfold attempt ExceptT.bind
  change (work.run.run s).bind (fun r => StateT.run (ExceptT.bindCont next r.1) r.2) = _
  congr 1
  funext r
  cases r with
  | mk result s => cases result <;> rfl

@[simp] theorem attempt_map (f : α → β) (work : ExceptT ε (StateT σ Option) α) :
    attempt (f <$> work) s = (attempt work s).map fun r => (r.1.map f, r.2) := by
  rw [map_eq_pure_bind, attempt_bind]
  cases attempt work s with
  | none => rfl
  | some r =>
    obtain ⟨result, s⟩ := r
    cases result <;> rfl

end Drive

namespace Session

variable (s : Session H E)

@[simp] theorem attempt_finite (action : Action H E ε α) :
    attempt (finite action) s = some (exec action s) := rfl

@[simp] theorem attempt_sure (run : Run H E α) :
    attempt (sure run : Attempt H E ε α) s = (drive run s).map fun r => (.ok r.1, r.2) := by
  change (StateT.run (StateT.map _ run) s) = _
  unfold StateT.map drive
  cases h : run s with
  | none => simp [StateT.run, h]
  | some r => simp [StateT.run, h]

@[simp] theorem drive_outOfFuel : drive (outOfFuel : Run H E α) s = none := rfl

end Session

/-! ### Computations with more outcomes -/

/-- Every outcome of the first computation is one of the second. -/
def Extends (less more : StateT σ Option α) : Prop :=
  ∀ s r, drive less s = some r → drive more s = some r

namespace Extends

theorem refl (work : StateT σ Option α) : Extends work work := fun _ _ h => h

/-- What has no outcome is extended by anything. -/
theorem outOfFuel {more : Run H E α} : Extends Session.outOfFuel more := fun _ _ h => by cases h

theorem bind {less more : StateT σ Option α} {next later : α → StateT σ Option β}
    (h : Extends less more) (hnext : ∀ a, Extends (next a) (later a)) :
    Extends (less >>= next) (more >>= later) := by
  intro s r hr
  rw [drive_bind] at hr ⊢
  obtain ⟨⟨a, t⟩, ha, hrest⟩ := Option.bind_eq_some_iff.mp hr
  rw [h s _ ha]
  exact hnext a t r hrest

/-- The same for computations that may fail. -/
theorem bind_run {less more : ExceptT ε (StateT σ Option) α}
    {next later : α → ExceptT ε (StateT σ Option) β} (h : Extends less.run more.run)
    (hnext : ∀ a, Extends (next a).run (later a).run) :
    Extends (less >>= next).run (more >>= later).run := by
  refine h.bind fun found => ?_
  cases found with
  | ok a => exact hnext a
  | error error => exact refl _

theorem sure {less more : Run H E α} (h : Extends less more) :
    Extends (Session.sure less : Attempt H E ε α).run (Session.sure more).run := by
  intro s r hr
  rw [drive_run, Session.attempt_sure] at hr ⊢
  obtain ⟨r', hr', rfl⟩ := Option.map_eq_some_iff.mp hr
  rw [h s r' hr']
  rfl

/-- Where one unit of fuel more extends a computation, what it shows once it shows with all fuel
that suffices. -/
theorem settles {work : Nat → StateT σ Option α} (h : ∀ fuel, Extends (work fuel) (work (fuel + 1)))
    {s : σ} {show? : α × σ → β} {result : β} {bound : Nat}
    (hshows : (drive (work bound) s).map show? = some result) :
    Settles (fun fuel => (drive (work fuel) s).map show?) result := by
  refine .of_more (fun fuel r hr => ?_) hshows
  obtain ⟨r', hr', rfl⟩ := Option.map_eq_some_iff.mp hr
  simp only [h fuel s r' hr', Option.map_some]

end Extends

end EdgeStreams
