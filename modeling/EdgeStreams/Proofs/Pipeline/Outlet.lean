import EdgeStreams.Proofs.Pipeline.Spring

/-!
# Where a pipe leads

A pipe of a pipeline leads into a transform stream or into the sink. What the pipe needs to know
about either is the same: the writable stream is at rest, takes chunks in, can be closed and
aborted, and nothing that it does reaches back to the readable stream.

Behind the sink is the host body that is written. Its content is what the sink has taken in, and it
is closed exactly if the sink is.

## Main definitions

- `Intake.afterWrite`, `Intake.afterClose`: what a writable stream has taken in afterwards
- `Passage.Outlet`: what is behind the writable stream of a number
- `Passage.Outlet.Stands`: the writable stream and what is behind it
- `Passage.mouthOutlet`: the sink as the destination of a pipe

## Main statements

- `Passage.Outlet.Stands.exec_write`, `Passage.Outlet.Stands.exec_close`,
  `Passage.Outlet.Stands.exec_abort`: what a pipe does to its destination
-/

namespace EdgeStreams

variable {E : Type}

namespace Intake

/-- What the stream has taken in after a write. -/
def afterWrite (intake : Intake) (chunk : Bytes) : Except StreamError Unit → Intake
  | .ok () => { intake with octets := intake.octets ++ chunk }
  | .error error => { intake with state := .errored error }

/-- What the stream has taken in after its end. -/
def afterClose (intake : Intake) : Except StreamError Unit → Intake
  | .ok () => { intake with state := .closed }
  | .error error => { intake with state := .errored error }

/-- What the stream has taken in after it has been aborted. -/
def afterAbort (intake : Intake) : Intake := { intake with state := .errored .aborted }

end Intake

namespace Passage

/-- What is behind the writable stream of a number. -/
structure Outlet (E : Type) (p : Passage) (i : Nat) where
  backing : SinkBacking E
  footprint : Footprint
  Behind : Intake → Session MemoryHost E → Prop
  unwritten : footprint.writables = ∅
  unpiped : footprint.pipes = ∅
  apart : footprint.Apart (p.upstream i)
  frame {f : Footprint} {s s' : Session MemoryHost E} {intake : Intake} :
    Frame f s s' → f.Apart footprint → Behind intake s → Behind intake s'
  /-- The stream fails only if something has failed. -/
  unbroken {s : Session MemoryHost E} {intake : Intake} :
    Behind intake s → p.calm → ∀ error, intake.state ≠ .errored error
  write {s : Session MemoryHost E} {intake : Intake} {sink : Sink E} {chunk : Bytes} :
    s.streams.sink? (p.writable i) = some sink → sink.backing = backing → Behind intake s →
    intake.state = .writable → chunk ≠ [] →
    ∃ outcome s', exec (Session.writeAlgorithm (p.writable i) chunk) s = (outcome, s') ∧
      Frame footprint s s' ∧ Behind (intake.afterWrite chunk outcome) s'
  close {s : Session MemoryHost E} {intake : Intake} {sink : Sink E} :
    s.streams.sink? (p.writable i) = some sink → sink.backing = backing → Behind intake s →
    intake.state = .writable →
    ∃ outcome s', exec (Session.closeAlgorithm (p.writable i)) s = (outcome, s') ∧
      Frame footprint s s' ∧ Behind (intake.afterClose outcome) s'
  abort {s : Session MemoryHost E} {intake : Intake} {sink : Sink E} :
    s.streams.sink? (p.writable i) = some sink → sink.backing = backing → Behind intake s →
    intake.state = .writable → ¬ p.calm → ∀ reason,
    ∃ outcome s', exec (Session.abortAlgorithm (p.writable i) reason) s = (outcome, s') ∧
      Frame footprint s s' ∧ Behind intake.afterAbort s'

namespace Outlet

variable {p : Passage} {i : Nat} (o : p.Outlet E i) {s s' : Session MemoryHost E} {intake : Intake}
variable {lock : Option WriterToken} {f : Footprint}

/-- The writable stream at rest, and what is behind it. -/
structure Stands (intake : Intake) (lock : Option WriterToken) (s : Session MemoryHost E) :
    Prop where
  sink : p.SinkAt i o.backing intake.state lock s
  behind : o.Behind intake s

/-- What may change when a pipe works on its destination. -/
def reach : Footprint := { o.footprint with writables := {p.writable i} }

theorem footprint_within_reach : o.footprint.Within o.reach where
  readables := subset_rfl
  writables := o.unwritten ▸ Set.empty_subset _
  bridges := subset_rfl
  pipes := subset_rfl
  bodies := subset_rfl

theorem sink_within_reach : ({ writables := {p.writable i} } : Footprint).Within o.reach where
  readables := Set.empty_subset _
  writables := subset_rfl
  bridges := Set.empty_subset _
  pipes := Set.empty_subset _
  bodies := Set.empty_subset _

variable {o}

theorem sink_apart : ({ writables := {p.writable i} } : Footprint).Apart o.footprint where
  readables := fun _ h => h.elim
  writables := fun _ _ h => by rw [o.unwritten] at h; exact h
  bridges := fun _ h => h.elim
  pipes := fun _ h => h.elim
  bodies := fun _ h => h.elim

theorem Stands.of_frame (hf : Frame f s s') (ha : f.Apart o.footprint)
    (hw : p.writable i ∉ f.writables) (h : o.Stands intake lock s) : o.Stands intake lock s' :=
  ⟨h.sink.of_frame hf hw, o.frame hf ha h.behind⟩

/-- While a sink works, what is behind it is seen as before. -/
theorem Stands.behind_setSink (h : o.Stands intake lock s) (sink : Sink E) :
    o.Behind intake (Session.setSink (p.writable i) sink s) :=
  o.frame (Frame.setSink s _ sink) sink_apart h.behind

theorem sink?_of_frame (hf : Frame o.footprint s s') :
    s'.streams.sink? (p.writable i) = s.streams.sink? (p.writable i) :=
  hf.sink _ (by rw [o.unwritten]; exact Set.notMem_empty _)

/-- The sink comes to rest again. -/
theorem stands_setSink {sink : Sink E} {state : WritableState} {next : Sink E}
    (hs : s.streams.sink? (p.writable i) = some sink) (hb : next.backing = o.backing)
    (hr : next.Rests state lock) (hstate : intake.state = state) (h : o.Behind intake s) :
    o.Stands intake lock (Session.setSink (p.writable i) next s) := by
  refine ⟨⟨next, ?_, hb, hstate ▸ hr⟩, o.frame (Frame.setSink s _ next) sink_apart h⟩
  simp [Registry.sink?_setSink, hs]

/-- A pipe writes a chunk. -/
theorem Stands.exec_write (h : o.Stands intake lock s) (hstate : intake.state = .writable)
    {chunk : Bytes} (hchunk : chunk ≠ []) :
    ∃ outcome s', exec (Session.write (p.writable i) chunk lock) s = (outcome, s') ∧
      Frame o.reach s s' ∧ o.Stands (intake.afterWrite chunk outcome) lock s' := by
  obtain ⟨sink, hs, hb, hr⟩ := h.sink
  rw [hstate] at hr
  have hs' : (Session.setSink (p.writable i) sink.working s).streams.sink? (p.writable i) =
      some sink.working := by
    simp [Registry.sink?_setSink, hs]
  obtain ⟨outcome, s', hwork, hf, hbehind⟩ :=
    o.write hs' hb (h.behind_setSink sink.working) hstate hchunk
  have hkept : s'.streams.sink? (p.writable i) = some sink.working :=
    (sink?_of_frame hf).trans hs'
  refine ⟨outcome, _, Session.exec_write_of_atRest hs hr.atRest hwork hkept, ?_, ?_⟩
  · refine ((Frame.setSink s _ _).mono o.sink_within_reach).trans
      ((hf.mono o.footprint_within_reach).trans ?_)
    exact (Frame.setSink s' _ _).mono o.sink_within_reach |>.congr rfl rfl
  · have hnoted : o.Behind (intake.afterWrite chunk outcome)
        (Session.note (.written (p.writable i) chunk outcome) s') :=
      o.frame ((Frame.refl {} s').congr rfl rfl) Footprint.apart_empty.symm hbehind
    cases outcome with
    | ok => exact stands_setSink hkept hb hr hstate hnoted
    | error error => exact stands_setSink hkept hb (hr.failing rfl error) rfl hnoted

/-- A pipe closes its destination. -/
theorem Stands.exec_close (h : o.Stands intake lock s) (hstate : intake.state = .writable) :
    ∃ outcome s', exec (Session.close (p.writable i) lock) s = (outcome, s') ∧
      Frame o.reach s s' ∧ o.Stands (intake.afterClose outcome) lock s' := by
  obtain ⟨sink, hs, hb, hr⟩ := h.sink
  rw [hstate] at hr
  have hs' : (Session.setSink (p.writable i) (sink.inState .closing).working s).streams.sink?
      (p.writable i) = some (sink.inState .closing).working := by
    simp [Registry.sink?_setSink, hs]
  obtain ⟨outcome, s', hwork, hf, hbehind⟩ := o.close hs' hb (h.behind_setSink _) hstate
  have hkept : s'.streams.sink? (p.writable i) = some (sink.inState .closing).working :=
    (sink?_of_frame hf).trans hs'
  refine ⟨outcome, _, Session.exec_close_of_atRest hs hr.atRest hwork hkept, ?_, ?_⟩
  · refine ((Frame.setSink s _ _).mono o.sink_within_reach).trans
      ((hf.mono o.footprint_within_reach).trans ?_)
    exact (Frame.setSink s' _ _).mono o.sink_within_reach |>.congr rfl rfl
  · have hnoted : o.Behind (intake.afterClose outcome)
        (Session.note (.closed (p.writable i) outcome) s') :=
      o.frame ((Frame.refl {} s').congr rfl rfl) Footprint.apart_empty.symm hbehind
    cases outcome with
    | ok => exact stands_setSink hkept hb (hr.inState .closed) rfl hnoted
    | error error =>
      exact stands_setSink hkept hb ((hr.inState .closing).failing rfl error) rfl hnoted

/-- A pipe aborts its destination. -/
theorem Stands.exec_abort (h : o.Stands intake lock s) (hstate : intake.state = .writable)
    (hc : ¬ p.calm) (reason : Option String) :
    ∃ outcome s', exec (Session.abort (p.writable i) reason lock) s = (outcome, s') ∧
      Frame o.reach s s' ∧ o.Stands intake.afterAbort lock s' := by
  obtain ⟨sink, hs, hb, hr⟩ := h.sink
  rw [hstate] at hr
  have hs' : (Session.setSink (p.writable i) (sink.failing .aborted) s).streams.sink?
      (p.writable i) = some (sink.failing .aborted) := by
    simp [Registry.sink?_setSink, hs]
  obtain ⟨outcome, s', hwork, hf, hbehind⟩ := o.abort hs' hb (h.behind_setSink _) hstate hc reason
  have hkept : s'.streams.sink? (p.writable i) = some (sink.failing .aborted) :=
    (sink?_of_frame hf).trans hs'
  refine ⟨outcome, _, Session.exec_abort_of_atRest hs hr.atRest hwork, ?_, ?_, ?_⟩
  · exact (((Frame.setSink s _ _).mono o.sink_within_reach).trans
      (hf.mono o.footprint_within_reach)).congr rfl rfl
  · exact ⟨_, hkept, hb, hr.failing rfl .aborted⟩
  · exact o.frame ((Frame.refl {} s').congr rfl rfl) Footprint.apart_empty.symm hbehind

end Outlet

/-! ### The end of a pipeline -/

variable {p : Passage} {i : Nat} {s s' : Session MemoryHost E} {intake : Intake}
variable {w : WritableId} {sink : Sink E}

/-- A call that meets a fault fails the sink and leaves the body open. -/
theorem Basin.fail (h : p.Basin intake s) (hstate : intake.state = .writable)
    {operation : HostOperation} {fault : HostError}
    (hfault : (s.host.faults.take operation).1 = some fault) (about : Option AnyHandle)
    (error : StreamError) :
    p.Basin { intake with state := .errored error }
      { s with host := s.host.received operation about } := by
  have hfaulty : ¬ p.faultless := fun hc => by
    rw [h.faultless hc, FaultPlan.take_empty] at hfault
    cases hfault
  obtain ⟨body, hfound, hcontents, hopened, -⟩ := h.body
  exact ⟨⟨body, hfound, hcontents, nofun, by simp [hopened hstate], fun hn => absurd hn hfaulty⟩,
    fun hn => absurd (p.faultless_of_calm hn) hfaulty, fun hn => absurd hn hfaulty, h.intact⟩

theorem Basin.write {chunk : Bytes} (hw : s.streams.sink? w = some sink)
    (hk : sink.backing = .body p.destination) (h : p.Basin intake s)
    (hstate : intake.state = .writable) :
    ∃ outcome s', exec (Session.writeAlgorithm w chunk) s = (outcome, s') ∧
      Frame { bodies := {p.destination} } s s' ∧ p.Basin (intake.afterWrite chunk outcome) s' := by
  obtain ⟨body, hfound, hcontents, hopened, -⟩ := h.body
  have hcall := MemoryHost.exec_bodyWrite s.host p.destination chunk
  have hframe := Frame.bodyWrite s p.destination chunk
  rw [Session.exec_writeAlgorithm_body hw hk, Session.exec_streamCall]
  cases hfault : (s.host.faults.take .bodyWrite).1 with
  | some error =>
    simp only [hfault] at hcall
    rw [hcall] at hframe ⊢
    exact ⟨_, _, rfl, hframe, h.fail hstate hfault _ _⟩
  | none =>
    simp only [hfault, hfound, hopened hstate, if_true] at hcall
    rw [hcall] at hframe ⊢
    refine ⟨_, _, rfl, hframe, ⟨body.append chunk, ?_, ?_, fun _ => hopened hstate, ?_, ?_⟩, ?_, ?_,
      h.intact⟩
    · simp [MemoryHost.find?_putBody]
    · simp [Intake.afterWrite, Except.mapError, hcontents]
    · simp [Intake.afterWrite, Except.mapError, hopened hstate, hstate]
    · simp [Intake.afterWrite, Except.mapError, hstate]
    · exact h.unbroken
    · exact hframe.faultless ∘ h.faultless

theorem Basin.close (hw : s.streams.sink? w = some sink)
    (hk : sink.backing = .body p.destination) (h : p.Basin intake s)
    (hstate : intake.state = .writable) :
    ∃ outcome s', exec (Session.closeAlgorithm w) s = (outcome, s') ∧
      Frame { bodies := {p.destination} } s s' ∧ p.Basin (intake.afterClose outcome) s' := by
  obtain ⟨body, hfound, hcontents, hopened, -⟩ := h.body
  have hcall := MemoryHost.exec_bodyClose s.host p.destination
  have hframe := Frame.bodyClose s p.destination
  rw [Session.exec_closeAlgorithm_body hw hk, Session.exec_streamCall]
  cases hfault : (s.host.faults.take .bodyClose).1 with
  | some error =>
    simp only [hfault] at hcall
    rw [hcall] at hframe ⊢
    exact ⟨_, _, rfl, hframe, h.fail hstate hfault _ _⟩
  | none =>
    simp only [hfault, hfound, hopened hstate, if_true] at hcall
    rw [hcall] at hframe ⊢
    refine ⟨_, _, rfl, hframe, ⟨{ body with state := .closed }, ?_, hcontents, ?_, ?_, ?_⟩, ?_, ?_,
      h.intact⟩
    · simp [MemoryHost.find?_putBody]
    · simp [Intake.afterClose, Except.mapError]
    · simp [Intake.afterClose, Except.mapError]
    · simp [Intake.afterClose, Except.mapError]
    · simp [Intake.afterClose, Except.mapError]
    · exact hframe.faultless ∘ h.faultless

theorem Basin.abort (hw : s.streams.sink? w = some sink)
    (hk : sink.backing = .body p.destination) (h : p.Basin intake s)
    (hstate : intake.state = .writable) (hc : ¬ p.calm) (reason : Option String) :
    ∃ outcome s', exec (Session.abortAlgorithm w reason) s = (outcome, s') ∧
      Frame { bodies := {p.destination} } s s' ∧ p.Basin intake.afterAbort s' := by
  obtain ⟨body, hfound, hcontents, hopened, -⟩ := h.body
  have hcall := MemoryHost.exec_bodyAbandon s.host p.destination
  have hframe := Frame.bodyAbandon s p.destination
  rw [Session.exec_abortAlgorithm_body hw hk, Session.exec_streamCall]
  cases hfault : (s.host.faults.take .bodyAbandon).1 with
  | some error =>
    simp only [hfault] at hcall
    rw [hcall] at hframe ⊢
    exact ⟨_, _, rfl, hframe, h.fail hstate hfault _ _⟩
  | none =>
    simp only [hfault, hfound, hopened hstate, reduceCtorEq, if_false] at hcall
    rw [hcall] at hframe ⊢
    refine ⟨_, _, rfl, hframe, ⟨{ body with state := .abandoned }, ?_, hcontents, ?_, ?_,
      fun _ _ _ => rfl⟩, fun hn => absurd hn hc, hframe.faultless ∘ h.faultless, h.intact⟩
    · simp [MemoryHost.find?_putBody]
    · intro hwritable
      cases hwritable
    · simp [Intake.afterAbort]

/-- The sink as the destination of a pipe. -/
def mouthOutlet (E : Type) (p : Passage) (hp : p.Distinct) : p.Outlet E p.length where
  backing := .body p.destination
  footprint := { bodies := {p.destination} }
  Behind := p.Basin
  unwritten := rfl
  unpiped := rfl
  apart :=
    { readables := fun _ h => h.elim
      writables := fun _ h => h.elim
      bridges := fun _ h => h.elim
      pipes := fun _ h => h.elim
      bodies := by
        rintro handle rfl (he | hne)
        · exact hp.ends he.symm
        · exact hne rfl }
  frame hf ha h := h.of_frame hf fun hm => ha.bodies _ hm rfl
  unbroken h := h.unbroken
  write hw hk h hstate _ := h.write hw hk hstate
  close hw hk h hstate := h.close hw hk hstate
  abort hw hk h hstate hc reason := h.abort hw hk hstate hc reason

end Passage

end EdgeStreams
