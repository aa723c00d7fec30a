import EdgeStreams.Proofs.Session.Delivering
import EdgeStreams.Proofs.Session.Drawing

/-!
# Streams that have come to their end

A stream that has ended or failed stays as it is as long as it lives, and says so to everybody who
reads or writes it.

## Main definitions

- `Source.verdict?`: what a reader is told for ever
- `WritableState.refusal?`: what a writer is told for ever

## Main statements

- `Session.Story.read_settled`: a readable stream, whatever is done
- `Session.Story.write_settled`: a writable stream

## Design notes

A reader is told of a failed start before anything else. A start that fails after its guest has
ended or failed the stream gives readers its own error, and not what the stream's state says.
-/

namespace EdgeStreams

variable {H E : Type}

namespace Source

variable {source : Source E} {demands : List Demand} {found : Option (Source E)}

/-- What every reader of a stream is told for ever, if the start has failed or the stream has ended
or failed. -/
def verdict? (source : Source E) : Option (Except StreamError ReadOutcome) :=
  match source.start with
  | .pending => none
  | .rejected error => some (.error error)
  | .resolved =>
    match source.controller.state with
    | .readable => none
    | .closed => some (.ok .done)
    | .errored error => some (.error error)

/-- The start and a state that is final stay. By induction on the life. -/
theorem Life.settled (h : source.Life demands found) :
    ∀ last, found = some last → last.start = source.start ∧
      (source.controller.state ≠ .readable → last.controller.state = source.controller.state) := by
  have hstep : ∀ {last last' : Source E}, last'.start = last.start →
      last.controller.ProceedsTo last'.controller → last.start = source.start ∧
        (source.controller.state ≠ .readable → last.controller.state = source.controller.state) →
          last'.start = source.start ∧
            (source.controller.state ≠ .readable →
              last'.controller.state = source.controller.state) := by
    rintro last last' hstart hproceeds ⟨hsame, hstate⟩
    refine ⟨hstart.trans hsame, fun hs => (hproceeds.state ?_).trans (hstate hs)⟩
    rwa [hstate hs]
  induction h with
  | new =>
    intro last hlast
    cases hlast
    exact ⟨rfl, fun _ => rfl⟩
  | proceedsTo _ hproc ih =>
    intro last hlast
    cases hlast
    cases hproc with
    | stays hstays | pulls _ _ _ hstays | begins _ _ _ hstays | ends _ hstays
    | cancels _ _ _ hstays => exact hstep hstays.start hstays.controller (ih _ rfl)
  | same _ hsame ih =>
    intro last hlast
    cases hlast
    exact hstep hsame.start (hsame.controller ▸ .refl _) (ih _ rfl)
  | gone =>
    intro last hlast
    cases hlast

theorem Life.verdict (h : source.Life demands found) {answer : Except StreamError ReadOutcome}
    (hv : source.verdict? = some answer) (last : Source E) (hlast : found = some last) :
    last.verdict? = some answer := by
  obtain ⟨hstart, hstate⟩ := h.settled last hlast
  rw [verdict?, hstart]
  unfold verdict? at hv
  cases hs : source.start with
  | pending | rejected => simpa only [hs] using hv
  | resolved =>
    have hfinal : source.controller.state ≠ .readable := by
      intro hreadable
      simp [hs, hreadable] at hv
    simpa only [hs, hstate hfinal] using hv

end Source

/-- What every writer of a stream that takes no more writes is told. -/
def WritableState.refusal? : WritableState → Option StreamError
  | .writable => none
  | .closing | .closed => some .closed
  | .errored error => some error

namespace Session

variable [Host H] {s t : Session H E} {made : List (WritableId × Bytes)}

section Readable

variable {id : ReadableId} {source last : Source E} {answer : Except StreamError ReadOutcome}

theorem attempt_readUnchecked_of_verdict (hs : s.streams.source? id = some source)
    (hv : source.verdict? = some answer) (fuel : Nat) :
    ∃ t, attempt (readUnchecked (fuel + 1) id) s = some (answer, t) := by
  have hfound := source?_disturb hs
  rw [attempt_readUnchecked, hs]
  dsimp only
  unfold Source.verdict? at hv
  cases hstart : source.start with
  | pending => simp [hstart] at hv
  | rejected error =>
    simp only [hstart, Option.some.injEq] at hv
    exact ⟨s, by rw [← hv]⟩
  | resolved =>
    simp only [hstart] at hv
    simp only [exec_takeReady hfound]
    cases hstate : source.controller.state with
    | readable => simp [hstate] at hv
    | closed | errored =>
      simp only [hstate, Option.some.injEq] at hv
      simp only [ReadableController.takeReady, hstate]
      exact ⟨_, by rw [← hv]⟩

theorem attempt_read_of_verdict (hs : s.streams.source? id = some source)
    (hv : source.verdict? = some answer) {token : Option ReaderToken}
    (hlock : Registry.admits source.readerLock token = .ok ()) (fuel : Nat) :
    ∃ t, attempt (read (fuel + 1) id token) s = some (answer, t) := by
  obtain ⟨t, hread⟩ := attempt_readUnchecked_of_verdict hs hv fuel
  exact ⟨t, by simpa [read, attempt_bind, hs, Except.bind, hlock] using hread⟩

/-- Once the start of a stream has failed, or the stream has ended or failed, every reader is told
so, whatever is done. -/
theorem Story.read_settled (h : Story (KeepsSource id) s made t) (hc : s.streams.Composed)
    (hs : s.streams.source? id = some source) (hv : source.verdict? = some answer)
    (ht : t.streams.source? id = some last) :
    last.start = source.start ∧
      (source.controller.state ≠ .readable → last.controller.state = source.controller.state) ∧
      ∀ {token}, Registry.admits last.readerLock token = .ok () → ∀ fuel,
        ∃ u, attempt (read (fuel + 1) id token) t = some (answer, u) := by
  obtain ⟨demands, -, hlife⟩ := h.sourceLife hc hs
  obtain ⟨hstart, hstate⟩ := hlife.settled last ht
  exact ⟨hstart, hstate, fun hlock fuel =>
    attempt_read_of_verdict ht (hlife.verdict hv last ht) hlock fuel⟩

end Readable

section Writable

variable {id : WritableId} {sink last : Sink E} {error : StreamError}

theorem exec_write_of_refusal (hs : s.streams.sink? id = some sink)
    (hr : sink.controller.state.refusal? = some error) {token : Option WriterToken}
    (hlock : Registry.admits sink.writerLock token = .ok ()) (chunk : Bytes) :
    exec (write id chunk token) s = (.error error, s) := by
  cases hstate : sink.controller.state with
  | writable => simp [hstate, WritableState.refusal?] at hr
  | closing | closed | errored =>
    simp only [hstate, WritableState.refusal?, Option.some.injEq] at hr
    simp [write, writeUnchecked, exec_bind, hs, Except.bind, hlock, hstate, hr]

/-- Once a stream has ended or failed, every writer is told so, whatever is done. -/
theorem Story.write_settled (h : Story (KeepsSink id) s made t) (hc : s.streams.Composed)
    (hs : s.streams.sink? id = some sink) (hr : sink.controller.state.refusal? = some error)
    (ht : t.streams.sink? id = some last) :
    last.controller = sink.controller ∧
      ∀ {token}, Registry.admits last.writerLock token = .ok () → ∀ chunk,
        exec (write id chunk token) t = (.error error, t) := by
  obtain ⟨calls, -, hlife, -⟩ := h.sinkLife hc hs
  have hkept : last.controller = sink.controller := by
    refine (hlife.stuck fun hw => ?_).2 last ht
    rw [hw] at hr
    cases hr
  exact ⟨hkept, fun hlock chunk => exec_write_of_refusal ht (hkept ▸ hr) hlock chunk⟩

end Writable

end Session

end EdgeStreams
