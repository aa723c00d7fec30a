import EdgeStreams.Body.Drain
import EdgeStreams.Proofs.Registry.Adding
import EdgeStreams.Proofs.Session.Flow

/-!
# The steps of draining a body

A body is drained under the lock of a reader, one read after the other. Each of the functions that
do so, opened once.

## Main definitions

- `Body.sourceOver`, `Body.opened`: the stream that a body is given over its host body

## Main statements

- `Body.exec_stream_new`: a body is given a stream
- `Session.attempt_withReader`: work under the lock of a reader
- `Body.drive_readAll`: one read, and what follows it
- `Body.drive_drainWith`, `Body.drive_drain`: a body is drained
- `Body.extends_readAll`, `Body.extends_drainWith`, `Body.extends_pipeThroughIdentity`: more fuel
  never changes an outcome
-/

namespace EdgeStreams

/-! ### The stream of a body -/

namespace Body

variable {H E : Type}

/-- The source that a body is given over its host body. -/
def sourceOver (body : Body) (handle : BodyHandle) (streams : Registry E) : Source E where
  backing := .body handle streams.config.bodyChunkSize
  controller := { highWaterMark := streams.config.bodyHighWaterMark }
  owner := some body.owner

/-- The session in which a body has been given a stream. -/
def opened (body : Body) (handle : BodyHandle) (s : Session H E) : Session H E :=
  Session.setSource (s.streams.bodySource handle).1 (body.sourceOver handle s.streams)
    { s with streams := (s.streams.bodySource handle).2 }

variable {s : Session H E} (wf : s.streams.WellFormed)
include wf

theorem source?_opened (body : Body) (handle : BodyHandle) (id : ReadableId) :
    (body.opened handle s).streams.source? id =
      if id = (s.streams.bodySource handle).1 then some (body.sourceOver handle s.streams)
      else s.streams.source? id := by
  rw [opened, Session.streams_setSource, Registry.source?_setSource,
    Registry.source?_bodySource wf, Registry.source?_bodySource wf, if_pos rfl]
  split <;> rfl

/-- A body that has no stream yet is given one over its host body. -/
theorem exec_stream_new {body : Body} {handle : BodyHandle} (hreleased : body.released = false)
    (hreadable : body.readable = none) (hhandle : body.handle = some handle) :
    exec (body.stream : Action H E BodyError _) s =
      (.ok ((s.streams.bodySource handle).1,
        { body with readable := some (s.streams.bodySource handle).1 }), body.opened handle s) := by
  have howned := Registry.exec_setReadableOwner
    ((Registry.source?_bodySource wf handle _).trans (if_pos rfl)) body.owner
  simp only [Body.stream, exec_bind, exec_get, hreleased, hreadable, hhandle, Bool.false_eq_true,
    if_false, exec_modifyGet, Session.changeStreams, Session.exec_adapt, Session.exec_onStreams]
  rw [howned]
  rfl

end Body

/-! ### Draining -/

variable {H E α : Type} [Host H] (fuel : Nat) (s : Session H E)

omit [Host H] in
/-- Work under the lock of a reader, which is given back at the end. -/
theorem Session.attempt_withReader (id : ReadableId)
    (work : ReaderToken → Attempt H E StreamError α) :
    attempt (withReader id work) s =
      match exec (Registry.getReader id) s.streams with
      | (.error error, streams) => some (.error error, { s with streams })
      | (.ok token, streams) =>
        (attempt (work token) { s with streams }).map fun r =>
          (r.1, mapStreams (Registry.quietly (Registry.releaseReader id token)) r.2) := by
  simp only [withReader, attempt_bind, attempt_finite, exec_onStreams, Option.bind_some]
  obtain ⟨locked, streams⟩ := exec (Registry.getReader id) s.streams
  cases locked with
  | error error => rfl
  | ok token =>
    simp only [attempt_sure, attempt_modify]
    rw [drive_run]
    cases attempt (work token) { s with streams } with
    | none => rfl
    | some r =>
      obtain ⟨result, t⟩ := r
      cases result <;> rfl

namespace Body

/-- What follows a read by one who reads to the end. -/
def readOn (id : ReadableId) (token : ReaderToken) (chunks : List Bytes) (idle : Bool) :
    Except StreamError ReadOutcome × Session H E → Option (Except BodyError Bytes × Session H E)
  | (.error error, s) => some (.error (.stream error), s)
  | (.ok (.chunk data), s) => drive (readAll fuel id token (data :: chunks) false) s
  | (.ok .done, s) => some (.ok chunks.reverse.flatten, s)
  | (.ok .pending, s) =>
    (drive (Session.pump fuel) s).bind fun r =>
      if r.1 = 0 then
        if idle then some (.error .stalled, r.2) else drive (readAll fuel id token chunks true) r.2
      else drive (readAll fuel id token chunks idle) r.2

theorem drive_readAll (id : ReadableId) (token : ReaderToken) (chunks : List Bytes) (idle : Bool) :
    drive (readAll (fuel + 1) id token chunks idle) s =
      (attempt (Session.read fuel id (some token)) s).bind (readOn fuel id token chunks idle) := by
  simp only [readAll, drive_bind, drive_run]
  refine congrArg _ (funext fun r => ?_)
  obtain ⟨found, t⟩ := r
  cases found with
  | error error => rfl
  | ok outcome =>
    cases outcome with
    | chunk data => rfl
    | done => rfl
    | pending =>
      simp only [readOn, drive_bind]
      refine congrArg _ (funext fun r => ?_)
      split
      · split <;> rfl
      · rfl

/-- The outcome of a drain, from what has been read. -/
def drained (decoders : Decoders) (target : TargetType) :
    Except StreamError (Except BodyError Bytes) → Except BodyError Representation
  | .error error => .error (.stream error)
  | .ok (.error error) => .error error
  | .ok (.ok data) => Representation.decodeWith decoders data target

/-- A body is drained of what its stream has. -/
theorem drive_drainWith (decoders : Decoders) (body : Body) (target : TargetType) :
    drive (drainWith decoders fuel body target) s =
      if body.used then some ((.error .alreadyUsed, body), s)
      else
        match exec (body.stream : Action H E BodyError _) s with
        | (.error error, t) => some ((.error error, body), t)
        | (.ok (id, streamed), t) =>
          if t.streams.isLocked id then some ((.error .locked, streamed), t)
          else if t.streams.isDisturbed id then some ((.error .alreadyUsed, streamed), t)
          else
            (attempt (Session.withReader id fun token =>
              Session.sure (readAll fuel id token [] false)) t).map fun r =>
                ((drained decoders target r.1, streamed.markUsed), r.2) := by
  unfold drainWith
  by_cases hused : body.used = true
  · rw [if_pos hused, if_pos hused, drive_pure]
  · rw [if_neg hused, if_neg hused]
    simp only [drive_bind, drive_modifyGet, Session.outcome_apply, Option.bind_some]
    obtain ⟨opened, t⟩ := exec (body.stream : Action H E BodyError _) s
    cases opened with
    | error error => rfl
    | ok opened =>
      obtain ⟨id, streamed⟩ := opened
      simp only [drive_bind, drive_get, Option.bind_some]
      by_cases hlocked : t.streams.isLocked id = true
      · simp only [hlocked, if_true, drive_pure]
      · by_cases hdisturbed : t.streams.isDisturbed id = true
        · simp only [hlocked, hdisturbed, if_true, Bool.false_eq_true, if_false, drive_pure]
        · simp only [hlocked, hdisturbed, Bool.false_eq_true, if_false, drive_bind, drive_run]
          rw [Option.map_eq_bind]
          refine congrArg _ (funext fun r => ?_)
          obtain ⟨read, after⟩ := r
          rcases read with error | ⟨error | data⟩ <;> rfl

/-- The same with the decoders at hand. -/
theorem drive_drain (body : Body) (target : TargetType) :
    drive (drain fuel body target) s =
      if body.used then some ((.error .alreadyUsed, body), s)
      else
        match exec (body.stream : Action H E BodyError _) s with
        | (.error error, t) => some ((.error error, body), t)
        | (.ok (id, streamed), t) =>
          if t.streams.isLocked id then some ((.error .locked, streamed), t)
          else if t.streams.isDisturbed id then some ((.error .alreadyUsed, streamed), t)
          else
            (attempt (Session.withReader id fun token =>
              Session.sure (readAll fuel id token [] false)) t).map fun r =>
                ((drained .standard target r.1, streamed.markUsed), r.2) :=
  drive_drainWith fuel s .standard body target

omit [Host H] in
/-- To let go of a stream asks nothing of the host. -/
theorem host_release (body : Body) (s : Session H E) : (body.release s).2.host = s.host := by
  obtain ⟨owner, handle, readable, released, used⟩ := body
  cases released <;> cases readable <;> rfl

/-! ### More fuel -/

theorem extends_readAll (id : ReadableId) (token : ReaderToken)
    (chunks : List Bytes) (idle : Bool) :
    Extends (readAll fuel id token chunks idle : Run H E (Except BodyError Bytes))
      (readAll (fuel + 1) id token chunks idle) := by
  induction fuel generalizing chunks idle with
  | zero => exact .outOfFuel
  | succ fuel ih =>
    refine .bind (Session.extends_read fuel id (some token)) fun found => ?_
    split
    · exact .refl _
    · exact ih _ false
    · exact .refl _
    · refine .bind (Session.extends_pump fuel) fun steps => ?_
      split
      · split
        · exact .refl _
        · exact ih chunks true
      · exact ih chunks idle

theorem extends_drainWith (decoders : Decoders) (body : Body) (target : TargetType) :
    Extends (drainWith decoders fuel body target : Run H E (Except BodyError Representation × Body))
      (drainWith decoders (fuel + 1) body target) := by
  unfold drainWith
  split
  · exact .refl _
  · refine .bind (.refl _) fun opened => ?_
    split
    · exact .refl _
    · refine .bind (.refl _) fun t => ?_
      dsimp only
      split
      · exact .refl _
      · split
        · exact .refl _
        · refine .bind ?_ fun _ => .refl _
          exact .bind_run (.refl _) fun token => .bind_run
            (.sure (.sure (extends_readAll fuel _ token [] false))) fun _ => .refl _

theorem extends_pipeThroughIdentity (body : Body) :
    Extends (body.pipeThroughIdentity fuel : Run H E (Except BodyError ReadableId × Body))
      (body.pipeThroughIdentity (fuel + 1)) := by
  unfold pipeThroughIdentity
  refine .bind (.refl _) fun opened => ?_
  split
  · exact .refl _
  · refine .bind (.refl _) fun transform =>
      .bind (Session.extends_pipeThrough fuel _ transform {}) fun _ =>
      .refl _

end Body

end EdgeStreams
