import EdgeStreams.Proofs.Body.Piecewise
import EdgeStreams.Proofs.Builtin.Storing

/-!
# How scripts are told of failed host calls

A host call that fails comes out with the same message on every route: when it has been made for the
script itself, when a body has met it, and when the stream of a body has. The exception is of the
same kind as well, unless the host has called an argument invalid. That is a type error, but the
stream of a body makes a plain error of it.

## Main definitions

- `BodyError.Carries`: the failure of a host call as it comes out of a body
- `BodyReads`: reads of a host body, up to its end or to a failure
- `ScriptError.TellsOf`: a script is told of the last call on a host, which has failed
- `ObjectStore.Refuses`: why a value could not be stored

## Main statements

- `ScriptError.text_ofBody`, `ScriptError.ofBody_eq_ofHost_iff`: the message and the kind of
  exception
- `Body.drain_of_reads`: draining a body over a host body, whatever the host answers
- `ObjectStore.refuses_put`: every way in which storing a value fails
-/

namespace EdgeStreams

variable {H E : Type}

/-! ### Messages and kinds of exceptions -/

/-- The failure of a host call as it comes out of a body: met by the body, or by its stream. -/
inductive BodyError.Carries (operation : HostOperation) (error : HostError) : BodyError → Prop
  | met : Carries operation error (.host operation error)
  | streamed : Carries operation error (.stream (.host operation error))

namespace ScriptError

variable {operation : HostOperation} {error : HostError} {failure : BodyError}

theorem text_ofHost (operation : HostOperation) (error : HostError) :
    (ofHost operation error).text = operation.failure error := by
  cases error <;> rfl

/-- The message does not depend on the route. -/
theorem text_ofBody (h : failure.Carries operation error) :
    (ofBody failure).text = (ofHost operation error).text := by
  cases h with
  | met => rfl
  | streamed => exact (text_ofHost operation error).symm

/-- The exception depends on the route only where the host has called an argument invalid. -/
theorem ofBody_eq_ofHost_iff (h : failure.Carries operation error) :
    ofBody failure = ofHost operation error ↔
      (error = .invalidArgument → failure = .host operation error) := by
  cases h with
  | met => exact ⟨fun _ _ => rfl, fun _ => rfl⟩
  | streamed =>
    cases error with
    | invalidArgument => exact ⟨nofun, fun h => nomatch h rfl⟩
    | _ => exact ⟨fun _ => nofun, fun _ => rfl⟩

end ScriptError

/-! ### Draining a host body -/

/-- Reads of a host body, one after the other, up to the one that finds the end or fails. -/
inductive BodyReads [Host H] (handle : BodyHandle) (size : UInt64) :
    H → List Bytes → Except HostError Unit → H → Prop
  | ended {host last : H} : exec (Host.bodyRead handle size) host = (.ok [], last) →
    BodyReads handle size host [] (.ok ()) last
  | failed {host last : H} {error : HostError} :
    exec (Host.bodyRead handle size) host = (.error error, last) →
      BodyReads handle size host [] (.error error) last
  | chunk {host next last : H} {data : Bytes} {chunks : List Bytes}
      {outcome : Except HostError Unit} :
    exec (Host.bodyRead handle size) host = (.ok data, next) → data ≠ [] →
      BodyReads handle size next chunks outcome last →
        BodyReads handle size host (data :: chunks) outcome last

section Draining

variable [Host H] {s : Session H E} {id : ReadableId} {handle : BodyHandle} {size : UInt64}
variable {source : Source E} {chunks : List Bytes} {outcome : Except HostError Unit} {last : H}

/-- What reading a host body comes to for the one who reads its stream. -/
def Body.readOut (chunks : List Bytes) : Except HostError Unit → Except BodyError Bytes
  | .ok () => .ok chunks.flatten
  | .error error => .error (.stream (.host .bodyRead error))

/-- A stream over a host body is read under a lock, whatever the host answers. By induction on the
reads of the host body. -/
theorem Body.readAll_of_reads {token : ReaderToken}
    (h : BodyReads handle size s.host chunks outcome last) (hs : s.streams.source? id = some source)
    (hd : source.Dormant handle size) (hlock : source.readerLock = some token)
    (taken : List Bytes) (idle : Bool) :
    ∃ t, Settles (fun fuel => drive (readAll fuel id token taken idle) s)
        (readOut (taken.reverse ++ chunks) outcome, t) ∧ t.host = last := by
  generalize hhost : s.host = host at h
  induction h generalizing s source taken idle with
  | ended hread =>
    subst hhost
    obtain ⟨t, hends, -, hhost, -⟩ := Session.reads_end hs hd hread
    refine ⟨t, ⟨4, fun fuel hfuel => ?_⟩, hhost⟩
    obtain ⟨more, rfl⟩ := Nat.exists_eq_add_of_le' hfuel
    change drive (readAll (more + 3 + 1) id token taken idle) s = _
    rw [drive_readAll, Session.attempt_read_of_admits hs (by simp [hlock]), hends]
    simp [readOn, readOut]
  | failed hread =>
    subst hhost
    obtain ⟨t, hfails, hhost⟩ := Session.reads_failure hs hd hread
    refine ⟨t, ⟨4, fun fuel hfuel => ?_⟩, hhost⟩
    obtain ⟨more, rfl⟩ := Nat.exists_eq_add_of_le' hfuel
    change drive (readAll (more + 3 + 1) id token taken idle) s = _
    rw [drive_readAll, Session.attempt_read_of_admits hs (by simp [hlock]), hfails]
    rfl
  | @chunk host next last data chunks outcome hread hne hrest ih =>
    subst hhost
    obtain ⟨t, hgives, hstreams, hhost, -⟩ := Session.reads_chunk hs hd hne hread
    have hs' : t.streams.source? id = some { source with disturbed := true } := by
      rw [hstreams, Registry.source?_setSource, if_pos rfl, hs, Option.map_some]
    obtain ⟨u, ⟨bound, hlater⟩, hlast⟩ := ih hs' hd.disturbed hlock (data :: taken) false hhost
    refine ⟨u, ⟨bound + 4, fun fuel hfuel => ?_⟩, hlast⟩
    obtain ⟨more, rfl⟩ := Nat.exists_eq_add_of_le' (show 4 ≤ fuel by omega)
    change drive (readAll (more + 3 + 1) id token taken idle) s = _
    rw [drive_readAll, Session.attempt_read_of_admits hs (by simp [hlock]), hgives,
      Option.bind_some]
    refine (hlater (more + 3) (by omega)).trans ?_
    simp

/-- A body whose stream over a host body nobody has touched is drained, whatever the host
answers. -/
theorem Body.drain_of_dormant {body streamed : Body} {t : Session H E} (hused : body.used = false)
    (hstream : exec (body.stream : Action H E BodyError _) s = (.ok (id, streamed), t))
    (hs : t.streams.source? id = some source) (hd : source.Dormant handle size)
    (hlock : source.readerLock = none) (hfresh : source.disturbed = false)
    (h : BodyReads handle size t.host chunks outcome last) (target : TargetType) :
    ∃ u, Settles (fun fuel => drive (body.drain fuel target) s)
        ((drained .standard target (.ok (readOut chunks outcome)), streamed.markUsed), u) ∧
      u.host = last := by
  have hfree : t.streams.isLocked id = false := by simp [Registry.isLocked, hs, hlock]
  have hunread : t.streams.isDisturbed id = false := by simp [Registry.isDisturbed, hs, hfresh]
  have hget : exec (Registry.getReader id) t.streams =
      (.ok ⟨t.streams.nextToken⟩, t.streams.readerLocked id source) :=
    Registry.exec_getReader t.streams hs hlock
  obtain ⟨v, ⟨bound, hreads⟩, hhost⟩ := readAll_of_reads
    (s := { t with streams := t.streams.readerLocked id source }) h
    ((Registry.source?_readerLocked hs id).trans (if_pos rfl))
    ⟨hd.backing, hd.started, hd.uncanceled, hd.resting, hd.unasked, hd.isOpen,
      hd.empty⟩ rfl [] false
  refine ⟨Session.mapStreams (Registry.quietly (Registry.releaseReader id ⟨t.streams.nextToken⟩)) v,
    ⟨bound, fun fuel hfuel => ?_⟩, hhost⟩
  simp only [drive_drain, hused, hstream, hfree, hunread, Bool.false_eq_true, if_false,
    Session.attempt_withReader, hget, Session.attempt_sure, hreads fuel hfuel]
  rfl

/-- A body over a host body that has no stream yet is drained, whatever the host answers. The host
is asked for nothing but the reads. -/
theorem Body.drain_of_reads {body : Body} (wf : s.streams.WellFormed) (hused : body.used = false)
    (hreleased : body.released = false) (hreadable : body.readable = none)
    (hhandle : body.handle = some handle)
    (h : BodyReads handle s.streams.config.bodyChunkSize s.host chunks outcome last)
    (target : TargetType) :
    ∃ left t, Settles (fun fuel => drive (body.drain fuel target) s)
        ((drained .standard target (.ok (readOut chunks outcome)), left), t) ∧ t.host = last := by
  obtain ⟨t, hdrains, hlast⟩ :=
    drain_of_dormant hused (exec_stream_new wf hreleased hreadable hhandle)
    ((source?_opened wf _ _ _).trans (if_pos rfl)) ⟨rfl, rfl, rfl, rfl, rfl, ⟨rfl, rfl⟩, rfl⟩
      rfl rfl h target
  exact ⟨_, t, hdrains, hlast⟩

end Draining

/-! ### Storing -/

/-- The last call on a host has failed. -/
def FailedLast [Host H] (request : HostRequest) (error : HostError) (host : H) : Prop :=
  ∃ before : H, exec request.perform before = (.error error, host)

namespace ScriptError

variable [Host H] {s t : Session H E} {failure : ScriptError}

/-- A script is told of the failure of the last call on the host. -/
def TellsOf (failure : ScriptError) (host : H) : Prop :=
  ∃ request error, FailedLast request error host ∧ failure = ofHost request.operation error

theorem tellsOf_of_hostCall (request : HostRequest)
    (h : exec (hostCall request.operation request.perform : Action H E ScriptError _) s =
      (.error failure, t)) : failure.TellsOf t.host := by
  rw [exec_hostCall, Prod.mk.injEq] at h
  obtain ⟨hfailure, rfl⟩ := h
  cases hrun : (exec request.perform s.host).1 with
  | ok answer => simp [hrun, Except.mapError] at hfailure
  | error error =>
    rw [hrun] at hfailure
    exact ⟨request, error, ⟨s.host, Prod.ext hrun rfl⟩, (Except.error.inj hfailure).symm⟩

end ScriptError

namespace ObjectStore

variable [Host H] {s t : Session H E} {failure : ScriptError}

theorem tellsOf_newBody {data : Bytes}
    (h : exec (newBody data : Action H E ScriptError _) s = (.error failure, t)) :
    failure.TellsOf t.host := by
  rcases of_exec_bind_error h with hnew | ⟨handle, u, -, hwrites⟩
  · exact ScriptError.tellsOf_of_hostCall .bodyNew hnew
  · split at hwrites
    · rcases of_exec_bind_error hwrites with hwrite | ⟨_, _, -, hpure⟩
      · exact ScriptError.tellsOf_of_hostCall (.bodyWrite handle data) hwrite
      · cases hpure
    · cases hwrites

theorem tellsOf_moveBody {source : BodyHandle}
    (h : exec (moveBody source : Action H E ScriptError _) s = (.error failure, t)) :
    failure.TellsOf t.host := by
  rcases of_exec_bind_error h with hnew | ⟨destination, u, -, hmoves⟩
  · exact tellsOf_newBody hnew
  · rcases of_exec_bind_error hmoves with happend | ⟨_, _, -, hpure⟩
    · exact ScriptError.tellsOf_of_hostCall (.bodyAppend destination source) happend
    · cases hpure

/-- Why a value could not be stored. -/
inductive Refuses (fuel : Nat) (key : String) (s t : Session H E) : ObjectValue → ScriptError → Prop
  | malformed {value : ObjectValue} {error : NameError} :
    NameKind.objectStoreKey.check key = .error error → Refuses fuel key s t value (.ofName error)
  | used {body : Body} : body.used = true →
    Refuses fuel key s t (.body body) (.typeError "body has already been used")
  /-- A call that the store makes has failed. -/
  | direct {value : ObjectValue} {failure : ScriptError} : failure.TellsOf t.host →
    Refuses fuel key s t value failure
  /-- A body could not be read. -/
  | unread {body left : Body} {error : BodyError} :
    drive (body.bytes fuel) s = some ((.error error, left), t) →
      Refuses fuel key s t (.body body) (.ofBody error)

theorem refuses_consume {fuel : Nat} {key : String} {body left : Body}
    (h : drive (consume fuel body) s = some ((.error failure, left), t)) :
    Refuses fuel key s t (.body body) failure := by
  cases hused : body.used with
  | true =>
    simp only [consume, hused, if_true, drive_pure, Option.some.injEq, Prod.mk.injEq,
      Except.error.injEq] at h
    obtain ⟨⟨rfl, -⟩, -⟩ := h
    exact .used hused
  | false =>
    cases hback : body.isHostBacked s.streams with
    | true =>
      obtain ⟨source, hhandle⟩ := Body.handle_of_backed hback
      rw [drive_consume_moved hused hback hhandle] at h
      generalize hmoved : exec (moveBody source : Action H E ScriptError _) s = moved at h
      obtain ⟨error | made, u⟩ := moved
      · cases h
        exact .direct (tellsOf_moveBody hmoved)
      · cases h
    | false =>
      rw [drive_consume_read hused hback] at h
      obtain ⟨⟨⟨read, later⟩, u⟩, hread, hbuilds⟩ := Option.map_eq_some_iff.mp h
      cases read with
      | error error =>
        cases hbuilds
        exact .unread hread
      | ok data =>
        simp only [Prod.mk.injEq] at hbuilds
        exact .direct (tellsOf_newBody (Prod.ext hbuilds.1.1 hbuilds.2))

theorem refuses_hostBody {fuel : Nat} {key : String} {value left : ObjectValue}
    (h : drive (hostBody fuel value) s = some ((.error failure, left), t)) :
    Refuses fuel key s t value failure := by
  cases value with
  | bytes data => exact .direct (tellsOf_newBody (of_run_newBody h))
  | text text => exact .direct (tellsOf_newBody (of_run_newBody h))
  | body body =>
    obtain ⟨⟨⟨result, later⟩, u⟩, hconsumes, hgives⟩ :=
      Option.bind_eq_some_iff.mp ((drive_bind _ _ _).symm.trans h)
    cases hgives
    exact refuses_consume hconsumes

/-- Every way in which storing a value fails. -/
theorem refuses_put {fuel : Nat} {store : ObjectStore} {key : String} {value left : ObjectValue}
    (h : drive (store.put fuel key value) s = some ((.error failure, left), t)) :
    Refuses fuel key s t value failure := by
  cases hkey : NameKind.objectStoreKey.check key with
  | error error =>
    rw [(storesOnce store key).refused hkey] at h
    cases h
    exact .malformed hkey
  | ok =>
    rw [drive_put store hkey] at h
    obtain ⟨⟨⟨built, left'⟩, u⟩, hbuilds, hgives⟩ := Option.map_eq_some_iff.mp h
    cases built with
    | error error =>
      cases hgives
      exact refuses_hostBody hbuilds
    | ok handle =>
      simp only [Prod.mk.injEq] at hgives
      obtain ⟨⟨hfailure, -⟩, rfl⟩ := hgives
      exact .direct (ScriptError.tellsOf_of_hostCall (.objectStoreInsert store.handle key handle)
        (Prod.ext hfailure rfl))

end ObjectStore

end EdgeStreams
