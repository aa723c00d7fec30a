import EdgeStreams.Proofs.Body.Steps
import EdgeStreams.Proofs.Client.Public
import EdgeStreams.Proofs.Host.Histories

/-!
# Names and keys are checked first

Whatever opens or looks up something by a name or a key checks that first. A malformed one comes to
a type error, and nothing happens. A well-formed one is handed to the host in one call.

## Main definitions

- `AsksOnce`: a text is checked, and then the host is asked for one thing
- `ObjectStore.StoresOnce`: a key is checked, a body is built, and then the host stores it
- `Session.RunPreserves`: a property that a run keeps
- `KeptByBodies`, `KeptByCalls`: properties of a host that every call on bodies keeps, or every call
  but an insert

## Main statements

- `KeptByBodies.hostBody`: what every call on bodies keeps, building a body keeps
- `checks_before_asking`: every operation that takes a name or a key checks it before the host is
  called

## Design notes

The host may be any. That it is called once with a certain request is said by the state that it is
left in, and by the transcript if it keeps one.
-/

namespace EdgeStreams

variable {H E ε α β : Type} [Host H]

/-! ### Checking and asking -/

omit [Host H] in
theorem NameKind.exec_require (kind : NameKind) (text : String) (s : Session H E) :
    exec (kind.require text : Action H E ScriptError Unit) s =
      ((kind.check text).mapError ScriptError.ofName, s) := rfl

namespace ScriptError

omit [Host H] in
theorem exec_hostCall (operation : HostOperation) (call : HostCall H α) (s : Session H E) :
    exec (hostCall operation call : Action H E ScriptError α) s =
      ((exec call s.host).1.mapError (ofHost operation),
        { s with host := (exec call s.host).2 }) := rfl

omit [Host H] in
theorem exec_hostQuery (operation : HostOperation) (call : HostCall H α) (s : Session H E) :
    exec (hostQuery operation call : Action H E ScriptError (Option α)) s =
      ((HostError.optional (exec call s.host).1).mapError (ofHost operation),
        { s with host := (exec call s.host).2 }) := by
  simp only [hostQuery, exec_bind, Session.exec_caught, Session.exec_onHost, Session.exec_adapt,
    Session.exec_settled]

end ScriptError

/-- What an action comes to that asks the host for one thing. `missing` is what it comes to when the
host finds nothing, `reply` what it makes of an answer. -/
def asked (request : HostRequest) (missing : Except ScriptError α)
    (reply : request.Answer → Session H E → α × Session H E) (s : Session H E) :
    Except ScriptError α × Session H E :=
  match exec request.perform s.host with
  | (.ok answer, host) => (.ok (reply answer { s with host }).1, (reply answer { s with host }).2)
  | (.error .optionalNone, host) => (missing, { s with host })
  | (.error error, host) => (.error (.ofHost request.operation error), { s with host })

/-- A text is checked, and then the host is asked for one thing. `missing` is what comes of it when
the host finds nothing, `reply` what is made of an answer. -/
structure AsksOnce (kind : NameKind) (text : String) (request : HostRequest)
    (missing : Except ScriptError α) (reply : request.Answer → Session H E → α × Session H E)
    (action : Action H E ScriptError α) : Prop where
  /-- A malformed text is refused, and nothing is touched. -/
  refused : ∀ {error}, kind.check text = .error error → ∀ s,
    exec action s = (.error (.typeError error.message), s)
  answered : kind.check text = .ok () → ∀ {s answer host},
    exec request.perform s.host = (.ok answer, host) →
      exec action s = (.ok (reply answer { s with host }).1, (reply answer { s with host }).2)
  absent : kind.check text = .ok () → ∀ {s host},
    exec request.perform s.host = (.error .optionalNone, host) →
      exec action s = (missing, { s with host })
  failed : kind.check text = .ok () → ∀ {s error host},
    exec request.perform s.host = (.error error, host) → error ≠ .optionalNone →
      exec action s = (.error (.ofHost request.operation error), { s with host })
  /-- No other call has been made. -/
  once : kind.check text = .ok () → ∀ {transcript}, TranscribesCalls transcript → ∀ s,
    transcript (exec action s).2.host = transcript s.host ++ [request]

/-- A check, and then work that is one question to the host. -/
theorem AsksOnce.of_exec {kind : NameKind} {text : String} {request : HostRequest}
    {missing : Except ScriptError α} {reply : request.Answer → Session H E → α × Session H E}
    {work : Action H E ScriptError α} (hreply : ∀ answer s, (reply answer s).2.host = s.host)
    (hwork : ∀ s, exec work s = asked request missing reply s) :
    AsksOnce kind text request missing reply (do kind.require text; work) := by
  have hrefused : ∀ {error}, kind.check text = .error error → ∀ s : Session H E,
      exec (do kind.require text; work : Action H E ScriptError α) s =
        (.error (.ofName error), s) := by
    intro error hc s
    rw [exec_bind, NameKind.exec_require, hc]
    rfl
  have hasked : kind.check text = .ok () → ∀ s : Session H E,
      exec (do kind.require text; work : Action H E ScriptError α) s =
        asked request missing reply s := by
    intro hc s
    rw [exec_bind, NameKind.exec_require, hc]
    exact hwork s
  -- Once the check has passed, each of the answers is a branch of `asked`.
  refine ⟨hrefused, fun hc s answer host hcall => ?_, fun hc s host hcall => ?_,
    fun hc s error host hcall hne => ?_, fun hc transcript htranscript s => ?_⟩
  · simp only [hasked hc, asked, hcall]
  · simp only [hasked hc, asked, hcall]
  · simp only [hasked hc, asked, hcall]
  · have hhost : (asked request missing reply s).2.host = (exec request.perform s.host).2 := by
      unfold asked
      split
      · next answer host hcall => exact (hreply answer _).trans (congrArg Prod.snd hcall).symm
      · next hcall => exact (congrArg Prod.snd hcall).symm
      · next hcall => exact (congrArg Prod.snd hcall).symm
    rw [hasked hc, hhost, htranscript]

/-! ### Opening, looking up and getting -/

/-- A dictionary or config store is opened. -/
theorem Lookup.asksOnce_openNamed (kind : LookupKind) (name : String) :
    AsksOnce (H := H) (E := E) kind.nameKind name (.dictionaryOpen name)
      (.error (.missing kind.label name)) (fun handle s => ({ name, handle }, s))
      (openNamed kind name) := by
  refine .of_exec (fun _ _ => rfl) fun s => ?_
  simp only [exec_bind, ScriptError.exec_hostQuery, asked, HostRequest.perform]
  rcases exec (Host.dictionaryOpen name) s.host with ⟨error | handle, host⟩
  · cases error <;> rfl
  · rfl

/-- The text of a key is looked up. -/
theorem Lookup.asksOnce_get {kind : LookupKind} (lookup : Lookup kind) (key : String) :
    AsksOnce (H := H) (E := E) kind.keyKind key (.dictionaryGet lookup.handle key) (.ok none)
      (fun text s => (some text, s)) (lookup.get key) := by
  refine .of_exec (fun _ _ => rfl) fun s => ?_
  simp only [ScriptError.exec_hostQuery, asked, HostRequest.perform]
  rcases exec (Host.dictionaryGet lookup.handle key) s.host with ⟨error | text, host⟩
  · cases error <;> rfl
  · rfl

/-- A log endpoint is opened. If the host finds none, that is a failure like any other. -/
theorem Logger.asksOnce_openNamed (name : String) :
    AsksOnce (H := H) (E := E) .logEndpointName name (.logEndpointOpen name)
      (.error (.ofHost .logEndpointOpen .optionalNone)) (fun handle s => ({ name, handle }, s))
      (openNamed name) := by
  refine .of_exec (fun _ _ => rfl) fun s => ?_
  simp only [exec_bind, ScriptError.exec_hostCall, asked, HostRequest.perform]
  rcases exec (Host.logEndpointOpen name) s.host with ⟨error | handle, host⟩
  · cases error <;> rfl
  · rfl

namespace ObjectStore

/-- An object store is opened. -/
theorem asksOnce_openNamed (name : String) :
    AsksOnce (H := H) (E := E) .objectStoreName name (.objectStoreOpen name)
      (.error (.missing "object store" name)) (fun handle s => ({ name, handle }, s))
      (openNamed name) := by
  refine .of_exec (fun _ _ => rfl) fun s => ?_
  simp only [exec_bind, ScriptError.exec_hostQuery, asked, HostRequest.perform]
  rcases exec (Host.objectStoreOpen name) s.host with ⟨error | handle, host⟩
  · cases error <;> rfl
  · rfl

/-- The value of a key is looked up. It comes back as a body with an owner of its own. -/
theorem asksOnce_lookup (store : ObjectStore) (key : String) :
    AsksOnce (H := H) (E := E) .objectStoreKey key (.objectStoreLookup store.handle key) (.ok none)
      (fun handle s => (some ((Body.ofHandle handle : Step H E Body).run s).1,
        ((Body.ofHandle handle : Step H E Body).run s).2)) (store.lookup key) := by
  refine .of_exec (fun _ _ => rfl) fun s => ?_
  simp only [exec_bind, ScriptError.exec_hostQuery, asked, HostRequest.perform]
  rcases exec (Host.objectStoreLookup store.handle key) s.host with ⟨error | handle, host⟩
  · cases error <;> rfl
  · rfl

end ObjectStore

/-! ### What runs keep -/

namespace Session

/-- Whatever a run comes to, it keeps a property of the session. -/
def RunPreserves (P : Session H E → Prop) (run : Run H E α) : Prop :=
  ∀ s, P s → ∀ r, drive run s = some r → P r.2

variable {P : Session H E → Prop}

namespace RunPreserves

omit [Host H] in
theorem pure (a : α) : RunPreserves P (Pure.pure a : Run H E α) := by
  rintro s h r hr
  cases hr
  exact h

omit [Host H] in
theorem get : RunPreserves P (MonadState.get : Run H E (Session H E)) := by
  rintro s h r hr
  cases hr
  exact h

omit [Host H] in
theorem bind {run : Run H E α} {next : α → Run H E β} (h : RunPreserves P run)
    (h' : ∀ a, RunPreserves P (next a)) : RunPreserves P (run >>= next) := by
  intro s hs r hr
  rw [drive_bind] at hr
  obtain ⟨first, hfirst, hnext⟩ := Option.bind_eq_some_iff.mp hr
  exact h' first.1 first.2 (h s hs first hfirst) r hnext

omit [Host H] in
theorem modifyGet {f : Session H E → α × Session H E} (h : ∀ s, P s → P (f s).2) :
    RunPreserves P (MonadState.modifyGet f : Run H E α) := by
  rintro s hs r hr
  cases hr
  exact h s hs

omit [Host H] in
theorem outcome {action : Action H E ε α} (h : Preserves P action) :
    RunPreserves P (MonadState.modifyGet (Session.outcome action) : Run H E (Except ε α)) :=
  modifyGet h

end RunPreserves

end Session

/-! ### What calls keep -/

/-- The operation concerns nothing but bodies. -/
def HostOperation.isOfBodies : HostOperation → Bool
  | .bodyNew | .bodyRead | .bodyWrite | .bodyAppend | .bodyClose | .bodyAbandon => true
  | _ => false

/-- Every call that concerns nothing but bodies keeps a property of the host. -/
def KeptByBodies (P : H → Prop) : Prop :=
  ∀ request : HostRequest, request.operation.isOfBodies = true → ∀ host, P host →
    P (exec request.perform host).2

/-- Every call but an insert into an object store keeps a property of the host. -/
def KeptByCalls (P : H → Prop) : Prop :=
  ∀ request : HostRequest, request.operation ≠ .objectStoreInsert → ∀ host, P host →
    P (exec request.perform host).2

theorem KeptByCalls.ofBodies {P : H → Prop} (h : KeptByCalls P) : KeptByBodies P := by
  intro request hbodies
  refine h request fun he => ?_
  rw [he] at hbodies
  cases hbodies

namespace KeptByBodies

open Session

variable {P : H → Prop}

theorem bodyCalls (h : KeptByBodies P) {handles : Set BodyHandle} {host later : H}
    (hcalls : BodyCalls handles host later) (hhost : P host) : P later := by
  induction hcalls with
  | refl => exact hhost
  | @call between later handle _ _ hcall ih =>
    cases hcall with
    | read limit => exact h (.bodyRead handle limit) rfl _ ih
    | write chunk => exact h (.bodyWrite handle chunk) rfl _ ih
    | close => exact h (.bodyClose handle) rfl _ ih
    | abandon => exact h (.bodyAbandon handle) rfl _ ih

theorem movesTo (h : KeptByBodies P) {s t : Session H E} (hmoves : MovesTo s t) (hs : P s.host) :
    P t.host := h.bodyCalls hmoves.movesWithin.calls hs

/-- Only a call that is made for a script changes the host. -/
theorem hostCall (h : KeptByBodies P) (request : HostRequest)
    (hbodies : request.operation.isOfBodies = true) :
    Preserves (fun s : Session H E => P s.host)
      (ScriptError.hostCall request.operation request.perform) := fun s =>
    h request hbodies s.host

theorem newBody (h : KeptByBodies P) (data : Bytes) :
    Preserves (fun s : Session H E => P s.host) (ObjectStore.newBody data) := by
  unfold ObjectStore.newBody
  refine .bind (h.hostCall .bodyNew rfl) fun handle => ?_
  split
  · exact .bind (h.hostCall (.bodyWrite handle data) rfl) fun _ => .pure _
  · exact .pure _

theorem moveBody (h : KeptByBodies P) (source : BodyHandle) :
    Preserves (fun s : Session H E => P s.host) (ObjectStore.moveBody source) :=
  .bind (h.newBody []) fun destination =>
    .bind (h.hostCall (.bodyAppend destination source) rfl) fun _ => .pure _

/-- By induction on the fuel. -/
theorem readAll (h : KeptByBodies P) (fuel : Nat) (id : ReadableId) (token : ReaderToken)
    (chunks : List Bytes) (idle : Bool) :
    RunPreserves (fun s : Session H E => P s.host) (Body.readAll fuel id token chunks idle) := by
  induction fuel generalizing chunks idle with
  | zero => nofun
  | succ fuel ih =>
    refine .bind (fun s hs r hr => h.movesTo (movesTo_read hr) hs) fun found => ?_
    rcases found with error | data | _ | _
    · exact .pure _
    · exact ih _ _
    · exact .pure _
    · refine .bind (fun s hs r hr => h.movesTo (movesTo_pump hr) hs) fun steps => ?_
      split
      · split
        · exact .pure _
        · exact ih _ _
      · exact ih _ _

omit [Host H] in
/-- A body's stream is made without a call. -/
theorem stream (body : Body) :
    Preserves (fun s : Session H E => P s.host) (body.stream : Action H E BodyError _) := by
  unfold Body.stream
  refine .bind (fun _ hs => hs) fun before => ?_
  split
  · exact .throw _
  · split
    · dsimp only
      split
      · exact .pure _
      · exact .throw _
    · exact .throw _
    · exact .bind (fun _ hs => hs) fun id => .bind (fun _ hs => hs) fun _ => .pure _

omit [Host H] in
/-- Work under the lock of a reader. The lock is taken and given back without a call. -/
theorem withReader {id : ReadableId} {work : ReaderToken → Attempt H E StreamError α}
    (h : ∀ token, RunPreserves (fun s : Session H E => P s.host) (work token).run) :
    RunPreserves (fun s : Session H E => P s.host) (Session.withReader id work).run := by
  intro s hs r hr
  change attempt (Session.withReader id work) s = some r at hr
  rw [attempt_withReader] at hr
  split at hr
  · cases hr
    exact hs
  · next token streams _ =>
    obtain ⟨worked, hworked, rfl⟩ := Option.map_eq_some_iff.mp hr
    exact h token { s with streams } hs worked hworked

theorem drain (h : KeptByBodies P) (fuel : Nat) (body : Body) (target : TargetType) :
    RunPreserves (fun s : Session H E => P s.host) (body.drain fuel target) := by
  unfold Body.drain Body.drainWith
  split
  · exact .pure _
  · refine .bind (.outcome (stream body)) fun opened => ?_
    rcases opened with error | ⟨id, streamed⟩
    · exact .pure _
    · refine .bind .get fun before => ?_
      dsimp only
      split
      · exact .pure _
      · split
        · exact .pure _
        · refine .bind (withReader fun token => fun s hs r hr => ?_) fun read => ?_
          · change attempt (sure _) s = some r at hr
            rw [attempt_sure] at hr
            obtain ⟨worked, hworked, rfl⟩ := Option.map_eq_some_iff.mp hr
            exact h.readAll fuel id token [] false s hs worked hworked
          · rcases read with error | ⟨error | data⟩ <;> exact .pure _

theorem drainTo {α : Type} (h : KeptByBodies P) (fuel : Nat) (body : Body) (target : TargetType)
    (value : Representation → Except BodyError α) :
    RunPreserves (fun s : Session H E => P s.host) (body.drainTo fuel target value) :=
  .bind (h.drain fuel body target) fun _ => .pure _

theorem consume (h : KeptByBodies P) (fuel : Nat) (body : Body) :
    RunPreserves (fun s : Session H E => P s.host) (ObjectStore.consume fuel body) := by
  unfold ObjectStore.consume
  split
  · exact .pure _
  · refine .bind .get fun before => ?_
    -- A body of the host that nothing has read is moved; any other one is read to its end.
    split
    · refine .bind (.outcome (h.moveBody _)) fun moved => ?_
      cases moved with
      | error error => exact .pure _
      | ok handle =>
        refine .bind (.modifyGet fun s hs => ?_) fun _ => .pure _
        rwa [Body.host_release]
    · refine .bind (h.drainTo fuel body _ _) fun (result, later) => ?_
      cases result with
      | error error => exact .pure _
      | ok data => exact .bind (.outcome (h.newBody data)) fun _ => .pure _

/-- Building a host body keeps what every call keeps that concerns bodies. -/
theorem hostBody (h : KeptByBodies P) (fuel : Nat) (value : ObjectValue) :
    RunPreserves (fun s : Session H E => P s.host) (ObjectStore.hostBody fuel value) := by
  cases value with
  | bytes data => exact .bind (.outcome (h.newBody data)) fun _ => .pure _
  | text text => exact .bind (.outcome (h.newBody (utf8 text))) fun _ => .pure _
  | body body => exact .bind (h.consume fuel body) fun _ => .pure _

end KeptByBodies

/-! ### Storing -/

namespace ObjectStore

/-- A key is checked, the body of a value is built, and then the host is asked to store it, once. -/
structure StoresOnce (H E : Type) [Host H] (store : ObjectStore) (key : String) : Prop where
  /-- A malformed key is refused, and nothing is touched, nor is the value. -/
  refused : ∀ {error}, NameKind.objectStoreKey.check key = .error error →
    ∀ fuel value (s : Session H E), drive (store.put fuel key value) s =
      some ((.error (.typeError error.message), value), s)
  /-- If the body cannot be built, nothing more is done. -/
  unbuilt : NameKind.objectStoreKey.check key = .ok () →
    ∀ {fuel value error later} {s t : Session H E},
      drive (hostBody fuel value) s = some ((.error error, later), t) →
        drive (store.put fuel key value) s = some ((.error error, later), t)
  inserted : NameKind.objectStoreKey.check key = .ok () →
    ∀ {fuel value handle later} {s t : Session H E} {result host},
      drive (hostBody fuel value) s = some ((.ok handle, later), t) →
        exec (HostRequest.objectStoreInsert store.handle key handle).perform t.host =
            (result, host) →
          drive (store.put fuel key value) s =
            some ((result.mapError (.ofHost .objectStoreInsert), later), { t with host })
  /-- While the body is built, nothing is stored. -/
  building : ∀ {transcript}, TranscribesCalls transcript →
    ∀ {fuel value} {s : Session H E} {r}, drive (hostBody fuel value) s = some r →
      ∃ requests, transcript r.2.host = transcript s.host ++ requests ∧
        ∀ request ∈ requests, request.operation ≠ .objectStoreInsert
  /-- No call but the insert is made when the body has been built. -/
  once : NameKind.objectStoreKey.check key = .ok () → ∀ {transcript}, TranscribesCalls transcript →
    ∀ {fuel value handle later} {s t : Session H E} {r},
      drive (hostBody fuel value) s = some ((.ok handle, later), t) →
        drive (store.put fuel key value) s = some r →
          transcript r.2.host =
            transcript t.host ++ [.objectStoreInsert store.handle key handle]

theorem drive_put (store : ObjectStore) {key : String}
    (hc : NameKind.objectStoreKey.check key = .ok ()) (fuel : Nat) (value : ObjectValue)
    (s : Session H E) :
    drive (store.put fuel key value) s =
      (drive (hostBody fuel value) s).map fun r =>
        match r.1.1 with
        | .error error => ((.error error, r.1.2), r.2)
        | .ok handle =>
          (((exec (store.insert key handle) r.2).1, r.1.2),
            (exec (store.insert key handle) r.2).2) := by
  simp only [put, hc, drive_bind, Option.map_eq_bind]
  refine congrArg _ (funext fun r => ?_)
  obtain ⟨⟨result, later⟩, t⟩ := r
  cases result <;> rfl

/-- A transcript goes on while a body is built, and does not name an insert. -/
theorem keptByCalls_transcript {transcript : H → List HostRequest}
    (ht : TranscribesCalls transcript) (first : List HostRequest) : KeptByCalls fun host =>
      ∃ requests, transcript host = first ++ requests ∧
        ∀ request ∈ requests, request.operation ≠ .objectStoreInsert := by
  rintro request hne host ⟨requests, hrequests, hall⟩
  refine ⟨requests ++ [request], ?_, fun other hm => ?_⟩
  · rw [ht, hrequests, List.append_assoc]
  · rcases List.mem_append.mp hm with hold | hnew
    · exact hall other hold
    · rwa [List.mem_singleton.mp hnew]

theorem storesOnce (store : ObjectStore) (key : String) : StoresOnce H E store key where
  refused hc fuel value s := by
    simp only [put, hc]
    rfl
  unbuilt hc _ _ _ _ _ _ hbuilt := by
    rw [drive_put store hc, hbuilt]
    rfl
  inserted hc _ _ handle later s t result host hbuilt hinsert := by
    rw [drive_put store hc, hbuilt]
    change some ((((exec (Host.objectStoreInsert store.handle key handle) t.host).1.mapError _,
      later), { t with host := (exec (Host.objectStoreInsert store.handle key handle) t.host).2 }) :
        _ × Session H E) = _
    rw [show exec (Host.objectStoreInsert store.handle key handle) t.host = (result, host) from
      hinsert]
  building ht _ _ s r hr :=
    (keptByCalls_transcript ht _).ofBodies.hostBody _ _ s ⟨[], (List.append_nil _).symm, by simp⟩
      r hr
  once hc transcript ht _ _ handle later s t r hbuilt hr := by
    rw [drive_put store hc, hbuilt] at hr
    cases hr
    exact ht (.objectStoreInsert store.handle key handle) t.host

end ObjectStore

/-- A dictionary, a config store, a log endpoint or an object store is opened, and a key looked up,
in one call on the host, and only if the name or key is well-formed; so it is with storing, once the
body of the value has been built. A malformed name or key is a type error, and leaves everything as
it was. -/
theorem checks_before_asking :
    (∀ kind name, AsksOnce (H := H) (E := E) (LookupKind.nameKind kind) name (.dictionaryOpen name)
      (.error (.missing kind.label name)) (fun handle s => ({ name, handle }, s))
      (Lookup.openNamed kind name)) ∧
    (∀ {kind} (lookup : Lookup kind) key, AsksOnce (H := H) (E := E) kind.keyKind key
      (.dictionaryGet lookup.handle key) (.ok none) (fun text s => (some text, s))
      (lookup.get key)) ∧
    (∀ name, AsksOnce (H := H) (E := E) .logEndpointName name (.logEndpointOpen name)
      (.error (.ofHost .logEndpointOpen .optionalNone)) (fun handle s => ({ name, handle }, s))
      (Logger.openNamed name)) ∧
    (∀ name, AsksOnce (H := H) (E := E) .objectStoreName name (.objectStoreOpen name)
      (.error (.missing "object store" name)) (fun handle s => ({ name, handle }, s))
      (ObjectStore.openNamed name)) ∧
    (∀ (store : ObjectStore) key, AsksOnce (H := H) (E := E) .objectStoreKey key
      (.objectStoreLookup store.handle key) (.ok none)
      (fun handle s => (some ((Body.ofHandle handle : Step H E Body).run s).1,
        ((Body.ofHandle handle : Step H E Body).run s).2)) (store.lookup key)) ∧
    ∀ store key, ObjectStore.StoresOnce H E store key :=
  ⟨Lookup.asksOnce_openNamed, Lookup.asksOnce_get, Logger.asksOnce_openNamed,
    ObjectStore.asksOnce_openNamed, ObjectStore.asksOnce_lookup, ObjectStore.storesOnce⟩

/-- A session over a host with an open object store. -/
def storingSession : Session (Traced MemoryHost) Unit where
  host.host := (exec (Host.objectStoreOpen "s") (({} : MemoryHost).addObjectStore "s" [])).2
  env := ()

/-- Under a reserved key nothing is stored, and no body is built. Under another one, the body is
built with two calls, and stored with one more. -/
theorem checks_before_asking_reserved :
    drive ((ObjectStore.mk "s" ⟨1⟩).put 0 ".." (.bytes [7])) storingSession =
        some ((.error (.typeError "object store key cannot be '.' or '..'"), .bytes [7]),
          storingSession) ∧
      ∃ r, drive ((ObjectStore.mk "s" ⟨1⟩).put 0 "k" (.bytes [7])) storingSession = some r ∧
        r.1.1 = .ok () ∧ r.2.host.transcript =
          [.bodyNew, .bodyWrite ⟨2⟩ [7]] ++ [.objectStoreInsert ⟨1⟩ "k" ⟨2⟩] := by
  obtain ⟨-, -, -, -, -, hput⟩ := checks_before_asking (H := Traced MemoryHost) (E := Unit)
  have hbuilt : ∃ t, drive (ObjectStore.hostBody 0 (.bytes [7])) storingSession =
      some ((.ok ⟨2⟩, .bytes [7]), t) ∧ t.host.transcript = [.bodyNew, .bodyWrite ⟨2⟩ [7]] ∧
        (exec (HostRequest.objectStoreInsert ⟨1⟩ "k" ⟨2⟩).perform t.host).1 = .ok () :=
    ⟨_, rfl, rfl, rfl⟩
  have hreserved : NameKind.objectStoreKey.check ".." =
      .error ⟨.objectStoreKey, .reserved .dots⟩ := by rfl
  obtain ⟨t, hbuilt, htranscript, hinsert⟩ := hbuilt
  have hdone := (hput ⟨"s", ⟨1⟩⟩ "k").inserted (by rfl) hbuilt (Prod.ext hinsert rfl)
  refine ⟨(hput ⟨"s", ⟨1⟩⟩ "..").refused hreserved 0 (.bytes [7]) storingSession, _, hdone, rfl, ?_⟩
  exact ((hput ⟨"s", ⟨1⟩⟩ "k").once (by rfl) Traced.transcribesCalls hbuilt hdone).trans
    (congrArg (· ++ _) htranscript)

end EdgeStreams
