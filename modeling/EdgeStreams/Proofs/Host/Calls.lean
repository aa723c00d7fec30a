import EdgeStreams.Proofs.Host.Failing

/-!
# What calls about bodies come to

A call that has succeeded has found what it needs, and has met no fault. A call that names a body
which is gone or given up finds nothing.

## Main definitions

- `HostRequest.bodies`: the bodies that a call names
- `MemoryHost.Unusable`: a body is gone or given up

## Main statements

- `MemoryHost.LooksOnly.exec_bind_ok`, `MemoryHost.LooksOnly.fails`: what looks first, when it
  succeeds and when it fails
- `MemoryHost.exec_bodyRead_ok`, `MemoryHost.exec_bodyAppend_ok` and the like: what a call has done
  that has succeeded
- `MemoryHost.refused_of_unusable`: a body that is gone or given up is refused by every call
-/

namespace EdgeStreams

/-! ### What a call names -/

namespace HostRequest

/-- The bodies that a call names. -/
def bodies : HostRequest → List BodyHandle
  | bodyRead body _ | bodyWrite body _ | bodyClose body | bodyAbandon body
  | objectStoreInsert _ _ body => [body]
  | bodyAppend destination source => [destination, source]
  | _ => []

/-- What a call fails with that names a body that is not there. A body that is to be appended to
itself is refused before it is looked for. -/
def refusal : HostRequest → HostError
  | bodyAppend destination source => if destination = source then .invalidArgument else .badHandle
  | _ => .badHandle

end HostRequest

namespace MemoryHost

variable {host : MemoryHost} {handle : BodyHandle} {α β : Type}

/-! ### The parts of a call -/

section Parts

variable {b : MemoryBody} {error : HostError}

/-- What is left of a call that meets no fault. -/
theorem exec_receive_bind {operation : HostOperation} {about : Option AnyHandle}
    (hfault : (host.faults.take operation).1 = none) (work : HostCall MemoryHost α) :
    exec (do receive operation about; work) host = exec work (host.received operation about) := by
  rw [exec_bind, exec_receive, hfault]

/-- A call that succeeds has met no fault. -/
theorem exec_receive_ok {operation : HostOperation} {about : Option AnyHandle}
    {work : HostCall MemoryHost α} {a : α}
    (h : (exec (do receive operation about; work) host).1 = .ok a) :
    exec (do receive operation about; work) host = exec work (host.received operation about) := by
  refine exec_receive_bind ?_ work
  cases hfault : (host.faults.take operation).1 with
  | none => rfl
  | some error =>
    rw [exec_bind, exec_receive, hfault] at h
    cases h

/-- What looks first and then succeeds. -/
theorem LooksOnly.exec_bind_ok {work : HostCall MemoryHost α} {next : α → HostCall MemoryHost β}
    (h : LooksOnly host work) {answer : β} (hok : (exec (work >>= next) host).1 = .ok answer) :
    ∃ a, (exec work host).1 = .ok a ∧ exec (work >>= next) host = exec (next a) host := by
  rw [exec_bind, show (exec work host).2 = host from h] at hok ⊢
  cases hresult : (exec work host).1 with
  | error error =>
    rw [hresult] at hok
    cases hok
  | ok a => exact ⟨a, rfl, rfl⟩

/-- What looks first and then fails, or fails in looking. -/
theorem LooksOnly.fails {work : HostCall MemoryHost α} {next : α → HostCall MemoryHost β}
    (h : LooksOnly host work) (herror : ∀ {e}, (exec work host).1 = .error e → e = error)
    (hnext : ∀ a, (exec work host).1 = .ok a → (exec (next a) host).1 = .error error) :
    (exec (work >>= next) host).1 = .error error := by
  rw [exec_bind]
  cases hresult : (exec work host).1 with
  | error e => rw [herror hresult]
  | ok a =>
    rw [show (exec work host).2 = host from h]
    exact hnext a hresult

theorem exec_bind_of_error {work : HostCall MemoryHost α} {next : α → HostCall MemoryHost β}
    (h : (exec work host).1 = .error error) : (exec (work >>= next) host).1 = .error error := by
  rw [exec_bind, h]

theorem exec_require_ok {value : Option α} {a : α}
    (h : (exec (require error value) host).1 = .ok a) :
    value = some a := by
  cases value with
  | none => cases h
  | some value => exact congrArg some (Except.ok.inj h)

theorem eq_of_exec_require {fallback : HostError} {value : Option α}
    (h : (exec (require fallback value) host).1 = .error error) : error = fallback := by
  cases value with
  | none => exact (Except.error.inj h).symm
  | some value => cases h

theorem exec_body_ok (h : (exec (body handle) host).1 = .ok b) :
    host.bodies.find? handle.raw = some b := by
  obtain ⟨before, hget, hrun⟩ := looksOnly_get.exec_bind_ok h
  cases hget
  exact exec_require_ok (hrun ▸ h)

theorem eq_of_exec_body (h : (exec (body handle) host).1 = .error error) : error = .badHandle := by
  rw [exec_body] at h
  cases hfind : host.bodies.find? handle.raw with
  | none => simpa [hfind] using h.symm
  | some found => simp [hfind] at h

theorem exec_openBody_ok (h : (exec (openBody handle) host).1 = .ok b) :
    host.bodies.find? handle.raw = some b ∧ b.state = .opened := by
  obtain ⟨found, hfound, hrun⟩ := (looksOnly_body handle).exec_bind_ok h
  have hok := hrun ▸ h
  split at hok
  · next hopen =>
    cases hok
    exact ⟨exec_body_ok hfound, hopen⟩
  · cases hok

theorem eq_of_exec_openBody (h : (exec (openBody handle) host).1 = .error error) :
    error = .badHandle := by
  rw [exec_openBody] at h
  cases hfind : host.bodies.find? handle.raw with
  | none => simpa [hfind] using h.symm
  | some found =>
    by_cases hopen : found.state = .opened
    · simp [hfind, hopen] at h
    · simpa [hfind, hopen] using h.symm

/-- The host with a body taken out. -/
def dropBody (host : MemoryHost) (handle : BodyHandle) : MemoryHost :=
  { host with bodies := host.bodies.erase handle.raw }

theorem find?_dropBody (raw : UInt32) :
    (host.dropBody handle).bodies.find? raw =
      if raw = handle.raw then none else host.bodies.find? raw := Table.find?_erase _ _ _

theorem exec_takeBody_ok {data : Bytes} (h : (exec (takeBody handle) host).1 = .ok data) :
    ∃ body, host.bodies.find? handle.raw = some body ∧ body.state ≠ .abandoned ∧
      exec (takeBody handle) host = (.ok body.unread, host.dropBody handle) := by
  obtain ⟨found, hfound, hrun⟩ := (looksOnly_body handle).exec_bind_ok h
  have hok := hrun ▸ h
  by_cases hstate : found.state = .abandoned
  · rw [if_pos hstate] at hok
    cases hok
  · rw [if_neg hstate] at hrun
    exact ⟨found, exec_body_ok hfound, hstate, hrun⟩

end Parts

/-! ### Calls that succeed -/

section Succeeds

theorem readLimit_eq (host : MemoryHost) (limit : UInt64) :
    host.readLimit limit = min limit.toNat host.chunkSize.toNat := by
  unfold readLimit
  rw [show min limit host.chunkSize = if limit ≤ host.chunkSize then limit else host.chunkSize
    from rfl]
  split
  · next h =>
    rw [UInt64.le_iff_toNat_le] at h
    omega
  · next h =>
    rw [UInt64.le_iff_toNat_le] at h
    omega

theorem exec_bodyNew_ok {made : BodyHandle}
    (h : (exec (Host.bodyNew : HostCall MemoryHost BodyHandle) host).1 = .ok made) :
    made = ⟨host.nextHandle⟩ ∧
      (exec (Host.bodyNew : HostCall MemoryHost BodyHandle) host).2 =
        ((host.received .bodyNew none).allocateBody .writable).2 := by
  have hrun := exec_receive_ok h
  exact ⟨(Except.ok.inj ((congrArg Prod.fst hrun).symm.trans h)).symm, congrArg Prod.snd hrun⟩

theorem exec_bodyRead_ok {limit : UInt64} {data : Bytes}
    (h : (exec (Host.bodyRead handle limit) host).1 = .ok data) :
    ∃ body, host.bodies.find? handle.raw = some body ∧ body.state ≠ .abandoned ∧
      data = body.peek (host.readLimit limit) ∧
      (exec (Host.bodyRead handle limit) host).2 =
        ((host.received .bodyRead handle.erase).putBody handle
          (body.advance (host.readLimit limit))).reaching handle
            (body.position + host.readLimit limit) := by
  have hreceived := exec_receive_ok h
  rw [show exec (Host.bodyRead handle limit) host = _ from hreceived] at h ⊢
  obtain ⟨found, hfound, hrun⟩ := (looksOnly_body handle).exec_bind_ok h
  rw [hrun] at h ⊢
  by_cases hstate : found.state = .abandoned
  · rw [if_pos hstate] at h
    cases h
  · rw [if_neg hstate] at h ⊢
    cases h
    have hfind := exec_body_ok hfound
    exact ⟨found, hfind, hstate, rfl, rfl⟩

theorem exec_bodyWrite_ok {chunk : Bytes}
    (h : (exec (Host.bodyWrite handle chunk) host).1 = .ok ()) :
    ∃ body, host.bodies.find? handle.raw = some body ∧ body.state = .opened ∧
      (exec (Host.bodyWrite handle chunk) host).2 =
        (host.received .bodyWrite handle.erase).putBody handle (body.append chunk) := by
  have hreceived := exec_receive_ok h
  rw [show exec (Host.bodyWrite handle chunk) host = _ from hreceived] at h ⊢
  obtain ⟨found, hfound, hrun⟩ := (looksOnly_openBody handle).exec_bind_ok h
  obtain ⟨hfind, hopen⟩ := exec_openBody_ok hfound
  exact ⟨found, hfind, hopen, congrArg Prod.snd hrun⟩

theorem exec_bodyClose_ok (h : (exec (Host.bodyClose handle) host).1 = .ok ()) :
    ∃ body, host.bodies.find? handle.raw = some body ∧ body.state = .opened ∧
      (exec (Host.bodyClose handle) host).2 =
        (host.received .bodyClose handle.erase).putBody handle { body with state := .closed } := by
  have hreceived := exec_receive_ok h
  rw [show exec (Host.bodyClose handle) host = _ from hreceived] at h ⊢
  obtain ⟨found, hfound, hrun⟩ := (looksOnly_openBody handle).exec_bind_ok h
  obtain ⟨hfind, hopen⟩ := exec_openBody_ok hfound
  exact ⟨found, hfind, hopen, congrArg Prod.snd hrun⟩

theorem exec_bodyAbandon_ok (h : (exec (Host.bodyAbandon handle) host).1 = .ok ()) :
    ∃ body, host.bodies.find? handle.raw = some body ∧ body.state ≠ .abandoned ∧
      (exec (Host.bodyAbandon handle) host).2 =
        (host.received .bodyAbandon handle.erase).putBody handle
          { body with state := .abandoned } := by
  have hreceived := exec_receive_ok h
  rw [show exec (Host.bodyAbandon handle) host = _ from hreceived] at h ⊢
  obtain ⟨found, hfound, hrun⟩ := (looksOnly_body handle).exec_bind_ok h
  rw [hrun] at h ⊢
  by_cases hstate : found.state = .abandoned
  · rw [if_pos hstate] at h
    cases h
  · rw [if_neg hstate]
    have hfind := exec_body_ok hfound
    exact ⟨found, hfind, hstate, rfl⟩

theorem exec_bodyAppend_ok {destination source : BodyHandle}
    (h : (exec (Host.bodyAppend destination source) host).1 = .ok ()) :
    ∃ body other, destination ≠ source ∧ host.bodies.find? destination.raw = some body ∧
      body.state = .opened ∧ host.bodies.find? source.raw = some other ∧
      other.state ≠ .abandoned ∧
      (exec (Host.bodyAppend destination source) host).2 =
        ((host.received .bodyAppend destination.erase).dropBody source).putBody destination
          (body.append other.unread) := by
  have hreceived := exec_receive_ok h
  rw [show exec (Host.bodyAppend destination source) host = _ from hreceived] at h ⊢
  by_cases hsame : destination = source
  · rw [if_pos hsame] at h
    cases h
  · rw [if_neg hsame] at h ⊢
    obtain ⟨body, hbody, hrun⟩ := (looksOnly_openBody destination).exec_bind_ok h
    obtain ⟨hfind, hopen⟩ := exec_openBody_ok hbody
    rw [hrun, exec_bind] at h ⊢
    cases htaken : (exec (takeBody source) (host.received .bodyAppend destination.erase)).1 with
    | error error =>
      rw [htaken] at h
      cases h
    | ok data =>
      obtain ⟨other, hother, hstate, htake⟩ := exec_takeBody_ok htaken
      cases (congrArg Prod.fst htake).symm.trans htaken
      rw [htake]
      exact ⟨body, other, hsame, hfind, hopen, hother, hstate, rfl⟩

/-- What is stored under a key of an open store. -/
def stored (host : MemoryHost) (store : ObjectStoreHandle) (key : String) : Bytes :=
  ((host.openStores.find? store.raw).bind fun name => host.object? name key).getD []

theorem exec_objectStoreLookup_ok {store : ObjectStoreHandle} {key : String} {made : BodyHandle}
    (h : (exec (Host.objectStoreLookup store key) host).1 = .ok made) :
    made = ⟨host.nextHandle⟩ ∧
      (exec (Host.objectStoreLookup store key) host).2 =
        ((host.received .objectStoreLookup store.erase).allocateBody
          (.readable (host.stored store key))).2 := by
  have hreceived := exec_receive_ok h
  rw [show exec (Host.objectStoreLookup store key) host = _ from hreceived] at h ⊢
  obtain ⟨before, hget, hrun⟩ := looksOnly_get.exec_bind_ok h
  cases hget
  rw [hrun] at h ⊢
  obtain ⟨name, hname, hrun⟩ := (looksOnly_require _ _).exec_bind_ok h
  rw [hrun] at h ⊢
  obtain ⟨value, hvalue, hrun⟩ := (looksOnly_require _ _).exec_bind_ok h
  rw [hrun] at h ⊢
  have hstored : host.stored store key = value := by
    have hopen : host.openStores.find? store.raw = some name := exec_require_ok hname
    have hobject : host.object? name key = some value := exec_require_ok hvalue
    rw [stored, hopen, Option.bind_some, hobject, Option.getD_some]
  rw [hstored]
  exact ⟨(Except.ok.inj h).symm, rfl⟩

/-- The host with an object stored. -/
def putObject (host : MemoryHost) (store key : String) (data : Bytes) : MemoryHost :=
  { host with
    stores := host.stores.insert store (((host.stores.find? store).getD {}).insert key data) }

@[simp] theorem bodies_putObject (store key : String) (data : Bytes) :
    (host.putObject store key data).bodies = host.bodies := rfl

theorem object?_putObject (store key other otherKey : String) (data : Bytes) :
    (host.putObject store key data).object? other otherKey =
      if other = store ∧ otherKey = key then some data else host.object? other otherKey := by
  by_cases hstore : other = store
  · subst hstore
    simp only [object?, putObject, Table.find?_insert_self, Option.bind_some, Table.find?_insert,
      true_and]
    cases host.stores.find? other <;> rfl
  · simp [object?, putObject, Table.find?_insert, hstore]

theorem exec_objectStoreInsert_ok {store : ObjectStoreHandle} {key : String}
    (h : (exec (Host.objectStoreInsert store key handle) host).1 = .ok ()) :
    ∃ name body, host.openStores.find? store.raw = some name ∧
      host.bodies.find? handle.raw = some body ∧ body.state ≠ .abandoned ∧
      (exec (Host.objectStoreInsert store key handle) host).2 =
        ((host.received .objectStoreInsert store.erase).dropBody handle).putObject name key
          body.unread := by
  have hreceived := exec_receive_ok h
  rw [show exec (Host.objectStoreInsert store key handle) host = _ from hreceived] at h ⊢
  obtain ⟨before, hget, hrun⟩ := looksOnly_get.exec_bind_ok h
  cases hget
  rw [hrun] at h ⊢
  obtain ⟨name, hname, hrun⟩ := (looksOnly_require _ _).exec_bind_ok h
  rw [hrun, exec_bind] at h ⊢
  cases htaken : (exec (takeBody handle) (host.received .objectStoreInsert store.erase)).1 with
  | error error =>
    rw [htaken] at h
    cases h
  | ok data =>
    obtain ⟨body, hfind, hstate, htake⟩ := exec_takeBody_ok htaken
    cases (congrArg Prod.fst htake).symm.trans htaken
    rw [htake]
    exact ⟨name, body, exec_require_ok hname, hfind, hstate, rfl⟩

end Succeeds

/-! ### Calls that are refused -/

/-- A body is gone or given up. -/
def Unusable (host : MemoryHost) (handle : BodyHandle) : Prop :=
  ∀ body, host.bodies.find? handle.raw = some body → body.state = .abandoned

theorem Unusable.exec_openBody_bind (h : host.Unusable handle)
    (next : MemoryBody → HostCall MemoryHost β) :
    (exec (openBody handle >>= next) host).1 = .error .badHandle :=
  (looksOnly_openBody handle).fails eq_of_exec_openBody fun b hb => by
    obtain ⟨hfind, hopen⟩ := exec_openBody_ok hb
    cases hopen.symm.trans (h b hfind)

theorem Unusable.exec_takeBody (h : host.Unusable handle) :
    (exec (takeBody handle) host).1 = .error .badHandle :=
  (looksOnly_body handle).fails eq_of_exec_body fun b hb => by
    rw [if_pos (h b (exec_body_ok hb))]
    rfl

/-- A body that is gone or given up is refused by every call that names it. A fault that is set for
the call comes first. -/
theorem refused_of_unusable (h : host.Unusable handle) {request : HostRequest}
    (hm : handle ∈ request.bodies) :
    (exec request.perform host).1 =
      .error ((host.faults.take request.operation).1.getD request.refusal) := by
  have hreceived : ∀ operation about, (host.received operation about).Unusable handle :=
    fun _ _ => h
  -- A fault answers before the body is looked at, whichever call it is.
  cases hfault : (host.faults.take request.operation).1 with
  | some error =>
    obtain ⟨work, hperform, -⟩ := exists_atomic request
    rw [hperform, exec_bind, exec_receive, hfault]
    rfl
  | none =>
    cases request with
    | bodyRead body | bodyAbandon body =>
      obtain rfl := List.mem_singleton.mp hm
      refine (congrArg Prod.fst (exec_receive_bind hfault _)).trans ?_
      refine (looksOnly_body handle).fails eq_of_exec_body fun b hb => ?_
      rw [if_pos (hreceived _ _ b (exec_body_ok hb))]
      rfl
    | bodyWrite body | bodyClose body =>
      obtain rfl := List.mem_singleton.mp hm
      refine (congrArg Prod.fst (exec_receive_bind hfault _)).trans ?_
      exact (hreceived _ _).exec_openBody_bind _
    | bodyAppend destination source =>
      refine (congrArg Prod.fst (exec_receive_bind hfault _)).trans ?_
      by_cases hsame : destination = source
      · simp [hsame, HostRequest.refusal]
      · simp only [hsame, if_false, HostRequest.refusal]
        have hnamed : handle = destination ∨ handle = source := by
          simpa [HostRequest.bodies] using hm
        rcases hnamed with rfl | rfl
        · exact (hreceived _ _).exec_openBody_bind _
        -- The destination is looked at before the source, and is refused with the same error.
        · exact (looksOnly_openBody destination).fails eq_of_exec_openBody fun b _ =>
            exec_bind_of_error (hreceived _ _).exec_takeBody
    | objectStoreInsert store key body =>
      obtain rfl := List.mem_singleton.mp hm
      refine (congrArg Prod.fst (exec_receive_bind hfault _)).trans ?_
      refine looksOnly_get.fails nofun fun before _ => ?_
      exact (looksOnly_require _ _).fails eq_of_exec_require fun name _ =>
        exec_bind_of_error (hreceived _ _).exec_takeBody
    | _ => cases hm

end MemoryHost

end EdgeStreams
