import EdgeStreams.Proofs.Host.Handles
import EdgeStreams.Proofs.Host.Histories

/-!
# Calls that fail

A call on a host in memory looks at everything that it needs before it changes anything. So a call
that fails has changed no resource. Its record stays, and a fault that it has met is spent.

## Main definitions

- `FaultPlan.Spends`: which fault a call uses up
- `MemoryHost.SameResources`: nothing has changed but the record of calls and the faults
- `MemoryHost.LooksOnly`, `MemoryHost.Atomic`, `MemoryHost.CompletesSilently`: what a part of a call
  may do

## Main statements

- `MemoryHost.LooksOnly.bind`, `MemoryHost.Atomic.bind`: first to look, then to change, then what
  cannot fail
- `MemoryHost.failed_call_changes_nothing`: a call that fails has changed no resource
-/

namespace EdgeStreams

/-! ### Faults -/

/-- The faults that are left by a call that has failed with an error or succeeded: all that were
set, or all but the oldest of those that waited for the operation, which the call has then failed
with. -/
inductive FaultPlan.Spends (plan : FaultPlan) (operation : HostOperation) :
    Option HostError → FaultPlan → Prop
  | none (reported : Option HostError) : Spends plan operation reported plan
  | one {before after : List (HostOperation × HostError)} {error : HostError} :
    plan.next = before ++ (operation, error) :: after →
      (∀ fault ∈ before, fault.1 ≠ operation) →
        Spends plan operation (some error) { plan with next := before ++ after }

theorem FaultPlan.spends_take (plan : FaultPlan) (operation : HostOperation) :
    plan.Spends operation (plan.take operation).1 (plan.take operation).2 := by
  unfold take
  split
  · exact .none _
  · split
    · next fault error hfind =>
      obtain ⟨hfault, before, after, hnext, hbefore⟩ := List.find?_eq_some_iff_append.mp hfind
      obtain rfl : fault = operation := by simpa using hfault
      have hothers : ∀ other ∈ before, other.1 ≠ fault := fun other hm => by
        simpa using hbefore other hm
      have herase : plan.next.eraseP (fun other => other.1 == fault) = before ++ after := by
        rw [hnext, List.eraseP_append_right _ fun other hm => by simpa using hothers other hm,
          List.eraseP_cons_of_pos (by simp)]
      rw [herase]
      exact .one hnext hothers
    · exact .none _

namespace MemoryHost

/-! ### The parts of a call -/

section Parts

variable {α β : Type} {host : MemoryHost} {work : HostCall MemoryHost α}
variable {next : α → HostCall MemoryHost β}

/-- A computation that changes nothing. -/
def LooksOnly (host : MemoryHost) (work : HostCall MemoryHost α) : Prop := (exec work host).2 = host

/-- A computation that leaves the record of calls and the faults alone, and changes nothing when it
fails. -/
structure Atomic (host : MemoryHost) (work : HostCall MemoryHost α) : Prop where
  calls : (exec work host).2.calls = host.calls
  faults : (exec work host).2.faults = host.faults
  failed : ∀ error, (exec work host).1 = .error error → (exec work host).2 = host

/-- A computation that leaves the record of calls and the faults alone, and cannot fail. -/
structure CompletesSilently (host : MemoryHost) (work : HostCall MemoryHost α) : Prop where
  calls : (exec work host).2.calls = host.calls
  faults : (exec work host).2.faults = host.faults
  succeeds : ∃ a, (exec work host).1 = .ok a

theorem LooksOnly.atomic (h : LooksOnly host work) : Atomic host work where
  calls := congrArg MemoryHost.calls h
  faults := congrArg MemoryHost.faults h
  failed _ _ := h

theorem CompletesSilently.atomic (h : CompletesSilently host work) : Atomic host work where
  calls := h.calls
  faults := h.faults
  failed error he := by
    obtain ⟨a, ha⟩ := h.succeeds
    cases ha.symm.trans he

/-- Looking comes first. -/
theorem LooksOnly.bind (h : LooksOnly host work)
    (h' : ∀ a, (exec work host).1 = .ok a → Atomic host (next a)) :
    Atomic host (work >>= next) := by
  have hrun := exec_bind host work next
  rw [show (exec work host).2 = host from h] at hrun
  cases hresult : (exec work host).1 with
  | error error =>
    rw [hresult] at hrun
    exact LooksOnly.atomic (congrArg Prod.snd hrun)
  | ok a =>
    rw [hresult] at hrun
    have hnext := h' a hresult
    exact ⟨hrun ▸ hnext.calls, hrun ▸ hnext.faults, hrun ▸ hnext.failed⟩

/-- What cannot fail comes last. -/
theorem Atomic.bind (h : Atomic host work)
    (h' : ∀ a, (exec work host).1 = .ok a → CompletesSilently (exec work host).2 (next a)) :
    Atomic host (work >>= next) := by
  have hrun := exec_bind host work next
  cases hresult : (exec work host).1 with
  | error error =>
    rw [hresult, h.failed error hresult] at hrun
    exact LooksOnly.atomic (congrArg Prod.snd hrun)
  | ok a =>
    rw [hresult] at hrun
    have hnext := h' a hresult
    refine ⟨?_, ?_, fun error he => ?_⟩
    · rw [hrun]
      exact hnext.calls.trans h.calls
    · rw [hrun]
      exact hnext.faults.trans h.faults
    · obtain ⟨b, hb⟩ := hnext.succeeds
      rw [hrun] at he
      cases hb.symm.trans he

theorem looksOnly_get : LooksOnly host (get : HostCall MemoryHost MemoryHost) := rfl

theorem looksOnly_pure (a : α) : LooksOnly host (pure a : HostCall MemoryHost α) := rfl

theorem looksOnly_throw (error : HostError) :
    LooksOnly host (throw error : HostCall MemoryHost α) := rfl

theorem looksOnly_require (error : HostError) (value : Option α) :
    LooksOnly host (require error value) :=
  congrArg Prod.snd (host.exec_require error value)

theorem looksOnly_body (handle : BodyHandle) : LooksOnly host (body handle) :=
  congrArg Prod.snd (host.exec_body handle)

theorem looksOnly_openBody (handle : BodyHandle) : LooksOnly host (openBody handle) :=
  congrArg Prod.snd (host.exec_openBody handle)

theorem completesSilently_modify {f : MemoryHost → MemoryHost}
    (hcalls : (f host).calls = host.calls) (hfaults : (f host).faults = host.faults) :
    CompletesSilently host (modify f : HostCall MemoryHost Unit) :=
  ⟨hcalls, hfaults, (), rfl⟩

theorem completesSilently_setBody (handle : BodyHandle) (b : MemoryBody) :
    CompletesSilently host (setBody handle b) := completesSilently_modify rfl rfl

theorem completesSilently_newBody (b : MemoryBody) : CompletesSilently host (newBody b) :=
  ⟨rfl, rfl, _, rfl⟩

/-- A body is not taken out unless it can be read. -/
theorem atomic_takeBody (handle : BodyHandle) : Atomic host (takeBody handle) := by
  refine (looksOnly_body handle).bind fun b _ => ?_
  split
  · exact (looksOnly_throw _).atomic
  · exact CompletesSilently.atomic ⟨rfl, rfl, _, rfl⟩

end Parts

/-! ### Whole calls -/

/-- Nothing is different but the record of calls and the faults that are set. -/
structure SameResources (host host' : MemoryHost) : Prop where
  chunkSize : host'.chunkSize = host.chunkSize
  nextHandle : host'.nextHandle = host.nextHandle
  dictionaries : host'.dictionaries = host.dictionaries
  openDictionaries : host'.openDictionaries = host.openDictionaries
  endpoints : host'.endpoints = host.endpoints
  logs : host'.logs = host.logs
  bodies : host'.bodies = host.bodies
  stores : host'.stores = host.stores
  openStores : host'.openStores = host.openStores

/-- Every call is received, and its work is done as a whole or not at all. -/
theorem exists_atomic (request : HostRequest) :
    ∃ work : HostCall MemoryHost request.Answer,
      request.perform = (do receive request.operation request.subject; work) ∧
        ∀ host, Atomic host work := by
  cases request with
  | dictionaryOpen name =>
    refine ⟨_, rfl, fun host => looksOnly_get.bind fun before hget => ?_⟩
    cases hget
    split
    · exact CompletesSilently.atomic ⟨rfl, rfl, _, rfl⟩
    · exact (looksOnly_throw _).atomic
  | dictionaryGet dictionary key =>
    exact ⟨_, rfl, fun host => looksOnly_get.bind fun before _ =>
      (looksOnly_require _ _).bind fun name _ =>
      (looksOnly_require _ _).atomic⟩
  | logEndpointOpen name =>
    refine ⟨_, rfl, fun host => looksOnly_get.bind fun before hget => ?_⟩
    cases hget
    split
    · exact (looksOnly_pure _).atomic
    · exact CompletesSilently.atomic ⟨rfl, rfl, _, rfl⟩
  | logWrite endpoint message =>
    refine ⟨_, rfl, fun host => looksOnly_get.bind fun before hget => ?_⟩
    cases hget
    exact (looksOnly_require _ _).bind fun lines _ => CompletesSilently.atomic ⟨rfl, rfl, (), rfl⟩
  | bodyNew => exact ⟨_, rfl, fun host => (completesSilently_newBody _).atomic⟩
  | bodyRead body limit =>
    refine ⟨_, rfl, fun host => (looksOnly_body body).bind fun b _ => ?_⟩
    split
    · exact (looksOnly_throw _).atomic
    · exact looksOnly_get.bind fun before _ => CompletesSilently.atomic ⟨rfl, rfl, _, rfl⟩
  | bodyWrite body chunk =>
    exact ⟨_, rfl, fun host => (looksOnly_openBody body).bind fun b _ =>
      (completesSilently_setBody body _).atomic⟩
  | bodyAppend destination source =>
    refine ⟨_, rfl, fun host => ?_⟩
    split
    · exact (looksOnly_throw _).atomic
    -- The source is taken out last, when nothing but putting its bytes in remains.
    · exact (looksOnly_openBody destination).bind fun b _ =>
        (atomic_takeBody source).bind fun data _ =>
        completesSilently_setBody destination _
  | bodyClose body =>
    exact ⟨_, rfl, fun host => (looksOnly_openBody body).bind fun b _ =>
      (completesSilently_setBody body _).atomic⟩
  | bodyAbandon body =>
    refine ⟨_, rfl, fun host => (looksOnly_body body).bind fun b _ => ?_⟩
    split
    · exact (looksOnly_throw _).atomic
    · exact (completesSilently_setBody body _).atomic
  | objectStoreOpen name =>
    refine ⟨_, rfl, fun host => looksOnly_get.bind fun before hget => ?_⟩
    cases hget
    split
    · exact CompletesSilently.atomic ⟨rfl, rfl, _, rfl⟩
    · exact (looksOnly_throw _).atomic
  | objectStoreLookup store key =>
    exact ⟨_, rfl, fun host => looksOnly_get.bind fun before _ =>
      (looksOnly_require _ _).bind fun name _ =>
      (looksOnly_require _ _).bind fun value _ => (completesSilently_newBody _).atomic⟩
  | objectStoreInsert store key body =>
    exact ⟨_, rfl, fun host => looksOnly_get.bind fun before _ =>
      (looksOnly_require _ _).bind fun name _ =>
      (atomic_takeBody body).bind fun data _ => completesSilently_modify rfl rfl⟩

/-- A call that has failed has changed nothing else. -/
theorem sameResources_of_error {host : MemoryHost} {request : HostRequest} {error : HostError}
    (h : (exec request.perform host).1 = .error error) :
    host.SameResources (exec request.perform host).2 := by
  obtain ⟨work, hperform, hatomic⟩ := exists_atomic request
  rw [hperform, exec_bind, exec_receive] at h ⊢
  cases hfault : (host.faults.take request.operation).1 with
  | some fault => exact ⟨rfl, rfl, rfl, rfl, rfl, rfl, rfl, rfl, rfl⟩
  | none =>
    rw [hfault] at h
    dsimp only at h ⊢
    rw [(hatomic _).failed error h]
    exact ⟨rfl, rfl, rfl, rfl, rfl, rfl, rfl, rfl, rfl⟩

/-- The error that a call has failed with. -/
def failure? {α : Type} : Except HostError α → Option HostError
  | .ok _ => none
  | .error error => some error

/-- Whatever is asked of a host in memory in whatever state, the call is recorded, and one fault is
lost at most, the one that the call reports. If the call fails, then nothing else has changed. -/
theorem failed_call_changes_nothing (host : MemoryHost) (request : HostRequest) :
    (exec request.perform host).2.calls =
        host.calls.push ⟨request.operation, request.subject⟩ ∧
      host.faults.Spends request.operation (failure? (exec request.perform host).1)
        (exec request.perform host).2.faults ∧
      ∀ error, (exec request.perform host).1 = .error error →
        host.SameResources (exec request.perform host).2 := by
  obtain ⟨work, hperform, hatomic⟩ := exists_atomic request
  have hwork := hatomic (host.received request.operation request.subject)
  have hspends := host.faults.spends_take request.operation
  rw [hperform, exec_bind, exec_receive]
  -- A fault that is reported stops the call before its work. If none is, then none is lost either.
  cases hfault : (host.faults.take request.operation).1 with
  | some error =>
    rw [hfault] at hspends
    exact ⟨rfl, hspends, fun _ _ => ⟨rfl, rfl, rfl, rfl, rfl, rfl, rfl, rfl, rfl⟩⟩
  | none =>
    have hkept : (host.faults.take request.operation).2 = host.faults := by
      rw [hfault] at hspends
      generalize (host.faults.take request.operation).2 = left at hspends
      cases hspends
      rfl
    refine ⟨hwork.calls, ?_, fun error he => ?_⟩
    · rw [hwork.faults, faults_received, hkept]
      exact .none _
    · rw [hwork.failed error he]
      exact ⟨rfl, rfl, rfl, rfl, rfl, rfl, rfl, rfl, rfl⟩

/-- A host with two complete bodies, and a fault that waits for the next read. -/
def refusingHost : MemoryHost :=
  ((({} : MemoryHost).addBody [1]).2.addBody [2]).2.failNext .bodyRead .generic

/-- Nothing is appended to a complete body, so that what was to be appended is still there. The
fault still waits. -/
theorem failed_call_changes_nothing_complete :
    (exec (HostRequest.bodyAppend ⟨1⟩ ⟨2⟩).perform refusingHost).1 = .error .badHandle ∧
      (exec (HostRequest.bodyAppend ⟨1⟩ ⟨2⟩).perform refusingHost).2.calls =
        #[⟨.bodyAppend, some ⟨.body, 1⟩⟩] ∧
      refusingHost.faults.Spends .bodyAppend (some .badHandle)
        (exec (HostRequest.bodyAppend ⟨1⟩ ⟨2⟩).perform refusingHost).2.faults ∧
      refusingHost.SameResources
      (exec (HostRequest.bodyAppend ⟨1⟩ ⟨2⟩).perform refusingHost).2 := by
  have hfails : (exec (HostRequest.bodyAppend ⟨1⟩ ⟨2⟩).perform refusingHost).1 =
      .error .badHandle := by rfl
  obtain ⟨hcalls, hfaults, hsame⟩ := failed_call_changes_nothing refusingHost (.bodyAppend ⟨1⟩ ⟨2⟩)
  rw [hfails] at hfaults
  exact ⟨hfails, hcalls, hfaults, hsame _ hfails⟩

end MemoryHost

end EdgeStreams
