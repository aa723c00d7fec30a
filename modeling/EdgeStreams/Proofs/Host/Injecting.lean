import EdgeStreams.Proofs.Host.Histories
import EdgeStreams.Proofs.Host.Failing
import Mathlib.Data.List.Induction

/-!
# Faults are set for one operation at a time

All faults that strike once wait in one list, and a table above it has those that stay. Seen from
outside each operation has faults of its own: one that stays, or else a queue that its calls empty
from the front. What is set for another operation, and when another operation is called, makes no
difference.

## Main definitions

- `OperationFaults`: the faults of one operation, with the fault that a call meets and what it
  leaves
- `FaultPlan.ofOperation`: what a plan has for an operation
- `MemoryHost.faultsOf`: the faults of an operation after a history, told from the history alone
- `MemoryHost.Heedless`: a computation that has nothing to do with faults
- `MemoryHost.MeetsOwnFaults`: every call fails with the fault of its own operation, or is not
  hindered

## Main statements

- `FaultPlan.ofOperation_take`: a call takes from the queue of its operation, and from no other
- `MemoryHost.ofOperation_afterAll`: the plan of a host has for each operation what its history
  tells
- `MemoryHost.always_faultsOf_iff`: the fault that stays is the latest one
- `MemoryHost.faultsOf_filter`: what has nothing to do with an operation can be left out
- `MemoryHost.faults_per_operation`: every call meets the faults of its own operation
-/

namespace EdgeStreams

/-! ### The faults of one operation -/

/-- The faults that are set for one operation. -/
@[ext]
structure OperationFaults where
  /-- The fault that every call meets. -/
  always : Option HostError := none
  /-- The faults that strike once, oldest first. -/
  next : List HostError := []
deriving DecidableEq

namespace OperationFaults

/-- The fault that a call meets. -/
def met : OperationFaults → Option HostError
  | ⟨some error, _⟩ => some error
  | ⟨none, next⟩ => next.head?

/-- The faults that a call leaves. -/
def left : OperationFaults → OperationFaults
  | ⟨some error, next⟩ => ⟨some error, next⟩
  | ⟨none, next⟩ => ⟨none, next.tail⟩

end OperationFaults

namespace FaultPlan

variable (plan : FaultPlan) (operation other : HostOperation) (error : HostError)

/-- What a plan has for an operation. -/
def ofOperation : OperationFaults where
  always := plan.always.find? operation
  next := (plan.next.filter fun fault => fault.1 == operation).map Prod.snd

theorem ofOperation_failNext :
    (plan.failNext other error).ofOperation operation =
      if other = operation then
        { plan.ofOperation operation with next := (plan.ofOperation operation).next ++ [error] }
      else plan.ofOperation operation := by
  by_cases h : other = operation
  · simp [failNext, ofOperation, h]
  · simp [failNext, ofOperation, h]

theorem ofOperation_failAlways :
    (plan.failAlways other error).ofOperation operation =
      if other = operation then { plan.ofOperation operation with always := some error }
      else plan.ofOperation operation := by
  by_cases h : other = operation
  · subst h
    simp [failAlways, ofOperation]
  · have hne : operation ≠ other := fun he => h he.symm
    simp [failAlways, ofOperation, Table.find?_insert_of_ne, h, hne]

/-- Where no fault stays, the first of an operation is the one that the search finds. -/
theorem head?_ofOperation :
    (plan.ofOperation operation).next.head? =
      (plan.next.find? fun fault => fault.1 == operation).map Prod.snd := by
  rw [ofOperation, List.head?_map, List.head?_filter]

/-- What is taken out belongs to its operation. -/
theorem next_ofOperation_eraseP (list : List (HostOperation × HostError)) :
    ((list.eraseP fun fault => fault.1 == other).filter fun fault => fault.1 == operation).map
        Prod.snd =
      if other = operation then
        ((list.filter fun fault => fault.1 == operation).map Prod.snd).tail
      else (list.filter fun fault => fault.1 == operation).map Prod.snd := by
  induction list with
  | nil => simp
  | cons fault rest ih =>
    obtain ⟨named, error⟩ := fault
    by_cases hnamed : named = other
    · -- this is the one that is taken out
      subst hnamed
      by_cases h : named = operation <;> simp [h]
    · have hkept : (((named, error) :: rest).eraseP fun fault => fault.1 == other) =
          (named, error) :: rest.eraseP fun fault => fault.1 == other :=
        List.eraseP_cons_of_neg (by simpa using hnamed)
      rw [hkept]
      by_cases h : named = operation
      · have hother : other ≠ operation := fun he => hnamed (h.trans he.symm)
        simp [h, hother, ih]
      · simpa [h] using ih

/-- A call meets the fault of its operation. -/
theorem take_fst : (plan.take operation).1 = (plan.ofOperation operation).met := by
  have hhead := plan.head?_ofOperation operation
  unfold take
  cases halways : plan.always.find? operation with
  | some error => simp [OperationFaults.met, ofOperation, halways]
  | none =>
    have hmet : (plan.ofOperation operation).met = (plan.ofOperation operation).next.head? := by
      simp [OperationFaults.met, ofOperation, halways]
    rw [hmet, hhead]
    cases plan.next.find? fun fault => fault.1 == operation <;> rfl

/-- A call takes from the queue of its operation, and from no other. -/
theorem ofOperation_take :
    (plan.take other).2.ofOperation operation =
      if other = operation then (plan.ofOperation operation).left
      else plan.ofOperation operation := by
  unfold take
  cases halways : plan.always.find? other with
  | some error =>
    by_cases h : other = operation
    · subst h
      simp [OperationFaults.left, ofOperation, halways]
    · simp [h]
  | none =>
    have hnext := next_ofOperation_eraseP operation other plan.next
    cases hfind : plan.next.find? fun fault => fault.1 == other with
    | some fault =>
      by_cases h : other = operation
      · subst h
        simpa [OperationFaults.left, ofOperation, halways] using hnext
      · simpa [ofOperation, h] using hnext
    | none =>
      by_cases h : other = operation
      · subst h
        have hempty : (plan.next.filter fun fault => fault.1 == other) = [] :=
          List.filter_eq_nil_iff.mpr fun fault hm => List.find?_eq_none.mp hfind fault hm
        simp [OperationFaults.left, ofOperation, halways, hempty]
      · simp [h]

end FaultPlan

namespace MemoryHost

/-! ### The faults that a history tells of -/

/-- What an act does to the faults of an operation: a call uses up what it meets. -/
def heeds (operation : HostOperation) (faults : OperationFaults) : Act → OperationFaults
  | .request request => if request.operation = operation then faults.left else faults
  | .failNext other error =>
    if other = operation then { faults with next := faults.next ++ [error] } else faults
  | .failAlways other error =>
    if other = operation then { faults with always := some error } else faults
  | .clearFailures => {}
  | _ => faults

/-- The faults of an operation after some acts, told from the acts alone. -/
def faultsOf (operation : HostOperation) (acts : List Act) : OperationFaults :=
  acts.foldl (heeds operation) {}

/-- Whether an act has to do with the faults of an operation. -/
def Act.concerns (operation : HostOperation) : Act → Bool
  | .request call => call.operation == operation
  | .failNext other _ | .failAlways other _ => other == operation
  | .clearFailures => true
  | _ => false

section History

variable {operation : HostOperation} {act : Act} {acts : List Act}

theorem faultsOf_append_singleton :
    faultsOf operation (acts ++ [act]) = heeds operation (faultsOf operation acts) act :=
  by
  rw [faultsOf, List.foldl_append, List.foldl_cons, List.foldl_nil, faultsOf]

theorem heeds_of_not_concerns (faults : OperationFaults) (h : act.concerns operation = false) :
    heeds operation faults act = faults := by
  cases act with
  | request | failNext | failAlways =>
    simp only [Act.concerns, beq_eq_false_iff_ne] at h
    exact if_neg h
  | clearFailures => cases h
  | addBody | addDictionary | addObjectStore | clearCalls | setChunkSize => rfl

/-- What has nothing to do with an operation can be left out of its history. -/
theorem faultsOf_filter :
    faultsOf operation (acts.filter (Act.concerns operation)) = faultsOf operation acts := by
  unfold faultsOf
  generalize ({} : OperationFaults) = faults
  induction acts generalizing faults with
  | nil => rfl
  | cons act acts ih =>
    cases h : act.concerns operation with
    | true => rw [List.filter_cons_of_pos h, List.foldl_cons, List.foldl_cons, ih]
    | false =>
      rw [List.filter_cons_of_neg (by simp [h]), List.foldl_cons,
        heeds_of_not_concerns faults h, ih]

/-- An act that does away with the fault that stays for an operation, or sets another one. -/
def Act.resets (operation : HostOperation) : Act → Bool
  | .failAlways other _ => other == operation
  | .clearFailures => true
  | _ => false

theorem always_heeds_of_not_resets (faults : OperationFaults) (h : act.resets operation = false) :
    (heeds operation faults act).always = faults.always := by
  cases act with
  | request request =>
    simp only [heeds]
    split
    · obtain ⟨always | error, next⟩ := faults <;> rfl
    · rfl
  | failNext other error =>
    simp only [heeds]
    split <;> rfl
  | failAlways other error =>
    simp only [Act.resets, beq_eq_false_iff_ne] at h
    simp only [heeds, if_neg h]
  | clearFailures => cases h
  | addBody | addDictionary | addObjectStore | clearCalls | setChunkSize => rfl

/-- The fault that stays for an operation is the latest one that has been set, unless all faults
have been cleared since. By induction on the acts from the last one. -/
theorem always_faultsOf_iff {error : HostError} :
    (faultsOf operation acts).always = some error ↔
      ∃ earlier later, acts = earlier ++ .failAlways operation error :: later ∧
        ∀ act ∈ later, act.resets operation = false := by
  induction acts using List.reverseRecOn with
  | nil => simp [faultsOf]
  | append_singleton acts act ih =>
    rw [faultsOf_append_singleton]
    cases h : act.resets operation with
    | false =>
      rw [always_heeds_of_not_resets _ h, ih]
      constructor
      · rintro ⟨earlier, later, rfl, hlater⟩
        refine ⟨earlier, later ++ [act], by simp, fun other hm => ?_⟩
        rcases List.mem_append.mp hm with hm | hm
        · exact hlater other hm
        · rwa [List.mem_singleton.mp hm]
      · rintro ⟨earlier, later, hacts, hlater⟩
        rcases List.eq_nil_or_concat later with rfl | ⟨later, last, rfl⟩
        · obtain ⟨-, hact⟩ := List.append_inj' hacts rfl
          cases hact
          simp [Act.resets] at h
        · rw [List.concat_eq_append, ← List.cons_append, ← List.append_assoc] at hacts
          obtain ⟨rfl, -⟩ := List.append_inj' hacts rfl
          refine ⟨earlier, later, rfl, fun other hm => hlater other ?_⟩
          simp [hm]
    | true =>
      constructor
      · intro halways
        refine ⟨acts, [], ?_, nofun⟩
        cases act with
        | failAlways other reported =>
          obtain rfl : other = operation := by simpa [Act.resets] using h
          simp only [heeds, if_true, Option.some.injEq] at halways
          rw [halways]
        | clearFailures => cases halways
        | request | failNext | addBody | addDictionary | addObjectStore | clearCalls
        | setChunkSize => cases h
      · rintro ⟨earlier, later, hacts, hlater⟩
        rcases List.eq_nil_or_concat later with rfl | ⟨later, last, rfl⟩
        · obtain ⟨-, hact⟩ := List.append_inj' hacts rfl
          cases hact
          simp [heeds]
        · rw [List.concat_eq_append, ← List.cons_append, ← List.append_assoc] at hacts
          obtain ⟨-, hact⟩ := List.append_inj' hacts rfl
          cases hact
          cases h.symm.trans (hlater act (by simp))

end History

/-! ### What has nothing to do with faults -/

section Heedless

variable {α β : Type} {work : HostCall MemoryHost α} {next : α → HostCall MemoryHost β}

/-- The host with other faults set. -/
def withFaults (host : MemoryHost) (plan : FaultPlan) : MemoryHost := { host with faults := plan }

/-- A computation that neither asks which faults are set nor changes them. -/
def Heedless (work : HostCall MemoryHost α) : Prop :=
  ∀ host plan, exec work (host.withFaults plan) =
    ((exec work host).1, (exec work host).2.withFaults plan)

theorem Heedless.bind (h : Heedless work) (h' : ∀ a, Heedless (next a)) :
    Heedless (work >>= next) := by
  intro host plan
  rw [exec_bind, exec_bind, h host plan]
  cases (exec work host).1 with
  | ok a => exact h' a _ _
  | error error => rfl

/-- The host is looked at, but not for its faults. -/
theorem Heedless.get_bind {next : MemoryHost → HostCall MemoryHost α}
    (hsame : ∀ host plan, next (host.withFaults plan) = next host)
    (h : ∀ host, Heedless (next host)) :
    Heedless (get >>= next) := by
  intro host plan
  rw [exec_bind, exec_bind, exec_get, exec_get]
  change exec (next (host.withFaults plan)) (host.withFaults plan) = _
  rw [hsame]
  exact h host host plan

theorem heedless_pure (a : α) : Heedless (pure a : HostCall MemoryHost α) := fun _ _ => rfl

theorem heedless_throw (error : HostError) : Heedless (throw error : HostCall MemoryHost α) :=
  fun _ _ => rfl

theorem heedless_require (error : HostError) (value : Option α) :
    Heedless (require error value) := by
  intro host plan
  cases value <;> rfl

theorem heedless_body (handle : BodyHandle) : Heedless (body handle) :=
  .get_bind (fun _ _ => rfl) fun _ => heedless_require _ _

theorem heedless_openBody (handle : BodyHandle) : Heedless (openBody handle) := by
  refine (heedless_body handle).bind fun b => ?_
  split
  · exact heedless_pure b
  · exact heedless_throw _

theorem heedless_setBody (handle : BodyHandle) (b : MemoryBody) : Heedless (setBody handle b) :=
  fun _ _ => rfl

theorem heedless_reaching (handle : BodyHandle) (place : Nat) :
    Heedless (modify (reaching handle place) : HostCall MemoryHost Unit) := fun _ _ => rfl

theorem heedless_takeBody (handle : BodyHandle) : Heedless (takeBody handle) := by
  refine (heedless_body handle).bind fun b => ?_
  split
  · exact heedless_throw _
  · exact fun _ _ => rfl

theorem heedless_newBody (b : MemoryBody) : Heedless (newBody b) := fun _ _ => rfl

/-- Every call is received, and the rest of it has nothing to do with faults. -/
theorem exists_heedless (request : HostRequest) :
    ∃ work : HostCall MemoryHost request.Answer,
      request.perform = (do receive request.operation request.subject; work) ∧ Heedless work := by
  cases request with
  | dictionaryOpen name =>
    refine ⟨_, rfl, fun host plan => ?_⟩
    simp only [exec_bind, exec_get]
    change exec (if host.dictionaries.contains name then _ else _) (host.withFaults plan) = _
    split <;> rfl
  | objectStoreOpen name =>
    refine ⟨_, rfl, fun host plan => ?_⟩
    simp only [exec_bind, exec_get]
    change exec (if host.stores.contains name then _ else _) (host.withFaults plan) = _
    split <;> rfl
  | logEndpointOpen name =>
    refine ⟨_, rfl, fun host plan => ?_⟩
    simp only [exec_bind, exec_get, withFaults]
    cases host.endpoints.find? name <;> rfl
  | logWrite endpoint message =>
    refine ⟨_, rfl, fun host plan => ?_⟩
    simp only [exec_bind, exec_get, withFaults]
    cases host.logs.find? endpoint.raw <;> rfl
  | dictionaryGet dictionary key =>
    exact ⟨_, rfl, .get_bind (fun _ _ => rfl) fun _ => (heedless_require _ _).bind fun _ =>
      heedless_require _ _⟩
  | bodyNew => exact ⟨_, rfl, heedless_newBody _⟩
  | bodyRead body limit =>
    refine ⟨_, rfl, (heedless_body body).bind fun b => ?_⟩
    split
    · exact heedless_throw _
    · exact .get_bind (fun _ _ => rfl) fun _ => (heedless_setBody _ _).bind fun _ =>
        (heedless_reaching _ _).bind fun _ => heedless_pure _
  | bodyWrite body chunk =>
    exact ⟨_, rfl, (heedless_openBody body).bind fun _ => heedless_setBody _ _⟩
  | bodyAppend destination source =>
    refine ⟨_, rfl, ?_⟩
    split
    · exact heedless_throw _
    · exact (heedless_openBody destination).bind fun _ => (heedless_takeBody source).bind fun _ =>
        heedless_setBody _ _
  | bodyClose body =>
    exact ⟨_, rfl, (heedless_openBody body).bind fun _ => heedless_setBody _ _⟩
  | bodyAbandon body =>
    refine ⟨_, rfl, (heedless_body body).bind fun b => ?_⟩
    split
    · exact heedless_throw _
    · exact heedless_setBody _ _
  | objectStoreLookup store key =>
    exact ⟨_, rfl, .get_bind (fun _ _ => rfl) fun _ => (heedless_require _ _).bind fun _ =>
      (heedless_require _ _).bind fun _ => heedless_newBody _⟩
  | objectStoreInsert store key body =>
    exact ⟨_, rfl, .get_bind (fun _ _ => rfl) fun _ => (heedless_require _ _).bind fun _ =>
      (heedless_takeBody body).bind fun _ _ _ => rfl⟩

end Heedless

/-! ### What a call meets -/

section Calls

variable (host : MemoryHost) (request : HostRequest)

/-- The host with a call recorded. -/
def recorded : MemoryHost :=
  { host with calls := host.calls.push ⟨request.operation, request.subject⟩ }

/-- Every call leaves the faults that are left by the one that it meets. -/
theorem faults_request :
    (exec request.perform host).2.faults = (host.faults.take request.operation).2 := by
  obtain ⟨work, hperform, hatomic⟩ := exists_atomic request
  rw [hperform, exec_bind, exec_receive]
  cases (host.faults.take request.operation).1 with
  | some error => rfl
  | none => exact (hatomic _).faults

/-- A call that meets a fault fails with it, and does nothing else but be recorded. -/
theorem exec_of_fault {error : HostError}
    (h : (host.faults.take request.operation).1 = some error) :
    exec request.perform host =
      (.error error, (host.recorded request).withFaults
        (host.faults.take request.operation).2) := by
  obtain ⟨work, hperform, -⟩ := exists_atomic request
  rw [hperform, exec_bind, exec_receive, h]
  rfl

/-- A call that meets no fault does what it does where no fault is set. -/
theorem exec_of_no_fault (h : (host.faults.take request.operation).1 = none) :
    exec request.perform host =
      ((exec request.perform host.clearFailures).1,
        (exec request.perform host.clearFailures).2.withFaults
          (host.faults.take request.operation).2) := by
  obtain ⟨work, hperform, hheedless⟩ := exists_heedless request
  rw [hperform, exec_bind, exec_bind, exec_receive, exec_receive, h]
  exact hheedless (host.clearFailures.received request.operation request.subject) _

/-- One act does to the faults of each operation what the history tells. -/
theorem ofOperation_after (operation : HostOperation) (act : Act) :
    (host.after act).faults.ofOperation operation =
      heeds operation (host.faults.ofOperation operation) act := by
  cases act with
  | request request =>
    simp only [after, faults_request, FaultPlan.ofOperation_take, heeds]
  | failNext other error => exact host.faults.ofOperation_failNext operation other error
  | failAlways other error => exact host.faults.ofOperation_failAlways operation other error
  | clearFailures => rfl
  | addBody | addDictionary | addObjectStore | clearCalls | setChunkSize => rfl

/-- The plan of a host has for each operation what its history tells. By induction on the acts. -/
theorem ofOperation_afterAll (operation : HostOperation) (acts : List Act) :
    (host.afterAll acts).faults.ofOperation operation =
      acts.foldl (heeds operation) (host.faults.ofOperation operation) := by
  induction acts generalizing host with
  | nil => rfl
  | cons act acts ih => rw [afterAll_cons, ih, ofOperation_after, List.foldl_cons]

end Calls

theorem take_of_always {plan : FaultPlan} {operation : HostOperation} {error : HostError}
    (h : plan.always.find? operation = some error) : plan.take operation = (some error, plan) := by
  unfold FaultPlan.take
  rw [h]

/-- A call that meets no fault leaves the plan as it is. -/
theorem take_of_no_fault {plan : FaultPlan} {operation : HostOperation}
    (h : (plan.take operation).1 = none) : (plan.take operation).2 = plan := by
  have hspends := plan.spends_take operation
  rw [h] at hspends
  generalize (plan.take operation).2 = left at hspends
  cases hspends
  rfl

/-- The fault that the list gives out is the oldest one of its operation. -/
theorem exists_take_of_next {plan : FaultPlan} {operation : HostOperation} {error : HostError}
    {rest : List HostError} (h : plan.ofOperation operation = ⟨none, error :: rest⟩) :
    ∃ before after, plan.next = before ++ (operation, error) :: after ∧
      (∀ fault ∈ before, fault.1 ≠ operation) ∧
      plan.take operation = (some error, { plan with next := before ++ after }) := by
  have hmet : (plan.take operation).1 = some error := by
    rw [plan.take_fst, h]
    rfl
  have hspends := plan.spends_take operation
  rw [hmet] at hspends
  generalize hleft : (plan.take operation).2 = left at hspends
  cases hspends with
  | one hnext hbefore => exact ⟨_, _, hnext, hbefore, Prod.ext hmet hleft⟩
  | none =>
    -- A call that leaves the whole plan leaves the queue of its operation as long as it was.
    have hqueue := plan.ofOperation_take operation operation
    rw [if_pos rfl, hleft, h] at hqueue
    have hlength := congrArg (fun faults => faults.next.length) hqueue
    simp [OperationFaults.left] at hlength

/-- After some acts on a host, every call meets the faults of its own operation. -/
structure MeetsOwnFaults (first : MemoryHost) (acts : List Act) : Prop where
  /-- While a fault stays for the operation, a call fails with the latest one. No fault is used
  up. -/
  always : ∀ (request : HostRequest) error, (faultsOf request.operation acts).always = some error →
    exec request.perform (first.afterAll acts) =
      (.error error, (first.afterAll acts).recorded request)
  /-- Otherwise it fails with the oldest one that waits for the operation. That one is used up, and
  all other ones go on waiting in their order. -/
  next : ∀ (request : HostRequest) error rest, faultsOf request.operation acts =
    ⟨none, error :: rest⟩ → ∃ before after, (first.afterAll acts).faults.next = before ++
    (request.operation, error) :: after ∧
      (∀ fault ∈ before, fault.1 ≠ request.operation) ∧
      exec request.perform (first.afterAll acts) =
        (.error error, ((first.afterAll acts).recorded request).withFaults
          { (first.afterAll acts).faults with next := before ++ after })
  /-- Otherwise it does what it does on a host where no fault is set, and the faults stay as they
  are. -/
  normally : ∀ request : HostRequest, faultsOf request.operation acts = {} →
    exec request.perform (first.afterAll acts) =
      ((exec request.perform (first.afterAll acts).clearFailures).1,
        (exec request.perform (first.afterAll acts).clearFailures).2.withFaults
          (first.afterAll acts).faults)
  /-- What has been set for other operations, and which of them have been called and when, makes no
  difference. -/
  apart : ∀ (other : MemoryHost) (acts' : List Act) (operation : HostOperation), other.faults = {} →
    acts'.filter (Act.concerns operation) = acts.filter (Act.concerns operation) →
      ((other.afterAll acts').faults.take operation).1 =
        ((first.afterAll acts).faults.take operation).1

/-- Whatever is done with a host of whatever chunk size, every call meets the faults of its own
operation and no others. -/
theorem faults_per_operation (size : UInt64) (acts : List Act) :
    (withChunkSize size).MeetsOwnFaults acts := by
  have hof : ∀ (first : MemoryHost) acts operation, first.faults = {} →
      (first.afterAll acts).faults.ofOperation operation = faultsOf operation acts := by
    intro first acts operation hempty
    rw [ofOperation_afterAll, hempty]
    rfl
  have hempty : (withChunkSize size).faults = {} := rfl
  generalize withChunkSize size = first at hempty
  refine ⟨fun request error h => ?_, fun request error rest h => ?_, fun request h => ?_,
    fun other acts' operation hother hsame => ?_⟩
  · rw [← hof first acts _ hempty] at h
    have halways : (first.afterAll acts).faults.always.find? request.operation = some error := h
    have htake := take_of_always halways
    rw [exec_of_fault _ _ (congrArg Prod.fst htake), htake]
    rfl
  · rw [← hof first acts _ hempty] at h
    obtain ⟨before, after, hnext, hbefore, htake⟩ := exists_take_of_next h
    refine ⟨before, after, hnext, hbefore, ?_⟩
    rw [exec_of_fault _ _ (congrArg Prod.fst htake), htake]
  · rw [← hof first acts _ hempty] at h
    have hmet : ((first.afterAll acts).faults.take request.operation).1 = none := by
      rw [FaultPlan.take_fst, h]
      rfl
    have hrun := exec_of_no_fault _ _ hmet
    rwa [take_of_no_fault hmet] at hrun
  · rw [FaultPlan.take_fst, FaultPlan.take_fst, hof other acts' operation hother,
      hof first acts operation hempty, ← faultsOf_filter, hsame, faultsOf_filter]

end MemoryHost

end EdgeStreams
