import EdgeStreams.Host.Memory
import EdgeStreams.Proofs.Exec

/-!
# Calls on the bodies of a host in memory

What each call on a body comes to: whether it meets a fault, and what it does to the body that it
names. No call on one body touches another.

## Main definitions

- `MemoryHost.received`: the host once a call has been recorded
- `MemoryHost.putBody`: the host with one body replaced
- `MemoryHost.readLimit`: how many octets a read may take

## Main statements

- `MemoryHost.exec_bodyRead`, `MemoryHost.exec_bodyWrite`, `MemoryHost.exec_bodyClose`,
  `MemoryHost.exec_bodyAbandon`, `MemoryHost.exec_bodyNew`
- `MemoryBody.peek_append_unread`: a read takes the first octets that have not been read
-/

namespace EdgeStreams

theorem UInt64.max_one_pos (size : UInt64) : 0 < max size 1 := by
  rw [show max size 1 = if size ≤ 1 then 1 else size from rfl]
  split
  · decide
  · next h => exact UInt64.lt_of_le_of_lt (by decide) (UInt64.not_le.mp h)

namespace MemoryBody

variable (body : MemoryBody) (limit : Nat)

/-- The body after a read of at most `limit` octets. -/
def advance : MemoryBody := { body with position := body.readEnd limit }

/-- A read takes the first of the octets that have not been read, and leaves the others. -/
theorem peek_append_unread : body.peek limit ++ (body.advance limit).unread = body.unread := by
  obtain ⟨contents, position, state⟩ := body
  simp only [peek, unread, advance, readEnd, Array.toList_extract, List.extract_eq_take_drop]
  by_cases h : position + limit ≤ contents.size
  · have hall : ∀ n, List.take (contents.size - n) (List.drop n contents.toList) =
        List.drop n contents.toList := fun n => List.take_of_length_le (by simp)
    rw [Nat.min_eq_left h, Nat.add_sub_cancel_left, hall, hall, ← List.drop_drop]
    exact List.take_append_drop limit _
  · rw [Nat.min_eq_right (by omega), Nat.sub_self, List.take_zero, List.append_nil]

theorem peek_eq_take_unread : body.peek limit = body.unread.take limit := by
  simp only [peek, unread, readEnd, Array.toList_extract, List.extract_eq_take_drop, List.take_take]
  congr 1
  omega

theorem unread_advance : (body.advance limit).unread = body.unread.drop limit := by
  have hsplit := body.peek_append_unread limit
  rw [peek_eq_take_unread] at hsplit
  exact List.append_cancel_left (hsplit.trans (List.take_append_drop limit body.unread).symm)

/-- What is written after a read is read after what has been left. -/
theorem unread_append_advance (chunk : Bytes) :
    ((body.advance limit).append chunk).unread = (body.advance limit).unread ++ chunk := by
  have hwithin : body.readEnd limit ≤ body.contents.toList.length := Nat.min_le_right _ _
  have hall : ∀ octets : Array UInt8, (octets.extract (body.readEnd limit) octets.size).toList =
      octets.toList.drop (body.readEnd limit) := fun octets => by
    rw [Array.toList_extract, List.extract_eq_take_drop, List.take_of_length_le (by simp)]
  simp only [unread, advance, append, hall]
  rw [Array.toList_appendList, List.drop_append_of_le_length hwithin]

/-- A read that may take something and takes nothing has reached the end. -/
theorem unread_eq_nil_of_peek (hl : 0 < limit) (h : body.peek limit = []) : body.unread = [] := by
  obtain ⟨contents, position, state⟩ := body
  simp only [peek, unread, readEnd, Array.toList_extract, List.extract_eq_take_drop] at h ⊢
  have hlen := congrArg List.length h
  simp only [List.length_take, List.length_drop, Array.length_toList, List.length_nil] at hlen
  rw [List.drop_eq_nil_of_le (by simp only [Array.length_toList]; omega), List.take_nil]

/-- A read moves on no further than it leaves less to read. -/
theorem position_add_length_unread_advance :
    (body.advance limit).position + (body.advance limit).unread.length ≤
      body.position + body.unread.length := by
  rw [unread_advance, List.length_drop]
  simp only [advance, readEnd, unread, Array.toList_extract, List.extract_eq_take_drop,
    List.length_take, List.length_drop, Array.length_toList]
  omega

@[simp] theorem state_advance : (body.advance limit).state = body.state := rfl

@[simp] theorem state_append (chunk : Bytes) : (body.append chunk).state = body.state := rfl

@[simp] theorem contents_append (chunk : Bytes) :
    (body.append chunk).contents.toList = body.contents.toList ++ chunk := by
  simp [append]

end MemoryBody

namespace MemoryHost

variable (host : MemoryHost)

/-- The host once a call has been recorded and a fault set for it has been met. -/
def received (operation : HostOperation) (handle : Option AnyHandle) : MemoryHost :=
  { host with
    calls := host.calls.push ⟨operation, handle⟩
    faults := (host.faults.take operation).2 }

/-- The host with the body of a handle replaced. -/
def putBody (handle : BodyHandle) (body : MemoryBody) : MemoryHost :=
  { host with bodies := host.bodies.insert handle.raw body }

section Frame

variable (operation : HostOperation) (about : Option AnyHandle) (handle : BodyHandle)
variable (body : MemoryBody)

@[simp] theorem bodies_received : (host.received operation about).bodies = host.bodies := rfl

@[simp] theorem chunkSize_received :
    (host.received operation about).chunkSize = host.chunkSize := rfl

@[simp] theorem nextHandle_received :
    (host.received operation about).nextHandle = host.nextHandle := rfl

@[simp] theorem faults_received :
    (host.received operation about).faults = (host.faults.take operation).2 := rfl

@[simp] theorem chunkSize_putBody : (host.putBody handle body).chunkSize = host.chunkSize := rfl

@[simp] theorem nextHandle_putBody : (host.putBody handle body).nextHandle = host.nextHandle := rfl

@[simp] theorem faults_putBody : (host.putBody handle body).faults = host.faults := rfl

theorem find?_putBody (raw : UInt32) :
    (host.putBody handle body).bodies.find? raw =
      if raw = handle.raw then some body else host.bodies.find? raw :=
  Table.find?_insert _ _ _ _

@[simp] theorem overrun_received :
    (host.received operation about).overrun = host.overrun := rfl

@[simp] theorem overrun_putBody : (host.putBody handle body).overrun = host.overrun := rfl

end Frame

section Reaching

variable (handle : BodyHandle) (place : Nat)

@[simp] theorem bodies_reaching : (host.reaching handle place).bodies = host.bodies := rfl

@[simp] theorem chunkSize_reaching : (host.reaching handle place).chunkSize = host.chunkSize := rfl

@[simp] theorem nextHandle_reaching :
  (host.reaching handle place).nextHandle = host.nextHandle := rfl

@[simp] theorem faults_reaching : (host.reaching handle place).faults = host.faults := rfl

@[simp] theorem calls_reaching : (host.reaching handle place).calls = host.calls := rfl

/-- A read that ends at a place that a word can name does nothing else than to read. -/
theorem reaching_of_lt (h : place < UInt64.size) : host.reaching handle place = host := by
  rw [reaching, if_neg (Nat.not_le.mpr h)]

end Reaching

theorem exec_receive (operation : HostOperation) (handle : Option AnyHandle) :
    exec (receive operation handle) host =
      (match (host.faults.take operation).1 with
        | some error => .error error
        | none => .ok (), host.received operation handle) := by
  simp only [receive, exec_bind, exec_modify, exec_get, exec_set]
  cases h : (host.faults.take operation).1 <;> simp [received]

theorem exec_require {α : Type} (error : HostError) (value : Option α) :
    exec (require error value) host =
      (match value with
        | some value => .ok value
        | none => .error error, host) := by
  cases value <;> rfl

theorem exec_body (handle : BodyHandle) :
    exec (body handle) host =
      (match host.bodies.find? handle.raw with
        | some body => .ok body
        | none => .error .badHandle, host) := by
  simp only [body, exec_bind, exec_get, exec_require]
  cases host.bodies.find? handle.raw <;> rfl

theorem exec_setBody (handle : BodyHandle) (b : MemoryBody) :
    exec (setBody handle b) host = (.ok (), host.putBody handle b) := rfl

theorem exec_openBody (handle : BodyHandle) :
    exec (openBody handle) host =
      (match host.bodies.find? handle.raw with
        | some body => if body.state = .opened then .ok body else .error .badHandle
        | none => .error .badHandle, host) := by
  simp only [openBody, exec_bind, exec_body]
  cases host.bodies.find? handle.raw with
  | none => rfl
  | some body => by_cases h : body.state = .opened <;> simp [h]

/-- How many octets a read may take. -/
def readLimit (limit : UInt64) : Nat := (min limit host.chunkSize).toNat

theorem readLimit_congr {later : MemoryHost} (h : later.chunkSize = host.chunkSize) :
    later.readLimit = host.readLimit := by
  funext limit
  rw [readLimit, h, readLimit]

theorem readLimit_pos {limit : UInt64} (hl : 0 < limit) (hc : 0 < host.chunkSize) :
    0 < host.readLimit limit := by
  unfold readLimit
  rw [show (min limit host.chunkSize) = if limit ≤ host.chunkSize then limit else host.chunkSize
    from rfl]
  split
  · exact UInt64.lt_iff_toNat_lt.mp hl
  · exact UInt64.lt_iff_toNat_lt.mp hc

theorem withChunkSize_pos (size : UInt64) : 0 < (withChunkSize size).chunkSize :=
  UInt64.max_one_pos size

theorem exec_bodyRead (handle : BodyHandle) (limit : UInt64) :
    exec (Host.bodyRead handle limit) host =
      match (host.faults.take .bodyRead).1 with
      | some error => (.error error, host.received .bodyRead handle.erase)
      | none =>
        match host.bodies.find? handle.raw with
        | none => (.error .badHandle, host.received .bodyRead handle.erase)
        | some body =>
          if body.state = .abandoned then
            (.error .badHandle, host.received .bodyRead handle.erase)
          else
            (.ok (body.peek (host.readLimit limit)),
              ((host.received .bodyRead handle.erase).putBody handle
                (body.advance (host.readLimit limit))).reaching handle
                  (body.position + host.readLimit limit)) := by
  simp only [Host.bodyRead, exec_bind, exec_receive]
  cases (host.faults.take .bodyRead).1 with
  | some error => rfl
  | none =>
    simp only [exec_body, bodies_received]
    cases host.bodies.find? handle.raw with
    | none => rfl
    | some body =>
      by_cases h : body.state = .abandoned
      · simp [h]
      · simp only [h, if_false, exec_bind, exec_get, exec_setBody, exec_modify, exec_pure,
          chunkSize_received]
        rfl

theorem exec_bodyWrite (handle : BodyHandle) (chunk : Bytes) :
    exec (Host.bodyWrite handle chunk) host =
      match (host.faults.take .bodyWrite).1 with
      | some error => (.error error, host.received .bodyWrite handle.erase)
      | none =>
        match host.bodies.find? handle.raw with
        | none => (.error .badHandle, host.received .bodyWrite handle.erase)
        | some body =>
          if body.state = .opened then
            (.ok (), (host.received .bodyWrite handle.erase).putBody handle (body.append chunk))
          else (.error .badHandle, host.received .bodyWrite handle.erase) := by
  simp only [Host.bodyWrite, exec_bind, exec_receive]
  cases (host.faults.take .bodyWrite).1 with
  | some error => rfl
  | none =>
    simp only [exec_openBody, bodies_received]
    cases host.bodies.find? handle.raw with
    | none => rfl
    | some body => by_cases h : body.state = .opened <;> simp [h, exec_setBody]

theorem exec_bodyClose (handle : BodyHandle) :
    exec (Host.bodyClose handle) host =
      match (host.faults.take .bodyClose).1 with
      | some error => (.error error, host.received .bodyClose handle.erase)
      | none =>
        match host.bodies.find? handle.raw with
        | none => (.error .badHandle, host.received .bodyClose handle.erase)
        | some body =>
          if body.state = .opened then
            (.ok (), (host.received .bodyClose handle.erase).putBody handle
              { body with state := .closed })
          else (.error .badHandle, host.received .bodyClose handle.erase) := by
  simp only [Host.bodyClose, exec_bind, exec_receive]
  cases (host.faults.take .bodyClose).1 with
  | some error => rfl
  | none =>
    simp only [exec_openBody, bodies_received]
    cases host.bodies.find? handle.raw with
    | none => rfl
    | some body => by_cases h : body.state = .opened <;> simp [h, exec_setBody]

theorem exec_bodyAbandon (handle : BodyHandle) :
    exec (Host.bodyAbandon handle) host =
      match (host.faults.take .bodyAbandon).1 with
      | some error => (.error error, host.received .bodyAbandon handle.erase)
      | none =>
        match host.bodies.find? handle.raw with
        | none => (.error .badHandle, host.received .bodyAbandon handle.erase)
        | some body =>
          if body.state = .abandoned then
            (.error .badHandle, host.received .bodyAbandon handle.erase)
          else
            (.ok (), (host.received .bodyAbandon handle.erase).putBody handle
              { body with state := .abandoned }) := by
  simp only [Host.bodyAbandon, exec_bind, exec_receive]
  cases (host.faults.take .bodyAbandon).1 with
  | some error => rfl
  | none =>
    simp only [exec_body, bodies_received]
    cases host.bodies.find? handle.raw with
    | none => rfl
    | some body => by_cases h : body.state = .abandoned <;> simp [h, exec_setBody]

theorem exec_bodyNew :
    exec (Host.bodyNew : HostCall MemoryHost BodyHandle) host =
      match (host.faults.take .bodyNew).1 with
      | some error => (.error error, host.received .bodyNew none)
      | none =>
        (.ok ⟨host.nextHandle⟩,
          { host.received .bodyNew none with nextHandle := host.nextHandle + 1 }.putBody
            ⟨host.nextHandle⟩ .writable) := by
  simp only [Host.bodyNew, exec_bind, exec_receive]
  cases (host.faults.take .bodyNew).1 with
  | some error => rfl
  | none => rfl

/-! ### Calls that read nothing -/

theorem overrun_bodyWrite (handle : BodyHandle) (chunk : Bytes) :
    (exec (Host.bodyWrite handle chunk) host).2.overrun = host.overrun := by
  rw [exec_bodyWrite]
  repeat' split
  all_goals rfl

theorem overrun_bodyClose (handle : BodyHandle) :
    (exec (Host.bodyClose handle) host).2.overrun = host.overrun := by
  rw [exec_bodyClose]
  repeat' split
  all_goals rfl

theorem overrun_bodyAbandon (handle : BodyHandle) :
    (exec (Host.bodyAbandon handle) host).2.overrun = host.overrun := by
  rw [exec_bodyAbandon]
  repeat' split
  all_goals rfl

end MemoryHost

/-- Where no fault is set, none is met. -/
@[simp] theorem FaultPlan.take_empty (operation : HostOperation) :
    ({} : FaultPlan).take operation = (none, {}) := rfl

end EdgeStreams
