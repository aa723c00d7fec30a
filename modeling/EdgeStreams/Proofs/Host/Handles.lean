import EdgeStreams.Proofs.Host.Bodies

/-!
# Handles of a host in memory

The host numbers its handles in the order of their making. So a handle that it gives out has never
been given out before, as long as the counter does not run over.

## Main definitions

- `MemoryHost.Acts`: anything that may be done with a host, with the handles that it gives out
- `MemoryHost.Quiet`, `MemoryHost.Allocates`: no handle is taken up, and one is
- `MemoryHost.Numbered`: all numbers in use are below the next one

## Main statements

- `MemoryHost.Acts.quiet_or_allocates`: every action takes up one handle at most
- `MemoryHost.Numbered.acts`: the numbers in use stay below the next one
-/

namespace EdgeStreams.MemoryHost

/-- The number of the handle in an answer. -/
def answered {kind : HandleKind} : Except HostError (Handle kind) → List UInt32
  | .ok handle => [handle.raw]
  | .error _ => []

/-- Anything that may be done with a host: a call, or the change of a fixture. The list has the
numbers of the handles that are given out. -/
inductive Acts (host : MemoryHost) : List UInt32 → MemoryHost → Prop
  | dictionaryOpen (name : String) :
    Acts host (answered (exec (Host.dictionaryOpen name) host).1)
      (exec (Host.dictionaryOpen name) host).2
  | dictionaryGet (dictionary : DictionaryHandle) (key : String) :
    Acts host [] (exec (Host.dictionaryGet dictionary key) host).2
  | logEndpointOpen (name : String) :
    Acts host (answered (exec (Host.logEndpointOpen name) host).1)
      (exec (Host.logEndpointOpen name) host).2
  | logWrite (endpoint : LogEndpointHandle) (message : String) :
    Acts host [] (exec (Host.logWrite endpoint message) host).2
  | bodyNew :
    Acts host (answered (exec (Host.bodyNew : HostCall MemoryHost BodyHandle) host).1)
      (exec (Host.bodyNew : HostCall MemoryHost BodyHandle) host).2
  | bodyRead (body : BodyHandle) (limit : UInt64) :
    Acts host [] (exec (Host.bodyRead body limit) host).2
  | bodyWrite (body : BodyHandle) (chunk : Bytes) :
    Acts host [] (exec (Host.bodyWrite body chunk) host).2
  | bodyAppend (destination source : BodyHandle) :
    Acts host [] (exec (Host.bodyAppend destination source) host).2
  | bodyClose (body : BodyHandle) : Acts host [] (exec (Host.bodyClose body) host).2
  | bodyAbandon (body : BodyHandle) : Acts host [] (exec (Host.bodyAbandon body) host).2
  | objectStoreOpen (name : String) :
    Acts host (answered (exec (Host.objectStoreOpen name) host).1)
      (exec (Host.objectStoreOpen name) host).2
  | objectStoreLookup (store : ObjectStoreHandle) (key : String) :
    Acts host (answered (exec (Host.objectStoreLookup store key) host).1)
      (exec (Host.objectStoreLookup store key) host).2
  | objectStoreInsert (store : ObjectStoreHandle) (key : String) (body : BodyHandle) :
    Acts host [] (exec (Host.objectStoreInsert store key body) host).2
  | addBody (data : Bytes) : Acts host [(host.addBody data).1.raw] (host.addBody data).2
  | addDictionary (name : String) (entries : List (String × String)) :
    Acts host [] (host.addDictionary name entries)
  | addObjectStore (name : String) (entries : List (String × Bytes)) :
    Acts host [] (host.addObjectStore name entries)
  | failNext (operation : HostOperation) (error : HostError) :
    Acts host [] (host.failNext operation error)
  | failAlways (operation : HostOperation) (error : HostError) :
    Acts host [] (host.failAlways operation error)
  | clearFailures : Acts host [] host.clearFailures
  | clearCalls : Acts host [] host.clearCalls

/-- No handle has been taken up. -/
structure Quiet (host host' : MemoryHost) : Prop where
  nextHandle : host'.nextHandle = host.nextHandle
  chunkSize : host'.chunkSize = host.chunkSize
  endpoints : host'.endpoints = host.endpoints
  bodies : ∀ raw, host'.bodies.find? raw ≠ none → host.bodies.find? raw ≠ none

/-- The next handle has been taken up. -/
structure Allocates (host host' : MemoryHost) : Prop where
  nextHandle : host'.nextHandle = host.nextHandle + 1
  chunkSize : host'.chunkSize = host.chunkSize
  endpoints : ∀ name raw, host'.endpoints.find? name = some raw →
    raw = host.nextHandle ∨ host.endpoints.find? name = some raw
  bodies : ∀ raw, host'.bodies.find? raw ≠ none →
    raw = host.nextHandle ∨ host.bodies.find? raw ≠ none

/-- The numbers of all handles given out, of all bodies and of all log endpoints are below the next
one. -/
structure Numbered (host : MemoryHost) (issued : List UInt32) : Prop where
  issued : ∀ raw ∈ issued, raw < host.nextHandle
  bodies : ∀ raw, host.bodies.find? raw ≠ none → raw < host.nextHandle
  endpoints : ∀ name raw, host.endpoints.find? name = some raw → raw < host.nextHandle
  /-- A read may answer with something. -/
  chunkSize : 0 < host.chunkSize

variable (host : MemoryHost) {host' : MemoryHost} {issued handles : List UInt32}

namespace Quiet

/-- Only what numbers nothing has changed. -/
theorem of_eq (hn : host'.nextHandle = host.nextHandle) (hc : host'.chunkSize = host.chunkSize)
    (he : host'.endpoints = host.endpoints) (hb : host'.bodies = host.bodies) : Quiet host host' :=
  ⟨hn, hc, he, fun _ h => hb ▸ h⟩

theorem refl : Quiet host host := .of_eq host rfl rfl rfl rfl

theorem received (operation : HostOperation) (about : Option AnyHandle) :
    Quiet host (host.received operation about) := .of_eq host rfl rfl rfl rfl

variable {host}

theorem trans {host'' : MemoryHost} (h : Quiet host host') (h' : Quiet host' host'') :
    Quiet host host'' :=
  ⟨h'.nextHandle.trans h.nextHandle, h'.chunkSize.trans h.chunkSize,
    h'.endpoints.trans h.endpoints, fun raw hraw => h.bodies raw (h'.bodies raw hraw)⟩

theorem putBody {host' : MemoryHost} (h : Quiet host host') {handle : BodyHandle} {old : MemoryBody}
    (hold : host.bodies.find? handle.raw = some old) (new : MemoryBody) :
    Quiet host (host'.putBody handle new) where
  nextHandle := h.nextHandle
  chunkSize := h.chunkSize
  endpoints := h.endpoints
  bodies raw hraw := by
    rw [find?_putBody] at hraw
    split at hraw
    · next he =>
      rw [he, hold]
      simp
    · exact h.bodies raw hraw

theorem reaching {host' : MemoryHost} (h : Quiet host host') (handle : BodyHandle) (place : Nat) :
    Quiet host (host'.reaching handle place) where
  nextHandle := h.nextHandle
  chunkSize := h.chunkSize
  endpoints := h.endpoints
  bodies := h.bodies

theorem eraseBody {host' : MemoryHost} (h : Quiet host host') (handle : BodyHandle) :
    Quiet host { host' with bodies := host'.bodies.erase handle.raw } where
  nextHandle := h.nextHandle
  chunkSize := h.chunkSize
  endpoints := h.endpoints
  bodies raw hraw := by
    rw [Table.find?_erase] at hraw
    split at hraw
    · exact absurd rfl hraw
    · exact h.bodies raw hraw

end Quiet

namespace Allocates

variable {host}

/-- A body is made under the next handle. -/
theorem allocateBody (h : Quiet host host') (body : MemoryBody) :
    Allocates host (host'.allocateBody body).2 where
  nextHandle := congrArg (· + 1) h.nextHandle
  chunkSize := h.chunkSize
  endpoints _ _ hraw := .inr (h.endpoints ▸ hraw)
  bodies raw hraw := by
    have hfind := Table.find?_insert host'.bodies host'.nextHandle raw body
    by_cases hr : raw = host'.nextHandle
    · exact .inl (hr.trans h.nextHandle)
    · rw [if_neg hr] at hfind
      exact .inr (h.bodies raw (by rwa [← hfind]))

end Allocates

/-! ### The calls -/

section Calls

/-- A call leaves all numbers alone, or takes the next one up and gives it out. -/
def CountsHandles {kind : HandleKind} (call : HostCall MemoryHost (Handle kind)) : Prop :=
  (Quiet host (exec call host).2 ∧
      ∀ raw ∈ answered (exec call host).1, ∃ name, host.endpoints.find? name = some raw) ∨
    Allocates host (exec call host).2 ∧
      ∀ raw ∈ answered (exec call host).1, raw = host.nextHandle

theorem quiet_dictionaryGet (dictionary : DictionaryHandle) (key : String) :
    Quiet host (exec (Host.dictionaryGet dictionary key) host).2 := by
  simp only [Host.dictionaryGet, exec_bind, exec_receive, exec_get, exec_require]
  repeat' first | exact .received host _ _ | split

theorem quiet_logWrite (endpoint : LogEndpointHandle) (message : String) :
    Quiet host (exec (Host.logWrite endpoint message) host).2 := by
  simp only [Host.logWrite, exec_bind, exec_receive, exec_get, exec_require, exec_set]
  repeat' first | exact .of_eq host rfl rfl rfl rfl | split

theorem quiet_bodyRead (body : BodyHandle) (limit : UInt64) :
    Quiet host (exec (Host.bodyRead body limit) host).2 := by
  rw [exec_bodyRead]
  repeat' first
    | exact .received host _ _
    | exact ((Quiet.received host _ _).putBody ‹_› _).reaching _ _
    | split

theorem quiet_bodyWrite (body : BodyHandle) (chunk : Bytes) :
    Quiet host (exec (Host.bodyWrite body chunk) host).2 := by
  rw [exec_bodyWrite]
  repeat' first
    | exact .received host _ _
    | exact (Quiet.received host _ _).putBody ‹_› _
    | split

theorem quiet_bodyClose (body : BodyHandle) :
    Quiet host (exec (Host.bodyClose body) host).2 := by
  rw [exec_bodyClose]
  repeat' first
    | exact .received host _ _
    | exact (Quiet.received host _ _).putBody ‹_› _
    | split

theorem quiet_bodyAbandon (body : BodyHandle) :
    Quiet host (exec (Host.bodyAbandon body) host).2 := by
  rw [exec_bodyAbandon]
  repeat' first
    | exact .received host _ _
    | exact (Quiet.received host _ _).putBody ‹_› _
    | split

/-- The content of a body is taken out, and what it was in is no more. -/
theorem exec_takeBody (body : BodyHandle) :
    (exec (takeBody body) host).2 = host ∨
      (exec (takeBody body) host).2 = { host with bodies := host.bodies.erase body.raw } := by
  simp only [takeBody, exec_bind, exec_body]
  cases host.bodies.find? body.raw with
  | none => exact .inl rfl
  | some found =>
    simp only
    split
    · exact .inl rfl
    · exact .inr rfl

theorem quiet_takeBody (h : Quiet host host') (body : BodyHandle) :
    Quiet host (exec (takeBody body) host').2 := by
  rcases host'.exec_takeBody body with he | he
  · rw [he]
    exact h
  · rw [he]
    exact h.eraseBody body

theorem quiet_bodyAppend (destination source : BodyHandle) :
    Quiet host (exec (Host.bodyAppend destination source) host).2 := by
  have hreceived := Quiet.received host .bodyAppend destination.erase
  simp only [Host.bodyAppend, exec_bind, exec_receive]
  cases (host.faults.take .bodyAppend).1 with
  | some error => exact hreceived
  | none =>
    simp only
    split
    · exact hreceived
    · simp only [exec_bind, exec_openBody, bodies_received]
      cases hfind : host.bodies.find? destination.raw with
      | none => exact hreceived
      | some found =>
        by_cases hopen : found.state = .opened
        · have htaken := host.quiet_takeBody hreceived source
          simp only [hopen, if_true]
          cases hdata : (exec (takeBody source)
            (host.received .bodyAppend destination.erase)).1 with
          | error error => simpa only [hdata] using htaken
          | ok data => simpa only [hdata, exec_setBody] using htaken.putBody hfind _
        · simpa only [hopen, if_false] using hreceived

theorem quiet_objectStoreInsert (store : ObjectStoreHandle) (key : String) (body : BodyHandle) :
    Quiet host (exec (Host.objectStoreInsert store key body) host).2 := by
  have hreceived := Quiet.received host .objectStoreInsert store.erase
  simp only [Host.objectStoreInsert, exec_bind, exec_receive, exec_get, exec_require]
  cases (host.faults.take .objectStoreInsert).1 with
  | some error => exact hreceived
  | none =>
    simp only
    cases (host.received .objectStoreInsert store.erase).openStores.find? store.raw with
    | none => exact hreceived
    | some name =>
      have htaken := host.quiet_takeBody hreceived body
      simp only
      cases hdata : (exec (takeBody body) (host.received .objectStoreInsert store.erase)).1 with
      | error error => simpa only [hdata] using htaken
      | ok data => exact ⟨htaken.nextHandle, htaken.chunkSize, htaken.endpoints, htaken.bodies⟩

/-- A call that is refused gives no handle out. -/
theorem refused {kind : HandleKind} (operation : HostOperation) (subject : Option AnyHandle)
    (error : HostError) {P : UInt32 → Prop} :
    Quiet host (host.received operation subject) ∧
      ∀ raw ∈ answered (.error error : Except HostError (Handle kind)), P raw :=
  ⟨.received host operation subject, fun _ hraw => absurd hraw List.not_mem_nil⟩

theorem countsHandles_dictionaryOpen (name : String) :
    host.CountsHandles (Host.dictionaryOpen name) := by
  simp only [CountsHandles, Host.dictionaryOpen, exec_bind, exec_receive, exec_get]
  cases (host.faults.take .dictionaryOpen).1 with
  | some error => exact .inl (host.refused _ _ _)
  | none =>
    simp only
    split
    · exact .inr ⟨⟨rfl, rfl, fun _ _ => .inr, fun _ => .inr⟩, by simp [answered, Except.map]⟩
    · exact .inl (host.refused _ _ _)

theorem countsHandles_objectStoreOpen (name : String) :
    host.CountsHandles (Host.objectStoreOpen name) := by
  simp only [CountsHandles, Host.objectStoreOpen, exec_bind, exec_receive, exec_get]
  cases (host.faults.take .objectStoreOpen).1 with
  | some error => exact .inl (host.refused _ _ _)
  | none =>
    simp only
    split
    · exact .inr ⟨⟨rfl, rfl, fun _ _ => .inr, fun _ => .inr⟩, by simp [answered, Except.map]⟩
    · exact .inl (host.refused _ _ _)

theorem countsHandles_logEndpointOpen (name : String) :
    host.CountsHandles (Host.logEndpointOpen name) := by
  simp only [CountsHandles, Host.logEndpointOpen, exec_bind, exec_receive, exec_get]
  cases (host.faults.take .logEndpointOpen).1 with
  | some error => exact .inl (host.refused _ _ _)
  | none =>
    simp only
    cases hfind : (host.received .logEndpointOpen none).endpoints.find? name with
    | some raw =>
      refine .inl ⟨.received host _ _, fun other ho => ⟨name, ?_⟩⟩
      rw [List.mem_singleton.mp ho]
      exact hfind
    | none =>
      refine .inr ⟨⟨rfl, rfl, fun other raw hraw => ?_,
        fun _ => .inr⟩, by simp [answered, Except.map]⟩
      have hinsert := Table.find?_insert host.endpoints name other host.nextHandle
      by_cases ho : other = name
      · rw [if_pos ho] at hinsert
        exact .inl (Option.some_inj.mp (hraw.symm.trans hinsert))
      · rw [if_neg ho] at hinsert
        exact .inr (hinsert.symm.trans hraw)

theorem countsHandles_bodyNew :
    host.CountsHandles (Host.bodyNew : HostCall MemoryHost BodyHandle) := by
  simp only [CountsHandles, Host.bodyNew, exec_bind, exec_receive]
  cases (host.faults.take .bodyNew).1 with
  | some error => exact .inl (host.refused _ _ _)
  | none =>
    refine .inr ⟨Allocates.allocateBody (.received host _ _) _, fun raw hraw => ?_⟩
    exact List.mem_singleton.mp hraw

theorem countsHandles_objectStoreLookup (store : ObjectStoreHandle) (key : String) :
    host.CountsHandles (Host.objectStoreLookup store key) := by
  simp only [CountsHandles, Host.objectStoreLookup, exec_bind, exec_receive, exec_get, exec_require]
  cases (host.faults.take .objectStoreLookup).1 with
  | some error => exact .inl (host.refused _ _ _)
  | none =>
    simp only
    cases (host.received .objectStoreLookup store.erase).openStores.find? store.raw with
    | none => exact .inl (host.refused _ _ _)
    | some name =>
      simp only
      cases (host.received .objectStoreLookup store.erase).object? name key with
      | none => exact .inl (host.refused _ _ _)
      | some value =>
        refine .inr ⟨Allocates.allocateBody (.received host _ _) _, fun raw hraw => ?_⟩
        exact List.mem_singleton.mp hraw

end Calls

variable {host}

/-- Every action takes up one handle at most. What it gives out is that handle, or a log
endpoint. -/
theorem Acts.quiet_or_allocates (h : host.Acts handles host') :
    (host.Quiet host' ∧ ∀ raw ∈ handles, ∃ name, host.endpoints.find? name = some raw) ∨
      host.Allocates host' ∧ ∀ raw ∈ handles, raw = host.nextHandle := by
  have hnone : ∀ {host' : MemoryHost}, host.Quiet host' →
      (host.Quiet host' ∧ ∀ raw ∈ ([] : List UInt32), ∃ name,
        host.endpoints.find? name = some raw) ∨
        host.Allocates host' ∧ ∀ raw ∈ ([] : List UInt32), raw = host.nextHandle :=
    fun hquiet => .inl ⟨hquiet, nofun⟩
  cases h with
  | dictionaryOpen name => exact host.countsHandles_dictionaryOpen name
  | logEndpointOpen name => exact host.countsHandles_logEndpointOpen name
  | bodyNew => exact host.countsHandles_bodyNew
  | objectStoreOpen name => exact host.countsHandles_objectStoreOpen name
  | objectStoreLookup store key => exact host.countsHandles_objectStoreLookup store key
  | dictionaryGet dictionary key => exact hnone (host.quiet_dictionaryGet dictionary key)
  | logWrite endpoint message => exact hnone (host.quiet_logWrite endpoint message)
  | bodyRead body limit => exact hnone (host.quiet_bodyRead body limit)
  | bodyWrite body chunk => exact hnone (host.quiet_bodyWrite body chunk)
  | bodyAppend destination source => exact hnone (host.quiet_bodyAppend destination source)
  | bodyClose body => exact hnone (host.quiet_bodyClose body)
  | bodyAbandon body => exact hnone (host.quiet_bodyAbandon body)
  | objectStoreInsert store key body => exact hnone (host.quiet_objectStoreInsert store key body)
  | addBody data =>
    exact .inr ⟨Allocates.allocateBody (.of_eq host rfl rfl rfl rfl) _,
      fun raw hraw => List.mem_singleton.mp hraw⟩
  | addDictionary | addObjectStore | failNext | failAlways | clearFailures | clearCalls =>
    exact hnone (.of_eq host rfl rfl rfl rfl)

namespace Numbered

/-- A call that takes up no handle. -/
theorem quiet (h : host.Numbered issued) (hq : host.Quiet host') : host'.Numbered issued where
  issued raw hraw := hq.nextHandle ▸ h.issued raw hraw
  bodies raw hraw := hq.nextHandle ▸ h.bodies raw (hq.bodies raw hraw)
  endpoints name raw hraw := hq.nextHandle ▸ h.endpoints name raw (hq.endpoints ▸ hraw)
  chunkSize := hq.chunkSize ▸ h.chunkSize

/-- The numbers in use stay below the next one, as long as the counter does not run over. -/
theorem acts (h : host.Numbered issued) (ha : host.Acts handles host')
    (hroom : host.nextHandle ≤ host'.nextHandle) : host'.Numbered (handles ++ issued) := by
  rcases ha.quiet_or_allocates with ⟨hq, hgiven⟩ | ⟨hallocates, hgiven⟩
  · have hquiet := h.quiet hq
    refine ⟨fun raw hraw => ?_, hquiet.bodies, hquiet.endpoints, hquiet.chunkSize⟩
    rcases List.mem_append.mp hraw with hnew | hold
    · obtain ⟨name, hname⟩ := hgiven raw hnew
      exact hq.nextHandle ▸ h.endpoints name raw hname
    · exact hquiet.issued raw hold
  · -- the next handle is above all that there were
    have hlt : host.nextHandle < host'.nextHandle := by
      refine UInt32.lt_of_le_of_ne hroom ?_
      rw [hallocates.nextHandle]
      simp
    have hbelow : ∀ raw, raw = host.nextHandle ∨ raw < host.nextHandle →
        raw < host'.nextHandle := by
      rintro raw (rfl | hraw)
      · exact hlt
      · exact UInt32.lt_trans hraw hlt
    refine ⟨fun raw hraw => hbelow raw ?_, fun raw hraw => hbelow raw ?_,
      fun name raw hraw => hbelow raw ?_, hallocates.chunkSize ▸ h.chunkSize⟩
    · exact (List.mem_append.mp hraw).imp (hgiven raw) (h.issued raw)
    · exact (hallocates.bodies raw hraw).imp_right (h.bodies raw)
    · exact (hallocates.endpoints name raw hraw).imp_right (h.endpoints name raw)

theorem withChunkSize (size : UInt64) : (withChunkSize size).Numbered [] where
  issued _ h := by cases h
  bodies _ h := absurd rfl h
  endpoints _ _ h := by cases h
  chunkSize := withChunkSize_pos size

end Numbered

end EdgeStreams.MemoryHost
