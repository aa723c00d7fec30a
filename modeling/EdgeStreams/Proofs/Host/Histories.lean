import EdgeStreams.Host.Operation
import EdgeStreams.Proofs.Host.Handles
import Mathlib.Algebra.Group.Nat.Defs

/-!
# Requests to a host, and histories of a host in memory

A call on a host as data: the operation with all that it is called with. So one statement can be
about all the operations, and a host can keep a transcript of what it has been asked. Whatever is
done with a host in memory, from outside or in a test, is one act after another: calls, and changes
of its fixtures and of the faults that are set.

## Main definitions

- `HostRequest`: a call with its arguments
- `HostRequest.perform`: makes the call on a host
- `TranscribesCalls`: a transcript of the calls on a host
- `Traced`: a host, with a transcript
- `MemoryHost.Act`: anything that may be done with a host, as data
- `MemoryHost.after`, `MemoryHost.afterAll`: the host after an act, and after several
- `MemoryHost.given`: the handles that an act gives out
- `MemoryHost.allocations`: how many handles are taken up

## Main statements

- `Traced.transcribesCalls`: any host can be given a transcript
- `MemoryHost.toNat_nextHandle_afterAll`: the handles that are taken up are counted by the next one
-/

namespace EdgeStreams

/-- A call on a host with its arguments. -/
inductive HostRequest where
  | dictionaryOpen (name : String)
  | dictionaryGet (dictionary : DictionaryHandle) (key : String)
  | logEndpointOpen (name : String)
  | logWrite (endpoint : LogEndpointHandle) (message : String)
  | bodyNew
  | bodyRead (body : BodyHandle) (limit : UInt64)
  | bodyWrite (body : BodyHandle) (chunk : Bytes)
  | bodyAppend (destination source : BodyHandle)
  | bodyClose (body : BodyHandle)
  | bodyAbandon (body : BodyHandle)
  | objectStoreOpen (name : String)
  | objectStoreLookup (store : ObjectStoreHandle) (key : String)
  | objectStoreInsert (store : ObjectStoreHandle) (key : String) (body : BodyHandle)
deriving DecidableEq

namespace HostRequest

def operation : HostRequest → HostOperation
  | dictionaryOpen _ => .dictionaryOpen
  | dictionaryGet _ _ => .dictionaryGet
  | logEndpointOpen _ => .logEndpointOpen
  | logWrite _ _ => .logWrite
  | bodyNew => .bodyNew
  | bodyRead _ _ => .bodyRead
  | bodyWrite _ _ => .bodyWrite
  | bodyAppend _ _ => .bodyAppend
  | bodyClose _ => .bodyClose
  | bodyAbandon _ => .bodyAbandon
  | objectStoreOpen _ => .objectStoreOpen
  | objectStoreLookup _ _ => .objectStoreLookup
  | objectStoreInsert _ _ _ => .objectStoreInsert

/-- The resource that a call is about, if it names one. What is appended to is named, not what is
appended; a store is named, not what is stored. -/
def subject : HostRequest → Option AnyHandle
  | dictionaryOpen _ | logEndpointOpen _ | bodyNew | objectStoreOpen _ => none
  | dictionaryGet dictionary _ => dictionary.erase
  | logWrite endpoint _ => endpoint.erase
  | bodyRead body _ | bodyWrite body _ | bodyAppend body _ | bodyClose body | bodyAbandon body =>
    body.erase
  | objectStoreLookup store _ | objectStoreInsert store _ _ => store.erase

/-- What a call that succeeds answers with. -/
abbrev Answer : HostRequest → Type
  | dictionaryOpen _ => DictionaryHandle
  | dictionaryGet _ _ => String
  | logEndpointOpen _ => LogEndpointHandle
  | bodyNew | objectStoreLookup _ _ => BodyHandle
  | bodyRead _ _ => Bytes
  | objectStoreOpen _ => ObjectStoreHandle
  | logWrite _ _ | bodyWrite _ _ | bodyAppend _ _ | bodyClose _ | bodyAbandon _
  | objectStoreInsert _ _ _ => Unit

variable {H : Type} [Host H]

/-- Makes the call on a host. -/
def perform : (request : HostRequest) → HostCall H request.Answer
  | dictionaryOpen name => Host.dictionaryOpen name
  | dictionaryGet dictionary key => Host.dictionaryGet dictionary key
  | logEndpointOpen name => Host.logEndpointOpen name
  | logWrite endpoint message => Host.logWrite endpoint message
  | bodyNew => Host.bodyNew
  | bodyRead body limit => Host.bodyRead body limit
  | bodyWrite body chunk => Host.bodyWrite body chunk
  | bodyAppend destination source => Host.bodyAppend destination source
  | bodyClose body => Host.bodyClose body
  | bodyAbandon body => Host.bodyAbandon body
  | objectStoreOpen name => Host.objectStoreOpen name
  | objectStoreLookup store key => Host.objectStoreLookup store key
  | objectStoreInsert store key body => Host.objectStoreInsert store key body

end HostRequest

/-- A transcript of the calls on a host. -/
def TranscribesCalls {H : Type} [Host H] (transcript : H → List HostRequest) : Prop :=
  ∀ (request : HostRequest) (host : H),
    transcript (exec request.perform host).2 = transcript host ++ [request]

/-- A host, with a transcript of the calls on it. -/
structure Traced (H : Type) where
  host : H
  transcript : List HostRequest := []

namespace Traced

variable {H α : Type}

/-- Makes a call, and enters it in the transcript. -/
def entering (request : HostRequest) (call : HostCall H α) : HostCall (Traced H) α :=
  ExceptT.mk fun traced =>
    let (result, host) := call.run.run traced.host
    (result, { host, transcript := traced.transcript ++ [request] })

instance [Host H] : Host (Traced H) where
  dictionaryOpen name := entering (.dictionaryOpen name) (Host.dictionaryOpen name)
  dictionaryGet dictionary key :=
    entering (.dictionaryGet dictionary key) (Host.dictionaryGet dictionary key)
  logEndpointOpen name := entering (.logEndpointOpen name) (Host.logEndpointOpen name)
  logWrite endpoint message :=
    entering (.logWrite endpoint message) (Host.logWrite endpoint message)
  bodyNew := entering .bodyNew Host.bodyNew
  bodyRead body limit := entering (.bodyRead body limit) (Host.bodyRead body limit)
  bodyWrite body chunk := entering (.bodyWrite body chunk) (Host.bodyWrite body chunk)
  bodyAppend destination source :=
    entering (.bodyAppend destination source) (Host.bodyAppend destination source)
  bodyClose body := entering (.bodyClose body) (Host.bodyClose body)
  bodyAbandon body := entering (.bodyAbandon body) (Host.bodyAbandon body)
  objectStoreOpen name := entering (.objectStoreOpen name) (Host.objectStoreOpen name)
  objectStoreLookup store key :=
    entering (.objectStoreLookup store key) (Host.objectStoreLookup store key)
  objectStoreInsert store key body :=
    entering (.objectStoreInsert store key body) (Host.objectStoreInsert store key body)

/-- A host with a transcript answers as it does without. -/
theorem exec_perform [Host H] (request : HostRequest) (traced : Traced H) :
    exec request.perform traced = ((exec request.perform traced.host).1,
      ⟨(exec request.perform traced.host).2, traced.transcript ++ [request]⟩) := by
  cases request <;> rfl

/-- Any host can be given a transcript. -/
theorem transcribesCalls [Host H] :
    TranscribesCalls (Traced.transcript : Traced H → List HostRequest) :=
  fun request traced => congrArg (fun run => run.2.transcript) (exec_perform request traced)

end Traced

/-! ### Histories -/

namespace MemoryHost

/-- Anything that may be done with a host. -/
inductive Act where
  | request (request : HostRequest)
  | addBody (data : Bytes)
  | addDictionary (name : String) (entries : List (String × String))
  | addObjectStore (name : String) (entries : List (String × Bytes))
  | failNext (operation : HostOperation) (error : HostError)
  | failAlways (operation : HostOperation) (error : HostError)
  | clearFailures
  | clearCalls
  /-- Reads answer with at most so many octets from now on; zero counts as one. -/
  | setChunkSize (size : UInt64)

variable (host : MemoryHost)

/-- The host after an act. -/
def after : Act → MemoryHost
  | .request request => (exec request.perform host).2
  | .addBody data => (host.addBody data).2
  | .addDictionary name entries => host.addDictionary name entries
  | .addObjectStore name entries => host.addObjectStore name entries
  | .failNext operation error => host.failNext operation error
  | .failAlways operation error => host.failAlways operation error
  | .clearFailures => host.clearFailures
  | .clearCalls => host.clearCalls
  | .setChunkSize size => { host with chunkSize := max size 1 }

/-- The host after several acts. -/
def afterAll (acts : List Act) : MemoryHost := acts.foldl after host

@[simp] theorem afterAll_nil : host.afterAll [] = host := rfl

@[simp] theorem afterAll_cons (act : Act) (acts : List Act) :
    host.afterAll (act :: acts) = (host.after act).afterAll acts := rfl

theorem afterAll_append (acts later : List Act) :
    host.afterAll (acts ++ later) = (host.afterAll acts).afterAll later := List.foldl_append

/-! ### Handles -/

/-- How many handles an act takes up. -/
def takesUp (act : Act) : Nat := if (host.after act).nextHandle = host.nextHandle then 0 else 1

/-- How many handles are taken up while acts are done. -/
def allocations : MemoryHost → List Act → Nat
  | _, [] => 0
  | host, act :: acts => host.takesUp act + (host.after act).allocations acts

theorem allocations_append (acts later : List Act) :
    host.allocations (acts ++ later) =
      host.allocations acts + (host.afterAll acts).allocations later := by
  induction acts generalizing host with
  | nil => simp [allocations]
  | cons act acts ih => simp only [List.cons_append, allocations, ih, afterAll_cons, Nat.add_assoc]

/-- The numbers of the handles that an act gives out. -/
def given : Act → List UInt32
  | .addBody data => [(host.addBody data).1.raw]
  | .request (.dictionaryOpen name) => answered (exec (Host.dictionaryOpen name) host).1
  | .request (.logEndpointOpen name) => answered (exec (Host.logEndpointOpen name) host).1
  | .request .bodyNew => answered (exec (Host.bodyNew : HostCall MemoryHost BodyHandle) host).1
  | .request (.objectStoreOpen name) => answered (exec (Host.objectStoreOpen name) host).1
  | .request (.objectStoreLookup store key) =>
    answered (exec (Host.objectStoreLookup store key) host).1
  | _ => []

/-- An act does what `Acts` lists for it, and gives the same handles out. Only the size of reads is
not set there. -/
theorem acts_after (act : Act) (hsize : ∀ size, act ≠ .setChunkSize size) :
    host.Acts (host.given act) (host.after act) := by
  cases act with
  | request request =>
    cases request with
    | dictionaryOpen name => exact .dictionaryOpen name
    | dictionaryGet dictionary key => exact .dictionaryGet dictionary key
    | logEndpointOpen name => exact .logEndpointOpen name
    | logWrite endpoint message => exact .logWrite endpoint message
    | bodyNew => exact .bodyNew
    | bodyRead body limit => exact .bodyRead body limit
    | bodyWrite body chunk => exact .bodyWrite body chunk
    | bodyAppend destination source => exact .bodyAppend destination source
    | bodyClose body => exact .bodyClose body
    | bodyAbandon body => exact .bodyAbandon body
    | objectStoreOpen name => exact .objectStoreOpen name
    | objectStoreLookup store key => exact .objectStoreLookup store key
    | objectStoreInsert store key body => exact .objectStoreInsert store key body
  | addBody data => exact .addBody data
  | addDictionary name entries => exact .addDictionary name entries
  | addObjectStore name entries => exact .addObjectStore name entries
  | failNext operation error => exact .failNext operation error
  | failAlways operation error => exact .failAlways operation error
  | clearFailures => exact .clearFailures
  | clearCalls => exact .clearCalls
  | setChunkSize size => exact absurd rfl (hsize size)

/-- An act takes up one handle at most, and that is the next one. -/
theorem nextHandle_after (act : Act) :
    (host.after act).nextHandle = host.nextHandle ∨
      (host.after act).nextHandle = host.nextHandle + 1 := by
  have hacts : ∀ {handles host'}, host.Acts handles host' →
      host'.nextHandle = host.nextHandle ∨ host'.nextHandle = host.nextHandle + 1 := fun h =>
    h.quiet_or_allocates.imp (fun hquiet => hquiet.1.nextHandle) fun hnew => hnew.1.nextHandle
  cases act with
  | setChunkSize size => exact .inl rfl
  | request | addBody | addDictionary | addObjectStore | failNext | failAlways | clearFailures
  | clearCalls => exact hacts (host.acts_after _ nofun)

theorem toNat_nextHandle_after (act : Act)
    (hroom : host.nextHandle.toNat + host.takesUp act < 2 ^ 32) :
    (host.after act).nextHandle.toNat = host.nextHandle.toNat + host.takesUp act := by
  unfold takesUp at hroom ⊢
  split
  · next h => rw [h, Nat.add_zero]
  · next h =>
    rw [if_neg h] at hroom
    rw [(host.nextHandle_after act).resolve_left h, UInt32.toNat_add, UInt32.toNat_one,
      Nat.mod_eq_of_lt hroom]

/-- The handles that are taken up are counted by the next one. By induction on the acts. -/
theorem toNat_nextHandle_afterAll (acts : List Act)
    (hroom : host.nextHandle.toNat + host.allocations acts < 2 ^ 32) :
    (host.afterAll acts).nextHandle.toNat = host.nextHandle.toNat + host.allocations acts := by
  induction acts generalizing host with
  | nil => rfl
  | cons act acts ih =>
    simp only [allocations] at hroom ⊢
    have hone := host.toNat_nextHandle_after act (by omega)
    rw [afterAll_cons, ih (host.after act) (by omega), hone, Nat.add_assoc]

end MemoryHost

end EdgeStreams
