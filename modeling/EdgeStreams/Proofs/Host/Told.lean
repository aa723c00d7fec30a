import EdgeStreams.Proofs.Host.Queues
import Mathlib.Data.List.Induction

/-!
# What a history tells of stores and logs

Names lead to resources, and handles lead to names. What a store or a log has can be told from the
calls and their answers alone, by the handles that have been given out for its name: it is what a
host finds when it goes through its tables.

## Main definitions

- `MemoryHost.told`: what the acts of a history tell, one after another
- `MemoryHost.handlesOf`: all the handles that have been given out
- `MemoryHost.storesOpened`, `MemoryHost.endpointsOpened`: the handles that a name has been opened
  with
- `MemoryHost.valueOf`: what has last been put under a key of a store
- `MemoryHost.linesOf`: what has been written to the log of a name
- `MemoryHost.SameStores`, `MemoryHost.SameLogs`: no store has changed, and no log
- `MemoryHost.TracksStores`, `MemoryHost.TracksLogs`: the tables lead to just that

## Main statements

- `MemoryHost.sameStores_and_sameLogs`: what has to do with neither stores nor logs changes neither
- `MemoryHost.TracksStores.concat`, `MemoryHost.TracksLogs.concat`: one act keeps the tables on
  track
-/

namespace EdgeStreams

/-- Of several pairs with one key the last one counts. -/
theorem Table.find?_ofList {κ α : Type} [DecidableEq κ] (pairs : List (κ × α)) (key : κ) :
    (Table.ofList pairs).find? key =
      (pairs.reverse.find? fun pair => decide (pair.1 = key)).map Prod.snd := by
  induction pairs using List.reverseRecOn with
  | nil => rfl
  | append_singleton pairs pair ih =>
    have hlast : Table.ofList (pairs ++ [pair]) = (Table.ofList pairs).insert pair.1 pair.2 :=
      List.foldl_append
    rw [hlast, Table.find?_insert, List.reverse_append, List.reverse_singleton,
      List.singleton_append, List.find?_cons]
    by_cases h : key = pair.1
    · simp [h]
    · have hne : ¬ pair.1 = key := fun he => h he.symm
      simpa [h, hne] using ih

namespace MemoryHost

/-! ### Told from a history -/

section Told

variable {α : Type}

/-- What the acts of a history tell one after another, each of them seen with the acts before it. -/
def toldFrom (tells : List Act → Act → List α) : List Act → List Act → List α
  | _, [] => []
  | earlier, act :: acts => tells earlier act ++ toldFrom tells (earlier ++ [act]) acts

/-- What the acts of a history tell from its beginning on. -/
def told (tells : List Act → Act → List α) (acts : List Act) : List α := toldFrom tells [] acts

theorem told_concat (tells : List Act → Act → List α) (acts : List Act) (act : Act) :
    told tells (acts ++ [act]) = told tells acts ++ tells acts act := by
  have hfrom : ∀ earlier, toldFrom tells earlier (acts ++ [act]) =
      toldFrom tells earlier acts ++ tells (earlier ++ acts) act := by
    induction acts with
    | nil => simp [toldFrom]
    | cons head acts ih => simp [toldFrom, ih]
  exact hfrom []

/-- The answer of a call, if it succeeds. -/
def answers : Except HostError α → List α
  | .ok answer => [answer]
  | .error _ => []

variable (host : MemoryHost)

/-- The handle that an act opens a store of a name with. -/
def opensStore (name : String) : Act → List ObjectStoreHandle
  | .request (.objectStoreOpen other) =>
    if other = name then answers (exec (Host.objectStoreOpen other) host).1 else []
  | _ => []

/-- The handle that an act opens a log of a name with. -/
def opensLog (name : String) : Act → List LogEndpointHandle
  | .request (.logEndpointOpen other) =>
    if other = name then answers (exec (Host.logEndpointOpen other) host).1 else []
  | _ => []

/-- What an act puts under a key of a store, where some handles have been opened for the store: an
object, or that there is none. A store that is set up anew has its entries only. -/
def puts (name key : String) (opened : List ObjectStoreHandle) : Act → List (Option Bytes)
  | .addObjectStore other entries =>
    if other = name then
      [(entries.reverse.find? fun entry => decide (entry.1 = key)).map Prod.snd]
    else []
  | .request (.objectStoreInsert store other body) =>
    if other = key ∧ store ∈ opened then
      (answers (exec (Host.objectStoreInsert store other body) host).1).map fun _ =>
        some (host.unreadOf body)
    else []
  | _ => []

/-- The message that an act writes to a log, where some handles have been opened for the log. -/
def wrote (opened : List LogEndpointHandle) : Act → List String
  | .request (.logWrite endpoint message) =>
    if endpoint ∈ opened then
      (answers (exec (Host.logWrite endpoint message) host).1).map fun _ => message
    else []
  | _ => []

variable (first : MemoryHost)

/-- The numbers of all the handles that have been given out. -/
def handlesOf (acts : List Act) : List UInt32 :=
  told (fun earlier => (first.afterAll earlier).given) acts

/-- The handles that have been given out for the store of a name. -/
def storesOpened (name : String) (acts : List Act) : List ObjectStoreHandle :=
  told (fun earlier => (first.afterAll earlier).opensStore name) acts

/-- The handles that have been given out for the log of a name. -/
def endpointsOpened (name : String) (acts : List Act) : List LogEndpointHandle :=
  told (fun earlier => (first.afterAll earlier).opensLog name) acts

/-- What has last been put under a key of the store of a name, by setting it up or by inserting
through any of its handles. -/
def valueOf (name key : String) (acts : List Act) : Option Bytes :=
  (told (fun earlier =>
    (first.afterAll earlier).puts name key (first.storesOpened name earlier)) acts).getLast?.join

/-- What has been written to the log of a name through any of its handles, in the order of the
calls. -/
def linesOf (name : String) (acts : List Act) : List String :=
  told (fun earlier => (first.afterAll earlier).wrote (first.endpointsOpened name earlier)) acts

variable (acts : List Act) (act : Act) (name key : String)

theorem handlesOf_concat :
    first.handlesOf (acts ++ [act]) = first.handlesOf acts ++ (first.afterAll acts).given act :=
  told_concat ..

theorem storesOpened_concat :
    first.storesOpened name (acts ++ [act]) =
      first.storesOpened name acts ++ (first.afterAll acts).opensStore name act := told_concat ..

theorem endpointsOpened_concat :
    first.endpointsOpened name (acts ++ [act]) =
      first.endpointsOpened name acts ++ (first.afterAll acts).opensLog name act := told_concat ..

theorem linesOf_concat :
    first.linesOf name (acts ++ [act]) =
      first.linesOf name acts ++
        (first.afterAll acts).wrote (first.endpointsOpened name acts) act := told_concat ..

/-- What is put last is what counts. -/
theorem valueOf_concat :
    first.valueOf name key (acts ++ [act]) =
      (((first.afterAll acts).puts name key (first.storesOpened name acts) act).getLast?.getD
        (first.valueOf name key acts)) := by
  unfold valueOf
  rw [told_concat, List.getLast?_append]
  generalize (first.afterAll acts).puts name key (first.storesOpened name acts) act = added
  cases added.getLast? <;> rfl

end Told

/-! ### Opening and writing -/

section Opening

variable {host : MemoryHost} {name : String}

theorem exec_dictionaryOpen_ok {dictionary : DictionaryHandle}
    (h : (exec (Host.dictionaryOpen name) host).1 = .ok dictionary) :
    dictionary = ⟨host.nextHandle⟩ ∧
      (exec (Host.dictionaryOpen name) host).2.nextHandle = host.nextHandle + 1 := by
  have hreceived := exec_receive_ok h
  rw [show exec (Host.dictionaryOpen name) host = _ from hreceived] at h ⊢
  obtain ⟨before, hget, hrun⟩ := looksOnly_get.exec_bind_ok h
  cases hget
  rw [hrun] at h ⊢
  split at h
  · next hfound =>
    rw [if_pos hfound]
    exact ⟨(Except.ok.inj h).symm, rfl⟩
  · cases h

theorem exec_objectStoreOpen_ok {store : ObjectStoreHandle}
    (h : (exec (Host.objectStoreOpen name) host).1 = .ok store) :
    store = ⟨host.nextHandle⟩ ∧
      (exec (Host.objectStoreOpen name) host).2 =
        { host.received .objectStoreOpen none with
          nextHandle := host.nextHandle + 1
          openStores := host.openStores.insert host.nextHandle name } := by
  have hreceived := exec_receive_ok h
  rw [show exec (Host.objectStoreOpen name) host = _ from hreceived] at h ⊢
  obtain ⟨before, hget, hrun⟩ := looksOnly_get.exec_bind_ok h
  cases hget
  rw [hrun] at h ⊢
  split at h
  · next hfound =>
    rw [if_pos hfound]
    exact ⟨(Except.ok.inj h).symm, rfl⟩
  · cases h

/-- A log that is open already is opened again with the same handle. -/
theorem exec_logEndpointOpen_ok {endpoint : LogEndpointHandle}
    (h : (exec (Host.logEndpointOpen name) host).1 = .ok endpoint) :
    (host.endpoints.find? name = some endpoint.raw ∧
        (exec (Host.logEndpointOpen name) host).2 = host.received .logEndpointOpen none) ∨
      host.endpoints.find? name = none ∧ endpoint = ⟨host.nextHandle⟩ ∧
        (exec (Host.logEndpointOpen name) host).2 =
          { host.received .logEndpointOpen none with
            nextHandle := host.nextHandle + 1
            endpoints := host.endpoints.insert name host.nextHandle
            logs := host.logs.insert host.nextHandle [] } := by
  have hreceived := exec_receive_ok h
  rw [show exec (Host.logEndpointOpen name) host = _ from hreceived] at h ⊢
  obtain ⟨before, hget, hrun⟩ := looksOnly_get.exec_bind_ok h
  cases hget
  rw [hrun] at h ⊢
  cases hfind : host.endpoints.find? name with
  | some raw =>
    have hfind' : (host.received .logEndpointOpen none).endpoints.find? name = some raw := hfind
    simp only [hfind', exec_pure] at h ⊢
    cases h
    exact .inl ⟨rfl, trivial⟩
  | none =>
    have hfind' : (host.received .logEndpointOpen none).endpoints.find? name = none := hfind
    simp only [hfind', exec_bind, exec_set, exec_pure] at h ⊢
    exact .inr ⟨trivial, (Except.ok.inj h).symm, rfl⟩

theorem exec_logWrite_ok {endpoint : LogEndpointHandle} {message : String}
    (h : (exec (Host.logWrite endpoint message) host).1 = .ok ()) :
    ∃ lines, host.logs.find? endpoint.raw = some lines ∧
      (exec (Host.logWrite endpoint message) host).2 =
        { host.received .logWrite endpoint.erase with
          logs := host.logs.insert endpoint.raw (lines ++ [message]) } := by
  have hreceived := exec_receive_ok h
  rw [show exec (Host.logWrite endpoint message) host = _ from hreceived] at h ⊢
  obtain ⟨before, hget, hrun⟩ := looksOnly_get.exec_bind_ok h
  cases hget
  rw [hrun] at h ⊢
  obtain ⟨lines, hlines, hrun⟩ := (looksOnly_require _ _).exec_bind_ok h
  rw [hrun]
  exact ⟨lines, exec_require_ok hlines, rfl⟩

/-- What is looked up is there. -/
theorem exec_objectStoreLookup_found {store : ObjectStoreHandle} {key : String} {made : BodyHandle}
    (h : (exec (Host.objectStoreLookup store key) host).1 = .ok made) :
    ∃ other data, host.openStores.find? store.raw = some other ∧
    host.object? other key = some data ∧
      host.stored store key = data := by
  have hreceived := exec_receive_ok h
  rw [show exec (Host.objectStoreLookup store key) host = _ from hreceived] at h
  obtain ⟨before, hget, hrun⟩ := looksOnly_get.exec_bind_ok h
  cases hget
  rw [hrun] at h
  obtain ⟨other, hother, hrun⟩ := (looksOnly_require _ _).exec_bind_ok h
  rw [hrun] at h
  obtain ⟨data, hdata, -⟩ := (looksOnly_require _ _).exec_bind_ok h
  have hopen : host.openStores.find? store.raw = some other := exec_require_ok hother
  have hobject : host.object? other key = some data := exec_require_ok hdata
  refine ⟨other, data, hopen, hobject, ?_⟩
  rw [stored, hopen, Option.bind_some, hobject, Option.getD_some]

end Opening

/-! ### Names -/

section NamesPipe

/-- No object store has changed, and none has been opened. -/
structure SameStores (host host' : MemoryHost) : Prop where
  stores : host'.stores = host.stores
  openStores : host'.openStores = host.openStores

theorem SameStores.of_eq {host after host' : MemoryHost} (he : host' = after)
    (h : host.SameStores after) : host.SameStores host' := he ▸ h

theorem SameStores.object?_eq {host host' : MemoryHost} (h : host.SameStores host')
    (store key : String) : host'.object? store key = host.object? store key := by
  rw [object?, h.stores, object?]

/-- No log has changed, and none has been opened. -/
structure SameLogs (host host' : MemoryHost) : Prop where
  endpoints : host'.endpoints = host.endpoints
  logs : host'.logs = host.logs

/-- Whether an act sets up a store, opens one or inserts into one. -/
def Act.concernsStores : Act → Bool
  | .addObjectStore _ _ | .request (.objectStoreOpen _) | .request (.objectStoreInsert _ _ _) =>
    true
  | _ => false

/-- Whether an act opens a log or writes to one. -/
def Act.concernsLogs : Act → Bool
  | .request (.logEndpointOpen _) | .request (.logWrite _ _) => true
  | _ => false

variable {host first : MemoryHost} {act : Act} {acts : List Act}

/-- Stores and logs are changed by the acts that have to do with them, and by no others. -/
theorem sameStores_and_sameLogs (host : MemoryHost) (act : Act) :
    (act.concernsStores = false → host.SameStores (host.after act)) ∧
      (act.concernsLogs = false → host.SameLogs (host.after act)) := by
  cases act with
  | addBody | addDictionary | failNext | failAlways | clearFailures | clearCalls | setChunkSize =>
    exact ⟨fun _ => ⟨rfl, rfl⟩, fun _ => ⟨rfl, rfl⟩⟩
  | addObjectStore => exact ⟨fun h => (by cases h), fun _ => ⟨rfl, rfl⟩⟩
  | request request =>
    -- the host after the call is known by an equation, in which nothing else has changed
    have hof : ∀ {host'}, (exec request.perform host).2 = host' → host.SameStores host' →
        host.SameLogs host' →
          (Act.concernsStores (.request request) = false →
            host.SameStores (host.after (.request request))) ∧
          (Act.concernsLogs (.request request) = false →
            host.SameLogs (host.after (.request request))) := by
      intro host' hafter hstores hlogs
      rw [← hafter] at hstores hlogs
      exact ⟨fun _ => hstores, fun _ => hlogs⟩
    cases hresult : (exec request.perform host).1 with
    | error error =>
      have hfailed := sameResources_of_error hresult
      exact hof rfl ⟨hfailed.stores, hfailed.openStores⟩ ⟨hfailed.endpoints, hfailed.logs⟩
    | ok answer =>
      cases request with
      | dictionaryOpen | dictionaryGet =>
        simp only [HostRequest.perform, Host.dictionaryOpen, Host.dictionaryGet, exec_bind,
          exec_receive, exec_get, exec_require] at hof
        refine hof rfl ?_ ?_ <;> repeat' first | exact ⟨rfl, rfl⟩ | split
      | logEndpointOpen name =>
        refine ⟨fun _ => ?_, fun h => by cases h⟩
        rcases exec_logEndpointOpen_ok hresult with ⟨-, hafter⟩ | ⟨-, -, hafter⟩
        · exact .of_eq hafter ⟨rfl, rfl⟩
        · exact .of_eq hafter ⟨rfl, rfl⟩
      | logWrite endpoint message =>
        obtain ⟨lines, -, hafter⟩ := exec_logWrite_ok hresult
        exact ⟨fun _ => .of_eq hafter ⟨rfl, rfl⟩, fun h => by cases h⟩
      | objectStoreOpen name =>
        obtain ⟨-, hafter⟩ := exec_objectStoreOpen_ok hresult
        have hlogs : host.SameLogs (exec (Host.objectStoreOpen name) host).2 := hafter ▸ ⟨rfl, rfl⟩
        exact ⟨fun h => (by cases h), fun _ => hlogs⟩
      | objectStoreInsert store key body =>
        obtain ⟨name, found, -, -, -, hafter⟩ := exec_objectStoreInsert_ok hresult
        have hlogs : host.SameLogs (exec (Host.objectStoreInsert store key body) host).2 :=
          hafter ▸ ⟨rfl, rfl⟩
        exact ⟨fun h => (by cases h), fun _ => hlogs⟩
      | bodyNew => exact hof (exec_bodyNew_ok hresult).2 ⟨rfl, rfl⟩ ⟨rfl, rfl⟩
      | objectStoreLookup store key =>
        exact hof (exec_objectStoreLookup_ok hresult).2 ⟨rfl, rfl⟩ ⟨rfl, rfl⟩
      | bodyRead body limit =>
        obtain ⟨found, -, -, -, hafter⟩ := exec_bodyRead_ok hresult
        exact hof hafter ⟨rfl, rfl⟩ ⟨rfl, rfl⟩
      | bodyWrite body chunk =>
        obtain ⟨found, -, -, hafter⟩ := exec_bodyWrite_ok hresult
        exact hof hafter ⟨rfl, rfl⟩ ⟨rfl, rfl⟩
      | bodyClose body =>
        obtain ⟨found, -, -, hafter⟩ := exec_bodyClose_ok hresult
        exact hof hafter ⟨rfl, rfl⟩ ⟨rfl, rfl⟩
      | bodyAbandon body =>
        obtain ⟨found, -, -, hafter⟩ := exec_bodyAbandon_ok hresult
        exact hof hafter ⟨rfl, rfl⟩ ⟨rfl, rfl⟩
      | bodyAppend destination source =>
        obtain ⟨found, other, -, -, -, -, -, hafter⟩ := exec_bodyAppend_ok hresult
        exact hof hafter ⟨rfl, rfl⟩ ⟨rfl, rfl⟩

/-- A handle of a store leads to what the history tells of the store. -/
structure TracksStores (first : MemoryHost) (acts : List Act) : Prop where
  store : ∀ name (store : ObjectStoreHandle), store ∈ first.storesOpened name acts ↔
    (first.afterAll acts).openStores.find? store.raw = some name
  issued : ∀ raw name, (first.afterAll acts).openStores.find? raw = some name →
    raw < (first.afterAll acts).nextHandle
  value : ∀ name key, (first.afterAll acts).object? name key = first.valueOf name key acts

/-- A handle of a log leads to what the history tells of the log. -/
structure TracksLogs (first : MemoryHost) (acts : List Act) : Prop where
  endpoint : ∀ name (endpoint : LogEndpointHandle), endpoint ∈ first.endpointsOpened name acts ↔
    (first.afterAll acts).endpoints.find? name = some endpoint.raw
  issued : ∀ name raw, (first.afterAll acts).endpoints.find? name = some raw →
    raw < (first.afterAll acts).nextHandle
  /-- The logs of two names are two logs. -/
  single : ∀ name other raw, (first.afterAll acts).endpoints.find? name = some raw →
    (first.afterAll acts).endpoints.find? other = some raw → name = other
  lines : ∀ name raw, (first.afterAll acts).endpoints.find? name = some raw →
    (first.afterAll acts).logs.find? raw = some (first.linesOf name acts)
  silent : ∀ name, (first.afterAll acts).endpoints.find? name = none → first.linesOf name acts = []

theorem tracksStores_nil (size : UInt64) : (withChunkSize size).TracksStores [] :=
  ⟨fun _ _ => ⟨nofun, nofun⟩, nofun, fun _ _ => rfl⟩

theorem tracksLogs_nil (size : UInt64) : (withChunkSize size).TracksLogs [] :=
  ⟨fun _ _ => ⟨nofun, nofun⟩, nofun, nofun, nofun, fun _ _ => rfl⟩

theorem afterAll_concat (first : MemoryHost) (acts : List Act) (act : Act) :
    first.afterAll (acts ++ [act]) = (first.afterAll acts).after act :=
  first.afterAll_append acts [act]

/-- An act that tells nothing about stores, and changes nothing about them. -/
theorem TracksStores.of_same (h : first.TracksStores acts)
    (hle : (first.afterAll acts).nextHandle ≤ ((first.afterAll acts).after act).nextHandle)
    (hsame : (first.afterAll acts).SameStores ((first.afterAll acts).after act))
    (hopens : ∀ name, (first.afterAll acts).opensStore name act = [])
    (hputs : ∀ name key opened, (first.afterAll acts).puts name key opened act = []) :
    first.TracksStores (acts ++ [act]) := by
  refine ⟨fun name store => ?_, fun raw name hfind => ?_, fun name key => ?_⟩
  · rw [storesOpened_concat, hopens, List.append_nil, afterAll_concat, hsame.openStores]
    exact h.store name store
  · rw [afterAll_concat] at hfind ⊢
    rw [hsame.openStores] at hfind
    exact UInt32.lt_of_lt_of_le (h.issued raw name hfind) hle
  · rw [valueOf_concat, hputs, afterAll_concat, hsame.object?_eq]
    exact h.value name key

/-- A store that is set up has its entries, and no others. -/
theorem TracksStores.setUp (h : first.TracksStores acts) (other : String)
    (entries : List (String × Bytes)) :
    first.TracksStores (acts ++ [.addObjectStore other entries]) := by
  have hafter : ∀ name key,
      ((first.afterAll acts).after (.addObjectStore other entries)).object? name key =
        if name = other then (Table.ofList entries).find? key
        else (first.afterAll acts).object? name key := by
    intro name key
    simp only [after, addObjectStore, object?, Table.find?_insert]
    split <;> rfl
  refine ⟨fun name store => ?_, fun raw name hfind => ?_, fun name key => ?_⟩
  · rw [storesOpened_concat, afterAll_concat]
    exact (List.append_nil _).symm ▸ h.store name store
  · rw [afterAll_concat] at hfind ⊢
    exact h.issued raw name hfind
  · rw [valueOf_concat, afterAll_concat, hafter, puts, Table.find?_ofList, ← h.value]
    by_cases hname : name = other
    · simp [hname]
    · have hne : ¬ other = name := fun he => hname he.symm
      simp [hname, hne]

/-- A handle that is given out for a store leads to that store. -/
theorem TracksStores.opened (h : first.TracksStores acts) {other : String}
    {made : ObjectStoreHandle}
    (hresult : (exec (Host.objectStoreOpen other) (first.afterAll acts)).1 = .ok made)
    (hlt : (first.afterAll acts).nextHandle <
      ((first.afterAll acts).after (.request (.objectStoreOpen other))).nextHandle) :
    first.TracksStores (acts ++ [.request (.objectStoreOpen other)]) := by
  obtain ⟨rfl, hafter⟩ := exec_objectStoreOpen_ok hresult
  have hfind : ∀ raw,
      ((first.afterAll acts).after (.request (.objectStoreOpen other))).openStores.find? raw =
        if raw = (first.afterAll acts).nextHandle then some other
        else (first.afterAll acts).openStores.find? raw := by
    intro raw
    rw [show (first.afterAll acts).after (.request (.objectStoreOpen other)) = _ from hafter]
    exact Table.find?_insert _ _ _ _
  have hopens : ∀ name (store : ObjectStoreHandle),
      store ∈ (first.afterAll acts).opensStore name (.request (.objectStoreOpen other)) ↔
        other = name ∧ store.raw = (first.afterAll acts).nextHandle := by
    intro name store
    simp only [opensStore, hresult, answers]
    by_cases hname : other = name
    · rw [if_pos hname, List.mem_singleton, Handle.mk.injEq]
      exact ⟨fun hraw => ⟨hname, hraw⟩, And.right⟩
    · rw [if_neg hname]
      exact ⟨nofun, fun hboth => absurd hboth.1 hname⟩
  refine ⟨fun name store => ?_, fun raw name hraw => ?_, fun name key => ?_⟩
  · rw [storesOpened_concat, afterAll_concat, hfind, List.mem_append, h.store, hopens]
    by_cases hraw : store.raw = (first.afterAll acts).nextHandle
    · -- the number is fresh, so nothing has been open under it
      have hnone : ¬ (first.afterAll acts).openStores.find? store.raw = some name := fun hold =>
        absurd hraw (UInt32.ne_of_lt (h.issued _ _ hold))
      simp [hraw, hraw ▸ hnone]
    · simp [hraw]
  · rw [afterAll_concat] at hraw ⊢
    rw [hfind] at hraw
    split at hraw
    · next he => exact he ▸ hlt
    · exact UInt32.lt_trans (h.issued raw name hraw) hlt
  · have hobject : ((first.afterAll acts).after (.request (.objectStoreOpen other))).object? name
      key = (first.afterAll acts).object? name key := by
      rw [show (first.afterAll acts).after (.request (.objectStoreOpen other)) = _ from hafter]
      rfl
    rw [valueOf_concat, afterAll_concat, hobject]
    exact h.value name key

/-- What is inserted through a handle of a store is in that store, and nothing else changes. -/
theorem TracksStores.inserted (h : first.TracksStores acts) {store : ObjectStoreHandle}
    {other : String} {body : BodyHandle}
    (hresult : (exec (Host.objectStoreInsert store other body) (first.afterAll acts)).1 = .ok ())
    (hle : (first.afterAll acts).nextHandle ≤
      ((first.afterAll acts).after (.request (.objectStoreInsert store other body))).nextHandle) :
    first.TracksStores (acts ++ [.request (.objectStoreInsert store other body)]) := by
  obtain ⟨into, found, hinto, hfound, -, hafter⟩ := exec_objectStoreInsert_ok hresult
  have hopen : ((first.afterAll acts).after
      (.request (.objectStoreInsert store other body))).openStores =
        (first.afterAll acts).openStores := by
    rw [show (first.afterAll acts).after (.request (.objectStoreInsert store other body)) =
      _ from hafter]
    rfl
  have hobject : ∀ name key, ((first.afterAll acts).after
      (.request (.objectStoreInsert store other body))).object? name key =
        if name = into ∧ key = other then some ((first.afterAll acts).unreadOf body)
        else (first.afterAll acts).object? name key := by
    intro name key
    rw [show (first.afterAll acts).after (.request (.objectStoreInsert store other body)) =
      _ from hafter, object?_putObject, unreadOf, hfound]
    rfl
  refine ⟨fun name handle => ?_, fun raw name hraw => ?_, fun name key => ?_⟩
  · rw [storesOpened_concat, afterAll_concat, hopen]
    exact (List.append_nil _).symm ▸ h.store name handle
  · rw [afterAll_concat] at hraw ⊢
    rw [hopen] at hraw
    exact UInt32.lt_of_lt_of_le (h.issued raw name hraw) hle
  · have hinto' : store ∈ first.storesOpened name acts ↔ into = name := by
      rw [h.store, hinto, Option.some.injEq]
    rw [valueOf_concat, afterAll_concat, hobject, puts, hresult, ← h.value]
    by_cases hboth : name = into ∧ key = other
    · obtain ⟨rfl, rfl⟩ := hboth
      simp [hinto', answers]
    · have hneither : ¬ (other = key ∧ store ∈ first.storesOpened name acts) := by
        rintro ⟨rfl, hm⟩
        exact hboth ⟨(hinto'.mp hm).symm, rfl⟩
      rw [if_neg hboth, if_neg hneither]
      rfl

/-- One act on a host keeps its stores on track. -/
theorem TracksStores.concat (h : first.TracksStores acts) (act : Act)
    (hroom : (first.afterAll acts).nextHandle.toNat + (first.afterAll acts).takesUp act < 2 ^ 32) :
    first.TracksStores (acts ++ [act]) := by
  have hnext := (first.afterAll acts).toNat_nextHandle_after act hroom
  have hle : (first.afterAll acts).nextHandle ≤ ((first.afterAll acts).after act).nextHandle :=
    UInt32.le_iff_toNat_le.mpr (by omega)
  by_cases hconcerns : act.concernsStores = false
  · refine h.of_same hle (((first.afterAll acts).sameStores_and_sameLogs act).1 hconcerns) ?_ ?_
    · intro name
      unfold opensStore
      split
      · cases hconcerns
      · rfl
    · intro name key opened
      unfold puts
      split
      · cases hconcerns
      · cases hconcerns
      · rfl
  unfold Act.concernsStores at hconcerns
  split at hconcerns
  · exact h.setUp _ _
  · next other =>
    cases hresult : (exec (Host.objectStoreOpen other) (first.afterAll acts)).1 with
    | error error =>
      have hsame := sameResources_of_error
        (show (exec (HostRequest.objectStoreOpen other).perform _).1 = _ from hresult)
      refine h.of_same hle ⟨hsame.stores, hsame.openStores⟩ (fun name => ?_) fun _ _ _ => rfl
      simp [opensStore, hresult, answers]
    | ok made =>
      have hafter : ((first.afterAll acts).after (.request (.objectStoreOpen other))).nextHandle =
          (first.afterAll acts).nextHandle + 1 :=
        congrArg nextHandle (exec_objectStoreOpen_ok hresult).2
      exact h.opened hresult (UInt32.lt_of_le_of_ne hle (by simp [hafter]))
  · next store other body =>
    cases hresult : (exec (Host.objectStoreInsert store other body) (first.afterAll acts)).1 with
    | error error =>
      have hsame := sameResources_of_error
        (show (exec (HostRequest.objectStoreInsert store other body).perform _).1 = _ from hresult)
      refine h.of_same hle ⟨hsame.stores, hsame.openStores⟩ (fun _ => rfl) fun name key opened => ?_
      simp [puts, hresult, answers]
    | ok done => exact h.inserted hresult hle
  · exact absurd rfl hconcerns

/-- An act that tells nothing about logs, and changes nothing about them. -/
theorem TracksLogs.of_same (h : first.TracksLogs acts)
    (hle : (first.afterAll acts).nextHandle ≤ ((first.afterAll acts).after act).nextHandle)
    (hsame : (first.afterAll acts).SameLogs ((first.afterAll acts).after act))
    (hopens : ∀ name, (first.afterAll acts).opensLog name act = [])
    (hwrote : ∀ opened, (first.afterAll acts).wrote opened act = []) :
    first.TracksLogs (acts ++ [act]) := by
  have hfind : ∀ name, (first.afterAll (acts ++ [act])).endpoints.find? name =
      (first.afterAll acts).endpoints.find? name := fun name => by
    rw [afterAll_concat, hsame.endpoints]
  have hlines : ∀ name, first.linesOf name (acts ++ [act]) = first.linesOf name acts :=
    fun name => by
    rw [linesOf_concat, hwrote, List.append_nil]
  refine ⟨fun name endpoint => ?_, fun name raw hraw => ?_, fun name other raw hraw hother => ?_,
    fun name raw hraw => ?_, fun name hnone => ?_⟩
  · rw [endpointsOpened_concat, hopens, List.append_nil, hfind]
    exact h.endpoint name endpoint
  · rw [hfind] at hraw
    rw [afterAll_concat]
    exact UInt32.lt_of_lt_of_le (h.issued name raw hraw) hle
  · rw [hfind] at hraw hother
    exact h.single name other raw hraw hother
  · rw [hfind] at hraw
    rw [hlines, afterAll_concat, hsame.logs]
    exact h.lines name raw hraw
  · rw [hfind] at hnone
    rw [hlines]
    exact h.silent name hnone

/-- The handle that is given out for a log that is open already is the one that it has. -/
theorem TracksLogs.reopened (h : first.TracksLogs acts) {other : String}
    {endpoint : LogEndpointHandle}
    (hresult : (exec (Host.logEndpointOpen other) (first.afterAll acts)).1 = .ok endpoint)
    (hfound : (first.afterAll acts).endpoints.find? other = some endpoint.raw)
    (hafter : (exec (Host.logEndpointOpen other) (first.afterAll acts)).2 =
      (first.afterAll acts).received .logEndpointOpen none) :
    first.TracksLogs (acts ++ [.request (.logEndpointOpen other)]) := by
  have hsame : first.afterAll (acts ++ [.request (.logEndpointOpen other)]) =
      (first.afterAll acts).received .logEndpointOpen none := (afterAll_concat ..).trans hafter
  have hlines : ∀ name, first.linesOf name (acts ++ [.request (.logEndpointOpen other)]) =
      first.linesOf name acts := fun name => (linesOf_concat ..).trans (List.append_nil _)
  refine ⟨fun name handle => ?_, fun name raw hraw => ?_, fun name another raw hraw hanother => ?_,
    fun name raw hraw => ?_, fun name hnone => ?_⟩
  · have hadded : handle ∈ (first.afterAll acts).opensLog name (.request (.logEndpointOpen other)) →
        (first.afterAll acts).endpoints.find? name = some handle.raw := by
      intro hm
      simp only [opensLog, hresult, answers] at hm
      by_cases hname : other = name
      · rw [if_pos hname, List.mem_singleton] at hm
        rw [← hname, hm, hfound]
      · rw [if_neg hname] at hm
        cases hm
    rw [endpointsOpened_concat, List.mem_append, hsame, h.endpoint]
    exact ⟨fun hm => hm.elim id hadded, .inl⟩
  · rw [hsame] at hraw ⊢
    exact h.issued name raw hraw
  · rw [hsame] at hraw hanother
    exact h.single name another raw hraw hanother
  · rw [hsame] at hraw ⊢
    rw [hlines]
    exact h.lines name raw hraw
  · rw [hsame] at hnone
    rw [hlines]
    exact h.silent name hnone

/-- A log that is opened first is empty, and has a fresh handle. -/
theorem TracksLogs.opened (h : first.TracksLogs acts) {other : String}
    (hresult : (exec (Host.logEndpointOpen other) (first.afterAll acts)).1 =
      .ok ⟨(first.afterAll acts).nextHandle⟩)
    (hnone : (first.afterAll acts).endpoints.find? other = none)
    (hafter : (exec (Host.logEndpointOpen other) (first.afterAll acts)).2 =
      { (first.afterAll acts).received .logEndpointOpen none with
        nextHandle := (first.afterAll acts).nextHandle + 1
        endpoints := (first.afterAll acts).endpoints.insert other (first.afterAll acts).nextHandle
        logs := (first.afterAll acts).logs.insert (first.afterAll acts).nextHandle [] })
    (hlt : (first.afterAll acts).nextHandle < (first.afterAll acts).nextHandle + 1) :
    first.TracksLogs (acts ++ [.request (.logEndpointOpen other)]) := by
  have hlater := (first.afterAll_concat acts (.request (.logEndpointOpen other))).trans hafter
  have hfind : ∀ name,
    (first.afterAll (acts ++ [.request (.logEndpointOpen other)])).endpoints.find?
      name = if name = other then some (first.afterAll acts).nextHandle
        else (first.afterAll acts).endpoints.find? name := by
    intro name
    rw [hlater]
    exact Table.find?_insert _ _ _ _
  have hlog : ∀ raw, (first.afterAll (acts ++ [.request (.logEndpointOpen other)])).logs.find? raw =
      if raw = (first.afterAll acts).nextHandle then some []
      else (first.afterAll acts).logs.find? raw := by
    intro raw
    rw [hlater]
    exact Table.find?_insert _ _ _ _
  have hlines : ∀ name, first.linesOf name (acts ++ [.request (.logEndpointOpen other)]) =
      first.linesOf name acts := fun name => (linesOf_concat ..).trans (List.append_nil _)
  -- The numbers of the logs that there were are not the new one.
  have hold : ∀ {name raw}, (first.afterAll acts).endpoints.find? name = some raw →
      raw ≠ (first.afterAll acts).nextHandle := fun hraw => UInt32.ne_of_lt (h.issued _ _ hraw)
  refine ⟨fun name handle => ?_, fun name raw hraw => ?_, fun name another raw hraw hanother => ?_,
    fun name raw hraw => ?_, fun name hnever => ?_⟩
  · rw [endpointsOpened_concat, List.mem_append, hfind, h.endpoint]
    simp only [opensLog, hresult, answers]
    by_cases hname : name = other
    · subst hname
      rw [if_pos rfl, if_pos rfl, hnone, List.mem_singleton, Option.some.injEq]
      constructor
      · rintro (hm | rfl)
        · cases hm
        · rfl
      · intro hraw
        exact .inr (congrArg Handle.mk hraw.symm)
    · rw [if_neg hname, if_neg fun he => hname he.symm]
      simp
  · rw [hlater]
    rw [hfind] at hraw
    split at hraw
    · cases hraw
      exact hlt
    · exact UInt32.lt_trans (h.issued name raw hraw) hlt
  · rw [hfind] at hraw hanother
    split at hraw
    · next hname =>
      cases hraw
      split at hanother
      · next hname' => exact hname.trans hname'.symm
      · exact absurd rfl (hold hanother)
    · split at hanother
      · cases hanother
        exact absurd rfl (hold hraw)
      · exact h.single name another raw hraw hanother
  · rw [hfind] at hraw
    rw [hlog, hlines]
    split at hraw
    · next hname =>
      cases hraw
      rw [if_pos rfl, h.silent name (hname ▸ hnone)]
    · rw [if_neg (hold hraw)]
      exact h.lines name raw hraw
  · rw [hfind] at hnever
    rw [hlines]
    split at hnever
    · cases hnever
    · exact h.silent name hnever

/-- What is written through a handle of a log comes last in that log, and in no other. -/
theorem TracksLogs.written (h : first.TracksLogs acts) {endpoint : LogEndpointHandle}
    {message : String}
    (hresult : (exec (Host.logWrite endpoint message) (first.afterAll acts)).1 = .ok ()) :
    first.TracksLogs (acts ++ [.request (.logWrite endpoint message)]) := by
  obtain ⟨before, hbefore, hafter⟩ := exec_logWrite_ok hresult
  have hlater := (first.afterAll_concat acts (.request (.logWrite endpoint message))).trans hafter
  have hlog : ∀ raw, (first.afterAll (acts ++ [.request (.logWrite endpoint message)])).logs.find?
    raw = if raw = endpoint.raw then some (before ++ [message])
      else (first.afterAll acts).logs.find? raw := by
    intro raw
    rw [hlater]
    exact Table.find?_insert _ _ _ _
  have hlines : ∀ name, first.linesOf name (acts ++ [.request (.logWrite endpoint message)]) =
      first.linesOf name acts ++
        if (first.afterAll acts).endpoints.find? name = some endpoint.raw
          then [message] else [] := by
    intro name
    rw [linesOf_concat]
    by_cases hm : endpoint ∈ first.endpointsOpened name acts
    · simp [wrote, hm, hresult, answers, (h.endpoint name endpoint).mp hm]
    · have hnot : ¬ (first.afterAll acts).endpoints.find? name = some endpoint.raw := fun he =>
        hm ((h.endpoint name endpoint).mpr he)
      simp [wrote, hm, hnot]
  refine ⟨fun name handle => ?_, fun name raw hraw => ?_, fun name other raw hraw hother => ?_,
    fun name raw hraw => ?_, fun name hnone => ?_⟩
  · rw [endpointsOpened_concat, hlater]
    exact (List.append_nil _).symm ▸ h.endpoint name handle
  · rw [hlater] at hraw ⊢
    exact h.issued name raw hraw
  · rw [hlater] at hraw hother
    exact h.single name other raw hraw hother
  · rw [hlater] at hraw
    have hraw : (first.afterAll acts).endpoints.find? name = some raw := hraw
    have hwas := h.lines name raw hraw
    rw [hlog, hlines, hraw]
    by_cases he : raw = endpoint.raw
    · subst he
      cases hbefore.symm.trans hwas
      rw [if_pos rfl, if_pos rfl]
    · rw [if_neg he, if_neg fun hsome => he (Option.some.inj hsome), List.append_nil]
      exact hwas
  · rw [hlater] at hnone
    have hnone : (first.afterAll acts).endpoints.find? name = none := hnone
    rw [hlines, hnone, if_neg (fun he => by cases he), List.append_nil]
    exact h.silent name hnone

/-- One act on a host keeps its logs on track. -/
theorem TracksLogs.concat (h : first.TracksLogs acts) (act : Act)
    (hroom : (first.afterAll acts).nextHandle.toNat + (first.afterAll acts).takesUp act < 2 ^ 32) :
    first.TracksLogs (acts ++ [act]) := by
  have hnext := (first.afterAll acts).toNat_nextHandle_after act hroom
  have hle : (first.afterAll acts).nextHandle ≤ ((first.afterAll acts).after act).nextHandle :=
    UInt32.le_iff_toNat_le.mpr (by omega)
  by_cases hconcerns : act.concernsLogs = false
  · refine h.of_same hle (((first.afterAll acts).sameStores_and_sameLogs act).2 hconcerns) ?_ ?_
    · intro name
      unfold opensLog
      split
      · cases hconcerns
      · rfl
    · intro opened
      unfold wrote
      split
      · cases hconcerns
      · rfl
  unfold Act.concernsLogs at hconcerns
  split at hconcerns
  · next other =>
    cases hresult : (exec (Host.logEndpointOpen other) (first.afterAll acts)).1 with
    | error error =>
      have hsame := sameResources_of_error
        (show (exec (HostRequest.logEndpointOpen other).perform _).1 = _ from hresult)
      refine h.of_same hle ⟨hsame.endpoints, hsame.logs⟩ (fun name => ?_) fun _ => rfl
      simp [opensLog, hresult, answers]
    | ok endpoint =>
      rcases exec_logEndpointOpen_ok hresult with ⟨hfound, hafter⟩ | ⟨hnone, rfl, hafter⟩
      · exact h.reopened hresult hfound hafter
      · refine h.opened hresult hnone hafter (UInt32.lt_of_le_of_ne ?_ (by simp))
        rwa [show (first.afterAll acts).after (.request (.logEndpointOpen other)) =
          _ from hafter] at hle
  · next endpoint message =>
    cases hresult : (exec (Host.logWrite endpoint message) (first.afterAll acts)).1 with
    | error error =>
      have hsame := sameResources_of_error
        (show (exec (HostRequest.logWrite endpoint message).perform _).1 = _ from hresult)
      refine h.of_same hle ⟨hsame.endpoints, hsame.logs⟩ (fun _ => rfl) fun opened => ?_
      simp [wrote, hresult, answers]
    | ok done => exact h.written hresult
  · exact absurd rfl hconcerns

end NamesPipe

end MemoryHost

end EdgeStreams
