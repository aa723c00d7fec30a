import EdgeStreams.Proofs.Host.Told

/-!
# What handles share

One counter numbers the handles of all kinds, names lead to resources and handles lead to names.
None of this mixes anything up: a fresh handle names nothing else, a call on a body changes no other
body, a copy of an object is the copier's own, and whoever opens a log of the same name writes to
the same log.

## Main definitions

- `MemoryHost.TouchesBodies`: what an act may do to the table of bodies
- `MemoryHost.HasCopy`: a complete body with what has been copied to it
- `MemoryHost.KeepsApart`: handles are fresh, copies are copies, and logs are shared

## Main statements

- `MemoryHost.touchesBodies`: every act does one of these things to the table of bodies
- `MemoryHost.HasCopy.afterAll`: a complete body keeps what it has
- `MemoryHost.tracks`: names lead to what the history tells of them
- `MemoryHost.handles_keep_apart`: after every history nothing is mixed up
-/

namespace EdgeStreams.MemoryHost

/-! ### Bodies -/

section Bodies

/-- What an act may do to the table of bodies: put a new one under the next handle, or replace or
take out bodies that it names. A body that is complete keeps its content. -/
inductive TouchesBodies (host : MemoryHost) (act : Act) : Table UInt32 MemoryBody → Prop
  | same : TouchesBodies host act host.bodies
  | made (body : MemoryBody) : TouchesBodies host act (host.bodies.insert host.nextHandle body)
  | put {request : HostRequest} {handle : BodyHandle} {old new : MemoryBody} :
    act = .request request → handle ∈ request.bodies → host.bodies.find? handle.raw = some old →
      (old.state ≠ .opened → new.state ≠ .opened ∧ new.contents = old.contents) →
        TouchesBodies host act (host.bodies.insert handle.raw new)
  | taken {request : HostRequest} {handle : BodyHandle} :
    act = .request request → handle ∈ request.bodies →
      TouchesBodies host act (host.bodies.erase handle.raw)
  | moved {request : HostRequest} {destination source : BodyHandle} {old new : MemoryBody} :
    act = .request request → destination ∈ request.bodies → source ∈ request.bodies →
      host.bodies.find? destination.raw = some old → old.state = .opened →
        TouchesBodies host act ((host.bodies.erase source.raw).insert destination.raw new)

variable {host : MemoryHost} {act : Act} {handle : BodyHandle}

/-- Every act does one of the things to the table of bodies that may be done to it. -/
theorem touchesBodies (host : MemoryHost) (act : Act) :
    host.TouchesBodies act (host.after act).bodies := by
  have hsame : (host.after act).bodies = host.bodies →
      host.TouchesBodies act (host.after act).bodies := fun h => h ▸ .same
  cases act with
  | addBody data => exact .made _
  | addDictionary | addObjectStore | failNext | failAlways | clearFailures | clearCalls
  | setChunkSize => exact .same
  | request request =>
    cases hresult : (exec request.perform host).1 with
    | error error => exact hsame (sameResources_of_error hresult).bodies
    | ok answer =>
      cases request with
      | dictionaryOpen | dictionaryGet | logEndpointOpen | logWrite | objectStoreOpen =>
        refine hsame ?_
        simp only [after, HostRequest.perform, Host.dictionaryOpen, Host.dictionaryGet,
          Host.logEndpointOpen, Host.logWrite, Host.objectStoreOpen, exec_bind, exec_receive,
          exec_get, exec_require]
        repeat' first | rfl | split
      | bodyNew =>
        have hafter : host.after (.request .bodyNew) = _ := (exec_bodyNew_ok hresult).2
        rw [hafter]
        exact .made _
      | objectStoreLookup store key =>
        have hafter : host.after (.request (.objectStoreLookup store key)) = _ :=
          (exec_objectStoreLookup_ok hresult).2
        rw [hafter]
        exact .made _
      | bodyRead body limit =>
        obtain ⟨found, hfind, -, -, hafter⟩ := exec_bodyRead_ok hresult
        rw [show host.after (.request (.bodyRead body limit)) = _ from hafter]
        exact .put rfl (List.mem_singleton.mpr rfl) hfind fun hstate => ⟨hstate, rfl⟩
      | bodyWrite body chunk =>
        obtain ⟨found, hfind, hopen, hafter⟩ := exec_bodyWrite_ok hresult
        rw [show host.after (.request (.bodyWrite body chunk)) = _ from hafter]
        exact .put rfl (List.mem_singleton.mpr rfl) hfind fun hstate => absurd hopen hstate
      | bodyClose body =>
        obtain ⟨found, hfind, hopen, hafter⟩ := exec_bodyClose_ok hresult
        rw [show host.after (.request (.bodyClose body)) = _ from hafter]
        exact .put rfl (List.mem_singleton.mpr rfl) hfind fun hstate => absurd hopen hstate
      | bodyAbandon body =>
        obtain ⟨found, hfind, -, hafter⟩ := exec_bodyAbandon_ok hresult
        rw [show host.after (.request (.bodyAbandon body)) = _ from hafter]
        exact .put rfl (List.mem_singleton.mpr rfl) hfind fun _ => ⟨fun h => (by cases h), rfl⟩
      | bodyAppend destination source =>
        obtain ⟨body, other, -, hfind, hopen, -, -, hafter⟩ := exec_bodyAppend_ok hresult
        rw [show host.after (.request (.bodyAppend destination source)) = _ from hafter]
        exact .moved rfl (by simp [HostRequest.bodies]) (by simp [HostRequest.bodies]) hfind hopen
      | objectStoreInsert store key body =>
        obtain ⟨name, found, -, -, -, hafter⟩ := exec_objectStoreInsert_ok hresult
        rw [show host.after (.request (.objectStoreInsert store key body)) = _ from hafter]
        exact .taken rfl (List.mem_singleton.mpr rfl)

/-- A body that an act does not name stays as it is. -/
theorem find?_after_of_not_named (hissued : handle.raw ≠ host.nextHandle)
    (hnamed : ∀ request, act = .request request → handle ∉ request.bodies) :
    (host.after act).bodies.find? handle.raw = host.bodies.find? handle.raw := by
  have hother : ∀ {request : HostRequest} {other : BodyHandle}, act = .request request →
      other ∈ request.bodies → handle.raw ≠ other.raw := by
    intro request other hact hm hraw
    rw [show other = handle from congrArg Handle.mk hraw.symm] at hm
    exact hnamed request hact hm
  have htouches := host.touchesBodies act
  generalize (host.after act).bodies = bodies at htouches ⊢
  cases htouches with
  | same => rfl
  | made body => exact Table.find?_insert_of_ne _ _ hissued
  | put hact hm => exact Table.find?_insert_of_ne _ _ (hother hact hm)
  | taken hact hm => exact Table.find?_erase_of_ne _ (hother hact hm)
  | moved hact hdestination hsource =>
    rw [Table.find?_insert_of_ne _ _ (hother hact hdestination),
      Table.find?_erase_of_ne _ (hother hact hsource)]

/-- Some data has been copied to a body, which is complete: the body has the data, or it is gone. -/
structure HasCopy (host : MemoryHost) (handle : BodyHandle) (data : Bytes) : Prop where
  issued : handle.raw < host.nextHandle
  content : ∀ body, host.bodies.find? handle.raw = some body →
    body.state ≠ .opened ∧ body.contents.toList = data

/-- Whatever is done, a complete body keeps what it has. -/
theorem HasCopy.after {data : Bytes} (h : host.HasCopy handle data)
    (hroom : host.nextHandle.toNat + host.takesUp act < 2 ^ 32) :
    (host.after act).HasCopy handle data := by
  have hissued := UInt32.lt_iff_toNat_lt.mp h.issued
  have hnext := host.toNat_nextHandle_after act hroom
  refine ⟨UInt32.lt_iff_toNat_lt.mpr (by omega), fun body hbody => ?_⟩
  have htouches := host.touchesBodies act
  generalize (host.after act).bodies = bodies at hbody htouches
  cases htouches with
  | same => exact h.content body hbody
  | made new =>
    -- the next handle is not one that has been given out
    rw [Table.find?_insert_of_ne _ _ (UInt32.ne_of_lt h.issued)] at hbody
    exact h.content body hbody
  | @put request other old new hact hm hfind hkeeps =>
    rw [Table.find?_insert] at hbody
    split at hbody
    · next hraw =>
      cases hbody
      obtain ⟨hstate, hcontents⟩ := h.content old (hraw ▸ hfind)
      obtain ⟨hstate', hcontents'⟩ := hkeeps hstate
      exact ⟨hstate', hcontents' ▸ hcontents⟩
    · exact h.content body hbody
  | taken hact hm =>
    rw [Table.find?_erase] at hbody
    split at hbody
    · cases hbody
    · exact h.content body hbody
  | @moved request destination source old new hact hdestination hsource hfind hopen =>
    rw [Table.find?_insert, Table.find?_erase] at hbody
    split at hbody
    · next hraw => exact absurd hopen (h.content old (hraw ▸ hfind)).1
    · split at hbody
      · cases hbody
      · exact h.content body hbody

/-- By induction on the acts. -/
theorem HasCopy.afterAll {data : Bytes} (h : host.HasCopy handle data) (acts : List Act)
    (hroom : host.nextHandle.toNat + host.allocations acts < 2 ^ 32) :
    (host.afterAll acts).HasCopy handle data := by
  induction acts generalizing host with
  | nil => exact h
  | cons act acts ih =>
    rw [allocations] at hroom
    have hnext := host.toNat_nextHandle_after act (by omega)
    exact ih (h.after (by omega)) (by omega)

/-- What no act names stays as it is. By induction on the acts. -/
theorem find?_afterAll_of_not_named (hissued : handle.raw < host.nextHandle) (acts : List Act)
    (hnamed : ∀ request, .request request ∈ acts → handle ∉ HostRequest.bodies request)
    (hroom : host.nextHandle.toNat + host.allocations acts < 2 ^ 32) :
    (host.afterAll acts).bodies.find? handle.raw = host.bodies.find? handle.raw := by
  induction acts generalizing host with
  | nil => rfl
  | cons act acts ih =>
    rw [allocations] at hroom
    have hnext := host.toNat_nextHandle_after act (by omega)
    have hone : (host.after act).bodies.find? handle.raw = host.bodies.find? handle.raw := by
      refine find?_after_of_not_named (UInt32.ne_of_lt hissued) fun request hact => ?_
      exact hnamed request (hact ▸ List.mem_cons_self)
    rw [UInt32.lt_iff_toNat_lt] at hissued
    rw [afterAll_cons, ih (UInt32.lt_iff_toNat_lt.mpr (by omega))
      (fun request hm => hnamed request (List.mem_cons_of_mem _ hm)) (by omega), hone]

end Bodies

/-! ### Fresh handles -/

section Fresh

variable {host : MemoryHost} {act : Act}

/-- The number of an act's handle is the next one, unless a log is opened. -/
theorem eq_nextHandle_of_given (hlog : ∀ name, act ≠ .request (.logEndpointOpen name))
    {raw : UInt32} (h : raw ∈ host.given act) : raw = host.nextHandle ∧ host.takesUp act = 1 := by
  have htakes : (host.after act).nextHandle = host.nextHandle + 1 → host.takesUp act = 1 := by
    intro hnext
    refine if_neg fun he => ?_
    rw [hnext] at he
    exact absurd he (by simp)
  have hanswer : ∀ {kind : HandleKind} {result : Except HostError (Handle kind)},
      raw ∈ answered result → ∃ handle, result = .ok handle ∧ raw = handle.raw := by
    intro kind result hm
    cases result with
    | ok handle => exact ⟨handle, rfl, List.mem_singleton.mp hm⟩
    | error error => cases hm
  cases act with
  | addBody data => exact ⟨List.mem_singleton.mp h, htakes rfl⟩
  | addDictionary | addObjectStore | failNext | failAlways | clearFailures | clearCalls
  | setChunkSize => cases h
  | request request =>
    cases request with
    | logEndpointOpen name => exact absurd rfl (hlog name)
    | dictionaryOpen name =>
      obtain ⟨dictionary, hresult, rfl⟩ := hanswer h
      obtain ⟨rfl, hnext⟩ := exec_dictionaryOpen_ok hresult
      exact ⟨rfl, htakes hnext⟩
    | objectStoreOpen name =>
      obtain ⟨store, hresult, rfl⟩ := hanswer h
      obtain ⟨rfl, hafter⟩ := exec_objectStoreOpen_ok hresult
      exact ⟨rfl, htakes (congrArg nextHandle hafter)⟩
    | bodyNew =>
      obtain ⟨made, hresult, rfl⟩ := hanswer h
      obtain ⟨rfl, hafter⟩ := exec_bodyNew_ok hresult
      exact ⟨rfl, htakes (congrArg nextHandle hafter)⟩
    | objectStoreLookup store key =>
      obtain ⟨made, hresult, rfl⟩ := hanswer h
      obtain ⟨rfl, hafter⟩ := exec_objectStoreLookup_ok hresult
      exact ⟨rfl, htakes (congrArg nextHandle hafter)⟩
    | dictionaryGet | logWrite | bodyRead | bodyWrite | bodyAppend | bodyClose | bodyAbandon
    | objectStoreInsert => cases h

/-- What an act gives out joins what has been given out. -/
theorem Numbered.after {issued : List UInt32} (h : host.Numbered issued)
    (hroom : host.nextHandle.toNat + host.takesUp act < 2 ^ 32) :
    (host.after act).Numbered (issued ++ host.given act) := by
  have hnext := host.toNat_nextHandle_after act hroom
  have hle : host.nextHandle ≤ (host.after act).nextHandle :=
    UInt32.le_iff_toNat_le.mpr (by omega)
  -- The order of the numbers makes no difference.
  have hacts : host.Acts (host.given act) (host.after act) →
      (host.after act).Numbered (issued ++ host.given act) := by
    intro hact
    have hnumbered := h.acts hact hle
    refine ⟨fun raw hraw => hnumbered.issued raw ?_, hnumbered.bodies, hnumbered.endpoints,
      hnumbered.chunkSize⟩
    rw [List.mem_append] at hraw ⊢
    exact hraw.symm
  cases act with
  | setChunkSize size =>
    refine ⟨fun raw hraw => h.issued raw ?_, h.bodies, h.endpoints, UInt64.max_one_pos size⟩
    simpa [given] using hraw
  | request | addBody | addDictionary | addObjectStore | failNext | failAlways | clearFailures
  | clearCalls => exact hacts (host.acts_after _ nofun)

end Fresh

/-! ### Everything together -/

/-- What names lead to, and the handles that have been given out, are what a history tells. -/
structure Tracks (first : MemoryHost) (acts : List Act) : Prop where
  stores : first.TracksStores acts
  logs : first.TracksLogs acts
  numbered : (first.afterAll acts).Numbered (first.handlesOf acts)

/-- Names lead to what the history tells of them. By induction on the acts from the last one. -/
theorem tracks (size : UInt64) (acts : List Act)
    (hroom : 1 + (withChunkSize size).allocations acts < 2 ^ 32) :
    (withChunkSize size).Tracks acts := by
  induction acts using List.reverseRecOn with
  | nil => exact ⟨tracksStores_nil size, tracksLogs_nil size, .withChunkSize size⟩
  | append_singleton acts act ih =>
    rw [allocations_append, allocations, allocations, Nat.add_zero] at hroom
    obtain ⟨hstores, hlogs, hnumbered⟩ := ih (by omega)
    have hnext := (withChunkSize size).toNat_nextHandle_afterAll acts
      (show 1 + _ < 2 ^ 32 by omega)
    have hone : (withChunkSize size).nextHandle.toNat = 1 := rfl
    refine ⟨hstores.concat act (by omega), hlogs.concat act (by omega), ?_⟩
    rw [handlesOf_concat, afterAll_concat]
    exact hnumbered.after (by omega)

/-- What is found in a store is copied to a body of its own, which keeps it. -/
theorem copy_lasts {host : MemoryHost} {store : ObjectStoreHandle} {key : String}
    {made : BodyHandle} (h : (exec (Host.objectStoreLookup store key) host).1 = .ok made)
    (later : List Act) (hroom : host.nextHandle.toNat +
      (host.takesUp (.request (.objectStoreLookup store key)) +
      (host.after (.request (.objectStoreLookup store key))).allocations later) < 2 ^ 32) :
    ∃ name data, host.openStores.find? store.raw = some name ∧ host.object? name key = some data ∧
      (∀ body, ((host.after (.request (.objectStoreLookup store key))).afterAll later).bodies.find?
        made.raw = some body → body.contents.toList = data) ∧
      ((∀ request, .request request ∈ later → made ∉ HostRequest.bodies request) →
        ((host.after (.request (.objectStoreLookup store key))).afterAll later).bodies.find?
          made.raw = some (.readable data)) := by
  obtain ⟨name, data, hopen, hdata, hstored⟩ := exec_objectStoreLookup_found h
  obtain ⟨rfl, hafter⟩ := exec_objectStoreLookup_ok h
  rw [hstored] at hafter
  refine ⟨name, data, hopen, hdata, ?_⟩
  have hgiven : host.nextHandle ∈ host.given (.request (.objectStoreLookup store key)) := by
    simp [given, h, answered]
  obtain ⟨-, htakes⟩ := eq_nextHandle_of_given (fun _ h => by cases h) hgiven
  have hnext := host.toNat_nextHandle_after (.request (.objectStoreLookup store key)) (by omega)
  have hfind : (host.after (.request (.objectStoreLookup store key))).bodies.find? host.nextHandle =
      some (.readable data) := by
    rw [show host.after (.request (.objectStoreLookup store key)) = _ from hafter]
    exact Table.find?_insert_self _ _ _
  generalize host.after (.request (.objectStoreLookup store key)) = copied at hroom hnext hfind ⊢
  have hissued : host.nextHandle < copied.nextHandle := UInt32.lt_iff_toNat_lt.mpr (by omega)
  refine ⟨fun body hbody => ?_, fun hnamed => ?_⟩
  · have hcopy : copied.HasCopy ⟨host.nextHandle⟩ data := by
      refine ⟨hissued, fun copy hcopy => ?_⟩
      cases hfind.symm.trans hcopy
      exact ⟨fun h => (by cases h), by simp [MemoryBody.readable]⟩
    exact ((hcopy.afterAll later (by omega)).content body hbody).2
  · rw [find?_afterAll_of_not_named hissued later hnamed (by omega), hfind]

/-- After some acts on a host, nothing is mixed up. -/
structure KeepsApart (first : MemoryHost) (acts : List Act) : Prop where
  /-- A handle that is given out is not the one that stands for none, and unless it is for a log it
  has never been given out before, for whatever kind of resource. -/
  fresh : ∀ earlier act later, acts = earlier ++ act :: later →
    (∀ name, act ≠ .request (.logEndpointOpen name)) →
      ∀ raw ∈ (first.afterAll earlier).given act,
        raw ∉ first.handlesOf earlier ∧ raw ≠ Handle.invalidRaw
  /-- An act leaves every body alone that it does not name. -/
  others : ∀ earlier act later, acts = earlier ++ act :: later → ∀ (handle : BodyHandle) body,
    (first.afterAll earlier).bodies.find? handle.raw = some body →
      (∀ request, act = .request request → handle ∉ request.bodies) →
        ((first.afterAll earlier).after act).bodies.find? handle.raw = some body
  /-- What is found through a handle of a store is what has last been put under the key. The body
  that is made has this content whatever is done afterwards, for as long as it is there; and it is
  there, with nothing read, until a call names it. -/
  copied : ∀ earlier store key later, acts = earlier ++ .request
    (.objectStoreLookup store key) :: later →
    ∀ name, store ∈ first.storesOpened name earlier →
      ∀ made, (exec (Host.objectStoreLookup store key) (first.afterAll earlier)).1 = .ok made →
        ∃ data, first.valueOf name key earlier = some data ∧
          (∀ body, (first.afterAll acts).bodies.find? made.raw = some body →
            body.contents.toList = data) ∧
          ((∀ request, .request request ∈ later → made ∉ HostRequest.bodies request) →
            (first.afterAll acts).bodies.find? made.raw = some (.readable data))
  /-- All handles of a log are one, and it is a handle of no other log. -/
  shared : ∀ name other endpoint endpoint', endpoint ∈ first.endpointsOpened name acts →
    endpoint' ∈ first.endpointsOpened other acts → (name = other ↔ endpoint = endpoint')
  /-- A log has what has been written to it through its handles, in the order of the calls. -/
  lines : ∀ name, (first.afterAll acts).logLines name = first.linesOf name acts
  /-- What is written through a handle of a log is not refused, unless a fault is set for that. -/
  written : ∀ name endpoint message, endpoint ∈ first.endpointsOpened name acts →
    ((first.afterAll acts).faults.take .logWrite).1 = none →
      (exec (Host.logWrite endpoint message) (first.afterAll acts)).1 = .ok ()

/-- Whatever is done with a host of whatever chunk size, its handles keep apart what is apart, and
share what is shared. -/
theorem handles_keep_apart (size : UInt64) (acts : List Act)
    (hroom : (withChunkSize size).allocations acts < 2 ^ 32 - 2) :
    (withChunkSize size).KeepsApart acts := by
  have hone : (withChunkSize size).nextHandle.toNat = 1 := rfl
  have htracks := tracks size acts (by omega)
  -- Whatever holds after a history holds at each of its moments.
  have hcut : ∀ {earlier act later}, acts = earlier ++ act :: later →
      (withChunkSize size).allocations earlier +
        (((withChunkSize size).afterAll earlier).takesUp act +
          (((withChunkSize size).afterAll earlier).after act).allocations later) < 2 ^ 32 - 2 := by
    intro earlier act later he
    rwa [he, allocations_append, allocations] at hroom
  refine ⟨?_, ?_, ?_, ?_, ?_, ?_⟩
  · intro earlier act later he hlog raw hraw
    have hcut := hcut he
    have hnext := (withChunkSize size).toNat_nextHandle_afterAll earlier (by omega)
    obtain ⟨rfl, htakes⟩ := eq_nextHandle_of_given hlog hraw
    refine ⟨fun hm => ?_, fun hinvalid => ?_⟩
    · have hlt := (tracks size earlier (by omega)).numbered.issued _ hm
      exact absurd rfl (UInt32.ne_of_lt hlt)
    · have hnumber : ((withChunkSize size).afterAll earlier).nextHandle.toNat = 2 ^ 32 - 2 := by
        rw [hinvalid]
        rfl
      omega
  · intro earlier act later he handle body hbody hnamed
    have hcut := hcut he
    have hissued := (tracks size earlier (by omega)).numbered.bodies handle.raw (by simp [hbody])
    rw [find?_after_of_not_named (UInt32.ne_of_lt hissued) hnamed, hbody]
  · intro earlier store key later he name hstore made hmade
    have hcut := hcut he
    have hnext := (withChunkSize size).toNat_nextHandle_afterAll earlier (by omega)
    have hthen := (tracks size earlier (by omega)).stores
    obtain ⟨other, data, hopen, hdata, hcontent, hkept⟩ :=
      copy_lasts hmade later (by omega)
    cases ((hthen.store name store).mp hstore).symm.trans hopen
    rw [he, afterAll_append, afterAll_cons]
    exact ⟨data, (hthen.value name key).symm.trans hdata, hcontent, hkept⟩
  · intro name other endpoint endpoint' hm hm'
    rw [htracks.logs.endpoint] at hm hm'
    constructor
    · rintro rfl
      exact congrArg Handle.mk (Option.some.inj (hm.symm.trans hm'))
    · rintro rfl
      exact htracks.logs.single name other _ hm hm'
  · intro name
    unfold logLines
    cases hfind : ((withChunkSize size).afterAll acts).endpoints.find? name with
    | none => exact (htracks.logs.silent name hfind).symm
    | some raw => rw [Option.bind_some, htracks.logs.lines name raw hfind, Option.getD_some]
  · intro name endpoint message hm hfault
    have hlog := htracks.logs.lines name endpoint.raw ((htracks.logs.endpoint name endpoint).mp hm)
    refine (congrArg Prod.fst (exec_receive_bind hfault _)).trans ?_
    generalize (withChunkSize size).afterAll acts = host at hlog
    have hreceived : (host.received .logWrite endpoint.erase).logs.find? endpoint.raw = _ := hlog
    simp only [exec_bind, exec_get, exec_require, hreceived, exec_set]

/-- A store and a log are opened twice each. An object is replaced through one handle and found
through the other one, and each of the log's messages is written through another handle. -/
def sharingActs : List Act :=
  [.addObjectStore "store" [("key", [1])], .request (.objectStoreOpen "store"),
    .request (.objectStoreOpen "store"), .addBody [2, 3],
    .request (.objectStoreInsert ⟨2⟩ "key" ⟨3⟩), .request (.objectStoreLookup ⟨1⟩ "key"),
    .request (.logEndpointOpen "log"), .request (.logWrite ⟨5⟩ "first"),
    .request (.logEndpointOpen "log"), .request (.logWrite ⟨5⟩ "second")]

theorem handles_keep_apart_opened_twice :
    (withChunkSize 2).handlesOf sharingActs = [1, 2, 3, 4, 5, 5] ∧
      (withChunkSize 2).valueOf "store" "key" sharingActs = some [2, 3] ∧
      ((withChunkSize 2).afterAll sharingActs).bodies.find? 4 = some (.readable [2, 3]) ∧
      (withChunkSize 2).linesOf "log" sharingActs = ["first", "second"] ∧
      (withChunkSize 2).KeepsApart sharingActs :=
  ⟨by decide +kernel, by decide +kernel, by decide +kernel, by decide +kernel,
    handles_keep_apart 2 sharingActs (by decide +kernel)⟩

end EdgeStreams.MemoryHost
