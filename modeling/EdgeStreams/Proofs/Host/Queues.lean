import EdgeStreams.Proofs.Host.Calls
import EdgeStreams.Proofs.Host.Histories

/-!
# Host bodies are queues

A body of a host in memory is a queue of octets: it can only be appended to, and it is read from
front to back. Once it has been given up, or moved into another body or an object store, every call
that names it fails.

## Main definitions

- `BodyPast`: what a body was made with, what has been appended to it and what has been read from it
- `MemoryHost.past`, `MemoryHost.pastOf`: what an act, or a history, adds to that
- `MemoryHost.BodyTurn`: what an act may do to a body
- `MemoryHost.Act.Ends`: an act that ends a body

## Main statements

- `MemoryHost.turns`: every act does one of the things to a body that may be done to it
- `MemoryHost.bodies_are_queues`: the bodies of a host are queues
-/

namespace EdgeStreams

/-- What a body has been through, as it is seen from outside. -/
@[ext]
structure BodyPast where
  /-- What it was made with, for each time that it was made. -/
  made : List Bytes := []
  /-- What has been appended to it, in order. -/
  added : Bytes := []
  /-- What has been read from it, in order. -/
  taken : Bytes := []

namespace BodyPast

instance : Append BodyPast :=
  ⟨fun past later => ⟨past.made ++ later.made, past.added ++ later.added,
    past.taken ++ later.taken⟩⟩

variable (past between later : BodyPast)

@[simp] theorem made_append : (past ++ later).made = past.made ++ later.made := rfl

@[simp] theorem added_append : (past ++ later).added = past.added ++ later.added := rfl

@[simp] theorem taken_append : (past ++ later).taken = past.taken ++ later.taken := rfl

@[simp] theorem empty_append : ({} : BodyPast) ++ past = past := rfl

@[simp] theorem append_empty : past ++ ({} : BodyPast) = past :=
  BodyPast.ext (List.append_nil _) (List.append_nil _) (List.append_nil _)

theorem append_assoc : past ++ between ++ later = past ++ (between ++ later) :=
  BodyPast.ext (List.append_assoc ..) (List.append_assoc ..) (List.append_assoc ..)

/-- A body is what its past tells: it was made once, has what it was made with and what has been
appended since, and has been read from the front. -/
def Tells (past : BodyPast) (body : MemoryBody) : Prop :=
  ∃ initial, past.made = [initial] ∧ body.contents.toList = initial ++ past.added ∧
    past.taken = body.contents.toList.take body.position ∧ body.position ≤ body.contents.size

end BodyPast

namespace MemoryBody

variable (body : MemoryBody) (limit : Nat)

/-- A read begins where the last one has ended, and ends within the content. -/
theorem readEnd_le : body.readEnd limit ≤ body.contents.size := Nat.min_le_right _ _

theorem length_peek :
    (body.peek limit).length = min limit (body.contents.size - body.position) := by
  simp only [peek, readEnd, Array.length_toList, Array.size_extract]
  omega

/-- A read takes the first of what has not been read. -/
theorem peek_eq_take :
    body.peek limit =
      (body.contents.toList.drop body.position).take (body.peek limit).length := by
  refine List.prefix_iff_eq_take.mp ?_
  rw [peek, Array.toList_extract, List.extract_eq_take_drop]
  exact List.take_prefix _ _

/-- A read goes on with what has been read. -/
theorem take_append_peek (h : body.position ≤ body.contents.size) :
    body.contents.toList.take body.position ++ body.peek limit =
      body.contents.toList.take (body.readEnd limit) := by
  have hend : body.readEnd limit = body.position + (body.readEnd limit - body.position) := by
    unfold readEnd
    omega
  rw [peek, Array.toList_extract, List.extract_eq_take_drop]
  exact List.take_add.symm.trans (congrArg (List.take · body.contents.toList) hend.symm)

end MemoryBody

namespace BodyPast

variable {past : BodyPast} {body : MemoryBody}

theorem Tells.read (h : past.Tells body) (limit : Nat) :
    (past ++ { taken := body.peek limit } : BodyPast).Tells (body.advance limit) := by
  obtain ⟨initial, hmade, hcontents, htaken, hle⟩ := h
  refine ⟨initial, ?_, ?_, ?_, body.readEnd_le limit⟩
  · rw [made_append, hmade, List.append_nil]
  · rw [added_append, List.append_nil]
    exact hcontents
  · rw [taken_append, htaken]
    exact body.take_append_peek limit hle

theorem Tells.grow (h : past.Tells body) (chunk : Bytes) :
    (past ++ { added := chunk } : BodyPast).Tells (body.append chunk) := by
  obtain ⟨initial, hmade, hcontents, htaken, hle⟩ := h
  have hle' : body.position ≤ body.contents.toList.length := by rwa [Array.length_toList]
  refine ⟨initial, ?_, ?_, ?_, ?_⟩
  · rw [made_append, hmade, List.append_nil]
  · rw [MemoryBody.contents_append, hcontents, added_append, List.append_assoc]
  · rw [MemoryBody.contents_append, taken_append, List.append_nil, htaken]
    exact (List.take_append_of_le_length hle').symm
  · rw [← Array.length_toList, MemoryBody.contents_append, List.length_append]
    exact Nat.le_trans hle' (Nat.le_add_right _ _)

theorem tells_new (data : Bytes) (state : BodyState) :
    (({} : BodyPast) ++ { made := [data] } : BodyPast).Tells ⟨data.toArray, 0, state⟩ :=
  ⟨data, rfl, by simp, by simp, Nat.zero_le _⟩

end BodyPast

namespace MemoryHost

variable {host : MemoryHost} {handle : BodyHandle}

/-! ### Histories -/

/-- What a call that succeeds adds to the past of a body. -/
def onSuccess {α : Type} (past : α → BodyPast) : Except HostError α → BodyPast
  | .ok answer => past answer
  | .error _ => {}

/-- What a body has left to read. -/
def unreadOf (host : MemoryHost) (handle : BodyHandle) : Bytes :=
  ((host.bodies.find? handle.raw).map MemoryBody.unread).getD []

/-- What an act adds to the past of a body. -/
def past (host : MemoryHost) (handle : BodyHandle) : Act → BodyPast
  | .addBody data => if (host.addBody data).1 = handle then { made := [data] } else {}
  | .request .bodyNew =>
    onSuccess (fun made => if made = handle then { made := [[]] } else {})
      (exec (Host.bodyNew : HostCall MemoryHost BodyHandle) host).1
  | .request (.objectStoreLookup store key) =>
    onSuccess (fun made => if made = handle then { made := [host.stored store key] } else {})
      (exec (Host.objectStoreLookup store key) host).1
  | .request (.bodyRead body limit) =>
    onSuccess (fun data => if body = handle then { taken := data } else {})
      (exec (Host.bodyRead body limit) host).1
  | .request (.bodyWrite body chunk) =>
    onSuccess (fun _ => if body = handle then { added := chunk } else {})
      (exec (Host.bodyWrite body chunk) host).1
  | .request (.bodyAppend destination source) =>
    onSuccess (fun _ => if destination = handle then { added := host.unreadOf source } else {})
      (exec (Host.bodyAppend destination source) host).1
  | _ => {}

/-- What several acts add to the past of a body. -/
def pastOf (handle : BodyHandle) : MemoryHost → List Act → BodyPast
  | _, [] => {}
  | host, act :: acts => host.past handle act ++ (host.after act).pastOf handle acts

/-- What may happen to a body, with what that adds to its past. A body is made under a handle that
is `fresh` only. -/
inductive BodyTurn (fresh : Prop) : Option MemoryBody → BodyPast → Option MemoryBody → Prop
  | stays (found : Option MemoryBody) : BodyTurn fresh found {} found
  | made {found : Option MemoryBody} (data : Bytes) (state : BodyState) : fresh →
    BodyTurn fresh found { made := [data] } (some ⟨data.toArray, 0, state⟩)
  | read {body : MemoryBody} (limit : Nat) : body.state ≠ .abandoned →
    BodyTurn fresh (some body) { taken := body.peek limit } (some (body.advance limit))
  | growsTo {body : MemoryBody} (chunk : Bytes) : body.state = .opened →
    BodyTurn fresh (some body) { added := chunk } (some (body.append chunk))
  | shuts {body : MemoryBody} (state : BodyState) : body.state ≠ .abandoned →
    BodyTurn fresh (some body) {} (some { body with state })
  | goes {body : MemoryBody} : body.state ≠ .abandoned → BodyTurn fresh (some body) {} none

/-- An act does to a body one of the things that may happen to it. -/
def TurnsBody (host : MemoryHost) (handle : BodyHandle) (act : Act) : Prop :=
  BodyTurn (handle = ⟨host.nextHandle⟩ ∧ host.takesUp act = 1) (host.bodies.find? handle.raw)
    (host.past handle act) ((host.after act).bodies.find? handle.raw)

section TurnsBody

theorem TurnsBody.of_unchanged {act : Act} (hpast : host.past handle act = {})
    (hfind : (host.after act).bodies.find? handle.raw = host.bodies.find? handle.raw) :
    host.TurnsBody handle act := by
  rw [TurnsBody, hpast, hfind]
  exact .stays _

/-- A call that fails does nothing to any body. -/
theorem TurnsBody.of_error {request : HostRequest} {error : HostError}
    (h : (exec request.perform host).1 = .error error) :
    host.TurnsBody handle (.request request) := by
  have hsame := (failed_call_changes_nothing host request).2.2 error h
  refine .of_unchanged ?_ (congrArg (Table.find? · handle.raw) hsame.bodies)
  cases request with
  | bodyNew | bodyRead | bodyWrite | bodyAppend | objectStoreLookup =>
    exact congrArg (onSuccess _) h
  | _ => rfl

/-- A body is made under the next handle. -/
theorem TurnsBody.of_allocate {act : Act} {host' : MemoryHost} {data : Bytes} {state : BodyState}
    (hafter : host.after act = (host'.allocateBody ⟨data.toArray, 0, state⟩).2)
    (hnext : host'.nextHandle = host.nextHandle) (hbodies : host'.bodies = host.bodies)
    (hpast : host.past handle act =
      if (⟨host.nextHandle⟩ : BodyHandle) = handle then { made := [data] } else {}) :
    host.TurnsBody handle act := by
  have hfind : (host.after act).bodies.find? handle.raw =
      if handle.raw = host.nextHandle then some ⟨data.toArray, 0, state⟩
      else host.bodies.find? handle.raw := by
    rw [hafter, ← hnext, ← hbodies]
    exact Table.find?_insert _ _ _ _
  have htakes : host.takesUp act = 1 := by
    refine if_neg fun he => ?_
    rw [hafter, ← hnext] at he
    exact absurd he (by simp [allocateBody])
  by_cases hmade : (⟨host.nextHandle⟩ : BodyHandle) = handle
  · subst hmade
    rw [if_pos rfl] at hfind hpast
    rw [TurnsBody, hpast, hfind]
    exact .made _ _ ⟨rfl, htakes⟩
  · have hne : handle.raw ≠ host.nextHandle := fun he => hmade (by rw [← he])
    rw [if_neg hmade] at hpast
    rw [if_neg hne] at hfind
    exact .of_unchanged hpast hfind

/-- One body is replaced. -/
theorem TurnsBody.of_putBody {request : HostRequest} {host' : MemoryHost} {body : BodyHandle}
    {old new : MemoryBody} {past : BodyPast}
    (hafter : (exec request.perform host).2.bodies = (host'.putBody body new).bodies)
    (hbodies : host'.bodies.find? handle.raw = host.bodies.find? handle.raw)
    (hfind : host.bodies.find? body.raw = some old)
    (hpast : host.past handle (.request request) = if body = handle then past else {})
    (hturn : ∀ {fresh}, BodyTurn fresh (some old) past (some new)) :
    host.TurnsBody handle (.request request) := by
  have hlater : (host.after (.request request)).bodies.find? handle.raw =
      if handle.raw = body.raw then some new else host.bodies.find? handle.raw := by
    change (exec request.perform host).2.bodies.find? handle.raw = _
    rw [hafter, find?_putBody, hbodies]
  by_cases hbody : body = handle
  · subst hbody
    rw [if_pos rfl] at hlater hpast
    rw [TurnsBody, hpast, hlater, hfind]
    exact hturn
  · have hne : handle.raw ≠ body.raw := fun he => hbody (congrArg Handle.mk he.symm)
    rw [if_neg hbody] at hpast
    rw [if_neg hne] at hlater
    exact .of_unchanged hpast hlater

end TurnsBody

/-- Every act does one of the things to a body that may happen to it. -/
theorem turns (host : MemoryHost) (handle : BodyHandle) (act : Act) :
    host.TurnsBody handle act := by
  cases act with
  | addBody data =>
    have hafter : host.after (.addBody data) = (host.allocateBody (.readable data)).2 := rfl
    exact .of_allocate hafter rfl rfl rfl
  | addDictionary | addObjectStore | failNext | failAlways | clearFailures | clearCalls
  | setChunkSize => exact .of_unchanged rfl rfl
  | request request =>
    cases hresult : (exec request.perform host).1 with
    | error error => exact .of_error hresult
    | ok answer =>
      cases request with
      | dictionaryOpen | dictionaryGet | logEndpointOpen | logWrite | objectStoreOpen =>
        refine .of_unchanged rfl (congrArg (Table.find? · handle.raw) ?_)
        simp only [after, HostRequest.perform, Host.dictionaryOpen, Host.dictionaryGet,
          Host.logEndpointOpen, Host.logWrite, Host.objectStoreOpen, exec_bind, exec_receive,
          exec_get, exec_require]
        repeat' first | rfl | split
      | bodyNew =>
        obtain ⟨rfl, hafter⟩ := exec_bodyNew_ok hresult
        exact .of_allocate hafter rfl rfl (congrArg (onSuccess _) hresult)
      | objectStoreLookup store key =>
        obtain ⟨rfl, hafter⟩ := exec_objectStoreLookup_ok hresult
        exact .of_allocate hafter rfl rfl (congrArg (onSuccess _) hresult)
      | bodyRead body limit =>
        obtain ⟨found, hfind, hstate, rfl, hafter⟩ := exec_bodyRead_ok hresult
        have hbodies : (exec (Host.bodyRead body limit) host).2.bodies =
            ((host.received .bodyRead body.erase).putBody body
              (found.advance (host.readLimit limit))).bodies := by
          rw [hafter, bodies_reaching]
        exact .of_putBody hbodies rfl hfind (congrArg (onSuccess _) hresult) (.read _ hstate)
      | bodyWrite body chunk =>
        obtain ⟨found, hfind, hstate, hafter⟩ := exec_bodyWrite_ok hresult
        exact .of_putBody (congrArg bodies hafter) rfl hfind (congrArg (onSuccess _) hresult)
          (.growsTo _ hstate)
      | bodyClose body =>
        obtain ⟨found, hfind, hstate, hafter⟩ := exec_bodyClose_ok hresult
        exact .of_putBody (congrArg bodies hafter) rfl hfind (ite_self _).symm
          (.shuts _ fun he => by cases hstate.symm.trans he)
      | bodyAbandon body =>
        obtain ⟨found, hfind, hstate, hafter⟩ := exec_bodyAbandon_ok hresult
        exact .of_putBody (congrArg bodies hafter) rfl hfind (ite_self _).symm (.shuts _ hstate)
      | bodyAppend destination source =>
        obtain ⟨body, other, hne, hfind, hopen, hsource, hother, hafter⟩ :=
          exec_bodyAppend_ok hresult
        have hpast : host.past handle (.request (.bodyAppend destination source)) =
            if destination = handle then { added := other.unread } else {} := by
          refine (congrArg (onSuccess _) hresult).trans ?_
          simp only [onSuccess, unreadOf, hsource, Option.map_some, Option.getD_some]
        -- The two bodies are different ones, since nothing is appended to itself: the source goes
        -- and the destination grows.
        by_cases hmoved : handle = source
        · subst hmoved
          rw [if_neg hne] at hpast
          have hgone : (host.after (.request (.bodyAppend destination handle))).bodies.find?
              handle.raw = none := by
            have hraw : handle.raw ≠ destination.raw := fun he => hne (congrArg Handle.mk he.symm)
            change (exec (Host.bodyAppend destination handle) host).2.bodies.find? handle.raw = none
            rw [hafter, find?_putBody, if_neg hraw, find?_dropBody, if_pos rfl]
          rw [TurnsBody, hpast, hsource, hgone]
          exact .goes hother
        · have hraw : handle.raw ≠ source.raw := fun he => hmoved (congrArg Handle.mk he)
          refine .of_putBody (congrArg bodies hafter) ?_ hfind hpast (.growsTo _ hopen)
          rw [find?_dropBody, if_neg hraw, bodies_received]
      | objectStoreInsert store key body =>
        obtain ⟨name, found, -, hfind, hstate, hafter⟩ := exec_objectStoreInsert_ok hresult
        have hlater : (host.after (.request (.objectStoreInsert store key body))).bodies.find?
            handle.raw = if handle.raw = body.raw then none else host.bodies.find? handle.raw :=
          (congrArg (fun later => later.bodies.find? handle.raw) hafter).trans (find?_dropBody _)
        by_cases hmoved : handle = body
        · subst hmoved
          rw [if_pos rfl] at hlater
          rw [TurnsBody, show host.past handle _ = {} from rfl, hfind, hlater]
          exact .goes hstate
        · have hraw : handle.raw ≠ body.raw := fun he => hmoved (congrArg Handle.mk he)
          exact .of_unchanged rfl (hlater.trans (if_neg hraw))

/-! ### What every history keeps -/

/-- The past of a body tells what it is. A handle that has not been given out has no past. -/
structure Recounts (host : MemoryHost) (handle : BodyHandle) (past : BodyPast) : Prop where
  unborn : host.nextHandle ≤ handle.raw → host.bodies.find? handle.raw = none ∧ past = {}
  tells : ∀ body, host.bodies.find? handle.raw = some body → past.Tells body

theorem recounts_withChunkSize (size : UInt64) (handle : BodyHandle) :
    (withChunkSize size).Recounts handle {} := ⟨fun _ => ⟨rfl, rfl⟩, nofun⟩

/-- One act adds to the past of a body what it does to it. -/
theorem Recounts.after {past : BodyPast} (h : host.Recounts handle past) (act : Act)
    (hroom : host.nextHandle.toNat + host.takesUp act < 2 ^ 32) :
    (host.after act).Recounts handle (past ++ host.past handle act) := by
  have hturn := host.turns handle act
  have hnext := host.toNat_nextHandle_after act hroom
  -- The counter does not go back, so a handle that has been given out never becomes fresh.
  have hfind : ∀ body, host.bodies.find? handle.raw = some body →
      ¬ (host.after act).nextHandle ≤ handle.raw := by
    intro body hbody hle
    rw [UInt32.le_iff_toNat_le] at hle
    have hnone := (h.unborn (UInt32.le_iff_toNat_le.mpr (by omega))).1
    cases hbody.symm.trans hnone
  unfold TurnsBody at hturn
  generalize host.past handle act = added at hturn ⊢
  generalize hbefore : host.bodies.find? handle.raw = before at hturn
  generalize hafter : (host.after act).bodies.find? handle.raw = after at hturn
  cases hturn with
  | stays =>
    rw [BodyPast.append_empty]
    refine ⟨fun hle => ?_, fun body hbody => h.tells body ?_⟩
    · rw [UInt32.le_iff_toNat_le] at hle
      obtain ⟨hnone, hpast⟩ := h.unborn (UInt32.le_iff_toNat_le.mpr (by omega))
      exact ⟨hafter.trans (hbefore.symm.trans hnone), hpast⟩
    · exact hbefore.trans (hafter.symm.trans hbody)
  | made data state hfresh =>
    have hraw : handle.raw = host.nextHandle := congrArg Handle.raw hfresh.1
    have htakes := hfresh.2
    obtain ⟨-, rfl⟩ := h.unborn (hraw ▸ UInt32.le_refl _)
    refine ⟨fun hle => ?_, fun body hbody => ?_⟩
    · rw [UInt32.le_iff_toNat_le, hraw] at hle
      omega
    · cases hafter.symm.trans hbody
      exact BodyPast.tells_new data state
  | read limit hstate =>
    refine ⟨fun hle => absurd hle (hfind _ hbefore), fun body hbody => ?_⟩
    cases hafter.symm.trans hbody
    exact (h.tells _ hbefore).read limit
  | growsTo chunk hopen =>
    refine ⟨fun hle => absurd hle (hfind _ hbefore), fun body hbody => ?_⟩
    cases hafter.symm.trans hbody
    exact (h.tells _ hbefore).grow chunk
  | shuts state hstate =>
    refine ⟨fun hle => absurd hle (hfind _ hbefore), fun body hbody => ?_⟩
    cases hafter.symm.trans hbody
    rw [BodyPast.append_empty]
    have htells := h.tells _ hbefore
    exact htells
  | goes hstate =>
    exact ⟨fun hle => absurd hle (hfind _ hbefore), fun body hbody => by
      cases hafter.symm.trans hbody⟩

/-- By induction on the acts. -/
theorem Recounts.afterAll {past : BodyPast} (h : host.Recounts handle past) (acts : List Act)
    (hroom : host.nextHandle.toNat + host.allocations acts < 2 ^ 32) :
    (host.afterAll acts).Recounts handle (past ++ host.pastOf handle acts) := by
  induction acts generalizing host past with
  | nil =>
    rw [pastOf, BodyPast.append_empty]
    exact h
  | cons act acts ih =>
    rw [allocations] at hroom
    have hnext := host.toNat_nextHandle_after act (by omega)
    rw [pastOf, ← BodyPast.append_assoc]
    exact ih (h.after act (by omega)) (by omega)

/-- A body has been made under a handle, and is gone or given up. -/
structure Spent (host : MemoryHost) (handle : BodyHandle) : Prop where
  unusable : host.Unusable handle
  issued : handle.raw < host.nextHandle

/-- What is gone or given up stays so. -/
theorem Spent.after (h : host.Spent handle) (act : Act)
    (hroom : host.nextHandle.toNat + host.takesUp act < 2 ^ 32) :
    (host.after act).Spent handle := by
  have hturn := host.turns handle act
  have hnext := host.toNat_nextHandle_after act hroom
  have hissued := UInt32.lt_iff_toNat_lt.mp h.issued
  refine ⟨fun body hbody => ?_, UInt32.lt_iff_toNat_lt.mpr (by omega)⟩
  have hunusable := h.unusable
  unfold TurnsBody at hturn
  unfold Unusable at hunusable
  rw [hbody] at hturn
  generalize host.bodies.find? handle.raw = before at hturn hunusable
  generalize host.past handle act = added at hturn
  cases hturn with
  | stays => exact hunusable body rfl
  -- Only a fresh handle gets a new body, and this one has been given out.
  | made data state hfresh =>
    rw [hfresh.1] at hissued
    exact absurd hissued (Nat.lt_irrefl _)
  | read limit hstate => exact absurd (hunusable _ rfl) hstate
  | growsTo chunk hopen => cases hopen.symm.trans (hunusable _ rfl)
  | shuts state hstate => exact absurd (hunusable _ rfl) hstate

/-- By induction on the acts. -/
theorem Spent.afterAll (h : host.Spent handle) (acts : List Act)
    (hroom : host.nextHandle.toNat + host.allocations acts < 2 ^ 32) :
    (host.afterAll acts).Spent handle := by
  induction acts generalizing host with
  | nil => exact h
  | cons act acts ih =>
    rw [allocations] at hroom
    have hnext := host.toNat_nextHandle_after act (by omega)
    exact ih (h.after act (by omega)) (by omega)

/-- An act ends a body: it moves it into another one or into an object store, or gives it up. -/
inductive Act.Ends (host : MemoryHost) (handle : BodyHandle) : Act → Prop
  | appended {destination : BodyHandle} :
    (exec (Host.bodyAppend destination handle) host).1 = .ok () →
      Ends host handle (.request (.bodyAppend destination handle))
  | inserted {store : ObjectStoreHandle} {key : String} :
    (exec (Host.objectStoreInsert store key handle) host).1 = .ok () →
      Ends host handle (.request (.objectStoreInsert store key handle))
  | abandoned : (exec (Host.bodyAbandon handle) host).1 = .ok () →
    Ends host handle (.request (.bodyAbandon handle))

theorem Act.Ends.spent {past : BodyPast} {act : Act} (h : act.Ends host handle)
    (hr : host.Recounts handle past) (hroom : host.nextHandle.toNat + host.takesUp act < 2 ^ 32) :
    (host.after act).Spent handle := by
  have hissued : ∀ {body}, host.bodies.find? handle.raw = some body →
      handle.raw < (host.after act).nextHandle := by
    intro body hbody
    have hlt : handle.raw < host.nextHandle := UInt32.not_le.mp fun hle => by
      cases hbody.symm.trans (hr.unborn hle).1
    have hnext := host.toNat_nextHandle_after act hroom
    rw [UInt32.lt_iff_toNat_lt] at hlt ⊢
    omega
  cases h with
  | @appended destination hresult =>
    obtain ⟨body, other, hne, -, -, hsource, -, hafter⟩ := exec_bodyAppend_ok hresult
    refine ⟨fun found hfound => ?_, hissued hsource⟩
    have hraw : handle.raw ≠ destination.raw := fun he => hne (congrArg Handle.mk he.symm)
    change (exec (Host.bodyAppend destination handle) host).2.bodies.find? handle.raw = _ at hfound
    rw [hafter, find?_putBody, if_neg hraw, find?_dropBody, if_pos rfl] at hfound
    cases hfound
  | @inserted store key hresult =>
    obtain ⟨name, body, -, hfind, -, hafter⟩ := exec_objectStoreInsert_ok hresult
    refine ⟨fun found hfound => ?_, hissued hfind⟩
    change (exec (Host.objectStoreInsert store key handle) host).2.bodies.find? handle.raw = _
      at hfound
    rw [hafter, bodies_putObject, find?_dropBody, if_pos rfl] at hfound
    cases hfound
  | abandoned hresult =>
    obtain ⟨body, hfind, -, hafter⟩ := exec_bodyAbandon_ok hresult
    refine ⟨fun found hfound => ?_, hissued hfind⟩
    change (exec (Host.bodyAbandon handle) host).2.bodies.find? handle.raw = _ at hfound
    rw [hafter, find?_putBody, if_pos rfl] at hfound
    cases hfound
    rfl

/-- After some acts on a host, every body is a queue. -/
structure KeepsQueues (first : MemoryHost) (acts : List Act) : Prop where
  /-- A body that is there was made once. It has what it was made with and all that has been
  appended since, and what has been read is the part before its position. -/
  tells : ∀ handle body, (first.afterAll acts).bodies.find? handle.raw = some body →
    (first.pastOf handle acts).Tells body
  /-- A read goes on from the position, as far as its limits and the content allow. -/
  read : ∀ handle limit data, (exec (Host.bodyRead handle limit) (first.afterAll acts)).1 =
    .ok data →
    ∃ body, (first.afterAll acts).bodies.find? handle.raw = some body ∧ body.state ≠ .abandoned ∧
      data = (body.contents.toList.drop body.position).take data.length ∧
      data.length = min (min limit.toNat (first.afterAll acts).chunkSize.toNat)
        (body.contents.size - body.position) ∧
      body.position + data.length ≤ body.contents.size
  /-- Only an open body is written. -/
  write : ∀ handle chunk, (exec (Host.bodyWrite handle chunk) (first.afterAll acts)).1 = .ok () →
    ∃ body, (first.afterAll acts).bodies.find? handle.raw = some body ∧ body.state = .opened
  /-- Only an open body is appended to. -/
  append : ∀ destination source,
    (exec (Host.bodyAppend destination source) (first.afterAll acts)).1 = .ok () →
      ∃ body, (first.afterAll acts).bodies.find? destination.raw = some body ∧ body.state = .opened
  /-- Every call fails that names a body which has been moved or given up. -/
  ended : ∀ earlier act later handle, acts = earlier ++ act :: later →
    act.Ends (first.afterAll earlier) handle → ∀ request, handle ∈ HostRequest.bodies request →
      (exec request.perform (first.afterAll acts)).1 =
        .error (((first.afterAll acts).faults.take request.operation).1.getD request.refusal)

/-- Whatever is done with a host of whatever chunk size, its bodies are queues. -/
theorem bodies_are_queues (size : UInt64) (acts : List Act)
    (hroom : (withChunkSize size).allocations acts < 2 ^ 32 - 2) :
    (withChunkSize size).KeepsQueues acts := by
  have hnext : (withChunkSize size).nextHandle.toNat = 1 := rfl
  have htells : ∀ handle body,
      ((withChunkSize size).afterAll acts).bodies.find? handle.raw = some body →
        ((withChunkSize size).pastOf handle acts).Tells body := fun handle body hfind => by
    have hrecounts := (recounts_withChunkSize size handle).afterAll acts (by omega)
    rw [BodyPast.empty_append] at hrecounts
    exact hrecounts.tells body hfind
  refine ⟨htells, fun handle limit data h => ?_, fun handle chunk h => ?_,
    fun destination source h => ?_, fun earlier act later handle he hends request hm => ?_⟩
  · obtain ⟨body, hfind, hstate, rfl, -⟩ := exec_bodyRead_ok h
    obtain ⟨-, -, -, -, hle⟩ := htells handle body hfind
    have hlength := body.length_peek (((withChunkSize size).afterAll acts).readLimit limit)
    refine ⟨body, hfind, hstate, body.peek_eq_take _, ?_, by omega⟩
    rw [hlength, readLimit_eq]
  · obtain ⟨body, hfind, hopen, -⟩ := exec_bodyWrite_ok h
    exact ⟨body, hfind, hopen⟩
  · obtain ⟨body, other, -, hfind, hopen, -⟩ := exec_bodyAppend_ok h
    exact ⟨body, hfind, hopen⟩
  -- The history is cut at the act that ends the body: it is spent there, and stays so.
  · subst he
    rw [allocations_append, allocations] at hroom
    have hbefore := (withChunkSize size).toNat_nextHandle_afterAll earlier (by omega)
    have hrecounts := (recounts_withChunkSize size handle).afterAll earlier (by omega)
    have hspent := hends.spent hrecounts (by omega)
    have hafter := ((withChunkSize size).afterAll earlier).toNat_nextHandle_after act (by omega)
    rw [afterAll_append, afterAll_cons]
    exact refused_of_unusable (hspent.afterAll later (by omega)).unusable hm

/-- A body is read, and then moved into another one that has been written and is read in turn. -/
def movingActs : List Act :=
  [.addBody [1, 2, 3], .request .bodyNew, .request (.bodyRead ⟨1⟩ 1), .request (.bodyWrite ⟨2⟩ [7]),
    .request (.bodyAppend ⟨2⟩ ⟨1⟩), .request (.bodyRead ⟨2⟩ 5)]

theorem bodies_are_queues_moving :
    (withChunkSize 2).pastOf ⟨1⟩ movingActs = { made := [[1, 2, 3]], taken := [1] } ∧
      (withChunkSize 2).pastOf ⟨2⟩ movingActs =
        { made := [[]], added := [7, 2, 3], taken := [7, 2] } ∧
      (withChunkSize 2).KeepsQueues movingActs :=
  ⟨by rfl, by rfl, bodies_are_queues 2 movingActs (by decide +kernel)⟩

/-- Every read is to fail when a body is moved into another one. -/
def faultyActs : List Act :=
  [.addBody [1], .request .bodyNew, .failAlways .bodyRead .generic, .request (.bodyAppend ⟨2⟩ ⟨1⟩)]

/-- A body that is gone is not always refused as such: a fault that is set for a call comes
first. -/
theorem ended_body_meets_fault :
    ¬ ∀ (size : UInt64) (acts : List Act), (withChunkSize size).allocations acts < 2 ^ 32 - 2 →
      ∀ earlier act later handle, acts = earlier ++ act :: later →
        act.Ends ((withChunkSize size).afterAll earlier) handle →
          ∀ request, handle ∈ HostRequest.bodies request →
            (exec request.perform ((withChunkSize size).afterAll acts)).1 =
              .error request.refusal := by
  intro hrefused
  have hmoved : Act.Ends ((withChunkSize 2).afterAll (faultyActs.take 3)) ⟨1⟩
      (.request (.bodyAppend ⟨2⟩ ⟨1⟩)) := .appended (by rfl)
  have hread := hrefused 2 faultyActs (by decide +kernel) (faultyActs.take 3) _ [] ⟨1⟩ rfl hmoved
    (.bodyRead ⟨1⟩ 1) (List.mem_singleton.mpr rfl)
  have hfault : (exec (HostRequest.bodyRead ⟨1⟩ 1).perform
      ((withChunkSize 2).afterAll faultyActs)).1 = .error .generic := by rfl
  cases hfault.symm.trans hread

end MemoryHost

end EdgeStreams
