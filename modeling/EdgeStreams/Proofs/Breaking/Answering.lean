import EdgeStreams.Proofs.Breaking.Abandoning
import EdgeStreams.Proofs.Response.Sending

/-!
# How a request is answered whose response breaks

A handler hands over a response, and its stream fails while it is sent. The answer is then that the
stream was aborted: what it has failed with is not in the answer. Whatever goes wrong with a
response, the body that has been made for it is abandoned, unless a call to the host about that body
has failed.

## Main statements

- `Worker.handle_breaks`: the answer to a request whose response fails while it is sent
- `Worker.handle_accounts`: the answer to a request, and what has become of the body that was made
  for it
- `Worker.handle_abandons`: without a fault for that body, a failure leaves it abandoned

## Design notes

The handler may be any that leaves a session which clients can reach. Between the handler's return
and the sending of the response the worker lets go of the request's body, if the handler has left
it.
-/

namespace EdgeStreams

variable {H E : Type}

/-- Where the next value goes depends on the outline only. -/
theorem SlotMap.nextKey_of_outline {α : Type} {map map' : SlotMap α}
    (h : map'.outline = map.outline) : map'.nextKey = map.nextKey := by
  obtain ⟨slots, free, size⟩ := map
  obtain ⟨slots', free', size'⟩ := map'
  obtain ⟨hslots, rfl⟩ := Prod.mk.inj h
  have hgeneration : ∀ index : Nat, (slots'[index]?).map Slot.generation =
      (slots[index]?).map Slot.generation := fun index => by
    have hfound := congrArg (fun outline => (outline[index]?).map Prod.fst) hslots
    simpa only [Array.getElem?_map, Option.map_map, Function.comp_def] using hfound
  have hsize : slots'.size = slots.size := by simpa using congrArg Array.size hslots
  cases free' with
  | nil => simp [nextKey, hsize]
  | cons index rest => simp [nextKey, hgeneration]

theorem Registry.nextKey_modifySource (streams : Registry E) (id : ReadableId)
    (f : Source E → Source E) :
    (streams.modifySource id f).sources.nextKey = streams.sources.nextKey := by
  unfold Registry.modifySource
  split
  · exact SlotMap.nextKey_of_outline (SlotMap.outline_set _ _ _)
  · rfl

namespace Worker

variable {s : Session H E} {id : ReadableId}

theorem nextKey_releaseLeftover (request : Option Body) (s : Session H E) :
    (releaseLeftover request s).streams.sinks.nextKey = s.streams.sinks.nextKey := by
  rcases releaseLeftover_cases request s with heq | ⟨found, heq⟩
  · rw [heq]
  · rw [heq]
    simp only [Session.streams_mapStreams, Registry.releaseReadable, Registry.modifySource]
    split <;> rfl

/-- Letting go of a request's body leaves the response as it is. -/
theorem releaseLeftover_keeps (request : Option Body) (response : Body) (s : Session H E) :
    response.streamId? (releaseLeftover request s).streams = response.streamId? s.streams ∧
      ((releaseLeftover request s).streams.HasFailed id ↔ s.streams.HasFailed id) := by
  rcases releaseLeftover_cases request s with heq | ⟨found, heq⟩
  · rw [heq]
    exact ⟨rfl, .rfl⟩
  · rw [heq]
    refine ⟨?_, Registry.hasFailed_modifySource _ _ _ fun _ => rfl⟩
    have hkey := s.streams.nextKey_modifySource found fun source =>
      { source with released := true, owner := none }
    simp only [Body.streamId?, Session.streams_mapStreams, Registry.releaseReadable, hkey]

/-- Letting go of a request's body makes no stream. -/
theorem leavesBody_releaseLeftover (handle : BodyHandle) (request : Option Body) (s : Session H E) :
    Session.LeavesBody handle s (releaseLeftover request s) := by
  rcases releaseLeftover_cases request s with heq | ⟨found, heq⟩
  · rw [heq]
    exact .refl s
  · rw [heq]
    exact .releaseReadable s found

variable [Host H]

/-- Letting go of a request's body leaves a session in order. -/
theorem inOrderAgain_releaseLeftover (h : s.InOrder) (request : Option Body) :
    s.InOrderAgain (releaseLeftover request s) := by
  rcases releaseLeftover_cases request s with heq | ⟨found, heq⟩
  · rw [heq]
    exact .refl h
  · rw [heq]
    exact .releaseReadable h found

variable {σ : Type} {uses : H → List UInt32 → H → Prop} {host : H} {env : E} {config : StreamConfig}
variable {client : Client H E} {worker : Worker H E} {request : BodyHandle}
  {handler : Handler H E σ}
variable {response : Body}
variable {state state' : σ} {context : RequestContext H E}

/-- A response's stream fails while it is sent, and no write into the new host body fails. Whatever
the stream has failed with, the answer is that it was aborted. -/
theorem handle_breaks
    (hmade : handler (⟨((Body.ofHandle request).run worker.session).2,
      some ((Body.ofHandle request).run worker.session).1⟩, state) =
        some (.ok response, context, state'))
    (hcontext : client.session = context.session)
    (hleads : Client.LeadsTo uses Client.NoneBack (.new host env config) client)
    (hid : response.streamId? context.session.streams = some id)
    (hunfailed : ¬ context.session.streams.HasFailed id) :
    ∀ fuel result sent error,
      respond fuel (.ok response) (releaseLeftover context.request context.session) =
        some (result, sent) →
      sent.streams.readableState? id = some (.errored error) →
      ¬ sent.HasRefused ⟨context.session.streams.sinks.nextKey⟩ →
        handle fuel worker request handler state = some (.error (.stream .aborted),
          { worker with session := tidy worker.config sent, requests := worker.requests + 1 },
          state') := by
  intro fuel result sent error hrun hfailed hfine
  have horder : context.session.InOrder := hcontext ▸ hleads.inOrder
  obtain ⟨hkept, hsame⟩ := releaseLeftover_keeps context.request response context.session
  cases respond_breaks (inOrderAgain_releaseLeftover horder context.request).inOrder
    (hkept.trans hid) (mt hsame.mp hunfailed) hrun ⟨error, hfailed⟩
    ((nextKey_releaseLeftover context.request context.session).symm ▸ hfine)
  exact handle_of_respond hmade hrun

/-! ### The body that is made for the response -/

section Memory

theorem AccountsForBody.tidy {w : WritableId} {handle : BodyHandle} {plan : FaultPlan}
    {answer : Except WorkerError BodyHandle} {s : Session MemoryHost E}
    (h : AccountsForBody w handle plan answer s) (settings : WorkerConfig) :
    AccountsForBody w handle plan answer (Worker.tidy settings s) := by
  refine h.congr ?_ ?_
  all_goals
    unfold Worker.tidy
    split <;> rfl

variable {uses : MemoryHost → List UInt32 → MemoryHost → Prop} {host : MemoryHost}
variable {client : Client MemoryHost E} {worker later : Worker MemoryHost E} {made : BodyHandle}
variable {handler : Handler MemoryHost E σ} {context : RequestContext MemoryHost E}
variable (hmade : handler (⟨((Body.ofHandle request).run worker.session).2,
  some ((Body.ofHandle request).run worker.session).1⟩, state) =
    some (.ok response, context, state'))
variable (hcontext : client.session = context.session)
variable (hleads : Client.LeadsTo uses Client.NoneBack (.new host env config) client)
variable (hunused : response.used = false)
variable (hnew : (exec (Host.bodyNew : HostCall MemoryHost BodyHandle) context.session.host).1 =
  .ok made)
variable (hfree : context.session.streams.ReservesBody made (fun _ => False) (fun _ => False))
variable (hother : response.handle ≠ some made)
include hmade hcontext hleads hunused hnew hfree hother

/-- A body can be made for the response, of which nobody has heard before. If the worker answers
with a body, that is the one, and it is closed. If not, the body is abandoned, or has been left open
by a failed call to the host. -/
theorem handle_accounts {fuel : Nat} {answer : Except WorkerError BodyHandle} {last : σ}
    (hrun : handle fuel worker request handler state = some (answer, later, last)) :
    AccountsForBody ⟨context.session.streams.sinks.nextKey⟩ made context.session.host.faults answer
      later.session := by
  have horder : context.session.InOrder := hcontext ▸ hleads.inOrder
  have hleaves := leavesBody_releaseLeftover made context.request context.session
  -- the worker has answered, so the response has been sent
  obtain ⟨⟨result, sent⟩, hrespond⟩ : ∃ r, respond fuel (.ok response)
      (releaseLeftover context.request context.session) = some r := by
    obtain ⟨⟨body, found, state''⟩, hbody, hrun⟩ := Option.bind_eq_some_iff.mp hrun
    cases hmade.symm.trans hbody
    obtain ⟨r, hresponds, -⟩ := Option.bind_eq_some_iff.mp hrun
    exact ⟨r, hresponds⟩
  cases hrun.symm.trans (handle_of_respond hmade hrespond)
  have haccounts := respond_accounts (inOrderAgain_releaseLeftover horder context.request).inOrder
    hunused (Prod.ext (hleaves.host ▸ hnew) rfl) (hleaves.reserves hfree) hother hrespond
  rw [nextKey_releaseLeftover, hleaves.host] at haccounts
  exact haccounts.tidy worker.config

/-- Nothing has been set to fail that is asked of the body. If the worker does not answer with the
body, it has been abandoned. -/
theorem handle_abandons {fuel : Nat} {failure : WorkerError} {last : σ}
    (hwrite : ¬ context.session.host.faults.Sets .bodyWrite)
    (hclose : ¬ context.session.host.faults.Sets .bodyClose)
    (habandon : ¬ context.session.host.faults.Sets .bodyAbandon)
    (hrun : handle fuel worker request handler state = some (.error failure, later, last)) :
    later.session.host.bodyIsAbandoned made = true := by
  rcases handle_accounts hmade hcontext hleads hunused hnew hfree hother hrun with
    ⟨hok, -⟩ | ⟨-, -, hdeserts⟩
  · cases hok
  · exact beq_iff_eq.mpr (hdeserts.abandoned hwrite hclose habandon)

end Memory

/-- The first write fails, and the body that was made for the response is left open. -/
example :
    let host := ((MemoryHost.withChunkSize 1).addBody [104, 105]).2.failNext .bodyWrite .generic
    let echo : Handler MemoryHost Unit Unit := fun asked =>
      some (.ok { owner := ⟨1⟩, handle := some ⟨1⟩, readable := none }, asked.1, asked.2)
    ((handle 20 (.new host () {}) ⟨1⟩ echo ()).map fun r =>
      (r.1, r.2.1.session.host.bodyState? ⟨2⟩)) =
      some (.error (.stream (.host .bodyWrite .generic)), some .opened) := by decide +kernel

end Worker

end EdgeStreams
