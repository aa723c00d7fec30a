import EdgeStreams.Proofs.Session.Operating

/-!
# What an operation amounts to

An operation makes streams, or it does deeds after a change of the registry that makes none.

## Main definitions

- `Session.OperationEffect`: what the kinds of operation have in common

## Main statements

- `Session.OperationStep.operationEffect`: every operation amounts to one of these
-/

namespace EdgeStreams

variable {H E : Type}

namespace Session

variable [Host H] {s t : Session H E}

/-- What an operation amounts to. -/
inductive OperationEffect (s : Session H E) : Session H E → Prop
  /-- The registry changes without any new stream, and then deeds are done. -/
  | deeds {between t : Session H E} : s.Turnover between → between.streams.WellFormed →
    s.streams.MakesNone between.streams → between.journal = s.journal → between.FlowsTo t →
    OperationEffect s t
  | bodySource (handle : BodyHandle) :
    OperationEffect s (s.mapStreams fun streams => (streams.bodySource handle).2)
  | scriptSource (guest : UnderlyingSource E) (highWaterMark : UInt64) :
    OperationEffect s (scriptSource guest highWaterMark s).2
  | bodySink (handle : BodyHandle) :
    OperationEffect s (s.mapStreams fun streams => (streams.bodySink handle).2)
  | scriptSink (guest : UnderlyingSink E) : OperationEffect s (scriptSink guest s).2
  | createTransform (transformer : Transformer E) :
      OperationEffect s (createTransform transformer s).2

namespace OperationEffect

theorem of_flowsTo (hr : s.Resting) (h : s.FlowsTo t) : s.OperationEffect t :=
  .deeds ⟨.refl _, rfl⟩ hr.wellFormed (.refl _) rfl h

theorem pipeTo (hr : s.Resting) {fuel : Nat} {source : ReadableId} {destination : WritableId}
    {options : PipeOptions} {r : Except StreamError PipeId × Session H E}
    (h : attempt (pipeTo fuel source destination options) s = some r) : s.OperationEffect r.2 := by
  have hopened := Registry.Turnover.openPipe hr.wellFormed source destination options
  have hturnover : s.Turnover { s with streams := _ } := ⟨hopened, rfl⟩
  exact .deeds hturnover (hr.openPipe source destination options).wellFormed
    (Registry.makesNone_openPipe s.streams source destination options) rfl (flowsTo_pipeTo hr h)

end OperationEffect

theorem OperationStep.operationEffect (h : OperationStep s t) (hr : s.Resting) :
    s.OperationEffect t := by
  have hc := hr.composed
  cases h.operationCase hr.wellFormed with
  | turnover hturnover wf hnone hjournal => exact .deeds hturnover wf hnone hjournal (.refl _)
  | read hread => exact .of_flowsTo hr (flowsTo_read hc hread)
  | cancel id reason token => exact .of_flowsTo hr (flowsTo_cancel hc id reason token)
  | write id chunk token => exact .of_flowsTo hr (flowsTo_write hc id chunk token)
  | close id token => exact .of_flowsTo hr (flowsTo_close hc id token)
  | abort id reason token => exact .of_flowsTo hr (flowsTo_abort hc id reason token)
  | pipeTo hpipe => exact .pipeTo hr hpipe
  | pump hpump => exact .of_flowsTo hr (flowsTo_pump hc hpump)
  | abortCorrelated source reason => exact .of_flowsTo hr (flowsTo_abortCorrelated hc source reason)
  | bodySource handle => exact .bodySource handle
  | scriptSource guest highWaterMark => exact .scriptSource guest highWaterMark
  | bodySink handle => exact .bodySink handle
  | scriptSink guest => exact .scriptSink guest
  | createTransform transformer => exact .createTransform transformer

end Session

end EdgeStreams
