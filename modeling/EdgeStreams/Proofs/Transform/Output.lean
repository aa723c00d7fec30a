import EdgeStreams.Proofs.Session.Controller
import EdgeStreams.Stream.Transform

/-!
# What comes out of a transformer

A transformer that neither fails nor ends its stream, and does not look at the room in the queue,
turns chunks into chunks in a way of its own: what it queues does not depend on who has read how
much.

## Main definitions

- `TransformProgram.output`: what one call on a transformer queues
- `Transformer.output`: what a transformer queues that is started, handed chunks and told of the end

## Main statements

- `TransformProgram.run_of_output`: what such a call makes of the readable half
-/

namespace EdgeStreams

variable {E : Type}

/-- What a call on a transformer queues, and the environment that it leaves. There is none if the
transformer asks for anything else than to queue a chunk, or fails. -/
def TransformProgram.output : TransformProgram E → Option (List Bytes × E)
  | .done (.ok (), env) => some ([], env)
  | .done (.error _, _) => none
  | .call (.enqueue chunk) next =>
    (output (next (.ok ()))).map fun (chunks, env) =>
      (if chunk.isEmpty then chunks else chunk :: chunks, env)
  | .call (.error _) _ | .call .terminate _ | .call .desiredSize _ => none

namespace Transformer

/-- What a transformer queues that is handed chunks. -/
def outputOf (transformer : Transformer E) : List Bytes → E → Option (List Bytes × E)
  | [], env => some ([], env)
  | chunk :: rest, env => do
    let (first, env) ← TransformProgram.output (transformer.transform chunk env)
    let (others, env) ← outputOf transformer rest env
    return (first ++ others, env)

/-- What a transformer queues that is handed chunks and then told of the end. -/
def outputToEnd (transformer : Transformer E) (chunks : List Bytes) (env : E) :
    Option (List Bytes) := do
  let (handed, env) ← transformer.outputOf chunks env
  let (last, _) ← TransformProgram.output (transformer.flush env)
  return handed ++ last

/-- What comes out of a transform stream whose writable half is handed chunks and then ended. -/
def output (transformer : Transformer E) (chunks : List Bytes) (env : E) : Option (List Bytes) := do
  let (first, env) ← TransformProgram.output (transformer.start env)
  let others ← transformer.outputToEnd chunks env
  return first ++ others

variable {transformer : Transformer E} {chunk : Bytes} {chunks out : List Bytes} {env : E}

theorem exists_of_outputToEnd_nil (h : transformer.outputToEnd [] env = some out) :
    ∃ left, TransformProgram.output (transformer.flush env) = some (out, left) := by
  obtain ⟨⟨last, left⟩, hlast, heq⟩ := Option.bind_eq_some_iff.mp h
  cases heq
  exact ⟨left, hlast⟩

theorem exists_of_outputToEnd_cons (h : transformer.outputToEnd (chunk :: chunks) env = some out) :
    ∃ new left others, TransformProgram.output (transformer.transform chunk env) =
      some (new, left) ∧
      transformer.outputToEnd chunks left = some others ∧ out = new ++ others := by
  simp only [outputToEnd, outputOf, Option.bind_eq_bind, Option.bind_eq_some_iff, Option.pure_def,
    Option.some.injEq, Prod.exists, Prod.mk.injEq] at h
  obtain ⟨_, _, ⟨new, left, hnew, rest, after, hrest, rfl, rfl⟩, last, end', hlast, rfl⟩ := h
  exact ⟨new, left, rest ++ last, hnew, by simp [outputToEnd, hrest, hlast], List.append_assoc ..⟩

theorem exists_of_output (h : transformer.output chunks env = some out) :
    ∃ first left others, TransformProgram.output (transformer.start env) = some (first, left) ∧
      transformer.outputToEnd chunks left = some others ∧ out = first ++ others := by
  obtain ⟨⟨first, left⟩, hfirst, hrest⟩ := Option.bind_eq_some_iff.mp h
  obtain ⟨others, hothers, heq⟩ := Option.bind_eq_some_iff.mp hrest
  cases heq
  exact ⟨first, left, others, hfirst, hothers, rfl⟩

end Transformer

/-- The transformer has queued chunks on an open readable half, and has done nothing else to it. -/
structure TransformDesk.Gains (desk : TransformDesk) (chunks : List Bytes) (desk' : TransformDesk) :
    Prop where
  isOpen : desk'.controller.IsOpen
  queue : desk'.controller.queue = desk.controller.queue ++ chunks
  terminated : desk'.terminated = desk.terminated

theorem TransformDesk.gains_enqueue {desk : TransformDesk} (h : desk.controller.IsOpen)
    (chunk : Bytes) : (TransformDesk.perform (.enqueue chunk) desk).1 = .ok () ∧
      desk.Gains (if chunk.isEmpty then [] else [chunk])
        (TransformDesk.perform (.enqueue chunk) desk).2 := by
  by_cases hchunk : chunk = []
  · subst hchunk
    have henqueue : desk.controller.enqueue [] = (.ok (), desk.controller) := by
      simp [ReadableController.enqueue, ReadableController.refusal?_eq_none h.state h.close]
    simp only [perform, SourceDesk.enqueue, henqueue]
    exact ⟨rfl, h, (List.append_nil _).symm, rfl⟩
  · have henqueue := ReadableController.enqueue_of_open h.state h.close hchunk
    simp only [perform, SourceDesk.enqueue, henqueue]
    refine ⟨rfl, ⟨h.state, h.close⟩, ?_, rfl⟩
    simp [ReadableController.queued, hchunk]

/-- On an open readable half, every chunk is taken. By induction on the program. -/
theorem TransformProgram.run_of_output {program : TransformProgram E} (desk : TransformDesk)
    {chunks : List Bytes} {env : E} (h : desk.controller.IsOpen)
    (hout : TransformProgram.output program = some (chunks, env)) :
    (program.run TransformDesk.perform desk).1 = (.ok (), env) ∧
      desk.Gains chunks (program.run TransformDesk.perform desk).2 := by
  induction program generalizing desk chunks env with
  | done result =>
    obtain ⟨outcome, left⟩ := result
    cases outcome with
    | error error => cases hout
    | ok =>
      cases hout
      exact ⟨rfl, h, (List.append_nil _).symm, rfl⟩
  | call op next ih =>
    cases op with
    | error | terminate | desiredSize => cases hout
    | enqueue chunk =>
      obtain ⟨⟨rest, left⟩, hrest, heq⟩ := Option.map_eq_some_iff.mp hout
      obtain ⟨hanswer, hgains⟩ := TransformDesk.gains_enqueue h chunk
      cases heq
      obtain ⟨hresult, hgains'⟩ := ih (.ok ()) _ hgains.isOpen hrest
      have hstep : TransformDesk.perform (.enqueue chunk) desk =
          (.ok (), (TransformDesk.perform (.enqueue chunk) desk).2) := Prod.ext hanswer rfl
      rw [Program.run, hstep]
      refine ⟨hresult, hgains'.isOpen, ?_, hgains'.terminated.trans hgains.terminated⟩
      rw [hgains'.queue, hgains.queue]
      split <;> simp

namespace TransformWork

variable {transformer : Transformer E} {env env' : E} {chunks : List Bytes}

/-- The readable half ends once the transformer has been told of the end. -/
theorem flush_of_output (desk : TransformDesk) (h : desk.controller.IsOpen)
    (hterminated : desk.terminated = false)
    (hout : TransformProgram.output (transformer.flush env) = some (chunks, env')) :
    (flush transformer env desk).1 = (.ok (), env') ∧
      (flush transformer env desk).2.controller.HasEnded ∧
      (flush transformer env desk).2.controller.queue = desk.controller.queue ++ chunks ∧
      (flush transformer env desk).2.terminated = false := by
  obtain ⟨hresult, hgains⟩ := TransformProgram.run_of_output desk h hout
  unfold flush
  generalize (transformer.flush env).run TransformDesk.perform desk = worked at hresult hgains
  obtain ⟨⟨result, left⟩, desk'⟩ := worked
  cases hresult
  refine ⟨rfl, hgains.isOpen.hasEnded_finish, ?_, hgains.terminated.trans hterminated⟩
  change desk'.controller.finish.queue = _
  rw [hgains.isOpen.finish_eq]
  exact hgains.queue

end TransformWork

end EdgeStreams
