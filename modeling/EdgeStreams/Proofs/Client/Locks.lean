import EdgeStreams.Host.Memory
import EdgeStreams.Proofs.Client.Basic

/-!
# Locks and pipes, whatever clients do

Every running pipe holds both its ends, from its start to its end, whatever operations clients do
and whatever hosts and guests answer. The same holds while an operation is under way, so that a pipe
that is driven always finds its destination.

## Main definitions

- `Registry.InOrder`: how locks and pipes fit together

## Main statements

- `Client.Step.orderly`: one operation keeps the locks with those who hold them
- `Client.inOrder_of_leads`: locks and pipes fit together in every state that can be reached
-/

namespace EdgeStreams

variable {H E : Type}

namespace Registry

/-- How locks and pipes fit together. -/
structure InOrder (streams : Registry E) : Prop where
  /-- The ends of a running pipe live and are locked by it. -/
  running : ∀ id pipe, streams.pipe? id = some pipe → pipe.state = .running →
    ∃ source sink, streams.source? pipe.source = some source ∧
      streams.sink? pipe.destination = some sink ∧ source.readerLock = some pipe.reader ∧
        sink.writerLock = some pipe.writer ∧ source.pipedTo = some pipe.destination ∧
          source.disturbed = true
  /-- Two running pipes have different ends. -/
  apart : ∀ id other pipe pipe', streams.pipe? id = some pipe → pipe.state = .running →
    streams.pipe? other = some pipe' → pipe'.state = .running → id ≠ other →
      pipe.source ≠ pipe'.source ∧ pipe.destination ≠ pipe'.destination
  /-- A stream is piped only by a running pipe. -/
  piped : ∀ id source destination, streams.source? id = some source →
    source.pipedTo = some destination → ∃ name pipe, streams.pipe? name = some pipe ∧
      pipe.state = .running ∧ pipe.source = id ∧ pipe.destination = destination

/-- The tokens of a pipe lock no stream. -/
structure Unlocked (streams : Registry E) (pipe : Pipe) : Prop where
  reader : ∀ id source, streams.source? id = some source → source.readerLock ≠ some pipe.reader
  writer : ∀ id sink, streams.sink? id = some sink → sink.writerLock ≠ some pipe.writer

variable {streams : Registry E} {held spent : Set Nat}

theorem isRunning_iff {pipe : Pipe} : pipe.isRunning = true ↔ pipe.state = .running := beq_iff_eq

theorem Orderly.inOrder (h : streams.Orderly held spent) : streams.InOrder where
  running id pipe hp hr := by
    obtain ⟨⟨source, hs, hlock, hpiped, hd⟩, ⟨sink, hk, hwlock⟩⟩ :=
      h.holds id pipe hp (isRunning_iff.mpr hr)
    exact ⟨source, sink, hs, hk, hlock, hwlock, hpiped, hd⟩
  apart id other pipe pipe' hp hr hp' hr' hne :=
    ⟨fun he => hne (h.source_inj hp (isRunning_iff.mpr hr) hp' (isRunning_iff.mpr hr') he),
      fun he => hne (h.destination_inj hp (isRunning_iff.mpr hr) hp' (isRunning_iff.mpr hr') he)⟩
  piped id source destination hs hpiped := by
    obtain ⟨name, pipe, hp, hr, hends⟩ := h.piped id source destination hs hpiped
    exact ⟨name, pipe, hp, isRunning_iff.mp hr, hends⟩

theorem Orderly.unlocked (h : streams.Orderly held spent) {pipe : Pipe}
    (hspent : ∀ number, pipe.Uses number → number ∈ spent) : streams.Unlocked pipe where
  reader _ _ hs := by
    have hn := hspent _ (.inl rfl)
    exact h.reader_idle (h.spent_old _ hn).2 (h.spent_idle _ hn) hs
  writer _ _ hs := by
    have hn := hspent _ (.inr rfl)
    exact h.writer_idle (h.spent_old _ hn).2 (h.spent_idle _ hn) hs

/-- A running pipe finds its destination, whatever its state is. -/
theorem InOrder.containsWritable (h : streams.InOrder) {id : PipeId} {pipe : Pipe}
    (hp : streams.pipe? id = some pipe) (hr : pipe.state = .running) :
    streams.containsWritable pipe.destination = true := by
  obtain ⟨-, sink, -, hk, -⟩ := h.running id pipe hp hr
  simp [Registry.containsWritable, hk]

/-- A stream out of which no pipe runs is not piped. -/
theorem InOrder.pipedTo?_eq_none (h : streams.InOrder) {id : ReadableId}
    (hnone : streams.pipeFrom? id = none) : streams.pipedTo? id = none := by
  have hfree : (streams.source? id).bind Source.pipedTo = none := by
    cases hs : streams.source? id with
    | none => rfl
    | some source =>
      cases hpiped : source.pipedTo with
      | none => exact hpiped
      | some destination =>
        obtain ⟨name, pipe, hp, hr, he, -⟩ := h.piped id source destination hs hpiped
        have hmem := (mem_runningPipes streams).mpr ⟨hp, isRunning_iff.mpr hr⟩
        exact absurd (beq_iff_eq.mpr he) (List.find?_eq_none.mp hnone _ hmem)
  rw [pipedTo?, hfree]
  rfl

end Registry

namespace StreamOp

variable [Host H] {s t : Session H E} {held spent : Set Nat}

/-- An operation that takes no lock and gives none back keeps the locks with those who hold them. -/
theorem orderly (ho : s.streams.Orderly held spent) {op : StreamOp E} {fuel : Nat}
    (h : op.after fuel s = some t) : t.streams.Orderly held spent := by
  cases effect_of_after h with
  | bodySource handle => exact ho.of_sameLocks (.addSource ho.wellFormed ⟨rfl, rfl⟩)
  | bodySink handle => exact ho.of_sameLocks (.addSink ho.wellFormed rfl)
  | scriptSource guest highWaterMark => exact Session.orderly_scriptSource ho guest highWaterMark
  | scriptSink guest => exact Session.orderly_scriptSink ho guest
  | createTransform transformer => exact Session.orderly_createTransform ho transformer
  | setReadableOwner id owner =>
    exact ho.of_sameLocks (.modifySource id fun _ => ⟨rfl, rfl, fun h => h⟩)
  | setWritableOwner id owner => exact ho.of_sameLocks (.modifySink id fun _ => rfl)
  | releaseReadable id => exact ho.of_sameLocks (.releaseReadable id)
  | releaseWritable id => exact ho.of_sameLocks (.releaseWritable id)
  | releaseTransform stream =>
    have hreadable := ho.of_sameLocks (.releaseReadable stream.readable)
    exact hreadable.of_sameLocks (.releaseWritable stream.writable)
  | movesTo hmoves => exact hmoves.orderly ho
  | pipeTo hpipe => exact Session.orderly_pipeTo ho hpipe
  | sweep => exact ho.of_sameLocks .sweep
  | clear => exact ho.clear

end StreamOp

namespace Client

variable [Host H] {uses : H → List UInt32 → H → Prop}
variable {allowed : Client H E → Client H E → Prop} {client later : Client H E} {spent : Set Nat}

omit [Host H] in
theorem held_cons_reader (client : Client H E) (session : Session H E) (number : Nat) :
    held { client with session, readers := ⟨number⟩ :: client.readers } =
      insert number client.held := by
  ext other
  simp only [held, List.mem_cons, ReaderToken.mk.injEq, Set.mem_ofPred_eq, Set.mem_insert_iff]
  exact or_assoc

omit [Host H] in
theorem held_cons_writer (client : Client H E) (session : Session H E) (number : Nat) :
    held { client with session, writers := ⟨number⟩ :: client.writers } =
      insert number client.held := by
  ext other
  simp only [held, List.mem_cons, WriterToken.mk.injEq, Set.mem_ofPred_eq, Set.mem_insert_iff]
  exact or_left_comm

/-- One operation keeps the locks with those who hold them. -/
theorem Step.orderly (h : Step uses client later)
    (ho : client.session.streams.Orderly client.held spent) :
    later.session.streams.Orderly later.held spent := by
  cases h with
  | operate op fuel hop => exact StreamOp.orderly ho hop
  | @getReader id token streams hget =>
    obtain ⟨rfl, source, hs, hl⟩ := Registry.of_exec_getReader hget
    have htaken := ho.getReader hs hl
    rw [hget] at htaken
    rwa [held_cons_reader]
  | @getWriter id token streams hget =>
    obtain ⟨rfl, sink, hs, hl⟩ := Registry.of_exec_getWriter hget
    have htaken := ho.getWriter hs hl
    rw [hget] at htaken
    rwa [held_cons_writer]
  | releaseReader id hmem => exact ho.releaseReader id (.inl hmem)
  | releaseWriter id hmem => exact ho.releaseWriter id (.inr hmem)
  | callHost | visitGuest | nextOwner => exact ho

/-- By induction on the operations. -/
theorem LeadsTo.orderly (h : LeadsTo uses allowed client later)
    (ho : client.session.streams.Orderly client.held spent) :
    later.session.streams.Orderly later.held spent := by
  induction h with
  | refl => exact ho
  | step _ hstep _ ih => exact hstep.orderly ih

omit [Host H] in
theorem orderly_new (host : H) (env : E) (config : StreamConfig) :
    (new host env config).session.streams.Orderly (new host env config).held ∅ := by
  refine .of_empty (Registry.wellFormed_new config) (fun _ => SlotMap.get?_empty _)
    (fun _ => SlotMap.get?_empty _) (fun _ => SlotMap.get?_empty _) ?_ fun _ h => h.elim
  rintro number (h | h) <;> cases h

/-- In every state that clients can reach, also while an operation is under way, every running pipe
holds both its ends, no other running pipe has one of them, a stream is piped only by a running
pipe, and the tokens of a finished pipe lock nothing, now or ever after. So a pipe finds its
destination as long as it is driven, and a stream out of which no pipe runs is not piped to
anything. -/
theorem inOrder_of_leads {host : H} {env : E} {config : StreamConfig} {session : Session H E}
    (h : LeadsTo uses allowed (new host env config) client) (hm : client.session.MovesTo session) :
    session.streams.InOrder ∧
      (∀ id pipe, session.streams.pipe? id = some pipe → pipe.state ≠ .running →
        session.streams.Unlocked pipe) ∧
      (∀ id pipe, client.session.streams.pipe? id = some pipe → pipe.state ≠ .running →
        ∀ later session', LeadsTo uses allowed client later → later.session.MovesTo session' →
          session'.streams.Unlocked pipe) ∧
      (∀ id pipe, session.streams.pipe? id = some pipe → pipe.state = .running →
        ∀ further, session.MovesTo further →
          further.streams.containsWritable pipe.destination = true) ∧
      ∀ id, session.streams.pipeFrom? id = none → session.streams.pipedTo? id = none := by
  have horderly := h.orderly (orderly_new host env config)
  have hnow := hm.orderly horderly
  have hstopped : ∀ {pipe : Pipe}, pipe.state ≠ .running → ¬ pipe.isRunning :=
    fun hf hr => hf (Registry.isRunning_iff.mp hr)
  refine ⟨hnow.inOrder, fun id pipe hp hf => ?_, fun id pipe hp hf later session' hl hm' => ?_,
    fun id pipe hp hr further hf => hf.containsWritable (hnow.inOrder.containsWritable hp hr),
    fun id => hnow.inOrder.pipedTo?_eq_none⟩
  · exact (hnow.spend hp (hstopped hf)).unlocked fun _ => .inr
  · have hspent := horderly.spend hp (hstopped hf)
    exact (hm'.orderly (hl.orderly hspent)).unlocked fun _ => .inr

/-- A pipe into a transform stream that has no room waits, and holds both its ends. -/
theorem inOrder_of_leads_parked :
    ∃ client : Client MemoryHost Unit,
      LeadsTo (fun _ _ _ => True) (fun _ _ => True)
        (new {} () { transformHighWaterMark := 0 }) client ∧
      (∃ pipe, client.session.streams.pipe? ⟨0, 0⟩ = some pipe ∧ pipe.state = .running) ∧
      client.session.streams.InOrder := by
  have hmade : LeadsTo (H := MemoryHost) (E := Unit) (fun _ _ _ => True) (fun _ _ => True)
      (new {} () { transformHighWaterMark := 0 }) _ :=
    .step (.step .refl (.operate (.createTransform .identity) 0 rfl) trivial)
      (.operate (.bodySource ⟨1⟩) 0 rfl) trivial
  have hpiped := hmade.step (.operate (.pipeTo ⟨1, 0⟩ ⟨0, 0⟩ {}) 3 rfl) trivial
  exact ⟨_, hpiped, ⟨_, rfl, rfl⟩, (inOrder_of_leads hpiped .refl).1⟩

end Client

end EdgeStreams
