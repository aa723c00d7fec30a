import EdgeStreams.Proofs.Pipeline.Driving
import EdgeStreams.Proofs.Pipeline.Laying

/-!
# Working a pipeline

What the holder of a pipeline may do, in any order: start its pipes, drive all pipes, and sweep.
Meanwhile host calls may be made to fail.

A sweep takes out what nobody holds any more, and nothing of a pipeline is among that but the
entries of pipes that have finished. Faults that are set or cleared do not touch a pipeline at once.

## Main definitions

- `Passage.Spares`: the one session keeps what belongs to a pipeline in the other
- `PipelineOp`: the operations
- `PipelineOp.runAll`: one operation after the other
- `PipelineOp.Proper`: each pipe is started once at most

## Main statements

- `Passage.Holds.of_spares`, `Passage.spares_sweep`, `Passage.spares_faults`: what spares a pipeline
- `PipelineOp.runAll_more`: more fuel never changes what the operations lead to
- `Passage.Holds.runAll`: the operations have an outcome, and the pipeline stays as it should be
-/

namespace EdgeStreams

variable {E : Type}

/-! ### Sparing a pipeline -/

namespace Passage

/-- The second session keeps what belongs to a pipeline in the first. -/
structure Spares (p : Passage) (s s' : Session MemoryHost E) : Prop where
  source : ∀ id source, s.streams.source? id = some source → source.released = false →
    s'.streams.source? id = some source
  sink : ∀ id sink, s.streams.sink? id = some sink → sink.released = false →
    s'.streams.sink? id = some sink
  bridge : ∀ id bridge, s.streams.bridge? id = some bridge →
    s'.streams.containsReadable bridge.readable → s'.streams.bridge? id = some bridge
  pipe : ∀ id pipe, s'.streams.pipe? id = some pipe → s.streams.pipe? id = some pipe
  running : ∀ id pipe, s.streams.pipe? id = some pipe → pipe.isRunning →
    s'.streams.pipe? id = some pipe
  finished : p.swept ∨
    ∀ id pipe, s.streams.pipe? id = some pipe → s'.streams.pipe? id = some pipe
  bodies : s'.host.bodies = s.host.bodies
  chunkSize : s'.host.chunkSize = s.host.chunkSize
  overrun : s'.host.overrun = s.host.overrun
  faultless : p.faultless → s.host.faults = {} → s'.host.faults = {}
  wellFormed : s.streams.pipes.WellFormed → s'.streams.pipes.WellFormed

variable {p : Passage} {s s' : Session MemoryHost E} {below : List Cell}
  {last cell : Cell} {i : Nat}
variable {intake : Intake} {lock : Option WriterToken}

theorem SourceAt.of_spares {backing : SourceBacking E} (hspares : p.Spares s s')
    (h : p.SourceAt i backing cell s) : p.SourceAt i backing cell s' := by
  obtain ⟨source, hs, hback, hstands⟩ := h
  exact ⟨source, hspares.source _ _ hs hstands.kept, hback, hstands⟩

theorem SinkAt.of_spares {backing : SinkBacking E} {state : WritableState}
    (hspares : p.Spares s s') (h : p.SinkAt i backing state lock s) :
    p.SinkAt i backing state lock s' := by
  obtain ⟨sink, hs, hback, hrests⟩ := h
  exact ⟨sink, hspares.sink _ _ hs hrests.kept, hback, hrests⟩

theorem PipeAt.of_spares {link : LinkStatus} {pumping : Bool} (hspares : p.Spares s s')
    (h : p.PipeAt i link pumping s) : p.PipeAt i link pumping s' := by
  cases link with
  | idle => exact fun id pipe hs => h id pipe (hspares.pipe id pipe hs)
  | running id reader writer =>
    exact ⟨hspares.running _ _ h.1 rfl, fun other pipe hs => h.2 other pipe (hspares.pipe _ _ hs)⟩
  | finished outcome =>
    refine ⟨fun id pipe hs => h.1 id pipe (hspares.pipe _ _ hs), ?_⟩
    rcases hspares.finished with hswept | hkept
    · exact .inl hswept
    · exact h.2.imp_right fun ⟨id, pipe, hs, hd⟩ => ⟨id, pipe, hkept id pipe hs, hd⟩

theorem Spring.of_spares (hspares : p.Spares s s') (h : p.Spring cell s) : p.Spring cell s' := by
  refine ⟨?_, ?_, h.healthy, hspares.chunkSize ▸ h.chunkSize,
    fun hc => hspares.faultless hc (h.faultless hc), fun hm => hspares.overrun ▸ h.intact hm⟩
  · obtain ⟨size, hadmits, hs⟩ := h.source
    exact ⟨size, hadmits.congr hspares.chunkSize, hs.of_spares hspares⟩
  · obtain ⟨body, entered, hb, hrest⟩ := h.origin
    exact ⟨body, entered, hspares.bodies ▸ hb, hrest⟩

theorem Crossing.of_spares (hspares : p.Spares s s') (h : p.Crossing i cell intake lock s) :
    p.Crossing i cell intake lock s' := by
  have hsource := h.source.of_spares hspares
  refine ⟨hsource, h.sink.of_spares hspares, ?_, h.answers, h.accounts, h.healthy⟩
  obtain ⟨bridge, hb, hr, hrest⟩ := h.bridge
  obtain ⟨source, hs, -⟩ := hsource
  exact ⟨bridge, hspares.bridge _ _ hb (by simp [Registry.containsReadable, hr, hs]), hr, hrest⟩

theorem Upto.of_spares (hspares : p.Spares s s') (h : p.Upto below cell s) :
    p.Upto below cell s' := by
  induction below generalizing cell with
  | nil => exact Spring.of_spares hspares h
  | cons last below ih =>
    obtain ⟨hlast, hrests, hpipe, intake, hcross, hjoins⟩ := h
    exact ⟨ih hlast, hrests, hpipe.of_spares hspares, intake, hcross.of_spares hspares, hjoins⟩

theorem Mouth.of_spares (hspares : p.Spares s s') (h : p.Mouth intake lock s) :
    p.Mouth intake lock s' := by
  obtain ⟨hsink, ⟨body, hb, hrest⟩, hunbroken, hfaultless, hintact⟩ := h
  exact ⟨hsink.of_spares hspares, ⟨body, hspares.bodies ▸ hb, hrest⟩, hunbroken,
    fun hc => hspares.faultless hc (hfaultless hc), fun hm => hspares.overrun ▸ hintact hm⟩

theorem Holds.of_spares (hspares : p.Spares s s') (h : p.Holds below last s) :
    p.Holds below last s' := by
  obtain ⟨intake, hmouth, hjoins⟩ := h.mouth
  exact ⟨h.length, h.upto.of_spares hspares, h.resting, h.pipe.of_spares hspares,
    ⟨intake, hmouth.of_spares hspares, hjoins⟩,
    fun id pipe hs => h.alone id pipe (hspares.pipe id pipe hs), hspares.wellFormed h.wellFormed⟩

/-- A sweep takes no more than the entries of pipes that have finished. -/
theorem spares_sweep (s : Session MemoryHost E) (h : p.swept) :
    p.Spares s (Session.mapStreams (fun streams => streams.sweep.2) s) where
  source id source hs hkept := by
    simp [Registry.source?_sweep, hs, hkept]
  sink id sink hs hkept := by
    simp [Registry.sink?_sweep, hs, hkept]
  bridge id bridge hs hr := by
    rw [Session.streams_mapStreams, Registry.bridge?_sweep, hs, Option.filter_some, if_pos]
    rw [Session.streams_mapStreams] at hr
    rw [hr, Bool.true_or]
  pipe id pipe hs := by
    rw [Session.streams_mapStreams, Registry.pipe?_sweep, Option.filter_eq_some_iff] at hs
    exact hs.1
  running id pipe hs hr := by
    simp [Registry.pipe?_sweep, hs, hr]
  finished := .inl h
  bodies := rfl
  chunkSize := rfl
  overrun := rfl
  faultless _ hf := hf
  wellFormed hwf := by
    rw [Session.streams_mapStreams, Registry.pipes_sweep]
    exact hwf.retain _

/-- Other faults are set. -/
theorem spares_faults (s : Session MemoryHost E) {faults : FaultPlan}
    (h : p.faultless → faults = {}) : p.Spares s { s with host := { s.host with faults } } :=
  ⟨fun _ _ hs _ => hs, fun _ _ hs _ => hs, fun _ _ hs _ => hs, fun _ _ hs => hs,
    fun _ _ hs _ => hs, .inr fun _ _ hs => hs, rfl, rfl, rfl, fun hc _ => h hc, id⟩

end Passage

/-! ### Operations -/

/-- What may be done to a pipeline. -/
inductive PipelineOp where
  /-- Pipes the readable stream of a number into the writable stream of the same number. -/
  | pipeTo (number : Nat)
  /-- The same for a pipe that leads into a transform stream. -/
  | pipeThrough (number : Nat)
  | pump
  | sweep
  | failNext (operation : HostOperation) (error : HostError)
  | failAlways (operation : HostOperation) (error : HostError)
  | clearFailures

namespace PipelineOp

/-- The session after an operation, if the fuel suffices for it. -/
def run (p : Pipeline) (fuel : Nat) :
    PipelineOp → Session MemoryHost E → Option (Session MemoryHost E)
  | pipeTo number, s =>
    (attempt (Session.pipeTo fuel (p.readable number) (p.writable number)) s).map Prod.snd
  | pipeThrough number, s =>
    (attempt (Session.pipeThrough fuel (p.readable number) (p.stage number)) s).map Prod.snd
  | pump, s => (drive (Session.pump fuel) s).map Prod.snd
  | sweep, s => some (Session.sweep.run s).2
  | failNext operation error, s => some { s with host := s.host.failNext operation error }
  | failAlways operation error, s => some { s with host := s.host.failAlways operation error }
  | clearFailures, s => some { s with host := s.host.clearFailures }

/-- One operation after the other. -/
def runAll (p : Pipeline) (fuel : Nat) :
    List PipelineOp → Session MemoryHost E → Option (Session MemoryHost E)
  | [], s => some s
  | op :: ops, s => (op.run p fuel s).bind (runAll p fuel ops)

/-- More fuel never changes what an operation leads to. -/
theorem run_more {p : Pipeline} {fuel : Nat} {op : PipelineOp} {s t : Session MemoryHost E}
    (h : op.run p fuel s = some t) : op.run p (fuel + 1) s = some t := by
  cases op with
  | pipeTo number =>
    obtain ⟨r, hr, rfl⟩ := Option.map_eq_some_iff.mp h
    exact congrArg (Option.map Prod.snd) (Session.extends_pipeTo fuel _ _ _ s r hr)
  | pipeThrough number =>
    obtain ⟨r, hr, rfl⟩ := Option.map_eq_some_iff.mp h
    exact congrArg (Option.map Prod.snd) (Session.extends_pipeThrough fuel _ _ _ s r hr)
  | pump =>
    obtain ⟨r, hr, rfl⟩ := Option.map_eq_some_iff.mp h
    exact congrArg (Option.map Prod.snd) (Session.extends_pump fuel s r hr)
  | sweep | failNext | failAlways | clearFailures => exact h

theorem runAll_more {p : Pipeline} {fuel : Nat} {ops : List PipelineOp} {s t : Session MemoryHost E}
    (h : runAll p fuel ops s = some t) : runAll p (fuel + 1) ops s = some t := by
  induction ops generalizing s with
  | nil => exact h
  | cons op ops ih =>
    obtain ⟨u, hu, hrest⟩ := Option.bind_eq_some_iff.mp h
    exact Option.bind_eq_some_iff.mpr ⟨u, run_more hu, ih hrest⟩

/-- The operation does not make a host call fail. -/
def IsCalm : PipelineOp → Prop
  | pipeTo _ | pipeThrough _ | pump | sweep | clearFailures => True
  | failNext _ _ | failAlways _ _ => False

/-- The pipe that an operation starts. -/
def start? : PipelineOp → Option Nat
  | pipeTo number | pipeThrough number => some number
  | pump | sweep | failNext _ _ | failAlways _ _ | clearFailures => none

/-- The operation is about a pipeline with so many transform streams. -/
def Fits (count : Nat) : PipelineOp → Prop
  | pipeTo number => number ≤ count
  | pipeThrough number => number < count
  | pump | sweep | failNext _ _ | failAlways _ _ | clearFailures => True

/-- The pipes that some operations start. -/
def starts (ops : List PipelineOp) : List Nat := ops.filterMap start?

theorem starts_cons (op : PipelineOp) (ops : List PipelineOp) :
    starts (op :: ops) = op.start?.toList ++ starts ops := by
  cases h : op.start? <;> simp [starts, h]

/-- The operations are about a pipeline with so many transform streams, and start no pipe twice. -/
structure Proper (count : Nat) (ops : List PipelineOp) : Prop where
  fits : ∀ op ∈ ops, op.Fits count
  nodup : (starts ops).Nodup

end PipelineOp

namespace Passage

variable {p : Passage} {s : Session MemoryHost E} {below : List Cell} {last : Cell}
variable {started : List Nat}

/-- What a passage knows of an operation. -/
structure ExpectsOperation (p : Passage) (op : PipelineOp) : Prop where
  fits : op.Fits p.length
  faultless : p.faultless → op.IsCalm
  swept : op = .sweep → p.swept

/-- An operation on a pipeline has an outcome, and the pipeline stays as it should be. -/
theorem Holds.run (hp : p.Distinct) (h : p.Holds below last s)
    (hstarted : Cell.StartedBy started (last :: below)) {op : PipelineOp}
    (hop : p.ExpectsOperation op) (hnew : ∀ number, op.start? = some number → number ∉ started) :
    ∃ below' last' s',
      Settles (fun fuel => op.run p.toPipeline fuel s) s' ∧ p.Holds below' last' s' ∧
        Cell.StartedBy (op.start?.toList ++ started) (last' :: below') := by
  -- faults that are set or cleared leave the pipeline alone
  have hfaults : ∀ {faults : FaultPlan}, (p.faultless → faults = {}) →
      p.Holds below last { s with host := { s.host with faults } } :=
    fun hc => h.of_spares (spares_faults s hc)
  cases op with
  | pipeTo number =>
    obtain ⟨id, below', last', s', ⟨bound, hsettles⟩, h', hstarted'⟩ :=
      h.start hp hstarted hop.fits (hnew number rfl)
    exact ⟨below', last', s',
      ⟨bound, fun fuel hfuel => congrArg (Option.map Prod.snd) (hsettles fuel hfuel)⟩, h',
        hstarted'⟩
  | pipeThrough number =>
    have hlt : number < p.length := hop.fits
    obtain ⟨id, below', last', s', ⟨bound, hsettles⟩, h', hstarted'⟩ :=
      h.start hp hstarted hlt.le (hnew number rfl)
    refine ⟨below', last', s', ⟨bound, fun fuel hfuel => ?_⟩, h', hstarted'⟩
    simp only [PipelineOp.run, Session.attempt_pipeThrough, Option.map_map]
    rw [← p.writable_of_lt hlt]
    exact congrArg (Option.map Prod.snd) (hsettles fuel hfuel)
  | pump =>
    obtain ⟨total, below', last', s', ⟨bound, hsettles⟩, h', hgrows, -⟩ := h.pump hp
    exact ⟨below', last', s',
      ⟨bound, fun fuel hfuel => congrArg (Option.map Prod.snd) (hsettles fuel hfuel)⟩, h',
      hstarted.of_growsTo hgrows⟩
  | sweep =>
    exact ⟨below, last, _, ⟨0, fun _ _ => rfl⟩, h.of_spares (spares_sweep s (hop.swept rfl)),
      hstarted⟩
  | failNext operation error =>
    exact ⟨below, last, _, ⟨0, fun _ _ => rfl⟩, hfaults fun hc => (hop.faultless hc).elim, hstarted⟩
  | failAlways operation error =>
    exact ⟨below, last, _, ⟨0, fun _ _ => rfl⟩, hfaults fun hc => (hop.faultless hc).elim, hstarted⟩
  | clearFailures => exact ⟨below, last, _, ⟨0, fun _ _ => rfl⟩, hfaults fun _ => rfl, hstarted⟩

/-- Operations on a pipeline have an outcome, and the pipeline stays as it should be. -/
theorem Holds.runAll (hp : p.Distinct) (ops : List PipelineOp) (h : p.Holds below last s)
    (hstarted : Cell.StartedBy started (last :: below)) (hops : ∀ op ∈ ops, p.ExpectsOperation op)
    (hnodup : (PipelineOp.starts ops).Nodup)
    (hnew : ∀ number ∈ PipelineOp.starts ops, number ∉ started) :
    ∃ below' last' s' started',
      Settles (fun fuel => PipelineOp.runAll p.toPipeline fuel ops s) s' ∧
        p.Holds below' last' s' ∧ Cell.StartedBy started' (last' :: below') ∧
        ∀ number, number ∈ PipelineOp.starts ops ∨ number ∈ started → number ∈ started' := by
  induction ops generalizing below last s started with
  | nil =>
    exact ⟨below, last, s, started, ⟨0, fun _ _ => rfl⟩, h, hstarted,
      fun number hn => hn.resolve_left List.not_mem_nil⟩
  | cons op ops ih =>
    rw [PipelineOp.starts_cons] at hnodup hnew
    obtain ⟨-, hnodup', hapart⟩ := List.nodup_append.mp hnodup
    obtain ⟨below₁, last₁, s₁, hsettles₁, h₁, hstarted₁⟩ :=
      h.run hp hstarted (hops op List.mem_cons_self) fun number hn =>
        hnew number (List.mem_append_left _ (Option.mem_toList.mpr hn))
    obtain ⟨below₂, last₂, s₂, started₂, hsettles₂, h₂, hstarted₂, hall⟩ :=
      ih h₁ hstarted₁ (fun other hmem => hops other (List.mem_cons_of_mem _ hmem)) hnodup'
        fun number hn hmem => by
          rcases List.mem_append.mp hmem with hop | hold
          · exact hapart number hop number hn rfl
          · exact hnew number (List.mem_append_right _ hn) hold
    refine ⟨below₂, last₂, s₂, started₂, hsettles₁.both hsettles₂ fun fuel hfuel hnext => ?_, h₂,
      hstarted₂, fun number hn => hall number ?_⟩
    · rw [PipelineOp.runAll, hfuel]
      exact hnext
    · rw [PipelineOp.starts_cons, List.mem_append] at hn
      rw [List.mem_append]
      tauto

end Passage

end EdgeStreams
