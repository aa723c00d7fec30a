import EdgeStreams.Proofs.Pipeline.Starting
import EdgeStreams.Proofs.Session.Creating
import Mathlib.Data.List.Nodup

/-!
# Laying a pipeline

A pipeline is laid by making its parts: a readable stream over a host body with some content, some
transform streams that pass every chunk on, and a writable stream over a new host body.

## Main definitions

- `Session.layPipeline`: makes the parts of a pipeline
- `Session.Fit`: a session in which a pipeline can be laid
- `Pipeline.Laid`: the parts of a pipeline are there, and none of its pipes has been started

## Main statements

- `Session.Fit.lay`: laying a pipeline succeeds
- `Pipeline.Laid.holds`: a pipeline that has been laid is as it should be
-/

namespace EdgeStreams

variable {E : Type}

/-- The cell of a stream that has not been used. -/
def Cell.fresh : Cell where
  taken := []
  supply := .flowing []
  link := .idle

/-- The bridge behind a readable half. -/
def SourceBacking.bridge? : SourceBacking E → Option BridgeId
  | .transform bridge => some bridge
  | .body _ _ | .script _ => none

/-- The bridge behind a writable half. -/
def SinkBacking.bridge? : SinkBacking E → Option BridgeId
  | .transform bridge => some bridge
  | .body _ | .script _ => none

/-- The parts of a pipeline are there, and no pipe leads into any of them. -/
structure Pipeline.Laid (p : Pipeline) (content : Bytes) (s : Session MemoryHost E) : Prop where
  source : ∃ source, s.streams.source? p.source = some source ∧
    source.backing = .body p.origin s.streams.config.bodyChunkSize ∧ source.Stands .fresh
  stage : ∀ stage ∈ p.stages,
    (∃ source, s.streams.source? stage.readable = some source ∧
      source.backing = .transform stage.bridge ∧ source.Stands .fresh) ∧
    (∃ sink, s.streams.sink? stage.writable = some sink ∧
      sink.backing = .transform stage.bridge ∧ sink.Rests .writable none) ∧
    s.streams.bridge? stage.bridge =
      some { readable := stage.readable, writable := stage.writable, transformer := .identity }
  nodup : (p.stages.map TransformStream.bridge).Nodup
  sink : ∃ sink, s.streams.sink? p.sink = some sink ∧ sink.backing = .body p.destination ∧
    sink.Rests .writable none
  origin : s.host.bodies.find? p.origin.raw = some (.readable content)
  destination : s.host.bodies.find? p.destination.raw = some .writable
  ends : p.origin ≠ p.destination
  bodyChunkSize : 0 < s.streams.config.bodyChunkSize
  chunkSize : 0 < s.host.chunkSize
  faultless : s.host.faults = {}
  unpiped : ∀ id pipe, s.streams.pipe? id = some pipe →
    pipe.isRunning = false ∧ ∀ i, i ≤ p.length → pipe.destination ≠ p.writable i
  wellFormed : s.streams.pipes.WellFormed

namespace Pipeline.Laid

variable {p : Pipeline} {content : Bytes} {s : Session MemoryHost E} {i j : Nat}

theorem stage_eq (hi : i < p.length) : p.stage i = p.stages.get ⟨i, hi⟩ := by
  rw [Pipeline.stage, List.getD_eq_getElem?_getD, List.getElem?_eq_getElem hi, Option.getD_some]
  rfl

theorem stage_mem (hi : i < p.length) : p.stage i ∈ p.stages := by
  rw [stage_eq hi]
  exact List.getElem_mem hi

variable (h : p.Laid content s)
include h

theorem bridge_inj (hi : i < p.length) (hj : j < p.length) (he : p.bridge i = p.bridge j) :
    i = j := by
  simp only [Pipeline.bridge, stage_eq hi, stage_eq hj] at he
  have hi' : i < (p.stages.map TransformStream.bridge).length := by rwa [List.length_map]
  have hj' : j < (p.stages.map TransformStream.bridge).length := by rwa [List.length_map]
  have hsame : (p.stages.map TransformStream.bridge).get ⟨i, hi'⟩ =
      (p.stages.map TransformStream.bridge).get ⟨j, hj'⟩ := by
    simpa only [List.get_eq_getElem, List.getElem_map] using he
  exact congrArg Fin.val (h.nodup.get_inj_iff.mp hsame)

theorem source_bridge (hi : i ≤ p.length) :
    ∃ source, s.streams.source? (p.readable i) = some source ∧
      source.backing.bridge? = if i = 0 then none else some (p.bridge (i - 1)) := by
  cases i with
  | zero =>
    obtain ⟨source, hs, hback, -⟩ := h.source
    exact ⟨source, hs, by rw [hback]; rfl⟩
  | succ i =>
    obtain ⟨⟨source, hs, hback, -⟩, -⟩ := h.stage _ (stage_mem hi)
    exact ⟨source, hs, by rw [hback]; rfl⟩

theorem sink_bridge (hi : i ≤ p.length) :
    ∃ sink, s.streams.sink? (p.writable i) = some sink ∧
      sink.backing.bridge? = if i < p.length then some (p.bridge i) else none := by
  rcases Nat.lt_or_eq_of_le hi with hi | rfl
  · obtain ⟨-, ⟨sink, hs, hback, -⟩, -⟩ := h.stage _ (stage_mem hi)
    exact ⟨sink, p.writable_of_lt hi ▸ hs, by rw [hback, if_pos hi]; rfl⟩
  · obtain ⟨sink, hs, hback, -⟩ := h.sink
    exact ⟨sink, p.writable_length ▸ hs, by rw [hback, if_neg (Nat.lt_irrefl _)]; rfl⟩

/-- The streams of a pipeline are told apart by what is behind them. -/
theorem distinct : p.Distinct where
  readable i j hi hj he := by
    obtain ⟨source, hs, hb⟩ := h.source_bridge hi
    obtain ⟨same, hs', hb'⟩ := h.source_bridge hj
    rw [he, hs'] at hs
    rw [Option.some_inj.mp hs, hb] at hb'
    cases i with
    | zero =>
      cases j with
      | zero => rfl
      | succ j => cases hb'
    | succ i =>
      cases j with
      | zero => cases hb'
      | succ j => exact congrArg (· + 1) (h.bridge_inj hi hj (Option.some_inj.mp hb'))
  writable i j hi hj he := by
    obtain ⟨sink, hs, hb⟩ := h.sink_bridge hi
    obtain ⟨same, hs', hb'⟩ := h.sink_bridge hj
    rw [he, hs'] at hs
    rw [Option.some_inj.mp hs, hb] at hb'
    split at hb'
    · next hi' =>
      split at hb'
      · next hj' => exact h.bridge_inj hi' hj' (Option.some_inj.mp hb')
      · cases hb'
    · split at hb'
      · cases hb'
      · omega
  bridge _ _ hi hj he := h.bridge_inj hi hj he
  ends := h.ends

variable (faultless calm modest swept : Prop) (hcalm : calm → faultless)
variable (hmodest : modest →
  content.length + s.host.readLimit s.streams.config.bodyChunkSize < UInt64.size ∧
    s.host.overrun = none)
include hmodest

/-- Up to each of its streams a pipeline that has been laid is as it should be. -/
theorem upto (hi : i ≤ p.length) :
    (⟨p, content, faultless, calm, hcalm, modest, swept⟩ : Passage).Upto (List.replicate i .fresh)
      .fresh s := by
  induction i with
  | zero =>
    obtain ⟨source, hs, hback, hstands⟩ := h.source
    refine ⟨⟨_, ⟨h.bodyChunkSize, fun hm => (hmodest hm).1⟩, source, hs, hback, hstands⟩,
      ⟨.readable content, [], h.origin, ?_, rfl, fun _ hn => (by cases hn),
        fun _ ho => absurd trivial ho⟩,
      fun _ => trivial, h.chunkSize, fun _ => h.faultless, fun hm _ _ ho => ?_⟩
    · simp [MemoryBody.readable, MemoryBody.unread]
    · rw [(hmodest hm).2] at ho
      cases ho
  | succ i ih =>
    obtain ⟨⟨source, hs, hback, hstands⟩, ⟨sink, hw, hkind, hrests⟩, hb⟩ := h.stage _ (stage_mem hi)
    have hi' : i < p.length := hi
    have hlength : (List.replicate i Cell.fresh).length = i := List.length_replicate
    rw [List.replicate_succ]
    refine ⟨ih hi'.le, ⟨rfl, fun _ => rfl⟩, ?_, ⟨.writable, []⟩, ?_, ?_⟩
    · rw [hlength]
      exact fun id pipe hpipe => (h.unpiped id pipe hpipe).2 i hi'.le
    · rw [hlength]
      exact ⟨⟨source, hs, hback, hstands⟩, ⟨sink, p.writable_of_lt hi' ▸ hw, hkind, hrests⟩,
        ⟨_, hb, rfl, (p.writable_of_lt hi').symm, rfl⟩, rfl, rfl, fun _ => trivial⟩
    · refine ⟨fun hf => hf.elim, fun hc => ?_, fun _ _ he => ?_, rfl, fun hf => hf⟩
      · cases hc
      · cases he

/-- A pipeline that has been laid is as it should be. -/
theorem holds :
    (⟨p, content, faultless, calm, hcalm, modest, swept⟩ : Passage).Holds
      (List.replicate p.length .fresh) .fresh s where
  length := List.length_replicate
  upto := h.upto faultless calm modest swept hcalm hmodest (Nat.le_refl _)
  resting := ⟨rfl, fun _ => rfl⟩
  pipe id pipe hpipe := (h.unpiped id pipe hpipe).2 p.length (Nat.le_refl _)
  mouth := by
    obtain ⟨sink, hs, hback, hrests⟩ := h.sink
    refine ⟨⟨.writable, []⟩, ⟨⟨sink, p.writable_length ▸ hs, hback, hrests⟩,
      ⟨⟨_, h.destination, rfl, fun _ => rfl, by simp [MemoryBody.writable], nofun⟩, nofun,
        fun _ => h.faultless, fun hm => (hmodest hm).2 ▸ nofun⟩⟩, fun hf => hf.elim,
      nofun, nofun, rfl, fun hf => hf⟩
  alone id pipe hpipe hr := by
    rw [(h.unpiped id pipe hpipe).1] at hr
    cases hr
  wellFormed := h.wellFormed

end Pipeline.Laid

/-! ### Laying -/

namespace Session

/-- A session in which a pipeline can be laid: no pipe is running, and no host call is to fail. -/
structure Fit (s : Session MemoryHost E) : Prop where
  wellFormed : s.streams.WellFormed
  bodyChunkSize : 0 < s.streams.config.bodyChunkSize
  chunkSize : 0 < s.host.chunkSize
  faultless : s.host.faults = {}
  /-- The pipes that are entered have finished, and the streams that they led into are still
  there. -/
  finished : ∀ id pipe, s.streams.pipe? id = some pipe →
    pipe.isRunning = false ∧ s.streams.containsWritable pipe.destination

/-- A new session is fit, whatever the settings. -/
theorem fit_new (size : UInt64) (config : StreamConfig) (env : E) :
    Fit { host := MemoryHost.withChunkSize size, env, streams := Registry.new config } where
  wellFormed := Registry.wellFormed_new config
  bodyChunkSize := UInt64.max_one_pos config.bodyChunkSize
  chunkSize := MemoryHost.withChunkSize_pos size
  faultless := rfl
  finished id pipe h := by
    rw [Registry.pipe?, show (Registry.new config : Registry E).pipes = {} from rfl,
      SlotMap.get?_empty] at h
    cases h

/-- Makes a host body with some content, a readable stream over it, transform streams that pass
every chunk on, and a writable stream over a new host body. -/
def layPipeline (content : Bytes) (count : Nat) : Action MemoryHost E HostError Pipeline := do
  let origin ← modifyGet fun session =>
    ((session.host.addBody content).1, { session with host := (session.host.addBody content).2 })
  let source ← modifyGet (changeStreams fun streams => streams.bodySource origin)
  let stages ← ExceptT.lift (createIdentities count)
  let destination ← onHost Host.bodyNew
  let sink ← modifyGet (changeStreams fun streams => streams.bodySink destination)
  return { origin, source, stages, sink, destination }

/-- The session once the source of a pipeline has been made. -/
def sourced (content : Bytes) (s : Session MemoryHost E) : Session MemoryHost E :=
  { s with
    host := (s.host.addBody content).2
    streams := (s.streams.bodySource (s.host.addBody content).1).2 }

variable {s : Session MemoryHost E} {content : Bytes} {count : Nat}

theorem exec_layPipeline {stages : List TransformStream} {staged : Session MemoryHost E}
    {destination : BodyHandle} {host : MemoryHost}
    (hstages : StateT.run (createIdentities count) (s.sourced content) = (stages, staged))
    (hnew : exec (Host.bodyNew : HostCall MemoryHost BodyHandle) staged.host =
      (.ok destination, host)) :
    exec (layPipeline content count) s =
      (.ok
          { origin := (s.host.addBody content).1
            source := (s.streams.bodySource (s.host.addBody content).1).1
            stages
            sink := (staged.streams.bodySink destination).1
            destination },
        { staged with host, streams := (staged.streams.bodySink destination).2 }) := by
  have hlift : exec (ExceptT.lift (createIdentities count) :
      Action MemoryHost E HostError (List TransformStream)) (s.sourced content) =
        (.ok stages, staged) := by
    change (Except.ok (StateT.run (createIdentities count) (s.sourced content)).1,
      (StateT.run (createIdentities count) (s.sourced content)).2) = _
    rw [hstages]
  simp only [sourced] at hlift
  simp only [layPipeline, exec_bind, exec_modifyGet, changeStreams, hlift, exec_onHost, hnew,
    exec_pure]

/-- Laying a pipeline succeeds. The settings are those that were there before, and nothing has been
read. -/
theorem Fit.lay (h : s.Fit) (content : Bytes) (count : Nat) :
    ∃ p laid, exec (layPipeline content count) s = (.ok p, laid) ∧ p.length = count ∧
      p.Laid content laid ∧ laid.streams.config = s.streams.config ∧
        laid.host.chunkSize = s.host.chunkSize ∧ laid.host.overrun = s.host.overrun := by
  have hsourced : (s.sourced content).streams.WellFormed := h.wellFormed.addSource _
  obtain ⟨hgains, hlength⟩ := gainsAll_createIdentities hsourced count
  obtain ⟨stages, staged, hstages⟩ : ∃ stages staged,
      StateT.run (createIdentities count) (s.sourced content) = (stages, staged) := ⟨_, _, rfl⟩
  rw [hstages] at hgains hlength
  have hfaults : staged.host.faults = {} := by rw [hgains.host]; exact h.faultless
  have hnew : exec (Host.bodyNew : HostCall MemoryHost BodyHandle) staged.host = _ :=
    MemoryHost.exec_bodyNew staged.host
  rw [hfaults, FaultPlan.take_empty] at hnew
  have hhandle : staged.host.nextHandle = s.host.nextHandle + 1 := by rw [hgains.host]; rfl
  have hends : s.host.nextHandle ≠ staged.host.nextHandle := by
    rw [hhandle]
    simp
  -- no stream of the pipeline was there before
  have hsink := Registry.sink?_addSink hgains.wellFormed
  have hnone := Registry.sink?_addSink_fst hgains.wellFormed
  have hkept : ∀ id sink, staged.streams.sink? id = some sink →
      (staged.streams.bodySink ⟨staged.host.nextHandle⟩).2.sink? id = some sink := by
    intro id sink hs
    refine (hsink _ id).trans ((if_neg fun he => ?_).trans hs)
    rw [he, hnone] at hs
    cases hs
  have hconfig : staged.streams.config = s.streams.config := hgains.config
  have hchunk : staged.host.chunkSize = s.host.chunkSize := by rw [hgains.host]; rfl
  have hoverrun : staged.host.overrun = s.host.overrun := by rw [hgains.host]; rfl
  refine ⟨_, _, exec_layPipeline hstages hnew, hlength, ?_, hconfig, hchunk, hoverrun⟩
  refine ⟨⟨_, hgains.source _ _
      ((Registry.source?_addSource h.wellFormed _ _).trans (if_pos rfl)), ?_, ?_⟩, ?_, hgains.nodup,
    ⟨_, (hsink _ _).trans (if_pos rfl), rfl, ?_⟩, ?_, ?_, ?_, ?_, ?_, ?_, ?_, ?_⟩
  · exact congrArg (fun config => SourceBacking.body _ config.bodyChunkSize) hconfig.symm
  · exact ⟨rfl, rfl, rfl, rfl, rfl, fun _ _ => rfl, ⟨rfl, rfl, rfl⟩, nofun⟩
  · intro stage hmem
    obtain ⟨-, -, hr, hw, hb⟩ := hgains.new stage hmem
    refine ⟨⟨_, hr, rfl, ?_⟩, ⟨_, hkept _ _ hw, rfl, ?_⟩, hb⟩
    · exact ⟨rfl, rfl, rfl, rfl, rfl, fun _ _ => rfl, ⟨rfl, rfl, rfl⟩, nofun⟩
    · exact ⟨rfl, rfl, rfl, rfl, rfl, rfl, rfl⟩
  · exact ⟨rfl, rfl, rfl, rfl, rfl, rfl, rfl⟩
  · refine (MemoryHost.find?_putBody _ _ _ _).trans ((if_neg hends).trans ?_)
    change staged.host.bodies.find? s.host.nextHandle = _
    rw [hgains.host]
    exact Table.find?_insert_self _ _ _
  · exact (MemoryHost.find?_putBody _ _ _ _).trans (if_pos rfl)
  · exact fun he => hends (congrArg Handle.raw he)
  · exact hconfig ▸ h.bodyChunkSize
  · exact hchunk ▸ h.chunkSize
  · change (staged.host.faults.take .bodyNew).2 = {}
    rw [hfaults, FaultPlan.take_empty]
  · intro id pipe hpipe
    change staged.streams.pipe? id = some pipe at hpipe
    rw [Registry.pipe?_congr hgains.pipes] at hpipe
    obtain ⟨hstopped, hlives⟩ := h.finished id pipe hpipe
    obtain ⟨sink, hs⟩ := Option.isSome_iff_exists.mp hlives
    refine ⟨hstopped, fun i hi he => ?_⟩
    rw [he] at hs
    rcases Nat.lt_or_eq_of_le hi with hi | rfl
    · rw [Pipeline.writable_of_lt _ hi] at hs
      obtain ⟨hnew, -⟩ := hgains.new _ (Pipeline.Laid.stage_mem hi)
      exact absurd (hnew.symm.trans hs) (by simp)
    · rw [Pipeline.writable_length] at hs
      exact absurd ((hnone _).symm.trans (hgains.sink _ _ hs)) (by simp)
  · exact hgains.wellFormed.pipes

end Session

end EdgeStreams
