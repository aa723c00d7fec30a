import EdgeStreams.Proofs.Pipeline.Basic

/-!
# What keeps a pipeline

The parts of a pipeline stay as they are under every operation that leaves them alone.

## Main statements

- `Passage.Upto.of_frame`, `Passage.Crossing.of_frame`, `Passage.Mouth.of_frame`,
  `Passage.PipeAt.of_frame`: operations elsewhere
- `Passage.Upto.replace`: a change of the last readable stream
-/

namespace EdgeStreams

variable {E : Type}

namespace Pipeline

variable {p : Pipeline} {i j : Nat}

theorem upstream_within (h : i ≤ j) : (p.upstream i).Within (p.upstream j) where
  readables := fun _ ⟨n, hn, e⟩ => ⟨n, by omega, e⟩
  writables := fun _ ⟨n, hn, e⟩ => ⟨n, by omega, e⟩
  bridges := fun _ ⟨n, hn, e⟩ => ⟨n, by omega, e⟩
  pipes := fun _ ⟨n, hn, e⟩ => ⟨n, by omega, e⟩
  bodies := subset_rfl

theorem upstream_within_before : (p.upstream i).Within (p.before (i + 1)) where
  readables := fun _ ⟨n, hn, e⟩ => ⟨n, by omega, e⟩
  writables := fun _ ⟨n, hn, e⟩ => ⟨n, by omega, e⟩
  bridges := fun _ ⟨n, hn, e⟩ => ⟨n, by omega, e⟩
  pipes := fun _ ⟨n, hn, e⟩ => ⟨n, by omega, e⟩
  bodies := subset_rfl

theorem readable_within : ({ readables := {p.readable i} } : Footprint).Within (p.upstream i) where
  readables := fun _ e => ⟨i, Nat.le_refl i, e⟩
  writables := fun _ e => e.elim
  bridges := fun _ e => e.elim
  pipes := fun _ e => e.elim
  bodies := fun _ e => e.elim

theorem origin_within : ({ bodies := {p.origin} } : Footprint).Within (p.upstream i) where
  readables := fun _ e => e.elim
  writables := fun _ e => e.elim
  bridges := fun _ e => e.elim
  pipes := fun _ e => e.elim
  bodies := by
    rintro _ rfl
    exact .inl rfl

theorem crossing_within (h : i < j) : (p.crossing i).Within (p.upstream j) where
  readables := fun _ e => ⟨i + 1, h, e⟩
  writables := fun _ e => ⟨i, h, e⟩
  bridges := fun _ e => ⟨i, h, e⟩
  pipes := fun _ e => e.elim
  bodies := fun _ e => e.elim

theorem link_within (h : i < j) : (p.link i).Within (p.upstream j) where
  readables := fun _ e => ⟨i, by omega, e⟩
  writables := fun _ e => ⟨i, h, e⟩
  bridges := fun _ e => e.elim
  pipes := fun _ e => ⟨i, h, e⟩
  bodies := fun _ e => e.elim

theorem readable_within_crossing :
    ({ readables := {p.readable (i + 1)} } : Footprint).Within (p.crossing i) :=
  ⟨subset_rfl, Set.empty_subset _, Set.empty_subset _, subset_rfl, subset_rfl⟩

theorem writable_within_crossing :
    ({ writables := {p.writable i} } : Footprint).Within (p.crossing i) :=
  ⟨Set.empty_subset _, subset_rfl, Set.empty_subset _, subset_rfl, subset_rfl⟩

theorem bridge_within_crossing :
    ({ bridges := {p.bridge i} } : Footprint).Within (p.crossing i) :=
  ⟨Set.empty_subset _, Set.empty_subset _, subset_rfl, subset_rfl, subset_rfl⟩

variable (hp : p.Distinct)
include hp

/-- A transform stream is not among what lies before it. -/
theorem Distinct.upstream_apart_crossing (h : i < p.length) :
    (p.upstream i).Apart (p.crossing i) where
  readables := by
    rintro _ ⟨j, hj, rfl⟩ he
    have := hp.readable _ _ (by omega) (by omega) he
    omega
  writables := by
    rintro _ ⟨j, hj, rfl⟩ he
    have := hp.writable _ _ (by omega) (by omega) he
    omega
  bridges := by
    rintro _ ⟨j, hj, rfl⟩ he
    have := hp.bridge _ _ (by omega) (by omega) he
    omega
  pipes := fun _ _ he => he.elim
  bodies := fun _ _ he => he.elim

/-- The end of a pipeline is not among what lies before it. -/
theorem Distinct.upstream_apart_mouth : (p.upstream p.length).Apart p.mouth where
  readables := fun _ _ he => he.elim
  writables := by
    rintro _ ⟨j, hj, rfl⟩ he
    rw [mouth, Set.mem_singleton_iff, ← p.writable_length] at he
    have := hp.writable _ _ (by omega) (by omega) he
    omega
  bridges := fun _ _ he => he.elim
  pipes := fun _ _ he => he.elim
  bodies := by
    rintro handle (rfl | hne) he
    · exact hp.ends he
    · exact hne he

theorem Distinct.writable_notMem_pipes (hi : i ≤ p.length) (h : j ≤ i) :
    p.writable i ∉ (p.upstream j).pipes := by
  rintro ⟨n, hn, he⟩
  have := hp.writable _ _ hi (by omega) he
  omega

theorem Distinct.pipe_apart_upstream (hi : i ≤ p.length) :
    ({ pipes := {p.writable i} } : Footprint).Apart (p.upstream i) where
  readables := fun _ h => h.elim
  writables := fun _ h => h.elim
  bridges := fun _ h => h.elim
  pipes := by
    rintro _ rfl
    exact hp.writable_notMem_pipes hi (Nat.le_refl i)
  bodies := fun _ h => h.elim

theorem Distinct.readable_notMem (hi : i ≤ p.length) (h : j < i) :
    p.readable i ∉ (p.upstream j).readables := by
  rintro ⟨n, hn, he⟩
  have := hp.readable _ _ hi (by omega) he
  omega

theorem Distinct.apart_before {f : Footprint} (hi : i ≤ p.length)
    (hr : f.readables ⊆ {p.readable i}) (hw : f.writables ⊆ {p.writable i}) (hb : f.bridges = ∅)
    (hpipes : f.pipes ⊆ {p.writable i}) (hbodies : f.bodies = ∅) : f.Apart (p.before i) where
  readables := by
    rintro id hid ⟨j, hj, rfl⟩
    have := hp.readable _ _ (by omega) hi (hr hid)
    omega
  writables := by
    rintro id hid ⟨j, hj, rfl⟩
    have := hp.writable _ _ (by omega) hi (hw hid)
    omega
  bridges := fun _ hid => absurd (hb ▸ hid) (Set.notMem_empty _)
  pipes := by
    rintro id hid ⟨j, hj, rfl⟩
    have := hp.writable _ _ (by omega) hi (hpipes hid)
    omega
  bodies := fun _ hid => absurd (hbodies ▸ hid) (Set.notMem_empty _)

end Pipeline

namespace Passage

variable {p : Passage} {f : Footprint} {s s' : Session MemoryHost E} {i : Nat}
variable {cell cell' : Cell} {intake : Intake} {lock : Option WriterToken}

theorem SourceAt.of_frame {backing : SourceBacking E} (hf : Frame f s s')
    (hr : p.readable i ∉ f.readables) (h : p.SourceAt i backing cell s) :
    p.SourceAt i backing cell s' := by
  obtain ⟨source, hs, hb⟩ := h
  exact ⟨source, (hf.source _ hr).trans hs, hb⟩

theorem SinkAt.of_frame {backing : SinkBacking E} {state : WritableState} (hf : Frame f s s')
    (hw : p.writable i ∉ f.writables) (h : p.SinkAt i backing state lock s) :
    p.SinkAt i backing state lock s' := by
  obtain ⟨sink, hs, hb⟩ := h
  exact ⟨sink, (hf.sink _ hw).trans hs, hb⟩

theorem PipeAt.of_frame {link : LinkStatus} {pumping : Bool} (hf : Frame f s s')
    (hw : p.writable i ∉ f.pipes) (h : p.PipeAt i link pumping s) :
    p.PipeAt i link pumping s' := by
  have hpipe : ∀ id pipe, pipe.destination = p.writable i →
      (s'.streams.pipe? id = some pipe ↔ s.streams.pipe? id = some pipe) :=
    fun id pipe hd => hf.pipe id pipe (hd ▸ hw)
  cases link with
  | idle =>
    intro id pipe hs hd
    exact h id pipe ((hpipe id pipe hd).mp hs) hd
  | running id reader writer =>
    exact ⟨(hpipe id _ rfl).mpr h.1, fun other pipe hs hd =>
      h.2 other pipe ((hpipe _ _ hd).mp hs) hd⟩
  | finished outcome =>
    refine ⟨fun id pipe hs hd => h.1 id pipe ((hpipe _ _ hd).mp hs) hd, ?_⟩
    exact h.2.imp_right fun ⟨id, pipe, hs, hd⟩ => ⟨id, pipe, (hpipe _ _ hd).mpr hs, hd⟩

theorem AdmitsReads.congr {size : UInt64} {host host' : MemoryHost} (h : p.AdmitsReads size host)
    (hc : host'.chunkSize = host.chunkSize) : p.AdmitsReads size host' :=
  ⟨h.pos, fun hm => MemoryHost.readLimit_congr host hc ▸ h.within hm⟩

theorem Spring.of_frame (hf : Frame f s s') (ha : f.Apart (p.upstream 0)) (h : p.Spring cell s) :
    p.Spring cell s' := by
  refine ⟨?_, ?_, h.healthy, hf.chunkSize ▸ h.chunkSize, fun hc => hf.faultless (h.faultless hc),
    fun hm handle hin ho => h.intact hm handle hin (hf.overrun _ (fun hf => ha.bodies _ hf hin) ho)⟩
  · obtain ⟨size, hsize, hs⟩ := h.source
    exact ⟨size, hsize.congr hf.chunkSize, hs.of_frame hf fun hm =>
      ha.readables _ hm ⟨0, Nat.le_refl 0, rfl⟩⟩
  · obtain ⟨body, entered, hb, hrest⟩ := h.origin
    exact ⟨body, entered, (hf.body _ fun hm => ha.bodies _ hm (.inl rfl)).trans hb, hrest⟩

theorem Crossing.of_frame (hf : Frame f s s') (ha : f.Apart (p.crossing i))
    (h : p.Crossing i cell intake lock s) : p.Crossing i cell intake lock s' := by
  refine ⟨h.source.of_frame hf fun hm => ha.readables _ hm rfl,
    h.sink.of_frame hf fun hm => ha.writables _ hm rfl, ?_, h.answers, h.accounts, h.healthy⟩
  obtain ⟨bridge, hb, hrest⟩ := h.bridge
  exact ⟨bridge, (hf.bridge _ fun hm => ha.bridges _ hm rfl).trans hb, hrest⟩

theorem Basin.of_frame (hf : Frame f s s') (hb : p.destination ∉ f.bodies) (h : p.Basin intake s) :
    p.Basin intake s' := by
  obtain ⟨body, hfound, hrest⟩ := h.body
  exact ⟨⟨body, (hf.body _ hb).trans hfound, hrest⟩, h.unbroken,
    fun hc => hf.faultless (h.faultless hc), fun hm ho => h.intact hm (hf.overrun _ hb ho)⟩

theorem Mouth.of_frame (hf : Frame f s s') (ha : f.Apart p.mouth) (h : p.Mouth intake lock s) :
    p.Mouth intake lock s' :=
  ⟨h.sink.of_frame hf fun hm => ha.writables _ hm p.writable_length,
    h.basin.of_frame hf fun hm => ha.bodies _ hm rfl⟩

theorem Upto.of_frame {below : List Cell} (hf : Frame f s s')
    (ha : f.Apart (p.upstream below.length)) (h : p.Upto below cell s) : p.Upto below cell s' := by
  induction below generalizing cell with
  | nil => exact Spring.of_frame hf ha h
  | cons last below ih =>
    obtain ⟨hlast, hrest, hpipe, intake, hcross, hjoin⟩ := h
    have hl : below.length < (last :: below).length := Nat.lt_succ_self _
    refine ⟨ih (ha.symm.within (Pipeline.upstream_within hl.le)).symm hlast, hrest, ?_, intake, ?_,
      hjoin⟩
    · exact hpipe.of_frame hf fun hm => ha.pipes _ hm ⟨_, hl, rfl⟩
    · exact hcross.of_frame hf (ha.symm.within (Pipeline.crossing_within hl)).symm

/-- Nothing of a passage depends on the journal or on the environment. -/
theorem Upto.congr {below : List Cell} (h : p.Upto below cell s) (hs : s'.streams = s.streams)
    (hh : s'.host = s.host) : p.Upto below cell s' :=
  h.of_frame ((Frame.refl {} s).congr hs hh) Footprint.apart_empty.symm

theorem Upto.source {below : List Cell} (h : p.Upto below cell s) :
    ∃ source, s.streams.source? (p.readable below.length) = some source ∧ source.Stands cell := by
  cases below with
  | nil =>
    obtain ⟨size, hsize, source, hs, hb, hstands⟩ := Spring.source h
    exact ⟨source, hs, hstands⟩
  | cons last below =>
    obtain ⟨hlast, hrest, hpipe, intake, hcross, hjoin⟩ := h
    obtain ⟨source, hs, hb, hstands⟩ := hcross.source
    exact ⟨source, hs, hstands⟩

/-- The one cell may take the place of the other. -/
structure Follows (cell cell' : Cell) : Prop where
  accounts : ∀ incoming, cell.supply.Accounts cell.taken incoming →
    cell'.supply.Accounts cell'.taken incoming
  answers : ∀ state, cell.supply.Answers state → cell'.supply.Answers state
  opened : cell'.supply.IsOpen → cell.supply.IsOpen
  spent : cell'.supply.IsHealthy → ¬ cell'.supply.IsOpen →
    cell.supply.IsHealthy ∧ ¬ cell.supply.IsOpen
  healthy : cell.supply.IsHealthy → cell'.supply.IsHealthy

theorem Follows.of_eq (hs : cell'.supply = cell.supply) (ht : cell'.taken = cell.taken) :
    Follows cell cell' := by
  constructor <;> simp_all

/-- A change of the source. Its body may be spared or have lost what the source has lost. -/
theorem Spring.replace (h : p.Spring cell s) (hf : Frame f s s')
    (hbodies : ∀ handle ∈ p.unwritten, handle ∉ f.bodies) {source : Source E}
    (hs : s.streams.source? (p.readable 0) = some source) (source' : Source E)
    (hs' : s'.streams.source? (p.readable 0) = some source')
    (hb : source'.backing = source.backing) (hstands : source'.Stands cell')
    (haccounts : ∀ incoming, cell.supply.Accounts cell.taken incoming →
      cell'.supply.Accounts cell'.taken incoming)
    (hopened : cell'.supply.IsOpen → cell.supply.IsOpen)
    (hspent : cell'.supply.IsHealthy → ¬ cell'.supply.IsOpen →
      cell.supply.IsHealthy ∧ ¬ cell.supply.IsOpen)
    (hhealthy : p.calm → cell'.supply.IsHealthy) : p.Spring cell' s' := by
  obtain ⟨size, hsize, old, hold, hback, -⟩ := h.source
  obtain ⟨body, entered, hfound, hcontent, hold', hopen, hend⟩ := h.origin
  obtain rfl : old = source := Option.some_inj.mp (hold.symm.trans hs)
  refine ⟨⟨size, hsize.congr hf.chunkSize, source', hs', hb.trans hback, hstands⟩,
    ⟨body, entered, (hf.body _ (hbodies _ (.inl rfl))).trans hfound, hcontent, haccounts _ hold',
      fun ho => hopen (hopened ho), fun hh ho => ?_⟩,
    hhealthy, hf.chunkSize ▸ h.chunkSize, fun hc => hf.faultless (h.faultless hc),
    fun hm handle hin ho => h.intact hm handle hin (hf.overrun _ (hbodies _ hin) ho)⟩
  exact hend (hspent hh ho).1 (hspent hh ho).2

/-- A change of the last readable stream. -/
theorem Upto.replace {below : List Cell} (h : p.Upto below cell s) (hf : Frame f s s')
    (ha : f.Apart (p.before below.length)) {source : Source E}
    (hs : s.streams.source? (p.readable below.length) = some source) (source' : Source E)
    (hs' : s'.streams.source? (p.readable below.length) = some source')
    (hb : source'.backing = source.backing) (hstands : source'.Stands cell')
    (hfollows : Follows cell cell') : p.Upto below cell' s' := by
  cases below with
  | nil =>
    exact Spring.replace h hf (fun _ hin hm => ha.bodies _ hm hin) hs source' hs' hb hstands
      hfollows.accounts
      hfollows.opened hfollows.spent fun hc => hfollows.healthy (Spring.healthy h hc)
  | cons last below =>
    obtain ⟨hlast, hrest, hpipe, intake, hcross, hjoin⟩ := h
    obtain ⟨old, hold, hback, -⟩ := hcross.source
    obtain rfl : old = source := Option.some_inj.mp (hold.symm.trans hs)
    have hl : below.length < below.length + 1 := Nat.lt_succ_self _
    have hbefore : f.Apart (p.upstream below.length) :=
      (ha.symm.within Pipeline.upstream_within_before).symm
    refine ⟨hlast.of_frame hf hbefore, hrest,
      hpipe.of_frame hf fun hm => ha.pipes _ hm ⟨_, hl, rfl⟩, intake,
      ⟨⟨source', hs', hb.trans hback, hstands⟩,
        hcross.sink.of_frame hf fun hm => ha.writables _ hm ⟨_, hl, rfl⟩, ?_,
        hfollows.answers _ hcross.answers, hfollows.accounts _ hcross.accounts,
        fun hc => hfollows.healthy (hcross.healthy hc)⟩, hjoin⟩
    obtain ⟨bridge, hbridge, hparts⟩ := hcross.bridge
    exact ⟨bridge, (hf.bridge _ fun hm => ha.bridges _ hm ⟨_, hl, rfl⟩).trans hbridge, hparts⟩

/-- The last readable stream is replaced. -/
theorem Upto.setSource {below : List Cell} (hp : p.Distinct) (hi : below.length ≤ p.length)
    (h : p.Upto below cell s) {source : Source E}
    (hs : s.streams.source? (p.readable below.length) = some source) (source' : Source E)
    (hb : source'.backing = source.backing) (hstands : source'.Stands cell')
    (hfollows : Follows cell cell') :
    p.Upto below cell' (Session.setSource (p.readable below.length) source' s) := by
  refine h.replace (Frame.setSource s _ source')
    (hp.apart_before hi subset_rfl (Set.empty_subset _) rfl (Set.empty_subset _) rfl)
      hs source' ?_ hb
    hstands hfollows
  simp [Registry.source?_setSource, hs]

end Passage

end EdgeStreams
