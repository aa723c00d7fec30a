import EdgeStreams.Proofs.Breaking.Idling
import EdgeStreams.Proofs.Breaking.Reporting

/-!
# Pipes that make no step

Driving all pipes ends with a round in which no pipe makes a step. The pipe out of the transform
stream has then had to wait for a chunk, so what is piped in has not failed; and the pipes that are
driven after it leave that as it is.

A reader asks for what lies upstream only: the pipe into the stream that it reads, the stream which
that pipe reads, and so on. Streams further down are left alone.

## Main definitions

- `Registry.Downstream`: whatever is piped out of some streams into a transform stream comes to one
  of them
- `Region.upstreamOf`: everything that does not lie downstream
- `Session.PausesPipe`: a pipe has been driven and has made no step
- `Conduit.Idle`: nothing to read, and no failure to come

## Main statements

- `Session.Wired.source?_readUnchecked`: reading one stream leaves those further down as they are
- `Conduit.reports_pump`: once all pipes have been driven, the failure of what is piped in has come
  through, unless a write has failed
-/

namespace EdgeStreams

variable {H E : Type}

/-! ### Streams that lie downstream -/

/-- Whatever is piped out of these streams into a transform stream comes to one of them. -/
structure Registry.Downstream (streams : Registry E) (below : Set ReadableId) : Prop where
  next : ∀ {name pipe id source bridgeId bridge}, streams.pipe? name = some pipe → pipe.isRunning →
    pipe.source ∈ below → streams.source? id = some source → source.backing = .transform bridgeId →
      streams.bridge? bridgeId = some bridge → bridge.writable = pipe.destination → id ∈ below

namespace Region

/-- Everything that does not lie downstream: other readable streams with their bridges, the sinks
that lead to none of these streams and are not fed from them, and the pipes into such sinks. -/
def upstreamOf (streams : Registry E) (below : Set ReadableId) : Region where
  reach :=
    { readables := {id | id ∉ below}
      writables := {id |
        (∀ name pipe, streams.pipe? name = some pipe → pipe.isRunning → pipe.destination = id →
          pipe.source ∉ below) ∧
        ∀ sink name bridge, streams.sink? id = some sink → sink.backing = .transform name →
          streams.bridge? name = some bridge → bridge.readable ∉ below}
      bridges := {name | ∀ bridge, streams.bridge? name = some bridge → bridge.readable ∉ below}
      pipes := Set.univ
      bodies := Set.univ }
  pipes := {name | ∀ pipe, streams.pipe? name = some pipe → pipe.isRunning →
    pipe.source ∉ below ∧ ∀ sink name bridge, streams.sink? pipe.destination = some sink →
      sink.backing = .transform name → streams.bridge? name = some bridge → bridge.readable ∉ below}

end Region

namespace Session

variable {s : Session H E} {mark : UInt64} {below : Set ReadableId} {id other : ReadableId}

/-- Nobody upstream works on what lies downstream. -/
theorem Wired.sealed_upstreamOf (hw : s.Wired mark) (hb : s.streams.Downstream below) :
    (Region.upstreamOf s.streams below).Sealed s.streams where
  backing {id source} hid hs := by
    cases hback : source.backing with
    | body handle size =>
      exact ⟨Set.empty_subset _, Set.empty_subset _, Set.empty_subset _, Set.empty_subset _,
        Set.subset_univ _⟩
    | script guest => exact Footprint.empty_within
    | transform name =>
      obtain ⟨bridge, hbridge, rfl⟩ := hw.composed.readable hs hback
      simp only [Registry.backingReach, Registry.bridgeReach, hbridge]
      refine ⟨Set.singleton_subset_iff.mpr hid, Set.singleton_subset_iff.mpr ⟨?_, ?_⟩,
        Set.singleton_subset_iff.mpr ?_, Set.empty_subset _, Set.empty_subset _⟩
      · exact fun other pipe hp hr hd hm => hid (hb.next hp hr hm hs hback hbridge hd.symm)
      · intro sink other found hk hsink hfound
        cases ((hw.couples.paired hs hback hbridge hk).1.symm.trans hsink)
        cases hbridge.symm.trans hfound
        exact hid
      · intro found hfound
        cases hbridge.symm.trans hfound
        exact hid
  drain {id sink} hid hk := by
    cases hback : sink.backing with
    | body handle =>
      exact ⟨Set.empty_subset _, Set.empty_subset _, Set.empty_subset _, Set.empty_subset _,
        Set.subset_univ _⟩
    | script guest => exact Footprint.empty_within
    | transform name =>
      obtain ⟨bridge, hbridge, rfl⟩ := hw.composed.writable hk hback
      have hreadable := hid.2 sink name bridge hk hback hbridge
      simp only [Registry.drainReach, Registry.bridgeReach, hbridge]
      refine ⟨Set.singleton_subset_iff.mpr hreadable, Set.singleton_subset_iff.mpr hid,
        Set.singleton_subset_iff.mpr fun found hfound => ?_, Set.empty_subset _, Set.empty_subset _⟩
      cases hbridge.symm.trans hfound
      exact hreadable
  into {name pipe} hp hr hid pipe' hp' hr' := by
    cases hp.symm.trans hp'
    exact ⟨hid.1 name pipe hp hr rfl, hid.2⟩
  joins {name pipe} hname hp hr := by
    refine ⟨(hname pipe hp hr).1, fun other pipe' hp' hr' hd' => ?_, (hname pipe hp hr).2⟩
    obtain ⟨held, spent, horderly⟩ := hw.orderly
    cases horderly.destination_inj hp' hr' hp hr hd'
    cases hp.symm.trans hp'
    exact (hname pipe hp hr).1

variable [Host H]

/-- Reading one stream leaves those further down as they are. -/
theorem Wired.source?_readUnchecked {fuel : Nat} {r : Except StreamError ReadOutcome × Session H E}
    (hw : s.Wired mark) (hb : s.streams.Downstream below) (hid : id ∉ below)
    (h : attempt (readUnchecked fuel id) s = some r) (hother : other ∈ below) :
    r.2.streams.source? other = s.streams.source? other :=
  have hsealed := hw.sealed_upstreamOf hb
  ((flowMovesWithin _ fuel).readUnchecked hsealed hid h).source?_outside hsealed fun hm => hm hother

end Session

/-! ### Pipes that make no step -/

theorem Registry.Downstream.setPipe {streams : Registry E} {below : Set ReadableId} {name : PipeId}
    {pipe : Pipe} (h : streams.Downstream below) (hp : streams.pipe? name = some pipe)
    (pumping : Bool) :
    (streams.setPipe name { pipe with pumping }).Downstream below where
  next {other found id source bridgeId bridge} hfound hr hm hs hback hb hd := by
    rw [pipe?_setPipe] at hfound
    split at hfound
    · rw [hp, Option.map_some, Option.some.injEq] at hfound
      subst hfound
      exact h.next hp hr hm hs hback hb hd
    · exact h.next hfound hr hm hs hback hb hd

theorem Registry.RunsAs.of_running {streams : Registry E} {name : PipeId} {pipe : Pipe}
    (hp : streams.pipe? name = some pipe) (hr : pipe.isRunning) : streams.RunsAs name pipe :=
  ⟨pipe.pumping, by rw [hp, ← isRunning_iff.mp hr]⟩

namespace Session

variable [Host H] {s t : Session H E} {mark : UInt64} {name : PipeId}

/-- A pipe has been driven and has made no step. It has not been ready to, or it has found nothing
to read. -/
inductive PausesPipe (name : PipeId) (s : Session H E) : Session H E → Prop
  | still : (∀ pipe, s.streams.pipe? name = some pipe → pipe.isRunning → pipe.pumping = false →
      s.streams.sinkReady pipe.destination = false) → PausesPipe name s s
  | waits {fuel : Nat} {pipe : Pipe} {t : Session H E} : s.streams.pipe? name = some pipe →
    pipe.isRunning → pipe.pumping = false →
      attempt (readUnchecked fuel pipe.source) (driven name pipe s) = some (.ok .pending, t) →
        PausesPipe name s (mapStreams (parked name) t)

theorem pausesPipe_pumpPipe {fuel : Nat} (hw : s.Wired mark)
    (h : drive (pumpPipe fuel name) s = some (0, t)) : PausesPipe name s t := by
  cases fuel with
  | zero => cases h
  | succ fuel =>
    rcases pumpPipe_cases h with ⟨hidle, he⟩ | ⟨pipe, steps, last, hp, hr, hparked, hsteps, he⟩
    · cases he
      refine .still fun pipe hp hr hparked => ?_
      cases hparked.symm.trans (hidle pipe hp hr)
    · cases he
      replace hsteps : drive (pumpSteps fuel name pipe 0) (driven name pipe s) = some
        (0, last) := hsteps
      cases fuel with
      | zero => cases hsteps
      | succ fuel =>
        obtain ⟨held, spent, horderly⟩ := hw.orderly
        obtain ⟨source, hs, hlock, -⟩ := (horderly.holds name pipe hp hr).source
        rcases pumpSteps_cases hsteps with
          ⟨error, -, hends⟩ | ⟨-, ⟨hready, hstays⟩ | ⟨-, found, u, hread, hfound⟩⟩
        · cases hends
        · cases hstays
          rw [parked_driven hp hparked]
          refine .still fun found hfound _ _ => ?_
          cases hp.symm.trans hfound
          exact hready
        · rw [attempt_readByPipe (s := driven name pipe s) fuel pipe hs hlock] at hread
          cases hfound with
          | starved => exact .waits hp hr hparked hread
          | carried data v hwrite hrest => exact absurd (le_pumpSteps hrest) (by simp)

omit [Host H] in
/-- Nothing is under way after what leaves everything as it was under way. -/
theorem Level.isResting (h : s.Level t) (hrest : s.streams.IsResting) : t.streams.IsResting where
  unpulled id source' hs' := by
    obtain ⟨source, hs, hsame⟩ := SlotMap.rel_some_right (hs' ▸ h.source id)
    exact hsame.trans (hrest.unpulled id source hs)
  undriven id pipe' hp' := by
    obtain ⟨pipe, hp, hsame⟩ := SlotMap.rel_some_right (hp' ▸ h.pipe id)
    exact hsame.trans (hrest.undriven id pipe hp)

/-- By induction on the pipes. -/
theorem runsTo_pumpEach {fuel : Nat} {pipes : List PipeId} {r : Nat × Session H E}
    (hw : s.Wired mark) (h : drive (pumpEach fuel pipes) s = some r) : s.RunsTo r.2 ∧
    s.Level r.2 := by
  induction pipes generalizing s r with
  | nil =>
    cases h
    exact ⟨.refl s, .refl s⟩
  | cons name rest ih =>
    rw [drive_pumpEach_cons] at h
    obtain ⟨first, hfirst, h⟩ := Option.bind_eq_some_iff.mp h
    obtain ⟨others, hothers, rfl⟩ := Option.map_eq_some_iff.mp h
    have hpumps := (flowRuns mark fuel).pumpPipe hw hfirst
    have hlevel := ((flowDeeds fuel).pumpPipe hw.composed hfirst).level
    obtain ⟨hruns, hlevels⟩ := ih (r := others) (hpumps.wired hw) hothers
    exact ⟨hpumps.trans hruns hw.composed, hlevel.trans hlevels⟩

end Session

/-- What is piped in has not ended, and a transform stream with nothing to read has not failed. -/
theorem Passthrough.Carries.flowing {p : Passthrough} {s : Session H E} (h : p.Carries s)
    (hdry : s.streams.IsDry p.stage.readable)
    (hopen : s.streams.readableState? p.mouth ≠ some .closed) : p.Flowing s := by
  rcases h with hflows | hbroken | hended
  · exact hflows
  · exact absurd ⟨_, hbroken⟩ hdry.not_hasFailed
  · exact absurd hended hopen

namespace Conduit

variable {c : Conduit} {s t : Session H E} {mark : UInt64} {name : PipeId}

/-- There is nothing to read in the transform stream, and what is piped in has not failed. -/
structure Idle (c : Conduit) (streams : Registry E) : Prop where
  dry : streams.IsDry c.stage.readable
  unfailed : ¬ streams.HasFailed c.mouth

theorem Idle.parked (h : c.Idle s.streams) (name : PipeId) :
    c.Idle (Session.mapStreams (Session.parked name) s).streams where
  dry := (Registry.isDry_congr (Session.source?_parked name s _)).mpr h.dry
  unfailed := mt (Registry.hasFailed_congr (Session.source?_parked name s _)).mp h.unfailed

/-- The stream over a host body is always ready. -/
theorem Draining.ready (h : c.Draining s) (hc : s.streams.Composed) :
    s.streams.sinkReady c.drain.destination = true := by
  obtain ⟨sink, handle, hk, hback, -⟩ := h.takes
  have hidle := hc.idle hk
  simp [Registry.sinkReady, hk, hidle.inFlight, hidle.pending, hback]

/-- What is piped out of the transform stream comes to no other one. -/
theorem Draining.downstream (h : c.Draining s) (hw : s.Wired mark) :
    s.streams.Downstream {c.stage.readable} where
  next {name pipe id source bridgeId bridge} hp hr hm hs hback hb hd := by
    exfalso
    obtain ⟨pumping, hout⟩ := h.runsTo
    obtain ⟨held, spent, horderly⟩ := hw.orderly
    cases horderly.source_inj hp hr hout rfl (hm.trans c.out.symm)
    cases hp.symm.trans hout
    obtain ⟨sink, handle, hk, hbody, -⟩ := h.takes
    have htransform := (hw.couples.paired hs hback hb (hd ▸ hk)).1
    rw [hbody] at htransform
    cases htransform

/-- What is piped into the transform stream comes to its readable half, and to no other one. -/
theorem Draining.downstream_mouth (h : c.Draining s) (hflows : c.Flowing s) (hw : s.Wired mark)
    (hl : c.Laid s.streams) : s.streams.Downstream {c.mouth, c.stage.readable} where
  next {name pipe id source bridgeId bridge} hp hr hm hs hback hb hd := by
    rcases hm with hm | hm
    · obtain ⟨pumping, hin⟩ := hflows.runsTo
      obtain ⟨held, spent, horderly⟩ := hw.orderly
      cases horderly.source_inj hp hr hin rfl hm
      cases hp.symm.trans hin
      obtain ⟨sink, hk, -, -, hsink⟩ := hflows.writable hw hl
      have hbridge := (hw.couples.paired hs hback hb ((hd.trans c.into) ▸ hk)).1
      cases hsink.symm.trans hbridge
      obtain ⟨found, hfound, hreadable, -⟩ := hl.bridge
      cases hb.symm.trans hfound
      obtain ⟨found, hfound, rfl⟩ := hw.composed.readable hs hback
      cases hb.symm.trans hfound
      exact .inr hreadable
    · exact .inr ((h.downstream hw).next hp hr hm hs hback hb hd)

section PausesPipe

variable (hw : s.Wired mark) (hl : c.Laid s.streams) (hdrains : c.Draining s)
include hw hl hdrains

/-- The pipe in and the pipe out are two. -/
theorem inlet_ne_outlet (hflows : c.Flowing s) : c.inlet ≠ c.outlet := by
  intro he
  obtain ⟨sink, hk, -, -, hback⟩ := hflows.writable hw hl
  obtain ⟨sink', handle, hk', hback', -⟩ := hdrains.takes
  have hruns := hflows.runsTo
  rw [he] at hruns
  rw [(hruns.same hdrains.runsTo).2.1, c.into, hk, Option.some.injEq] at hk'
  rw [← hk', hback] at hback'
  cases hback'

variable [Host H]

/-- After the pipe out has had to wait, there is nothing to read, and what is piped in has not
failed. -/
theorem idle_outlet {fuel : Nat} {pipe : Pipe} (hrest : s.streams.IsResting)
    (hp : s.streams.pipe? c.outlet = some pipe) (hr : pipe.isRunning)
    (h : attempt (Session.readUnchecked fuel pipe.source) (Session.driven c.outlet pipe s) =
      some (.ok .pending, t)) (hflows : t.streams.IsDry c.stage.readable → c.Flowing t) :
    c.Idle t.streams := by
  have hdrives : s.RunsTo (Session.driven c.outlet pipe s) := Session.RunsTo.drive true hp
  have hwired := hdrives.wired hw
  have hlaid := hl.runsTo hdrives hw.composed
  rw [(hdrains.runsTo.same (.of_running hp hr)).1, c.out] at h
  obtain ⟨source, hs, -⟩ := hlaid.readable
  have hdry : t.streams.IsDry c.stage.readable :=
    Session.dry_readUnchecked (r := (.ok .pending, t)) hwired hs h rfl
  have hlast := hflows hdry
  have hruns := (Session.flowRuns mark fuel).readUnchecked hwired h
  have hopen := (hlast.before hruns hwired.composed hlaid).before hdrives hw.composed hl
  refine ⟨hdry, Passthrough.readUnchecked_waits hwired hlaid (fun pipe hin => ?_)
    (fun source hs => hrest.unpulled _ source hs) h rfl hlast⟩
  rw [Session.driven, Session.streams_mapStreams, Registry.pipe?_setPipe,
    if_neg (inlet_ne_outlet hw hl hdrains hopen)] at hin
  exact hrest.undriven _ pipe hin

/-- Another pipe that has had to wait leaves that as it is. -/
theorem idle_other {fuel : Nat} {pipe : Pipe} (hidle : c.Idle s.streams) (hne : name ≠ c.outlet)
    (hp : s.streams.pipe? name = some pipe) (hr : pipe.isRunning) (hflows : c.Flowing s)
    (h : attempt (Session.readUnchecked fuel pipe.source) (Session.driven name pipe s) =
      some (.ok .pending, t)) : c.Idle t.streams := by
  have hdrives : s.RunsTo (Session.driven name pipe s) := Session.RunsTo.drive true hp
  have hwired := hdrives.wired hw
  obtain ⟨held, spent, horderly⟩ := hw.orderly
  obtain ⟨pumping, hout⟩ := hdrains.runsTo
  obtain ⟨pumping', hin⟩ := hflows.runsTo
  have hsource : pipe.source ≠ c.stage.readable := fun he =>
    hne (horderly.source_inj hp hr hout rfl (he.trans c.out.symm))
  have hleft : t.streams.source? c.stage.readable = s.streams.source? c.stage.readable :=
    hwired.source?_readUnchecked ((hdrains.downstream hw).setPipe hp true) hsource h rfl
  have hdry := (Registry.isDry_congr hleft).mpr hidle.dry
  by_cases he : name = c.inlet
  · subst he
    cases hp.symm.trans hin
    obtain ⟨source, hs, -⟩ := (horderly.holds _ _ hp hr).source
    exact ⟨hdry, (Session.dry_readUnchecked hwired hs h rfl).not_hasFailed⟩
  · have hmouth : pipe.source ≠ c.mouth := fun hm => he (horderly.source_inj hp hr hin rfl hm)
    have hkept : t.streams.source? c.mouth = s.streams.source? c.mouth :=
      hwired.source?_readUnchecked ((hdrains.downstream_mouth hflows hw hl).setPipe hp true)
        (by simp [hmouth, hsource]) h (Set.mem_insert c.mouth _)
    exact ⟨hdry, mt (Registry.hasFailed_congr hkept).mp hidle.unfailed⟩

/-- A pipe that has made no step, with what has been done before. -/
theorem idle_pausesPipe (hdrains' : c.Draining t) (hrest : s.streams.IsResting) (hruns : s.RunsTo t)
    (hopen : t.streams.readableState? c.mouth ≠ some .closed) (h : Session.PausesPipe name s t)
    (hdone : name = c.outlet ∨ c.Idle s.streams) : c.Idle t.streams := by
  cases h with
  | still hunready =>
    refine hdone.elim (fun he => ?_) id
    subst he
    obtain ⟨pumping, hp⟩ := hdrains.runsTo
    have hwaits := hunready _ hp rfl (hrest.undriven _ _ hp)
    rw [hdrains.ready hw.composed] at hwaits
    cases hwaits
  | @waits fuel pipe u hp hr hparked hread =>
    by_cases he : name = c.outlet
    · subst he
      refine (idle_outlet hw hl hdrains hrest hp hr hread fun hdry => ?_).parked _
      have hdrives : s.RunsTo (Session.driven c.outlet pipe s) := Session.RunsTo.drive true hp
      have hreads := (Session.flowRuns mark fuel).readUnchecked (hdrives.wired hw) hread
      have hkept := hdrives.trans hreads hw.composed
      exact (hdrains'.carries.flowing
        ((Registry.isDry_congr (Session.source?_parked _ u _)).mpr hdry)
        hopen).before (Session.runsTo_park _ u) (hkept.composed hw.composed)
          (hl.runsTo hkept hw.composed)
    · have hidle := hdone.resolve_left he
      refine (idle_other hw hl hdrains hidle he hp hr
        (hdrains.carries.flowing hidle.dry fun hended => ?_)
        hread).parked _
      obtain ⟨made, hcourse⟩ := hruns.course
      exact hopen (hcourse.readableState? hw.composed hended (by simp))

end PausesPipe

section Rounds

variable [Host H] {fuel : Nat}

/-- Where the pipe out still runs in the end, no write has failed and what is piped in has not
ended, that has been so before. -/
theorem Reports.draining (h : c.Reports s) (hruns : s.RunsTo t) (hc : s.streams.Composed)
    (hdrains : c.Draining t) (hfine : ¬ t.HasRefused c.drain.destination)
    (hopen : t.streams.readableState? c.mouth ≠ some .closed) : c.Draining s := by
  rcases h with hstill | hfailed | hrefused | hended
  · exact hstill
  · obtain ⟨pumping, hp⟩ := hdrains.runsTo
    obtain ⟨pumping', hp'⟩ := hruns.movesTo.running_before hp rfl
    simp [Registry.pipeState?, hp'] at hfailed
  · exact absurd (hrefused.movesTo hruns.movesTo) hfine
  · obtain ⟨made, hcourse⟩ := hruns.course
    exact absurd (hcourse.readableState? hc hended (by simp)) hopen

/-- Some pipes have been driven, the pipe out among them, and none has made a step. By induction on
the pipes. -/
theorem idle_pumpEach {pipes : List PipeId} (hw : s.Wired mark) (hl : c.Laid s.streams)
    (hrest : s.streams.IsResting) (hreports : c.Reports s)
    (h : drive (Session.pumpEach fuel pipes) s = some (0, t)) (hdrains : c.Draining t)
    (hfine : ¬ t.HasRefused c.drain.destination)
    (hopen : t.streams.readableState? c.mouth ≠ some .closed)
    (hdone : c.outlet ∈ pipes ∨ c.Idle s.streams) : c.Idle t.streams := by
  -- the pipe out has to wait at its turn, and the pipes after it leave that as it is
  induction pipes generalizing s with
  | nil =>
    cases h
    exact hdone.resolve_left List.not_mem_nil
  | cons name rest ih =>
    rw [Session.drive_pumpEach_cons] at h
    obtain ⟨⟨steps, u⟩, hfirst, h⟩ := Option.bind_eq_some_iff.mp h
    obtain ⟨⟨others, v⟩, hothers, he⟩ := Option.map_eq_some_iff.mp h
    obtain ⟨hzero, rfl⟩ := Prod.mk.inj he
    obtain ⟨rfl, rfl⟩ := Nat.add_eq_zero_iff.mp hzero
    have hpumps := (Session.flowRuns mark fuel).pumpPipe hw hfirst
    have hlevel := ((Session.flowDeeds fuel).pumpPipe hw.composed hfirst).level
    have hacts := (Session.flowActs mark fuel).pumpPipe hw hfirst
    have hwired := hpumps.wired hw
    have hlaid := hl.runsTo hpumps hw.composed
    have hreports' := reports_acts hreports hw hl hacts
    have hlater := (Session.runsTo_pumpEach hwired hothers).1
    have hdrains' := hreports'.draining hlater hwired.composed hdrains hfine hopen
    have hrefused : ¬ u.HasRefused c.drain.destination := fun hrefused =>
      hfine (hrefused.movesTo hlater.movesTo)
    have hopen' : u.streams.readableState? c.mouth ≠ some .closed := fun hended => by
      obtain ⟨made, hcourse⟩ := hlater.course
      exact hopen (hcourse.readableState? hwired.composed hended (by simp))
    refine ih hwired hlaid (hlevel.isResting hrest) hreports' hothers ?_
    by_cases hm : c.outlet ∈ rest
    · exact .inl hm
    · refine .inr (idle_pausesPipe hw hl (hreports.draining hpumps hw.composed hdrains'
        hrefused hopen') hdrains' hrest hpumps hopen' (Session.pausesPipe_pumpPipe hw hfirst)
          (hdone.imp_left fun hm' => ?_))
      exact ((List.mem_cons.mp hm').resolve_right hm).symm

/-- Once all pipes have been driven, a failure of what is piped in has come through the transform
stream, unless a write to the host body has failed. By induction on the rounds. -/
theorem reports_pump {r : Nat × Session H E} (hw : s.Wired mark) (hl : c.Laid s.streams)
    (hrest : s.streams.IsResting) (hreports : c.Reports s)
    (h : drive (Session.pump fuel) s = some r) (hfailed : r.2.streams.HasFailed c.mouth) :
    r.2.streams.pipeState? c.outlet = some (.failed .aborted) ∨
      r.2.HasRefused c.drain.destination := by
  induction fuel generalizing s r with
  | zero => cases h
  | succ fuel ih =>
    rw [Session.drive_pump] at h
    obtain ⟨⟨steps, t⟩, hround, h⟩ := Option.bind_eq_some_iff.mp h
    obtain ⟨hruns, hlevel⟩ := Session.runsTo_pumpEach hw hround
    have hreports' := reports_acts hreports hw hl (Session.acts_pumpEach hw hround)
    dsimp only at h hruns hlevel hreports'
    split at h
    · next hzero =>
      cases h
      subst hzero
      have hopen : t.streams.readableState? c.mouth ≠ some .closed := fun hended => by
        obtain ⟨error, hstate⟩ := hfailed
        cases hended.symm.trans hstate
      rcases hreports' with hdrains | hbroken | hrefused | hended
      · by_cases hfine : t.HasRefused c.drain.destination
        · exact .inr hfine
        · obtain ⟨pumping, hp⟩ := hdrains.runsTo
          obtain ⟨pumping', hp'⟩ := hruns.movesTo.running_before hp rfl
          have hm : c.outlet ∈ s.streams.runningPipes.map Prod.fst :=
            List.mem_map.mpr ⟨_, s.streams.mem_runningPipes.mpr ⟨hp', rfl⟩, rfl⟩
          exact absurd hfailed
            (idle_pumpEach hw hl hrest hreports hround hdrains hfine hopen (.inl hm)).unfailed
      · exact .inl hbroken
      · exact .inr hrefused
      · exact absurd hended hopen
    · obtain ⟨others, hothers, rfl⟩ := Option.map_eq_some_iff.mp h
      exact ih (r := others) (hruns.wired hw) (hl.runsTo hruns hw.composed) (hlevel.isResting hrest)
        hreports' hothers hfailed

end Rounds

end Conduit

end EdgeStreams
