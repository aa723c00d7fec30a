import EdgeStreams.Proofs.Breaking.Carrying

/-!
# When nothing comes out of a transform stream

A reader of the readable half that has to wait has driven the pipe into the transform stream, which
has then read its own source. If that had failed, the reader would have come to the failure.

## Main definitions

- `Registry.HasFailed`: a stream has failed

## Main statements

- `Passthrough.readUnchecked_waits`: where a reader of the readable half has to wait, what is piped
  in has not failed
-/

namespace EdgeStreams

variable {H E : Type}

/-- The stream has failed. -/
def Registry.HasFailed (streams : Registry E) (id : ReadableId) : Prop :=
  ∃ error, streams.readableState? id = some (.errored error)

section Same

variable {streams streams' : Registry E} {id : ReadableId}
variable (h : streams'.source? id = streams.source? id)
include h

theorem Registry.isDry_congr : streams'.IsDry id ↔ streams.IsDry id := by
  rw [IsDry, IsDry, h]

theorem Registry.hasFailed_congr : streams'.HasFailed id ↔ streams.HasFailed id := by
  rw [HasFailed, HasFailed, readableState?, readableState?, h]

end Same

theorem Registry.IsDry.not_hasFailed {streams : Registry E} {id : ReadableId}
    (h : streams.IsDry id) : ¬ streams.HasFailed id := by
  rintro ⟨error, hstate⟩
  obtain ⟨source, hs, hreadable, -⟩ := h
  rw [readableState?_eq hs, hreadable] at hstate
  cases hstate

namespace Session

variable {s t : Session H E} {mark : UInt64} {id : ReadableId} {source : Source E}

/-- A reader that finds nothing at once takes nothing. -/
theorem dry_takeReady (hs : s.streams.source? id = some source)
    (h : (exec (takeReady id) s).1.map orPending = .ok .pending) :
    exec (takeReady id) s = (.ok none, s) ∧ s.streams.IsDry id := by
  rw [exec_takeReady hs] at h ⊢
  have hdry := ReadableController.isDry_of_takeReady h
  rw [ReadableController.takeReady_of_dry hdry]
  exact ⟨congrArg _ (setSource_self hs), source, hs, hdry⟩

/-- A reader of an empty stream has it pulled. -/
theorem Wired.wantsPull (hw : s.Wired mark) (hs : s.streams.source? id = some source)
    (ht : source.IsTransform) (hd : source.controller.IsDry) : source.wantsPull true = true := by
  have hstart : source.start = .resolved :=
    (hw.couples.started hs).resolve_right fun hrejected => hrejected.2 hd.1
  have hcanceled : source.canceled = false := by
    by_contra hc
    exact hw.state_of_canceled hs (by simpa using hc) hd.1
  have hrequested : source.controller.closeRequested = false := by
    by_contra hc
    exact (hw.couples.marked hs ht).2.ended (by simpa using hc) hd.2 hd.1
  simp [Source.wantsPull, hstart, StartState.isResolved, hcanceled, hrequested, hd.1]

/-- A pipe that is no longer driven leaves the streams alone. -/
theorem source?_parked (name : PipeId) (s : Session H E) (id : ReadableId) :
    (mapStreams (parked name) s).streams.source? id = s.streams.source? id := by
  rw [streams_mapStreams, parked]
  split <;> rfl

variable [Host H]

omit [Host H] in
theorem pipe?_driven {name : PipeId} {pipe : Pipe} (hp : s.streams.pipe? name = some pipe)
    (hr : pipe.isRunning) :
    (driven name pipe s).streams.pipe? name =
      some { pipe with state := .running, pumping := true } := by
  rw [← Registry.isRunning_iff.mp hr]
  simp [driven, Registry.pipe?_setPipe, hp]

omit [Host H] in
/-- A transform stream that is asked for a chunk is ready for one. -/
theorem sinkReady_request (hc : s.streams.Composed) {id : WritableId} {sink : Sink E}
    {name : BridgeId} {bridge : Bridge E} (hk : s.streams.sink? id = some sink)
    (hback : sink.backing = .transform name) (hb : s.streams.bridge? name = some bridge) :
    (setBridge name { bridge with pullRequested := true } s).streams.sinkReady id = true := by
  have hidle := hc.idle hk
  have hpressure : (s.streams.setBridge name { bridge with pullRequested := true }).backpressure
    name =
      false := by simp [Registry.backpressure, Registry.bridge?_setBridge, hb]
  have hsink : (s.streams.setBridge name { bridge with pullRequested := true }).sink?
      id = some sink := hk
  simp only [setBridge, streams_mapStreams, Registry.sinkReady, hsink,
    hidle.inFlight, hidle.pending, hback, hpressure, List.isEmpty_nil, Bool.not_true, Bool.or_self,
    Bool.not_false, Bool.false_eq_true, if_false]

variable {fuel : Nat} {r : Except StreamError ReadOutcome × Session H E}

/-- A reader has to wait only where there is nothing to read. -/
theorem dry_readUnchecked (hw : s.Wired mark) (hs : s.streams.source? id = some source)
    (h : attempt (readUnchecked fuel id) s = some r) (hp : r.1 = .ok .pending) :
    r.2.streams.IsDry id := by
  cases fuel with
  | zero => cases h
  | succ fuel =>
    obtain ⟨made, hcourse⟩ := ((flowRuns mark (fuel + 1)).readUnchecked hw h).course
    obtain ⟨final, hfinal, -⟩ := hcourse.stays hw.composed hs
    rcases readUnchecked_cases hs h with ⟨hstart, rfl⟩ | ⟨error, -, rfl⟩ |
      ⟨-, found, t, htake, hafter⟩
    · rcases hw.couples.started hs with hresolved | ⟨⟨error, hrejected⟩, -⟩
      · cases hstart.symm.trans hresolved
      · cases hstart.symm.trans hrejected
    · cases hp
    cases hafter with
    | settled found hsome _ =>
      have hnone := (dry_takeReady (source?_disturb hs) (by rw [htake]; exact hp)).1
      rw [htake] at hnone
      exact absurd (congrArg Prod.fst hnone) hsome
    | full => cases hp
    | empty u hpull =>
      cases hlast : u.streams.source? id with
      | some last =>
        obtain ⟨hsame, hdry⟩ := dry_takeReady hlast hp
        rwa [hsame]
      | none =>
        -- the stream is there to the end
        have hgone : (exec (takeReady id) u).2 = u := by simp [takeReady, exec_bind, hlast]
        rw [hgone, hlast] at hfinal
        cases hfinal

/-- A reader is not given an empty chunk. -/
theorem nonempty_readUnchecked (hw : s.Wired mark) (hu : Undrawn id s)
    (hs : s.streams.source? id = some source) (h : attempt (readUnchecked fuel id) s = some r)
    {data : Bytes} (hfound : r.1 = .ok (.chunk data)) : data ≠ [] := by
  obtain ⟨made, hcourse⟩ := ((flowRuns mark fuel).readUnchecked hw h).course
  obtain ⟨first, hinOrder⟩ := hw.passedInOrder hs
  obtain ⟨put', taken', -, htaken', hpassed⟩ := hcourse.passedInOrder hw.composed hinOrder
  obtain ⟨put, taken, -, htaken, -⟩ := hinOrder
  have hgives := (delivered_readUnchecked hu h).1
  rw [hfound, htaken, htaken', ← List.append_assoc] at hgives
  have hmem : data ∈ taken'.reverse := by
    rw [List.append_cancel_right hgives]
    simp [chunkRead]
  have hnonempty : ∀ chunk ∈ taken'.reverse, chunk ≠ [] := by
    generalize r.2.streams.source? id = last at hpassed
    cases hpassed with
    | lives hq =>
      exact fun chunk hm => hq.nonempty chunk (by simpa using hq.delivered_prefix.subset hm)
    | gone hput hprefix => exact fun chunk hm => hput chunk (by simpa using hprefix.subset hm)
  exact hnonempty data hmem

end Session

namespace Passthrough

variable [Host H] {p : Passthrough} {s t : Session H E} {mark : UInt64} {fuel : Nat}

/-- A transform stream that takes chunks in the end has taken them all the time. -/
theorem Flowing.before (h : p.Flowing t) (hr : s.RunsTo t) (hc : s.streams.Composed)
    (hl : p.Laid s.streams) : p.Flowing s where
  runsTo := by
    obtain ⟨pumping, hp⟩ := h.runsTo
    obtain ⟨pumping', hp'⟩ := hr.movesTo.running_before hp rfl
    exact ⟨pumping', hp'⟩
  isOpen := by
    obtain ⟨source, hs, -⟩ := hl.readable
    obtain ⟨made, hcourse⟩ := hr.course
    obtain ⟨source', hs', hstays⟩ := hcourse.stays hc hs
    obtain ⟨found, hfound, hopen⟩ := h.isOpen
    cases hs'.symm.trans hfound
    exact ⟨source, hs, by_contra fun hshut => hstays.controller.not_open hshut hopen⟩

theorem Laid.runsTo (hl : p.Laid s.streams) (hr : s.RunsTo t) (hc : s.streams.Composed) :
    p.Laid t.streams := by
  obtain ⟨made, hcourse⟩ := hr.course
  exact hl.course hcourse hc

/-- Nothing has come to the readable half: what is piped in has not failed, unless the pipe has not
even been driven, since the writable half has not been ready. -/
def Idles (p : Passthrough) (s t : Session H E) : Prop :=
  ¬ t.streams.HasFailed p.mouth ∨ t = s ∧ s.streams.sinkReady p.stage.writable = false

/-- The pipe is driven, and there is nothing to read in the end. By induction on the fuel: a chunk
that comes in stays there to be read. -/
theorem pumpSteps_idles {pipe : Pipe} {steps : Nat} {r : Nat × Session H E} (hw : s.Wired mark)
    (hl : p.Laid s.streams)
    (hp : s.streams.pipe? p.inlet = some { pipe with state := .running, pumping := true })
    (h : drive (Session.pumpSteps fuel p.inlet pipe steps) s = some r) (hlast : p.Flowing r.2)
    (hdry : r.2.streams.IsDry p.stage.readable) : p.Idles s r.2 := by
  induction fuel generalizing s steps with
  | zero => cases h
  | succ fuel ih =>
    have hc := hw.composed
    have hflows := hlast.before ((Session.flowRuns mark (fuel + 1)).pumpSteps hw ⟨_, _, hp⟩ h) hc hl
    obtain ⟨hsource, hdestination, hwriter, -⟩ := hflows.runsTo.same ⟨true, hp⟩
    have hinto := hdestination.trans p.into
    obtain ⟨held, spent, horderly⟩ := hw.orderly
    obtain ⟨source, hs, hlock, -⟩ := (horderly.holds p.inlet _ hp rfl).source
    -- a pipe that has come to its end would not run any more
    have hrunning : ∀ {state last}, state ≠ .running →
        r.2 ≠ Session.pipeFinished p.inlet state last := fun {state last} hstate he => by
      obtain ⟨pumping, hfound⟩ := hlast.runsTo
      rw [he] at hfound
      exact Session.finished_pipeFinished p.inlet hstate last _ hfound rfl
    rcases Session.pumpSteps_cases h with
      ⟨error, hfault, -⟩ | ⟨-, ⟨hready, rfl⟩ | ⟨-, found, t, hread, hfound⟩⟩
    · rw [Registry.destinationFault?_eq_none_iff.mpr (hinto.symm ▸ hflows.accepts hw hl)] at hfault
      cases hfault
    · exact .inr ⟨rfl, hinto ▸ hready⟩
    rw [Session.attempt_readByPipe fuel s pipe hs hlock] at hread
    cases hfound with
    | starved =>
      have hempty := Session.dry_readUnchecked hw hs hread rfl
      rw [hsource] at hempty
      exact .inl hempty.not_hasFailed
    | failed error => exact absurd rfl (hrunning (by simp))
    | drained => exact absurd rfl (hrunning (Session.changesWithin_closeDestination pipe t).2)
    | refused data error u hwrite => exact absurd rfl (hrunning (by simp))
    | carried data u hwrite hrest =>
      have hruns := (Session.flowRuns mark fuel).readUnchecked hw hread
      have hacts := (Session.flowActs mark fuel).readUnchecked hw hread
      have hwired := hacts.wired hw
      have hlaid := hl.runsTo hruns hc
      have hdata :=
        Session.nonempty_readUnchecked hw (Session.undrawn_of_driven horderly hp) hs hread rfl
      have htouches := Session.changesWithin_write t pipe.destination data (some pipe.writer)
      have hwrites := Session.flowsTo_write hwired.composed pipe.destination data (some pipe.writer)
      have hwrote : p.Flowing t → ¬ (exec (Session.write pipe.destination data (some pipe.writer))
          t).2.streams.IsDry p.stage.readable := fun hflows => by
        rw [hinto, hwriter]
        exact (hflows.write hwired hlaid data).2.2 hdata
      simp only [hwrite] at htouches hwrites hwrote
      have hruns' := Session.RunsTo.of_changesWithin hwrites htouches
      have hpipe := (Registry.pipe?_congr htouches.pipes_eq p.inlet).trans
        (hacts.spares (Set.notMem_empty _) hp rfl)
      refine .inl ((ih (hruns'.wired hwired) (hlaid.runsTo hruns' hwired.composed) hpipe
        hrest).resolve_right fun hidled => ?_)
      rw [hidled.1] at hlast hdry
      exact hwrote (hlast.before hruns' hwired.composed hlaid) hdry

/-- The pipe is driven by whoever pulls the readable half. -/
theorem pumpPipe_idles {r : Nat × Session H E} (hw : s.Wired mark) (hl : p.Laid s.streams)
    (hparked : ∀ pipe, s.streams.pipe? p.inlet = some pipe → pipe.pumping = false)
    (h : drive (Session.pumpPipe fuel p.inlet) s = some r) (hlast : p.Flowing r.2)
    (hdry : r.2.streams.IsDry p.stage.readable) : p.Idles s r.2 := by
  cases fuel with
  | zero => cases h
  | succ fuel =>
    have hflows := hlast.before ((Session.flowRuns mark (fuel + 1)).pumpPipe hw h) hw.composed hl
    obtain ⟨pumping, hp⟩ := hflows.runsTo
    have hrest := hparked _ hp
    obtain ⟨steps, t, hsteps, hlastly⟩ := Session.pumpPipe_of_parked hp rfl hrest h
    have hend : r.2 = Session.mapStreams (Session.parked p.inlet) t := congrArg Prod.snd hlastly
    have hdrives : s.RunsTo (Session.driven p.inlet _ s) := Session.RunsTo.drive true hp
    have hparks := Session.runsTo_park p.inlet t
    have hwired := hdrives.wired hw
    have hlaid := hl.runsTo hdrives hw.composed
    have hsteps' := (Session.flowRuns mark fuel).pumpSteps hwired ⟨_, _,
      Session.pipe?_driven hp rfl⟩ hsteps
    have hsame : ∀ id, r.2.streams.source? id = t.streams.source? id := fun id => by
      rw [hend, Session.source?_parked]
    rw [hend] at hlast
    have hopen := hlast.before hparks (hsteps'.wired hwired).composed
      (hlaid.runsTo hsteps' hwired.composed)
    have hempty := (Registry.isDry_congr (hsame p.stage.readable)).mp hdry
    refine (pumpSteps_idles hwired hlaid (Session.pipe?_driven hp rfl) hsteps hopen hempty).imp
      (fun hfine => mt (Registry.hasFailed_congr (hsame p.mouth)).mp hfine) fun hidled => ?_
    obtain ⟨hstill, hwaits⟩ := hidled
    refine ⟨?_, hwaits⟩
    dsimp only at hstill
    rw [hend, hstill]
    exact Session.parked_driven hp hrest

/-- A pull of the readable half makes the writable half ready, and has the pipe driven. -/
theorem pull_idles {r : Except StreamError Unit × Session H E} (hw : s.Wired mark)
    (hl : p.Laid s.streams)
    (hparked : ∀ pipe, s.streams.pipe? p.inlet = some pipe → pipe.pumping = false)
    (h : attempt (Session.pull fuel p.stage.readable) s = some r) (hlast : p.Flowing r.2)
    (hdry : r.2.streams.IsDry p.stage.readable) : ¬ r.2.streams.HasFailed p.mouth := by
  cases fuel with
  | zero => cases h
  | succ fuel =>
    obtain ⟨source, hs, hback, -⟩ := hl.readable
    obtain ⟨bridge, hb, -, hwritable, -⟩ := hl.bridge
    have hflows := hlast.before ((Session.flowRuns mark (fuel + 1)).pull hw hs ⟨_, hback⟩ h)
      hw.composed hl
    obtain ⟨pumping, hp⟩ := hflows.runsTo
    obtain ⟨held, spent, horderly⟩ := hw.orderly
    have hinto := Registry.pipeInto?_eq_some s.streams hp rfl fun other found hother hr hd =>
      horderly.destination_inj hother hr hp rfl hd
    rw [p.into, ← hwritable] at hinto
    rcases Session.pull_cases hs hback hb h with ⟨hnone, -⟩ | ⟨name, steps, t, hname, hpump, rfl⟩
    · cases hinto.symm.trans hnone
    cases hinto.symm.trans hname
    have hasked := Session.FlowRuns.runsTo_request hb
    obtain ⟨sink, hk, -, -, hsink⟩ := hflows.writable hw hl
    refine (pumpPipe_idles (r := (steps, t)) (hasked.wired hw)
      (hl.runsTo hasked hw.composed) hparked
      hpump hlast hdry).resolve_right fun hwaits => ?_
    have hunready := hwaits.2
    rw [Session.sinkReady_request hw.composed hk hsink hb] at hunready
    cases hunready

/-- The readable half is pulled if that is of use. By induction on the fuel. -/
theorem pullIfNeeded_idles {source : Source E} {waits : Bool} {r : Unit × Session H E}
    (hw : s.Wired mark) (hl : p.Laid s.streams)
    (hparked : ∀ pipe, s.streams.pipe? p.inlet = some pipe → pipe.pumping = false)
    (hs : s.streams.source? p.stage.readable = some source) (hidle : source.pulling = false)
    (hd : s.streams.isDisturbed p.stage.readable = true)
    (h : drive (Session.pullIfNeeded fuel p.stage.readable waits) s = some r)
    (hlast : p.Flowing r.2) (hdry : r.2.streams.IsDry p.stage.readable) :
    ¬ r.2.streams.HasFailed p.mouth ∨ r.2 = s ∧ source.wantsPull waits = false := by
  induction fuel generalizing s source waits with
  | zero => cases h
  | succ fuel ih =>
    have hc := hw.composed
    obtain ⟨found, hfound, hback, -⟩ := hl.readable
    cases hs.symm.trans hfound
    have ht : source.IsTransform := ⟨_, hback⟩
    rcases (Session.flowDeeds fuel).pullIfNeeded_cases hc hs ht h with
      ⟨huseless, rfl⟩ | ⟨hwants, ⟨hpulling, -⟩ | ⟨-, t, last, hpull, hnext⟩⟩
    · exact .inr ⟨rfl, huseless⟩
    · cases hidle.symm.trans hpulling
    have hbegan := Session.FlowRuns.runsTo_beginPull hs ht hd hwants hidle
    have hwired := hbegan.wired hw
    have hlaid := hl.runsTo hbegan hc
    have hpulled := (Session.flowRuns mark fuel).pull hwired hpull.during ht hpull.pull
    have hd' := hpulled.movesTo.disturbed (hbegan.movesTo.disturbed hd)
    have hwired' := hpulled.wired hwired
    have hlaid' := hlaid.runsTo hpulled hwired.composed
    have hends := Session.FlowRuns.runsTo_endPull hpull.found hpull.isTransform hd' hpull.pulling
    -- the pull has ended in `done`, and it is still to be decided whether to pull again
    obtain ⟨done, hdone⟩ : ∃ done, done = Session.setSource p.stage.readable
        { last with pulling := false, pullAgain := false }
        (Session.note (.pullEnded p.stage.readable (.ok ())) t) := ⟨_, rfl⟩
    have hleft := hpull.ended
    have hwhole := hpull.whole
    rw [← hdone] at hends hleft hwhole hnext
    have hstates : done.streams.readableState? p.mouth = t.streams.readableState? p.mouth := by
      simp only [hdone, Registry.readableState?, Session.streams_setSource, Session.streams_note,
        Registry.source?_setSource]
      split
      · next he => rw [he, hpull.found]; rfl
      · rfl
    -- if `done` is dry, nothing had come when the pull returned, and nothing has failed
    have hfine : p.Flowing done → done.streams.IsDry p.stage.readable →
        ¬ done.streams.HasFailed p.mouth := by
      rintro hopen ⟨found, hfound, hempty⟩ ⟨error, hstate⟩
      cases hleft.symm.trans hfound
      exact pull_idles hwired hlaid hparked hpull.pull (hopen.before hends hwired'.composed hlaid')
        ⟨last, hpull.found, hempty⟩ ⟨error, hstates.symm.trans hstate⟩
    rcases hnext with rfl | hagain
    · exact .inl (hfine hlast hdry)
    · have hparked' : ∀ pipe, done.streams.pipe? p.inlet = some pipe → pipe.pumping = false :=
        fun pipe hp => by
          obtain ⟨pipe', hp', hsame⟩ := SlotMap.rel_some_right (hp ▸ hwhole.level.pipe p.inlet)
          exact hsame.trans (hparked pipe' hp')
      refine .inl ((ih (hends.wired hwired') (hlaid'.runsTo hends hwired'.composed)
        hparked' hleft rfl (hends.movesTo.disturbed hd') hagain).elim id fun hidled => ?_)
      -- the pull that follows is of no use, so nothing has changed since
      rw [hidled.1] at hlast hdry ⊢
      exact hfine hlast hdry

/-- Where a reader of the readable half has to wait, what is piped in has not failed. -/
theorem readUnchecked_waits {r : Except StreamError ReadOutcome × Session H E} (hw : s.Wired mark)
    (hl : p.Laid s.streams)
    (hparked : ∀ pipe, s.streams.pipe? p.inlet = some pipe → pipe.pumping = false)
    (hidle : ∀ source, s.streams.source? p.stage.readable = some source → source.pulling = false)
    (h : attempt (Session.readUnchecked fuel p.stage.readable) s = some r) (hp : r.1 = .ok .pending)
    (hlast : p.Flowing r.2) : ¬ r.2.streams.HasFailed p.mouth := by
  cases fuel with
  | zero => cases h
  | succ fuel =>
    obtain ⟨source, hs, hback, hstart⟩ := hl.readable
    have ht : source.IsTransform := ⟨_, hback⟩
    have hdisturbs := Session.FlowRuns.runsTo_disturb hs ht
    have hwired := hdisturbs.wired hw
    have hmarked := Session.source?_disturb hs
    have hd := Session.isDisturbed_disturb hs
    rcases Session.readUnchecked_cases hs h with
      ⟨hpending, -⟩ | ⟨error, hrejected, -⟩ | ⟨-, found, t, htake, hafter⟩
    · cases hpending.symm.trans hstart
    · cases hrejected.symm.trans hstart
    cases hafter with
    | settled found hsome _ =>
      have hnone := (Session.dry_takeReady hmarked (by rw [htake]; exact hp)).1
      rw [htake] at hnone
      exact absurd (congrArg Prod.fst hnone) hsome
    | full => cases hp
    | empty u hpull =>
      obtain ⟨hsame, found, hfound, hdry⟩ := Session.dry_takeReady hmarked (by rw [htake]; rfl)
      cases htake.symm.trans hsame
      cases hmarked.symm.trans hfound
      have hpulls := (Session.flowRuns mark fuel).pullIfNeeded hwired hmarked ht hd hpull
      obtain ⟨made, hcourse⟩ := hpulls.course
      obtain ⟨last, hs', -⟩ := hcourse.stays hwired.composed hmarked
      obtain ⟨hleft, hempty⟩ := Session.dry_takeReady hs' hp
      rw [hleft] at hlast ⊢
      refine (pullIfNeeded_idles hwired (hl.runsTo hdisturbs hw.composed) hparked hmarked
        (hidle source hs) hd hpull hlast hempty).resolve_right fun hidled => ?_
      have hwants := hidled.2
      rw [hwired.wantsPull hmarked ht hdry] at hwants
      cases hwants

end Passthrough

end EdgeStreams
