import EdgeStreams.Proofs.Session.Rounds
import EdgeStreams.Proofs.Wiring.Slope

/-!
# Runs return

Where octets only move down, reading, pulling and driving a pipe return. A pull of the readable half
of a transform stream drives the pipe into its writable half, which reads a source further up; so
pulls nest no deeper than the wiring is high. A pipe that is driven lightens the burden with every
step, so it makes only finitely many.

## Main definitions

- `Session.Ready`: what holds while nothing but sources below are being pulled
- `Session.Reads`: all sources from some height on can be read
- `Session.Carrying`: what holds of a pipe that is being driven, between two of its steps

## Main statements

- `Session.returns_pumpSteps`, `Session.returns_pumpPipe`: driving a pipe whose source can be read
- `Session.returns_readUnchecked`: reading a source if those above it can be read
- `Session.reads`: all sources can be read
-/

namespace EdgeStreams

variable {E : Type}

namespace Session

variable {slope : Slope} {s t : Session MemoryHost E} {gain loss : ℕ} {driven : Set PipeId}

/-! ### Between two deeds -/

/-- What holds between two deeds. -/
structure Ready (slope : Slope) (s : Session MemoryHost E) : Prop where
  fits : slope.Fits s.streams
  composed : s.streams.Composed
  unasked : s.streams.Unasked

theorem Ready.next (h : Ready slope s) (hm : MovesTo s t) (hf : s.FlowsTo t)
    (hl : Lightens slope driven gain loss s t) : Ready slope t :=
  ⟨h.fits.keepsWiring hm.keepsWiring, hf.composed h.composed, hl.unasked h.unasked⟩

/-- The sources that are being pulled are below a stream. -/
def PulledBelow (slope : Slope) (id : ReadableId) (s : Session MemoryHost E) : Prop :=
  ∀ other source, s.streams.source? other = some source → source.pulling = true →
    slope.height (.queue other) < slope.height (.queue id)

theorem PulledBelow.level {id : ReadableId} (h : PulledBelow slope id s) (hl : s.Level t) :
    PulledBelow slope id t := by
  intro other source' ht hpulling
  obtain ⟨source, hs, hsame⟩ := SlotMap.rel_some_right (ht ▸ hl.source other)
  exact h other source hs (hsame ▸ hpulling)

/-! ### What a pipe does to its ends -/

section Ends

variable (hr : Ready slope s)
include hr

theorem lightens_cancelSource (pipe : Pipe) :
    Lightens slope ∅ 0 0 s (cancelSource pipe s).2 := by
  cases h : pipe.options.preventCancel with
  | false =>
    rw [cancelSource_snd h]
    exact lightens_cancel hr.composed hr.fits _ _ _
  | true =>
    rw [cancelSource_of_prevented h]
    exact .refl slope s

theorem lightens_abortDestination (pipe : Pipe) :
    Lightens slope ∅ 0 0 s (abortDestination pipe s).2 := by
  cases h : pipe.options.preventAbort with
  | false =>
    rw [abortDestination_snd h]
    exact lightens_abort hr.composed hr.fits _ _ _
  | true =>
    rw [abortDestination_of_prevented h]
    exact .refl slope s

theorem lightens_closeDestination (pipe : Pipe) :
    Lightens slope ∅ 0 0 s (closeDestination pipe s).2 := by
  cases h : pipe.options.preventClose with
  | false =>
    rw [closeDestination_eq h]
    exact lightens_close hr.composed hr.fits _ _
  | true =>
    rw [closeDestination_of_prevented h]
    exact .refl slope s

variable {id : PipeId} {pipe : Pipe} (hp : s.streams.pipe? id = some { pipe with pumping := true })
  (hrunning : pipe.isRunning)
include hp hrunning

omit hp in
/-- A pipe finishes that is being driven, after some work on its ends. -/
theorem lightens_end (hl : Lightens slope {id} 0 0 s t) (hm : MovesTo s t)
    (hpipe : t.streams.pipe? id = some { pipe with pumping := true }) {state : PipeState}
    (hstate : state ≠ .running) : Lightens slope {id} 0 1 s (pipeFinished id state t) :=
  hl.trans (lightens_pipeFinished (hr.fits.keepsWiring hm.keepsWiring) hpipe hrunning hstate)

theorem lightens_failPipe (error : StreamError) :
    Lightens slope {id} 0 1 s (failPipe id pipe error s).2 := by
  cases h : s.streams.containsWritable pipe.destination with
  | true =>
    have hcancels := lightens_cancelSource hr pipe
    rw [failPipe_snd h]
    exact lightens_end hr hrunning (hcancels.widen _) (movesTo_cancelSource pipe s)
      (hcancels.spares (Set.notMem_empty _) hp rfl) (by simp)
  | false =>
    rw [failPipe_snd_of_gone h]
    exact lightens_end hr hrunning (.refl slope s) .refl hp (by simp)

end Ends

/-! ### Driving a pipe -/

/-- All sources from some height on can be read. What a read takes lowers the burden. -/
def Reads (slope : Slope) (E : Type) (height : ℕ) : Prop :=
  ∀ (s : Session MemoryHost E) (id : ReadableId), Ready slope s → PulledBelow slope id s →
    height ≤ slope.height (.queue id) →
      Returns (fun fuel => attempt (readUnchecked fuel id) s) fun r =>
        Lightens slope ∅ 0 (slope.weight (.queue id) * taken r.1) s r.2

section Driving

variable {id : PipeId} {pipe : Pipe}

theorem returns_readByPipe (hreads : Reads slope E (slope.height (.queue pipe.source)))
    (hr : Ready slope s) (hb : PulledBelow slope pipe.source s) :
    Returns (fun fuel => attempt (readByPipe fuel pipe) s) fun r =>
      Lightens slope ∅ 0 (slope.weight (.queue pipe.source) * taken r.1) s r.2 ∧ MovesTo s r.2 ∧
        s.FlowsTo r.2 := by
  simp only [readByPipe, attempt_bind, attempt_finite, exec_onStreams, Registry.exec_checkReader,
    Option.bind_some]
  cases (Registry.need (s.streams.source? pipe.source)).bind fun source =>
      Registry.admits source.readerLock (some pipe.reader) with
  | error error => exact .now (.error error, s) ⟨.refl slope s, .refl, .refl s⟩ fun _ => rfl
  | ok =>
    refine (hreads s pipe.source hr hb le_rfl).mono fun fuel r hread hl => ?_
    exact ⟨hl, (flowMoves fuel).readUnchecked hread,
      (flowDeeds fuel).readUnchecked hr.composed hread⟩

/-- What holds of a pipe that is being driven, between two of its steps. -/
structure Carrying (slope : Slope) (id : PipeId) (pipe : Pipe)
    (s : Session MemoryHost E) : Prop where
  ready : Ready slope s
  below : PulledBelow slope pipe.source s
  driven : s.streams.pipe? id = some { pipe with pumping := true }

/-- What a pipe takes is heavier than what it writes. -/
theorem readLeads_lightens (hrunning : pipe.isRunning) (hc : Carrying slope id pipe s)
    {read : Except StreamError ReadOutcome}
    (hl : Lightens slope ∅ 0 (slope.weight (.queue pipe.source) * taken read) s t)
    (hm : MovesTo s t) (hf : s.FlowsTo t) :
    ReadLeads id pipe (Carrying slope id pipe) (Lightens slope {id} 0) s (read, t) := by
  have hrt := hc.ready.next hm hf hl
  have hpt := hl.spares (Set.notMem_empty _) hc.driven rfl
  have hnone : Lightens slope ∅ 0 0 s t := hl.mono (Nat.zero_le _)
  -- a pipe that ends makes one more step
  have hends : ∀ {u : Session MemoryHost E} {state : PipeState}, Lightens slope ∅ 0 0 t u →
      MovesTo t u → state ≠ .running → Lightens slope {id} 0 1 s (pipeFinished id state u) := by
    intro u state hlu hmu hstate
    have hend := lightens_end hrt hrunning (hlu.widen _) hmu
      (hlu.spares (Set.notMem_empty _) hpt rfl) hstate
    exact (hnone.widen {id}).trans hend
  cases read with
  | error error =>
    exact hends (lightens_abortDestination hrt pipe) (movesTo_abortDestination pipe t) nofun
  | ok outcome =>
    cases outcome with
    | pending => exact hnone.widen {id}
    | done =>
      obtain ⟨hcloses, hstate⟩ := movesTo_closeDestination pipe t
      exact hends (lightens_closeDestination hrt pipe) hcloses hstate
    | chunk data =>
      have hwrites := lightens_carry hrt.composed hrt.fits hpt hrunning data (some pipe.writer)
      have hmwrites : MovesTo t _ := .of_changesWithin
        (changesWithin_write t pipe.destination data (some pipe.writer))
      have hfwrites := flowsTo_write hrt.composed pipe.destination data (some pipe.writer)
      have hru := hrt.next hmwrites hfwrites hwrites
      have hpu := hwrites.spares (Set.notMem_empty _) hpt rfl
      have hbu := (hc.below.level hf.level).level hfwrites.level
      have hlu := hl.trans hwrites
      simp only [ReadLeads]
      generalize exec (write pipe.destination data (some pipe.writer)) t = wrote
        at hwrites hmwrites hfwrites hru hpu hbu hlu
      obtain ⟨outcome, u⟩ := wrote
      have hlighter : Lightens slope ∅ 0 1 s u := hlu.mono (by simp only [taken]; omega)
      cases outcome with
      | ok => exact ⟨hlighter.widen {id}, hru, hbu, hpu⟩
      | error error =>
        have hcancels := lightens_cancelSource hru pipe
        have hend : Lightens slope {id} 0 1 u
            (pipeFinished id (.failed error) (cancelSource pipe u).2) :=
          lightens_end hru hrunning (hcancels.widen {id}) (movesTo_cancelSource pipe u)
            (hcancels.spares (Set.notMem_empty _) hpu rfl) nofun
        exact ((hlighter.widen {id}).trans hend).mono (by omega)

/-- A pipe makes only finitely many steps, since each of them lowers the burden. -/
theorem returns_pumpSteps (hreads : Reads slope E (slope.height (.queue pipe.source)))
    (hrunning : pipe.isRunning) (hc : Carrying slope id pipe s) (steps : ℕ) :
    Returns (fun fuel => drive (pumpSteps fuel id pipe steps) s) fun r =>
      Lightens slope {id} steps r.1 s r.2 := by
  refine (returns_pumpSteps_of (Carrying slope id pipe) (Lightens slope {id} 0) slope.burden
    (.refl slope) (fun h h' => h.trans h') (fun h => h.burden) (fun error hc => ?_) (fun hc => ?_)
    hc steps).mono ?_
  · exact lightens_failPipe hc.ready hc.driven hrunning error
  · refine (returns_readByPipe hreads hc.ready hc.below).mono ?_
    rintro fuel ⟨read, t⟩ - ⟨hl, hmoves, hflows⟩
    exact readLeads_lightens hrunning hc hl hmoves hflows
  · rintro - ⟨total, t⟩ - ⟨more, rfl, hl⟩
    exact hl.mono (by omega)

/-- A pipe is marked as being driven, or no longer so. -/
theorem lightens_drive (hp : s.streams.pipe? id = some pipe) (pumping : Bool) :
    Lightens slope {id} 0 0 s
      (mapStreams (fun streams => streams.setPipe id { pipe with pumping }) s) where
  burden := by
    have hsame : slope.running (s.streams.setPipe id { pipe with pumping }) =
        slope.running s.streams := by
      unfold Slope.running
      congr 2
      funext other
      rw [Registry.pipe?_setPipe]
      split
      · next he =>
        rw [he, hp]
        rfl
      · rfl
    exact (congrArg (slope.weigh s.stock + ·) hsame).le
  unasked h := h
  spares {other found} hid hfound _ := by
    have hne : other ≠ id := hid
    rw [streams_mapStreams, Registry.pipe?_setPipe, if_neg hne]
    exact hfound

theorem flowsTo_drive (hp : s.streams.pipe? id = some pipe) :
    ∃ made, Course s made
      (mapStreams (fun streams => streams.setPipe id { pipe with pumping := true }) s) :=
  ⟨_, .step .refl (.drive true hp)⟩

/-- A pipe that is driven by others is left alone. -/
theorem returns_pumpPipe (id : PipeId) (hr : Ready slope s)
    (hreads : ∀ pipe, s.streams.pipe? id = some pipe → pipe.isRunning →
      Reads slope E (slope.height (.queue pipe.source)) ∧ PulledBelow slope pipe.source s) :
    Returns (fun fuel => drive (pumpPipe fuel id) s) fun r => Lightens slope ∅ 0 r.1 s r.2 := by
  refine returns_pumpPipe_of (fun steps => Lightens slope ∅ 0 steps s) (.refl slope s)
    fun pipe hp hrunning hparked => ?_
  obtain ⟨hreads, hb⟩ := hreads pipe hp hrunning
  let marked := mapStreams (fun streams => streams.setPipe id { pipe with pumping := true }) s
  have hdriven : Lightens slope {id} 0 0 s marked := lightens_drive hp true
  have hmarked : marked.streams.pipe? id = some { pipe with pumping := true } := by
    simp [marked, Registry.pipe?_setPipe, hp]
  have hready : Ready slope marked := by
    refine ⟨hr.fits.keepsWiring (.setPipe hp true), ?_, hdriven.unasked hr.unasked⟩
    obtain ⟨made, hcourse⟩ := flowsTo_drive hp
    exact hcourse.composed hr.composed
  refine (returns_pumpSteps hreads hrunning ⟨hready, hb, hmarked⟩ 0).mono ?_
  rintro fuel ⟨steps, t⟩ hsteps hl
  have hall := hdriven.trans hl
  -- other pipes that are being driven have been spared, and this one has not been driven before
  have hspared : ∀ {other found}, s.streams.pipe? other = some found → found.pumping = true →
      other ≠ id ∧ t.streams.pipe? other = some found := by
    intro other found hfound hpumping
    have hne : other ≠ id := by
      rintro rfl
      rw [hp, Option.some.injEq] at hfound
      rw [hfound, hpumping] at hparked
      cases hparked
    exact ⟨hne, hall.spares hne hfound hpumping⟩
  have hlast : Lightens slope {id} 0 0 t (mapStreams (parked id) t) := by
    unfold mapStreams parked
    cases ht : t.streams.pipe? id with
    | none => exact .refl slope t
    | some last => exact lightens_drive ht false
  have htotal := hall.trans hlast
  have hburden := htotal.burden
  refine ⟨by dsimp only; omega, htotal.unasked, ?_⟩
  intro other found _ hfound hpumping
  obtain ⟨hne, hstill⟩ := hspared hfound hpumping
  exact htotal.spares hne hfound hpumping

end Driving

/-! ### Pulling -/

section Pulling

variable {id : ReadableId} {source : Source E}

/-- A pull of the readable half of a transform stream drives the pipe into its writable half, which
reads a source further up. -/
theorem returns_pull (hreads : Reads slope E (slope.height (.queue id) + 1)) (hr : Ready slope s)
    (hs : s.streams.source? id = some source) (ht : source.IsTransform)
    (hb : ∀ other found, s.streams.source? other = some found → found.pulling = true →
      slope.height (.queue other) ≤ slope.height (.queue id)) :
    Returns (fun fuel => attempt (pull fuel id) s) fun r => Lightens slope ∅ 0 0 s r.2 := by
  obtain ⟨name, hback⟩ := ht
  obtain ⟨bridge, hbridge, rfl⟩ := hr.composed.readable hs hback
  let asked := setBridge name { bridge with pullRequested := true } s
  have hasked : Lightens slope ∅ 0 0 s asked := lightens_setBridge name _ s
  cases hinto : s.streams.pipeInto? bridge.writable with
  | none =>
    refine .now (.ok (), asked) hasked fun fuel => ?_
    simp only [attempt_pull, hs, hback, hbridge, hinto, asked]
  | some id =>
    have hready : Ready slope asked := by
      have hmoves : MovesTo s asked := .of_changesWithin (ChangesWithin.refl.setBridge
        (f := { bridges := {name} }) rfl hbridge ⟨rfl, rfl, rfl, fun h => h⟩)
      exact hr.next hmoves (FlowDeeds.flowsTo_request hbridge) hasked
    refine (returns_pumpPipe id hready ?_).map (fun r => (.ok (), r.2)) (fun fuel => ?_)
      fun fuel r _ hl => (hasked.trans hl).mono (Nat.zero_le _)
    · intro pipe hp hrunning
      -- the pipe leads into the stream that is pulled, so its source is above
      have hdestination : bridge.writable = pipe.destination := by
        obtain ⟨found, hfound, -, hd⟩ := s.streams.of_pipeInto?_eq_some hinto
        cases hfound.symm.trans hp
        exact hd.symm
      have hfills : s.streams.FillsPlace pipe.destination (.queue bridge.readable) :=
        hdestination ▸ .bridge hbridge
      have hdown := hr.fits.descends (.pipe hp hrunning hfills)
      refine ⟨fun s id hrs hbs hle => hreads s id hrs hbs (hdown.trans_le hle),
        fun other found hfound hpulling => ?_⟩
      exact (hb other found hfound hpulling).trans_lt hdown
    · simp only [attempt_pull, hs, hback, hbridge, hinto]
      rfl

/-- A source that is not being pulled is pulled once, if at all, since nobody asks for another
pull. -/
theorem returns_pullIfNeeded (hu : s.streams.Unasked)
    (hs : s.streams.source? id = some source) (hidle : source.pulling = false) (waits : Bool)
    (hpull : source.wantsPull waits = true → Returns (fun fuel => attempt (pull fuel id)
      (note (.pullBegan id) (setSource id { source with pulling := true } s)))
        fun r => Lightens slope ∅ 0 0
          (note (.pullBegan id) (setSource id { source with pulling := true } s)) r.2) :
    Returns (fun fuel => drive (pullIfNeeded fuel id waits) s) fun r =>
      Lightens slope ∅ 0 0 s r.2 := by
  have hbegan : Lightens slope ∅ 0 0 s
      (note (.pullBegan id) (setSource id { source with pulling := true } s)) :=
    (lightens_setSource { source with pulling := true } hs le_rfl (hu id source hs)).trans
      (lightens_note _ _)
  refine returns_pullIfNeeded_once waits hs hidle (fun hwants => (hpull hwants).mono ?_)
    (.refl slope s)
  rintro fuel ⟨result, t⟩ - hl
  have hpulled := hbegan.trans hl
  have hended : Lightens slope ∅ 0 0 s (note (.pullEnded id result) t) :=
    hpulled.trans (lightens_note _ t)
  dsimp only
  cases ht : t.streams.source? id with
  | none => exact hended
  | some last =>
    have hagain := hpulled.unasked hu id last ht
    have hafter : Lightens slope ∅ 0 0 (note (.pullEnded id result) t)
        (afterPull id last result (note (.pullEnded id result) t)) := by
      cases result with
      | error error => exact lightens_setSource _ ht (last.controller.load_error_le error) hagain
      | ok => exact lightens_setSource _ ht le_rfl hagain
    exact ⟨hagain, hended.trans hafter⟩

/-- A source is pulled between two deeds, or it is one whose pulls drive no pipe. -/
theorem returns_pullIfNeeded_ready (hreads : Reads slope E (slope.height (.queue id) + 1))
    (hf : slope.Fits s.streams) (hu : s.streams.Unasked) (hs : s.streams.source? id = some source)
    (hidle : source.pulling = false)
    (hc : source.IsTransform → s.streams.Composed ∧ PulledBelow slope id s) (waits : Bool) :
    Returns (fun fuel => drive (pullIfNeeded fuel id waits) s) fun r =>
      Lightens slope ∅ 0 0 s r.2 := by
  refine returns_pullIfNeeded hu hs hidle waits fun hwants => ?_
  let began := note (.pullBegan id) (setSource id { source with pulling := true } s)
  have hduring : began.streams.source? id = some { source with pulling := true } := by
    simp [began, Registry.source?_setSource, hs]
  have hlight : Lightens slope ∅ 0 0 s began :=
    (lightens_setSource { source with pulling := true } hs le_rfl
      (hu id source hs)).trans (lightens_note _ _)
  have hkeeps : s.streams.KeepsWiring began.streams := by
    refine .of_pipes (fun other => ?_) (fun other => ?_) (fun other => ?_) rfl
    · exact SlotMap.rel_set (fun hab hbc => hbc.trans hab)
        ((Registry.KeepsWiring.refl _).source other)
        hs rfl
    · exact (Registry.KeepsWiring.refl _).sink other
    · exact (Registry.KeepsWiring.refl _).bridge other
  have hfits := hf.keepsWiring hkeeps
  change Returns (fun fuel => attempt (pull fuel id) began) fun r => Lightens slope ∅ 0 0 began r.2
  cases hback : source.backing with
  | script guest => exact absurd hback (hf.guestless.source hs)
  | body handle size =>
    refine .now (exec (pullBody id handle size) began)
      (lightens_pullBody hfits hduring hback (hu id source hs)) fun fuel => ?_
    have hpull := attempt_pull fuel began id
    simp only [hduring, hback] at hpull
    exact hpull
  | transform name =>
    have ht : source.IsTransform := ⟨name, hback⟩
    obtain ⟨hcomposed, hbelow⟩ := hc ht
    have hbegins : Deed s [] began := .beginPull hs ht hwants hidle
    have hready : Ready slope began :=
      ⟨hfits, hcomposed.advancesTo (hbegins.advancesTo hcomposed), hlight.unasked hu⟩
    refine returns_pull hreads hready hduring ht fun other found hfound hpulling => ?_
    by_cases he : other = id
    · rw [he]
    · have hold : s.streams.source? other = some found := by
        rw [← hfound]
        simp [began, Registry.source?_setSource, he]
      exact (hbelow other found hold hpulling).le

end Pulling

/-! ### Reading -/

/-- A source can be read if those above it can. -/
theorem returns_readUnchecked {id : ReadableId}
    (hreads : Reads slope E (slope.height (.queue id) + 1)) (hr : Ready slope s)
    (hb : PulledBelow slope id s) :
    Returns (fun fuel => attempt (readUnchecked fuel id) s) fun r =>
      Lightens slope ∅ 0 (slope.weight (.queue id) * taken r.1) s r.2 := by
  cases hs : s.streams.source? id with
  | none =>
    exact .now (.error .released, s) (.refl slope s) fun fuel => by
      rw [attempt_readUnchecked, hs]
  | some source =>
    have hidle : source.pulling = false := by
      cases hpulling : source.pulling with
      | false => rfl
      | true => exact absurd (hb id source hs hpulling) (lt_irrefl _)
    have hmarked := source?_disturb hs
    have hdisturbed := isDisturbed_disturb hs
    have hlmarked : Lightens slope ∅ 0 0 s (disturb id source s) :=
      lightens_setSource { source with disturbed := true } hs le_rfl (hr.unasked id source hs)
    have hfmarked : slope.Fits (disturb id source s).streams :=
      hr.fits.keepsWiring (MovesTo.refl.disturb hs).keepsWiring
    have humarked := hlmarked.unasked hr.unasked
    -- what is taken is whatever is ready, before the pull or after it
    have htake : ∀ {t : Session MemoryHost E} {last : Source E},
        slope.Fits t.streams ∧ t.streams.Unasked → t.streams.source? id = some last →
          Lightens slope ∅ 0
            (slope.weight (.queue id) * taken ((exec (takeReady id) t).1.map orPending))
            t (exec (takeReady id) t).2 := fun ht hlast =>
      lightens_takeReady ht.1 hlast (ht.2 id _ hlast)
    refine returns_readUnchecked_of (fun t => slope.Fits t.streams ∧ t.streams.Unasked)
      (fun n => Lightens slope ∅ 0 (slope.weight (.queue id) * n)) (.refl slope)
      (fun h h' => (h.trans h').mono (by rw [Nat.mul_add])) hs ⟨hfmarked, humarked⟩ hlmarked htake
      fun waits => ?_
    have htook := htake ⟨hfmarked, humarked⟩ hmarked
    have hmoves := movesTo_takeReady hdisturbed
    let entry : Source E := { source with
      disturbed := true, controller := source.controller.takeReady.2 }
    have hentry : (exec (takeReady id) (disturb id source s)).2.streams.source? id =
        some entry := by
      rw [exec_takeReady hmarked, streams_noteDelivered]
      simp [Registry.source?_setSource, hmarked, entry]
    have hflows : source.IsTransform → s.FlowsTo (exec (takeReady id) (disturb id source s)).2 :=
      fun ht => (flowsTo_disturb hs ht).trans (flowsTo_takeReady hmarked ht)
    generalize exec (takeReady id) (disturb id source s) = first at htook hmoves hentry hflows
    have hfits := hfmarked.keepsWiring hmoves.keepsWiring
    have hunasked := htook.unasked humarked
    refine (returns_pullIfNeeded_ready hreads hfits hunasked hentry hidle (fun ht =>
      ⟨(hflows ht).composed hr.composed, hb.level (hflows ht).level⟩) waits).mono
        fun fuel r hpulled hl => ?_
    have hrest := (flowMoves fuel).pullIfNeeded (hmoves.disturbed hdisturbed) hpulled
    exact ⟨hl, hfits.keepsWiring hrest.keepsWiring, hl.unasked hunasked⟩

/-- All sources can be read. By induction on how far a source is below the highest. -/
theorem reads (slope : Slope) (height : ℕ) : Reads slope E height := by
  -- there is no source above the highest
  have htop : ∀ {s : Session MemoryHost E} {id : ReadableId} {source : Source E}, Ready slope s →
      s.streams.source? id = some source →
        slope.height (.queue id) ≤ slope.places.sup slope.height := fun hr hs =>
    Finset.le_sup (hr.fits.source hs)
  have hdown : ∀ below height, slope.places.sup slope.height < height + below →
      Reads slope E height := by
    intro below
    induction below with
    | zero =>
      intro height hheight s id hr hb hle
      cases hs : s.streams.source? id with
      | none =>
        exact .now (.error .released, s) (.refl slope s) fun fuel => by
          rw [attempt_readUnchecked, hs]
      | some source =>
        have hmax := htop hr hs
        omega
    | succ below ih =>
      intro height hheight s id hr hb hle
      exact returns_readUnchecked (ih _ (by omega)) hr hb
  exact hdown (slope.places.sup slope.height + 1) height (by omega)

end Session

end EdgeStreams
