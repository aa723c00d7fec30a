import EdgeStreams.Proofs.Session.Controller
import EdgeStreams.Proofs.Session.Frame

/-!
# Streams whose pulls always bring something

A reader never waits for a source each of whose pulls brings chunks or the end. Such a stream gives
its reader what it has queued and what lies behind it, chunk by chunk, and then the end.

## Main definitions

- `ReadableController.Stocks`: the octets that are queued or lie behind
- `Well`: a stream whose pulls always bring something
- `Source.Serves`, `Well.OffersOctets`: such a stream between two operations
- `Well.Ripe`: a reader finds something at once

## Main statements

- `Well.OffersOctets.pullIfNeeded`: what is there to be had stays the same
- `Well.OffersOctets.read`: a read takes the first chunk, or finds the end

## Design notes

What lies behind a stream is left to a predicate on the session. A host body or a guest may lie
there, or a pipe out of another such stream.
-/

namespace EdgeStreams

variable {E : Type}

/-- The octets that are queued, or lie behind the source as `Behind` has it. Once the source has
ended, nothing lies behind it. -/
structure ReadableController.Stocks (controller : ReadableController) (Behind : Bytes → Prop)
    (Spent : Prop) (octets : Bytes) : Prop where
  sound : controller.Sound
  supply :
    (controller.IsOpen ∧ ∃ rest, octets = controller.queue.flatten ++ rest ∧ Behind rest) ∨
      controller.HasEnded ∧ octets = controller.queue.flatten ∧ Spent

/-- A stream whose pulls always bring something. -/
structure Well (E : Type) where
  id : ReadableId
  backing : SourceBacking E
  mark : UInt64
  /-- What a pull may change besides the stream. -/
  reach : Footprint
  /-- The octets that lie behind the stream. -/
  Behind : Session MemoryHost E → Bytes → Prop
  /-- What was behind the stream has come to its end. -/
  Spent : Session MemoryHost E → Prop
  apart : id ∉ reach.readables
  frame {f : Footprint} {s s' : Session MemoryHost E} {octets : Bytes} :
    Behind s octets → Frame f s s' → f.Apart reach → s'.env = s.env → Behind s' octets
  frameSpent {f : Footprint} {s s' : Session MemoryHost E} :
    Spent s → Frame f s s' → f.Apart reach → Spent s'
  /-- One pull of an open stream. -/
  pull {s : Session MemoryHost E} {source : Source E} {octets : Bytes} :
    s.streams.source? id = some source → source.backing = backing →
    source.controller.highWaterMark = mark → source.controller.Sound → source.controller.IsOpen →
    Behind s octets → s.host.Calm →
    ∃ controller s', Settles (fun fuel => attempt (Session.pull fuel id) s) (.ok (), s') ∧
      Confined ({ readables := {id} } ∪ reach) 0 s s' ∧
        s'.streams.source? id = some { source with controller } ∧
          controller.highWaterMark = mark ∧
            controller.Stocks (Behind s') (Spent s') (source.controller.queue.flatten ++ octets) ∧
              (controller.queue ≠ [] ∨ controller.HasEnded)

/-- The stream of a well between two operations, apart from what it has to give. -/
structure Source.Serves (source : Source E) (well : Well E) (lock : Option ReaderToken) : Prop where
  backing : source.backing = well.backing
  mark : source.controller.highWaterMark = well.mark
  started : source.start = .resolved
  uncanceled : source.canceled = false
  resting : source.pulling = false
  unasked : source.pullAgain = false
  lock : source.readerLock = lock

/-- Wells differ in what lies behind them. -/
theorem Source.Serves.congr {source : Source E} {well well' : Well E} {lock : Option ReaderToken}
    (h : source.Serves well lock) (hback : well'.backing = well.backing)
    (hmark : well'.mark = well.mark) : source.Serves well' lock :=
  ⟨h.backing.trans hback.symm, h.mark.trans hmark.symm, h.started, h.uncanceled,
    h.resting, h.unasked, h.lock⟩

namespace Well

variable {well : Well E} {lock : Option ReaderToken} {octets : Bytes} {s : Session MemoryHost E}
variable {source : Source E}

/-- What reading may change. -/
def extent (well : Well E) : Footprint := { readables := {well.id} } ∪ well.reach

/-- A reader of the stream is given the octets, and then the end. -/
def OffersOctets (well : Well E) (lock : Option ReaderToken) (octets : Bytes)
    (s : Session MemoryHost E) : Prop :=
  ∃ source, s.streams.source? well.id = some source ∧ source.Serves well lock ∧
    source.controller.Stocks (well.Behind s) (well.Spent s) octets

theorem own_within : ({ readables := {well.id} } : Footprint).Within well.extent :=
  Footprint.within_union_left

theorem mem_extent : well.id ∈ well.extent.readables := .inl rfl

theorem own_apart : ({ readables := {well.id} } : Footprint).Apart well.reach where
  readables := by
    rintro _ rfl
    exact well.apart
  writables := fun _ h => h.elim
  bridges := fun _ h => h.elim
  pipes := fun _ h => h.elim
  bodies := fun _ h => h.elim

theorem stocks_of_frame {controller : ReadableController} {f : Footprint}
    {s' : Session MemoryHost E} (h : controller.Stocks (well.Behind s) (well.Spent s) octets)
    (hf : Frame f s s') (ha : f.Apart well.reach) (he : s'.env = s.env) :
    controller.Stocks (well.Behind s') (well.Spent s') octets :=
  ⟨h.sound, h.supply.imp
    (fun ⟨hopen, rest, hoctets, hbehind⟩ =>
      ⟨hopen, rest, hoctets, well.frame hbehind hf ha he⟩)
    fun ⟨hended, hoctets, hspent⟩ => ⟨hended, hoctets, well.frameSpent hspent hf ha⟩⟩

theorem OffersOctets.of_frame {f : Footprint} {s' : Session MemoryHost E}
    (h : well.OffersOctets lock octets s) (hf : Frame f s s') (ha : f.Apart well.extent)
    (he : s'.env = s.env) : well.OffersOctets lock octets s' := by
  obtain ⟨source, hs, hserves, hstocks⟩ := h
  have hout : well.id ∉ f.readables := fun hm => ha.readables _ hm mem_extent
  exact ⟨source, (hf.source _ hout).trans hs, hserves,
    stocks_of_frame hstocks hf (ha.symm.within Footprint.within_union_right).symm he⟩

theorem OffersOctets.noted (h : well.OffersOctets lock octets s) (event : StreamEvent) :
    well.OffersOctets lock octets (Session.note event s) :=
  h.of_frame (.note s event) Footprint.apart_empty.symm rfl

/-- A change of the stream itself leaves what lies behind it alone. -/
theorem offersOctets_setSource (hs : s.streams.source? well.id = some source) {source' : Source E}
    (hserves : source'.Serves well lock)
    (hstocks : source'.controller.Stocks (well.Behind s) (well.Spent s) octets) :
    well.OffersOctets lock octets (Session.setSource well.id source' s) :=
  ⟨source', by simp [Registry.source?_setSource, hs], hserves,
    stocks_of_frame hstocks (.setSource s _ _) own_apart rfl⟩

/-- A reader finds something at once. -/
def Ripe (well : Well E) (s : Session MemoryHost E) : Prop :=
  ∃ source, s.streams.source? well.id = some source ∧
    (source.controller.queue ≠ [] ∨ source.controller.HasEnded)

/-- The stream is pulled if that is of use. What it has to give stays the same, and a reader that
waits for it need wait no longer. -/
theorem OffersOctets.pullIfNeeded (h : well.OffersOctets lock octets s) (hc : s.host.Calm)
    (readerWaits : Bool) :
    ∃ s', Settles (fun fuel => drive (Session.pullIfNeeded fuel well.id readerWaits) s) ((), s') ∧
      Confined well.extent 0 s s' ∧ well.OffersOctets lock octets s' ∧
        (readerWaits = true → well.Ripe s') := by
  obtain ⟨source, hs, hserves, hstocks⟩ := h
  by_cases hwants : source.wantsPull readerWaits
  · -- a stream that wants a pull is open
    have hopen : source.controller.IsOpen := by
      simp only [Source.wantsPull, Bool.and_eq_true, Bool.not_eq_true', beq_iff_eq] at hwants
      exact ⟨hwants.1.2, hwants.1.1.2⟩
    obtain ⟨-, rest, rfl, hbehind⟩ | ⟨hended, -⟩ := hstocks.supply
    -- marking the stream as being pulled changes nothing behind it
    · let pulled : Session MemoryHost E := Session.note (.pullBegan well.id)
        (Session.setSource well.id { source with pulling := true } s)
      have hpulled : pulled.streams.source? well.id = some { source with pulling := true } := by
        simp [pulled, Registry.source?_setSource, hs]
      have hmarked : Frame { readables := {well.id} } s pulled :=
        (Frame.setSource s _ _).congr rfl rfl
      have hbegan : Confined well.extent 0 s pulled :=
        ((Confined.setSource s _ _).noted _).mono own_within
      obtain ⟨controller, s', hsettles, hconfined, hs', hmark, hstocks', hgot⟩ :=
        well.pull hpulled hserves.backing hserves.mark hstocks.sound hopen
          (well.frame hbehind hmarked own_apart rfl) (hbegan.calm hc)
      have hserves' : ({ source with pulling := false, controller } : Source E).Serves well lock :=
        ⟨hserves.backing, hmark, hserves.started, hserves.uncanceled, rfl, hserves.unasked,
          hserves.lock⟩
      have hset := Confined.setSource (Session.note (.pullEnded well.id (.ok ())) s') well.id
        { source with pulling := false, controller }
      have hlast : (Session.setSource well.id { source with pulling := false, controller }
          (Session.note (.pullEnded well.id (.ok ())) s')).streams.source? well.id =
            some { source with pulling := false, controller } := by
        simp [Registry.source?_setSource, hs']
      refine ⟨_, hsettles.step fun fuel hfuel => ?_,
        (hbegan.trans (hconfined.noted _)).trans (hset.mono own_within),
        offersOctets_setSource (s := Session.note (.pullEnded well.id (.ok ())) s') hs' hserves'
          (stocks_of_frame hstocks' (.note s' _) Footprint.apart_empty.symm rfl),
        fun _ => ⟨_, hlast, hgot⟩⟩
      rw [Session.drive_pullIfNeeded, hs]
      simp only [hwants, Bool.not_true, Bool.false_eq_true, if_false, hserves.resting]
      rw [show attempt (Session.pull fuel well.id) pulled = some (.ok (), s') from hfuel]
      simp only [Option.bind_some, hs', hserves.unasked, Bool.false_eq_true, if_false,
        Session.afterPull]
    · exact absurd hended hopen.not_ended
  · refine ⟨s, .now fun fuel => ?_, .refl _ _, ⟨source, hs, hserves, hstocks⟩, ?_⟩
    · simp only [Session.drive_pullIfNeeded, hs, hwants, Bool.not_false, if_true]
    · -- an open stream wants a pull when a reader waits
      rintro rfl
      obtain ⟨hopen, -⟩ | ⟨hended, -⟩ := hstocks.supply
      · exact absurd hwants (by
          simp [Source.wantsPull, hserves.started, StartState.isResolved, hserves.uncanceled,
            hopen.close, hopen.state])
      · exact ⟨source, hs, .inr hended⟩

/-- What a reader finds at once: the first chunk, the end, or nothing. -/
theorem OffersOctets.takeReady (h : well.OffersOctets lock octets s) :
    ∃ found s', exec (Session.takeReady well.id) s = (.ok found, s') ∧ Confined well.extent 0 s s' ∧
      ((∃ chunk rest, found = some (.chunk chunk) ∧ chunk ≠ [] ∧ octets = chunk ++ rest ∧
          well.OffersOctets lock rest s') ∨
        (found = some .done ∧ octets = [] ∧ well.Spent s') ∨
        found = none ∧ ¬ well.Ripe s ∧ well.OffersOctets lock octets s') := by
  obtain ⟨source, hs, hserves, hstocks⟩ := h
  have hsound := hstocks.sound
  rw [Session.exec_takeReady hs]
  have hserves' : ∀ controller : ReadableController,
      controller.highWaterMark = source.controller.highWaterMark →
        ({ source with controller } : Source E).Serves well lock := fun controller hmark =>
    ⟨hserves.backing, hmark.trans hserves.mark, hserves.started, hserves.uncanceled,
      hserves.resting, hserves.unasked, hserves.lock⟩
  have hconfined : ∀ controller, Confined well.extent 0 s
      (Session.setSource well.id { source with controller } s) :=
    fun _ => (Confined.setSource s _ _).mono own_within
  cases hq : source.controller.queue with
  | cons chunk queue =>
    have hchunk : chunk ≠ [] := hsound.nonempty chunk (by simp [hq])
    rw [ReadableController.takeReady_of_queue hsound (hstocks.supply.imp And.left And.left) hq]
    have htail : source.controller.dropped.queue = queue := by
      simp [ReadableController.dropped, hq]
    obtain ⟨rest, rfl, hrest⟩ : ∃ rest, octets = chunk ++ rest ∧
        source.controller.dropped.Stocks (well.Behind s) (well.Spent s) rest := by
      rcases hstocks.supply with ⟨hopen, later, rfl, hb⟩ | ⟨hended, rfl, hspent⟩
      · exact ⟨queue.flatten ++ later, by simp [hq], hsound.dropped,
          .inl ⟨hopen.dropped, later, by rw [htail], hb⟩⟩
      · exact ⟨queue.flatten, by simp [hq], hsound.dropped,
          .inr ⟨hended.dropped hq, by rw [htail], hspent⟩⟩
    exact ⟨_, _, rfl, (hconfined _).noted _, .inl ⟨chunk, rest, rfl, hchunk, rfl,
      (offersOctets_setSource hs (hserves' source.controller.dropped rfl) hrest).noted _⟩⟩
  | nil =>
    rcases hstocks.supply with ⟨hopen, -⟩ | ⟨hended, rfl, hspent⟩
    · rw [hopen.takeReady hq]
      refine ⟨_, _, rfl, hconfined _,
        .inr (.inr ⟨rfl, ?_, offersOctets_setSource hs (hserves' _ rfl) hstocks⟩)⟩
      rintro ⟨other, ho, hripe⟩
      obtain rfl : source = other := Option.some_inj.mp (hs.symm.trans ho)
      exact hripe.elim (fun hne => hne hq) hopen.not_ended
    · rw [hended.takeReady hq]
      exact ⟨_, _, rfl, hconfined _,
        .inr (.inl ⟨rfl, by simp [hq], well.frameSpent hspent (.setSource s _ _) own_apart⟩)⟩

/-- A reader takes the first chunk, or finds the end. -/
theorem OffersOctets.read (h : well.OffersOctets lock octets s) (hc : s.host.Calm) :
    ∃ found s', Settles (fun fuel => attempt (Session.readUnchecked fuel well.id) s)
      (.ok found, s') ∧ Confined well.extent 0 s s' ∧
        ((∃ chunk rest, found = .chunk chunk ∧ chunk ≠ [] ∧ octets = chunk ++ rest ∧
            well.OffersOctets lock rest s') ∨
          found = .done ∧ octets = [] ∧ well.Spent s') := by
  obtain ⟨source, hs, hserves, hstocks⟩ := h
  have hmarked : well.OffersOctets lock octets (Session.disturb well.id source s) :=
    offersOctets_setSource hs ⟨hserves.backing, hserves.mark, hserves.started, hserves.uncanceled,
      hserves.resting, hserves.unasked, hserves.lock⟩ hstocks
  have hdisturbed : Confined well.extent 0 s (Session.disturb well.id source s) :=
    (Confined.setSource s _ _).mono own_within
  obtain ⟨found, taken, htake, hconfined, hfound⟩ := hmarked.takeReady
  have hto := hdisturbed.trans hconfined
  rcases hfound with ⟨chunk, rest, rfl, hchunk, rfl, hoffers⟩ | ⟨rfl, hend⟩ | ⟨rfl, -, hoffers⟩
  · obtain ⟨s', hsettles, hpulled, hoffers', -⟩ := hoffers.pullIfNeeded (hto.calm hc) false
    exact ⟨.chunk chunk, s', hsettles.step fun fuel hfuel => by
      simp only [Session.attempt_readUnchecked, hs, hserves.started, htake, hfuel, Option.map_some],
      hto.trans hpulled, .inl ⟨chunk, rest, rfl, hchunk, rfl, hoffers'⟩⟩
  · exact ⟨.done, taken, .now fun fuel => by
      simp only [Session.attempt_readUnchecked, hs, hserves.started, htake], hto, .inr ⟨rfl, hend⟩⟩
  · -- the stream is pulled, and then something is there
    obtain ⟨pulled, hsettles, hpulled, hoffers', hripe⟩ := hoffers.pullIfNeeded (hto.calm hc) true
    obtain ⟨found, s', htake', hconfined', hfound⟩ := hoffers'.takeReady
    have hread : ∀ fuel, drive (Session.pullIfNeeded fuel well.id true) taken = some ((), pulled) →
        attempt (Session.readUnchecked (fuel + 1) well.id) s =
          some (.ok (Session.orPending found), s') := by
      intro fuel hfuel
      simp only [Session.attempt_readUnchecked, hs, hserves.started, htake, hfuel, Option.map_some,
        htake', Except.map]
    refine ⟨Session.orPending found, s', hsettles.step hread,
      (hto.trans hpulled).trans hconfined', ?_⟩
    rcases hfound with ⟨chunk, rest, rfl, hfound⟩ | ⟨rfl, hend⟩ | ⟨-, hnot, -⟩
    · exact .inl ⟨chunk, rest, rfl, hfound⟩
    · exact .inr ⟨rfl, hend⟩
    · exact absurd (hripe rfl) hnot

end Well

end EdgeStreams
