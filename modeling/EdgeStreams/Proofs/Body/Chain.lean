import EdgeStreams.Proofs.Response.Sending
import EdgeStreams.Proofs.Session.Quiescence
import EdgeStreams.Proofs.Session.Rounds
import Mathlib.Logic.Relation

/-!
# Transform streams in a row

A stream may be the readable half of a transform stream into which another such stream is piped, and
so on, down to a host body. Driving any of the pipes on the way leaves the octets that come out at
the end as they are, and so does a sweep.

## Main definitions

- `Well.Chain`: a host body with transform streams in a row behind it
- `Well.Driven`: a pipe behind a well has been driven
- `Well.Sealed`: nobody has read from the end of a chain

## Main statements

- `Well.Chain.drive`: any of the pipes is driven
- `Well.Chain.acc_driven`: there is an end to driving pipes
- `Well.Sealed.pump`: all pipes are driven as far as they go
- `Well.Sealed.sweep`: a sweep takes nothing away that octets are still to come through
- `Well.Sealed.pruned`: all that is behind a chain is there, but for what has come to its end

## Design notes

The streams behind one that has ended may be gone, and new ones may have taken their names. A chain
is pruned of them before another transform stream is added to it.
-/

namespace EdgeStreams

variable {E : Type}

namespace Relay

variable {r : Relay E} {s s' : Session MemoryHost E} {half : Source E} {left left' : Bytes}

/-- What happens behind the well concerns only what the well has to give. -/
theorem Behind.upstream (h : r.Behind s left) (hf : Frame r.well.extent s s')
    (hwell : r.well.OffersOctets (some r.reader) left' s') : r.Behind s' left' := by
  have hpipes : ∀ id pipe, pipe.destination = r.stage.writable →
      (s'.streams.pipe? id = some pipe ↔ s.streams.pipe? id = some pipe) := fun id pipe hd =>
    hf.pipe id pipe fun hm => r.unpiped (hd ▸ Well.mem_reach_of_mem_extent hm)
  exact ⟨hwell, h.passes.of_frame hf r.writable r.bridge, (hpipes _ _ rfl).mpr h.pipe,
    fun id pipe hp hr hd => h.only id pipe ((hpipes id pipe hd).mp hp) hr hd⟩

/-- A pipe whose destination has no room is left as it is. -/
theorem Behind.settles_of_full (h : r.Behind s left)
    (hfull : s.streams.sinkReady r.stage.writable = false) :
    Settles (fun fuel => drive (Session.pumpPipe fuel r.pipe) s) (0, s) := by
  obtain ⟨⟨sink, hk, -, hrest⟩, -⟩ := h.passes
  have hfault : Session.destinationFault? s.streams r.stage.writable = none := by
    simp [Session.destinationFault?, Registry.writableState?, hk, hrest.state]
  refine .later (.now fun fuel => ?_)
  have hsteps : drive (Session.pumpSteps (fuel + 1) r.pipe r.link 0)
      (Session.driven r.pipe r.link s) = some (0, Session.driven r.pipe r.link s) := by
    rw [Session.drive_pumpSteps,
      show Session.destinationFault? (Session.driven r.pipe r.link s).streams r.link.destination =
        none from hfault,
      show (Session.driven r.pipe r.link s).streams.sinkReady r.link.destination = false from hfull]
    rfl
  rw [Session.drive_pumpPipe, h.pipe]
  exact (congrArg (Option.map _) hsteps).trans
    (congrArg (fun t => some (0, t)) (Session.parked_driven h.pipe rfl))

/-- The pipe into the writable half is driven. It leaves all as it is, or it carries something or
comes to its end. -/
theorem Behind.drive (h : r.Behind s left) (hs : s.streams.source? r.stage.readable = some half)
    (hsound : half.controller.Sound) (hopen : half.controller.IsOpen) (hc : s.host.Calm) :
    ∃ controller total s',
    Settles (fun fuel => drive (Session.pumpPipe fuel r.pipe) s) (total, s') ∧
      Confined r.asWell.extent 0 s s' ∧
        s'.streams.source? r.stage.readable = some { half with controller } ∧
          controller.highWaterMark = half.controller.highWaterMark ∧
            controller.Stocks (r.Behind s') (r.Spent s') (half.controller.queue.flatten ++ left) ∧
              (s.streams.sinkReady r.stage.writable = false → total = 0 ∧ s' = s) ∧
                (s.streams.sinkReady r.stage.writable = true →
                  r.Spent s' ∨ ∃ rest, r.Behind s' rest ∧ rest.length < left.length) := by
  cases hready : s.streams.sinkReady r.stage.writable with
  | false =>
    exact ⟨half.controller, 0, s, h.settles_of_full hready, .refl _ _, hs, rfl,
      ⟨hsound, .inl ⟨hopen, left, rfl, h⟩⟩, fun _ => ⟨rfl, rfl⟩, nofun⟩
  | true =>
    have hunder : (r.transfer half).Under false half.controller.queue.flatten left s :=
      ⟨h.pipe, h.well, ⟨h.passes, half.controller, hs, rfl, hsound, hopen, rfl⟩, h.only⟩
    obtain ⟨total, s', hsettles, hcarries⟩ := hunder.pumpPipe hc
    obtain ⟨controller, hs', hmark, hstocks, -⟩ := stocks_of_carries hcarries
    refine ⟨controller, total, s', hsettles, confined_of_carries hcarries, hs',
      hmark, hstocks, nofun, fun _ => ?_⟩
    rcases hcarries with ⟨more, rest, rfl, hunder', -, hprogress, -⟩ | ⟨hover, -⟩
    · have hpos := List.length_pos_of_ne_nil (hprogress hready)
      refine .inr ⟨rest, ⟨hunder'.well, hunder'.drain.1, hunder'.pipe, hunder'.only⟩, ?_⟩
      rw [List.length_append]
      omega
    · exact .inl ⟨hover.spent, hover.idle⟩

end Relay

namespace Well

/-! ### Chains -/

/-- A stream that has come to its end, but for what is queued. -/
def ended (id : ReadableId) (backing : SourceBacking E) (mark : UInt64) : Well E where
  id := id
  backing := backing
  mark := mark
  reach := {}
  Behind _ _ := False
  Spent _ := True
  apart := fun h => h.elim
  frame h := h.elim
  frameSpent _ _ _ := trivial
  pull _ _ _ _ _ h := h.elim

/-- A host body, or a stream that has come to its end, with transform streams in a row behind it. -/
inductive Chain : Well E → Prop
  | body (id : ReadableId) (handle : BodyHandle) (size mark : UInt64) (hsize : 0 < size) :
    Chain (overBody id handle size mark hsize)
  | ended (id : ReadableId) (backing : SourceBacking E) (mark : UInt64) :
      Chain (ended id backing mark)
  | relay (r : Relay E) : Chain r.well → Chain r.asWell

variable {well : Well E} {lock : Option ReaderToken} {octets : Bytes} {s s' : Session MemoryHost E}

namespace Chain

/-- Once the last stream has ended no pipe of the chain runs. -/
theorem idle_of_spent (h : well.Chain) (hs : well.Spent s) {id : PipeId} {pipe : Pipe}
    (hp : s.streams.pipe? id = some pipe) (hr : pipe.isRunning) :
    pipe.destination ∉ well.reach.pipes := by
  induction h with
  | body | ended => exact fun h => h
  | relay r _ ih =>
    rintro (hm | hd)
    · exact ih hs.1 (mem_reach_of_mem_extent hm)
    · exact hs.2 id pipe hp hr hd

/-! ### Driving the pipes -/

/-- Any of the pipes is driven. By induction on the chain: what is behind the last stream is as it
was, or the last pipe itself is driven. -/
theorem drive (h : well.Chain) (ho : well.OffersOctets lock octets s)
    (hc : s.host.Calm) {id : PipeId} {pipe : Pipe} (hp : s.streams.pipe? id = some pipe)
    (hr : pipe.isRunning) (hd : pipe.destination ∈ well.reach.pipes) {source : Source E}
    (hs : s.streams.source? well.id = some source) :
    ∃ controller total s', Settles (fun fuel => EdgeStreams.drive (Session.pumpPipe fuel id) s)
        (total, s') ∧
      Confined well.extent 0 s s' ∧ well.OffersOctets lock octets s' ∧
        s'.streams.source? well.id = some { source with controller } ∧
          (s.streams.sinkReady pipe.destination = false → total = 0 ∧ s' = s) := by
  induction h generalizing lock octets source with
  | body | ended => exact hd.elim
  | relay r hchain ih =>
    obtain ⟨half, hhalf, hserves, hsound, hsupply⟩ := ho
    obtain rfl : source = half := Option.some_inj.mp (hs.symm.trans hhalf)
    rcases hsupply with ⟨hopen, rest, rfl, hbehind⟩ | ⟨-, -, hspent⟩
    · rcases hd with hm | hd
      · -- the last stream is as it was
        have hwell := hbehind.well
        obtain ⟨first, hfirst, -⟩ := hwell
        obtain ⟨-, total, s', hsettles, hconfined, hoffers, -, hfull⟩ :=
          ih hbehind.well (mem_reach_of_mem_extent hm) hfirst
        have hkept := (hconfined.source _ r.readable).trans hs
        refine ⟨source.controller, total, s', hsettles, hconfined.mono ?_, ⟨source, hkept, hserves,
          hsound, .inl ⟨hopen, rest, rfl, hbehind.upstream hconfined.toFrame hoffers⟩⟩, hkept,
            hfull⟩
        exact Footprint.within_union_left.trans Footprint.within_union_right
      · have hlast : pipe.destination = r.stage.writable := hd
        obtain rfl := hbehind.only id pipe hp hr hlast
        obtain ⟨controller, total, s', hsettles, hconfined, hs', hmark, hstocks, hfull, -⟩ :=
          hbehind.drive hs hsound hopen hc
        refine ⟨controller, total, s', hsettles, hconfined, ⟨_, hs', ⟨hserves.backing,
          hmark.trans hserves.mark, hserves.started, hserves.uncanceled, hserves.resting,
          hserves.unasked, hserves.lock⟩, hstocks⟩, hs', fun hready => hfull ?_⟩
        rwa [hlast] at hready
    · exact absurd hd ((Chain.relay r hchain).idle_of_spent hspent hp hr)

end Chain

/-- A pipe behind a well has been driven, and there was room in its destination. -/
def Driven (well : Well E) (s' s : Session MemoryHost E) : Prop :=
  ∃ id pipe total, s.streams.pipe? id = some pipe ∧ pipe.isRunning ∧
    pipe.destination ∈ well.reach.pipes ∧ s.streams.sinkReady pipe.destination = true ∧
      Settles (fun fuel => drive (Session.pumpPipe fuel id) s) (total, s')

/-- Once the last stream has ended there is nothing to drive. -/
theorem Chain.acc_driven_of_spent (h : well.Chain) (hs : well.Spent s) : Acc well.Driven s := by
  refine ⟨s, ?_⟩
  rintro s' ⟨id, pipe, total, hp, hr, hd, -⟩
  exact absurd hd (h.idle_of_spent hs hp hr)

/-- There is an end to driving the pipes behind a transform stream. By induction on the octets that
are behind it, which the last pipe makes fewer, and on what is driven behind the last pipe. -/
theorem Chain.acc_driven_of_behind {r : Relay E} {half : Source E} {left : Bytes}
    (hchain : r.well.Chain)
    (hacc : ∀ s octets, r.well.OffersOctets (some r.reader) octets s → s.host.Calm →
      Acc r.well.Driven s)
    (h : r.Behind s left) (hs : s.streams.source? r.stage.readable = some half)
    (hsound : half.controller.Sound) (hopen : half.controller.IsOpen) (hc : s.host.Calm) :
    Acc r.asWell.Driven s := by
  induction hlen : left.length using Nat.strong_induction_on generalizing left half s with
  | _ size ih =>
  subst hlen
  have hbelow := hacc s left h.well hc
  induction hbelow with
  | intro s _ ihs =>
  refine ⟨s, ?_⟩
  rintro s' ⟨id, pipe, total, hp, hr, hm | hd, hready, hsettles⟩
  · have hwell := h.well
    obtain ⟨first, hfirst, -⟩ := hwell
    have hm := mem_reach_of_mem_extent hm
    obtain ⟨-, total', driven, hsettles', hconfined, hoffers, -⟩ :=
      hchain.drive h.well hc hp hr hm hfirst
    cases hsettles.unique hsettles'
    exact ihs s' ⟨id, pipe, total, hp, hr, hm, hready, hsettles⟩
      (h.upstream hconfined.toFrame hoffers) ((hconfined.source _ r.readable).trans hs)
      (hconfined.calm hc)
  · have hlast : pipe.destination = r.stage.writable := hd
    obtain rfl := h.only id pipe hp hr hlast
    obtain ⟨controller, total', driven, hsettles', hconfined, hs', -, hstocks, -, hmoves⟩ :=
      h.drive hs hsound hopen hc
    cases hsettles.unique hsettles'
    rw [hlast] at hready
    rcases hmoves hready with hspent | ⟨rest, hbehind, hless⟩
    · exact (Chain.relay r hchain).acc_driven_of_spent hspent
    · rcases hstocks.supply with ⟨hopen', -⟩ | ⟨-, -, hspent⟩
      · exact ih _ hless hbehind hs' hstocks.sound hopen' (hconfined.calm hc) rfl
      · exact (Chain.relay r hchain).acc_driven_of_spent hspent

/-- There is an end to driving the pipes of a chain. -/
theorem Chain.acc_driven (h : well.Chain) (ho : well.OffersOctets lock octets s)
    (hc : s.host.Calm) : Acc well.Driven s := by
  induction h generalizing lock octets s with
  | body | ended =>
    refine ⟨s, ?_⟩
    rintro s' ⟨id, pipe, total, hp, hr, hd, -⟩
    exact hd.elim
  | relay r hchain ih =>
    obtain ⟨half, hs, -, hsound, ⟨hopen, rest, -, hbehind⟩ | ⟨-, -, hspent⟩⟩ := ho
    · exact hchain.acc_driven_of_behind (fun _ _ ho hc => ih ho hc) hbehind hs hsound hopen hc
    · exact (Chain.relay r hchain).acc_driven_of_spent hspent

/-- Nobody has read from the end of a chain, and no pipe runs but those behind it. -/
structure Sealed (well : Well E) (octets : Bytes) (s : Session MemoryHost E) : Prop where
  chain : well.Chain
  offersOctets : well.OffersOctets none octets s
  unread : ∃ source, s.streams.source? well.id = some source ∧ source.disturbed = false ∧
    source.released = false
  alone : well.Alone s
  calm : s.host.Calm
  intact : s.host.overrun = none

namespace Sealed

/-- One pipe is driven, whichever it is. -/
theorem pumpPipe (h : well.Sealed octets s) (id : PipeId) :
    Returns (fun fuel => drive (Session.pumpPipe fuel id) s) fun r =>
      well.Sealed octets r.2 ∧ (r = (0, s) ∨ well.Driven r.2 s) := by
  cases hp : s.streams.pipe? id with
  | none => exact .now (0, s) ⟨h, .inl rfl⟩ fun fuel => by rw [Session.drive_pumpPipe, hp]
  | some pipe =>
    by_cases hr : pipe.isRunning = true
    · obtain ⟨source, hs, hdisturbed, hreleased⟩ := h.unread
      have hd := h.alone id pipe hp hr
      obtain ⟨controller, total, s', hsettles, hconfined, hoffers, hs', hfull⟩ :=
        h.chain.drive h.offersOctets h.calm hp hr hd hs
      refine ⟨(total, s'), hsettles, ⟨h.chain, hoffers, ⟨_, hs', hdisturbed, hreleased⟩,
        h.alone.of_frame hconfined.toFrame, hconfined.calm h.calm, hconfined.intact h.intact⟩, ?_⟩
      cases hready : s.streams.sinkReady pipe.destination with
      | false =>
        obtain ⟨rfl, rfl⟩ := hfull hready
        exact .inl rfl
      | true => exact .inr ⟨id, pipe, total, hp, hr, hd, hready, hsettles⟩
    · refine .now (0, s) ⟨h, .inl rfl⟩ fun fuel => ?_
      simp only [Session.drive_pumpPipe, hp, hr, Bool.not_false, Bool.true_or, if_true]

/-- What driving a pipe does goes on from one to the next: nothing is done, or there has been room
for something. -/
theorem pumping (well : Well E) (octets : Bytes) :
    Session.Pumping (well.Sealed octets) fun steps s t =>
      (steps, t) = (0, s) ∨ Relation.TransGen well.Driven t s where
  refl _ := .inl rfl
  trans := by
    rintro m n s t u (hfirst | hfirst) (hrest | hrest)
    · cases hfirst
      cases hrest
      exact .inl rfl
    · cases hfirst
      exact .inr hrest
    · cases hrest
      exact .inr hfirst
    · exact .inr (hrest.trans hfirst)
  drives id h := (h.pumpPipe id).mono fun _ _ _ ⟨hsealed, hmoves⟩ =>
    ⟨hmoves.imp_right .single, hsealed⟩

/-- All pipes are driven as far as they go. -/
theorem pump (h : well.Sealed octets s) :
    Returns (fun fuel => drive (Session.pump fuel) s) fun r => well.Sealed octets r.2 := by
  have hacc := (h.chain.acc_driven h.offersOctets h.calm).transGen
  have hrounds := (pumping well octets).pump h (Subrelation.accessible ?_ hacc)
  · exact hrounds.mono fun _ _ _ hpumped => hpumped.2
  · rintro t s ⟨steps, hsteps, hmoves⟩
    exact hmoves.resolve_left fun he => hsteps (congrArg Prod.fst he)

end Sealed

/-! ### Sweeps -/

section Sweep

/-- A sweep starts no pipe, and takes no running one away. -/
theorem running_sweep {id : PipeId} {pipe : Pipe} (hr : pipe.isRunning) :
    s.streams.sweep.2.pipe? id = some pipe ↔ s.streams.pipe? id = some pipe := by
  rw [Registry.pipe?_sweep, Option.filter_eq_some_iff]
  exact and_iff_left hr

/-- What has come to its end stays so. -/
theorem Chain.spent_sweep (h : well.Chain) (hs : well.Spent s) :
    well.Spent (s.mapStreams fun streams => streams.sweep.2) := by
  induction h with
  | body | ended => trivial
  | relay r _ ih =>
    exact ⟨ih hs.1, fun id pipe hp hr => hs.2 id pipe ((running_sweep hr).mp hp) hr⟩

/-- A sweep takes nothing away that octets are still to come through, as long as the last stream is
held. By induction on the chain: every pipe holds its two ends. -/
theorem Chain.offersOctets_sweep (h : well.Chain) (ho : well.OffersOctets lock octets s)
    (hheld : ∀ source, s.streams.source? well.id = some source → source.readerLock = lock →
      (source.released && source.readerLock.isNone) = false) :
    well.OffersOctets lock octets (s.mapStreams fun streams => streams.sweep.2) := by
  have hkept : ∀ {id source}, s.streams.source? id = some source →
      (source.released && source.readerLock.isNone) = false →
        s.streams.sweep.2.source? id = some source := by
    intro id source hs hh
    rw [Registry.source?_sweep, hs, Option.filter_some, hh]
    rfl
  induction h generalizing lock octets with
  | body id handle size mark hsize =>
    obtain ⟨source, hs, hserves, hstocks⟩ := ho
    exact ⟨source, hkept hs (hheld source hs hserves.lock), hserves, hstocks⟩
  | ended id backing mark =>
    obtain ⟨source, hs, hserves, hstocks⟩ := ho
    exact ⟨source, hkept hs (hheld source hs hserves.lock), hserves, hstocks⟩
  | relay r hchain ih =>
    obtain ⟨half, hs, hserves, hsound, hsupply⟩ := ho
    have hhalf := hkept hs (hheld half hs hserves.lock)
    refine ⟨half, hhalf, hserves, hsound, hsupply.imp ?_ ?_⟩
    · rintro ⟨hopen, rest, hoctets, hwell, ⟨⟨sink, hk, hback, hrest⟩, bridge, hb, hparts⟩, hp,
        honly⟩
      refine ⟨hopen, rest, hoctets, ih hwell ?_, ⟨⟨sink, ?_, hback, hrest⟩, bridge, ?_, hparts⟩,
        (running_sweep rfl).mpr hp, fun id pipe hp hr =>
          honly id pipe ((running_sweep hr).mp hp) hr⟩
      · intro source _ hlock
        rw [hlock]
        exact Bool.and_false _
      · rw [Session.streams_mapStreams, Registry.sink?_sweep, hk, Option.filter_some, hrest.lock]
        simp
      · rw [Session.streams_mapStreams, Registry.bridge?_sweep, hb, Option.filter_some,
          Registry.containsReadable, hparts.1,
            show s.streams.sweep.2.source? r.stage.readable = _ from hhalf]
        rfl
    · rintro ⟨hended, hoctets, hspent⟩
      exact ⟨hended, hoctets, (Chain.relay r hchain).spent_sweep hspent⟩

/-- A sweep takes nothing away that octets are still to come through. -/
theorem Sealed.sweep (h : well.Sealed octets s) :
    well.Sealed octets (s.mapStreams fun streams => streams.sweep.2) := by
  obtain ⟨source, hs, hdisturbed, hreleased⟩ := h.unread
  refine ⟨h.chain, h.chain.offersOctets_sweep h.offersOctets ?_,
    ⟨source, ?_, hdisturbed, hreleased⟩, fun id pipe hp hr =>
      h.alone id pipe ((running_sweep hr).mp hp) hr, h.calm, h.intact⟩
  · intro other ho _
    obtain rfl : source = other := Option.some_inj.mp (hs.symm.trans ho)
    rw [hreleased]
    rfl
  · rw [Session.streams_mapStreams, Registry.source?_sweep, hs, Option.filter_some, hreleased]
    rfl

end Sweep

/-! ### Pruning -/

/-- A chain can be pruned of all that may be gone. By induction on the chain: nothing behind a
stream that has ended is of any more use. -/
theorem Chain.pruned (h : well.Chain) (ho : well.OffersOctets lock octets s) :
    ∃ pruned : Well E, pruned.Chain ∧ pruned.id = well.id ∧ pruned.OffersOctets lock octets s ∧
      pruned.extent.Within well.extent ∧ pruned.extent.Lives s.streams ∧
        ∀ id pipe, s.streams.pipe? id = some pipe → pipe.isRunning →
          pipe.destination ∈ well.reach.pipes → pipe.destination ∈ pruned.reach.pipes := by
  induction h generalizing lock octets with
  | body id handle size mark hsize =>
    exact ⟨_, .body id handle size mark hsize, rfl, ho, .refl, ho.lives rfl, fun _ _ _ _ hd => hd⟩
  | ended id backing mark =>
    exact ⟨_, .ended id backing mark, rfl, ho, .refl, ho.lives rfl, fun _ _ _ _ hd => hd⟩
  | relay r hchain ih =>
    obtain ⟨half, hs, hserves, hsound, hsupply⟩ := ho
    rcases hsupply with ⟨hopen, rest, hoctets, hbehind⟩ | ⟨hended, hoctets, hspent⟩
    · obtain ⟨pruned, hpruned, hid, hoffers, hwithin, hlives, hpipes⟩ := ih hbehind.well
      -- a link that is open stays, over what is behind it pruned
      let shorter : Relay E :=
        { r with
          well := pruned
          readable := fun hm => r.readable (hwithin.readables hm)
          writable := fun hm => r.writable (hwithin.writables hm)
          bridge := fun hm => r.bridge (hwithin.bridges hm)
          unpiped := fun hm => r.unpiped (mem_reach_of_mem_extent (hwithin.pipes (.inr hm))) }
      have hlink : shorter.link = r.link := by
        simp only [Relay.link, shorter, hid]
      have hserved : shorter.asWell.OffersOctets lock octets s :=
        ⟨half, hs, hserves.congr rfl rfl, hsound,
          .inl ⟨hopen, rest, hoctets, hoffers, hbehind.passes, hlink ▸ hbehind.pipe, hbehind.only⟩⟩
      refine ⟨shorter.asWell, .relay shorter hpruned, rfl, hserved, ?_, ?_, ?_⟩
      · exact Footprint.within_union_left.union
          (((hwithin.trans Footprint.within_union_left).union Footprint.within_union_right).trans
            Footprint.within_union_right)
      · obtain ⟨⟨sink, hk, -⟩, bridge, hb, -⟩ := hbehind.passes
        refine hserved.own_lives.union (hlives.union ⟨fun _ hm => hm.elim, ?_, ?_, ?_⟩)
        · rintro _ rfl
          rw [hk]
          nofun
        · rintro _ rfl
          rw [hb]
          nofun
        · rintro _ rfl
          rw [hk]
          nofun
      · rintro id pipe hp hr (hd | hd)
        · exact .inl (.inr (hpipes id pipe hp hr (mem_reach_of_mem_extent hd)))
        · exact .inr hd
    -- a link that has ended needs nothing behind it
    · have hoffers : (Well.ended r.stage.readable (.transform r.stage.bridge) r.mark).OffersOctets
        lock octets s :=
        ⟨half, hs, hserves.congr rfl rfl, hsound, .inr ⟨hended, hoctets, trivial⟩⟩
      refine ⟨_, .ended _ _ _, rfl, hoffers, ?_, hoffers.lives rfl, fun id pipe hp hr hd => ?_⟩
      · exact Footprint.within_union_left.union Footprint.empty_within
      · exact absurd hd ((Chain.relay r hchain).idle_of_spent hspent hp hr)

/-- What nobody has read from can be pruned. -/
theorem Sealed.pruned (h : well.Sealed octets s) :
    ∃ pruned : Well E, pruned.Sealed octets s ∧ pruned.id = well.id ∧
      pruned.extent.Lives s.streams := by
  obtain ⟨pruned, hchain, hid, hoffers, -, hlives, hpipes⟩ := h.chain.pruned h.offersOctets
  exact ⟨pruned, ⟨hchain, hoffers, hid ▸ h.unread,
    fun id pipe hp hr => hpipes id pipe hp hr (h.alone id pipe hp hr), h.calm, h.intact⟩, hid,
      hlives⟩

end Well

end EdgeStreams
