import EdgeStreams.Proofs.Response.Drains

/-!
# A well behind a transform stream

A pipe leads from a well into a transform stream that passes every chunk on. A pull of the readable
half drives the pipe, which then carries at least one chunk or comes to its end: the readable half
is a well, too.

## Main definitions

- `Relay`: a pipe from a well into a transform stream
- `Relay.Behind`: what lies behind the readable half
- `Relay.asWell`: the readable half as a well

## Main statements

- `Relay.stocks_of_carries`: what the readable half has once the pipe has been driven
- `Relay.pull`: one pull of the readable half
-/

namespace EdgeStreams

variable {E : Type}

/-- A pipe from a well into a transform stream. -/
structure Relay (E : Type) where
  well : Well E
  stage : TransformStream
  pipe : PipeId
  reader : ReaderToken
  writer : WriterToken
  /-- The high-water mark of the readable half. -/
  mark : UInt64
  readable : stage.readable ∉ well.extent.readables
  writable : stage.writable ∉ well.extent.writables
  bridge : stage.bridge ∉ well.extent.bridges
  unpiped : stage.writable ∉ well.reach.pipes

namespace Relay

variable (r : Relay E)

/-- The pipe, with a readable half that is `half` but for its controller. -/
def transfer (half : Source E) : Transfer E where
  well := r.well
  drain := .overHalf r.stage r.writer half
  id := r.pipe
  reader := r.reader
  apart := by
    refine ⟨?_, ?_, ?_, ?_, ?_⟩
    · rintro _ hm (h | rfl)
      · exact h
      · exact r.readable hm
    · rintro _ hm (rfl | h)
      · exact r.writable hm
      · exact h
    · rintro _ hm (h | rfl)
      · exact h
      · exact r.bridge hm
    · rintro _ - (h | h) <;> exact h
    · rintro _ - (h | h) <;> exact h
  unpiped := r.unpiped

/-- The entry of the pipe. -/
def link : Pipe where
  source := r.well.id
  destination := r.stage.writable
  reader := r.reader
  writer := r.writer
  options := {}

/-- What a pull of the readable half may change besides it. -/
def reach : Footprint :=
  r.well.extent ∪
    { writables := {r.stage.writable}
      bridges := {r.stage.bridge}
      pipes := {r.stage.writable} }

/-- The octets that lie behind the readable half. -/
structure Behind (s : Session MemoryHost E) (octets : Bytes) : Prop where
  well : r.well.OffersOctets (some r.reader) octets s
  passes : Drain.Passes r.stage r.writer s
  pipe : s.streams.pipe? r.pipe = some r.link
  only : ∀ id pipe, s.streams.pipe? id = some pipe → pipe.isRunning →
    pipe.destination = r.stage.writable → id = r.pipe

/-- Nothing comes through the transform stream any more. -/
def Spent (s : Session MemoryHost E) : Prop :=
  r.well.Spent s ∧
    ∀ id pipe, s.streams.pipe? id = some pipe → pipe.isRunning → pipe.destination ≠ r.stage.writable

variable {r} {s s' : Session MemoryHost E} {octets : Bytes}

theorem Behind.of_frame {f : Footprint} (h : r.Behind s octets) (hf : Frame f s s')
    (ha : f.Apart r.reach) (he : s'.env = s.env) : r.Behind s' octets := by
  have hpipes : r.stage.writable ∉ f.pipes := fun hm => ha.pipes _ hm (.inr rfl)
  refine ⟨h.well.of_frame hf (ha.symm.within Footprint.within_union_left).symm he,
    h.passes.of_frame hf (fun hm => ha.writables _ hm (.inr rfl))
      (fun hm => ha.bridges _ hm (.inr rfl)),
    (hf.pipe _ _ hpipes).mpr h.pipe, fun id pipe hp hr hd => ?_⟩
  exact h.only id pipe ((hf.pipe id pipe (hd ▸ hpipes)).mp hp) hr hd

theorem Spent.of_frame {f : Footprint} (h : r.Spent s) (hf : Frame f s s') (ha : f.Apart r.reach) :
    r.Spent s' := by
  have hpipes : r.stage.writable ∉ f.pipes := fun hm => ha.pipes _ hm (.inr rfl)
  have hwell : f.Apart r.well.reach :=
    (ha.symm.within (Footprint.within_union_right.trans Footprint.within_union_left)).symm
  refine ⟨r.well.frameSpent h.1 hf hwell, fun id pipe hp hr hd => ?_⟩
  exact h.2 id pipe ((hf.pipe id pipe (hd ▸ hpipes)).mp hp) hr hd

theorem extent_within (half : Source E) :
    (r.transfer half).extent.Within ({ readables := {r.stage.readable} } ∪ r.reach) where
  readables := by
    rintro id ((h | h | h) | h)
    · exact .inr (.inl h)
    · exact h.elim
    · exact .inl h
    · exact h.elim
  writables := by
    rintro id ((h | h | h) | h)
    · exact .inr (.inl h)
    · exact .inr (.inr h)
    · exact h.elim
    · exact h.elim
  bridges := by
    rintro id ((h | h | h) | h)
    · exact .inr (.inl h)
    · exact h.elim
    · exact .inr (.inr h)
    · exact h.elim
  pipes := by
    rintro id ((h | h | h) | h)
    · exact .inr (.inl h)
    · exact h.elim
    · exact h.elim
    · exact .inr (.inr h)
  bodies := by
    rintro id ((h | h | h) | h)
    · exact .inr (.inl h)
    · exact h.elim
    · exact h.elim
    · exact h.elim

theorem confined_of_carries {half : Source E} {taken left : Bytes}
    (h : (r.transfer half).Carries false taken left s s') :
    Confined ({ readables := {r.stage.readable} } ∪ r.reach) 0 s s' := by
  rcases h with ⟨-, -, -, -, -, -, hconfined⟩ | ⟨-, hconfined⟩ <;>
    exact hconfined.mono (extent_within half)

/-- What the readable half has once the pipe has been driven. -/
theorem stocks_of_carries {half : Source E} {taken left : Bytes}
    (h : (r.transfer half).Carries false taken left s s') :
    ∃ controller, s'.streams.source? r.stage.readable = some { half with controller } ∧
      controller.highWaterMark = half.controller.highWaterMark ∧
        controller.Stocks (r.Behind s') (r.Spent s') (taken ++ left) ∧
          (s.streams.sinkReady r.stage.writable = true →
            controller.queue ≠ [] ∨ controller.HasEnded) := by
  rcases h with ⟨more, rest, rfl, hunder, -, hprogress, -⟩ | ⟨hover, -⟩
  · obtain ⟨hpasses, controller, hr, hmark, hsound, hopen, hqueue⟩ := hunder.drain
    refine ⟨controller, hr, hmark, ⟨hsound, .inl ⟨hopen, rest, ?_,
      ⟨hunder.well, hpasses, hunder.pipe, hunder.only⟩⟩⟩, fun hready => .inl fun hempty => ?_⟩
    · rw [hqueue, List.append_assoc]
    · -- what has been carried is in the queue
      rw [hempty, List.flatten_nil] at hqueue
      exact hprogress hready (List.append_eq_nil_iff.mp hqueue.symm).2
  · obtain ⟨controller, hr, hmark, hsound, hended, hqueue⟩ := hover.drain
    exact ⟨controller, hr, hmark,
      ⟨hsound, .inr ⟨hended, hqueue.symm, hover.spent, hover.idle⟩⟩, fun _ => .inr hended⟩

/-- One pull of the readable half. -/
theorem pull {half : Source E} {left : Bytes}
    (hs : s.streams.source? r.stage.readable = some half)
    (hback : half.backing = .transform r.stage.bridge) (hsound : half.controller.Sound)
    (hopen : half.controller.IsOpen) (h : r.Behind s left) (hc : s.host.Calm) :
    ∃ controller s', Settles (fun fuel => attempt (Session.pull fuel r.stage.readable) s)
      (.ok (), s') ∧ Confined ({ readables := {r.stage.readable} } ∪ r.reach) 0 s s' ∧
        s'.streams.source? r.stage.readable = some { half with controller } ∧
          controller.highWaterMark = half.controller.highWaterMark ∧
            controller.Stocks (r.Behind s') (r.Spent s') (half.controller.queue.flatten ++ left) ∧
              (controller.queue ≠ [] ∨ controller.HasEnded) := by
  obtain ⟨⟨sink, hk, hkback, hrest⟩, ⟨⟨_, _, _, errored, asked⟩, hb, rfl, rfl, rfl⟩⟩ := h.passes
  let called : Bridge E :=
    { readable := r.stage.readable
      writable := r.stage.writable
      transformer := .identity
      errored := errored
      pullRequested := true }
  let asking : Session MemoryHost E := Session.setBridge r.stage.bridge called s
  have hasked : Confined { bridges := {r.stage.bridge} } 0 s asking := .setBridge s _ _
  have hcalled : asking.streams.bridge? r.stage.bridge = some called := by
    simp [asking, Registry.bridge?_setBridge, hb]
  have happart : ({ bridges := {r.stage.bridge} } : Footprint).Apart r.well.extent :=
    ⟨fun _ h => h.elim, fun _ h => h.elim, fun _ hm hw => r.bridge (hm ▸ hw), fun _ h => h.elim,
      fun _ h => h.elim⟩
  have hunder : (r.transfer half).Under false half.controller.queue.flatten left asking :=
    ⟨h.pipe, h.well.of_frame hasked.toFrame happart rfl,
      ⟨⟨⟨sink, hk, hkback, hrest⟩, ⟨called, hcalled, rfl, rfl, rfl⟩⟩, half.controller, hs, rfl,
        hsound, hopen, rfl⟩, h.only⟩
  -- a pull lets one chunk through
  have hready : asking.streams.sinkReady r.stage.writable = true := by
    have hk' : asking.streams.sink? r.stage.writable = some sink := hk
    simp [Registry.sinkReady, hk', hkback, hrest.idle, hrest.pending, Registry.backpressure,
      hcalled, called]
  obtain ⟨total, s', hsettles, hcarries⟩ := hunder.pumpPipe (hasked.calm hc)
  obtain ⟨controller, hr, hmark, hstocks, hgot⟩ := stocks_of_carries hcarries
  refine ⟨controller, s', hsettles.step fun fuel hfuel => ?_, ?_, hr, hmark, hstocks, hgot hready⟩
  · have hinto : s.streams.pipeInto? r.stage.writable = some r.pipe :=
      Registry.pipeInto?_eq_some _ h.pipe rfl h.only
    simp only [Session.attempt_pull, hs, hback, hb, hinto]
    exact congrArg (Option.map _) hfuel
  · refine (hasked.mono ⟨?_, ?_, ?_, ?_, ?_⟩).trans (confined_of_carries hcarries)
    · exact Set.empty_subset _
    · exact Set.empty_subset _
    · exact fun _ hm => .inr (.inr hm)
    · exact Set.empty_subset _
    · exact Set.empty_subset _

/-- The readable half gives its reader what comes out of the pipe. -/
def asWell (r : Relay E) : Well E where
  id := r.stage.readable
  backing := .transform r.stage.bridge
  mark := r.mark
  reach := r.reach
  Behind := r.Behind
  Spent := r.Spent
  apart := by
    rintro (h | h)
    · exact r.readable h
    · exact h
  frame h hf ha he := h.of_frame hf ha he
  frameSpent h hf ha := h.of_frame hf ha
  pull := by
    intro s half octets hs hback hmark hsound hopen h hc
    rw [← hmark]
    exact pull hs hback hsound hopen h hc

end Relay

end EdgeStreams
