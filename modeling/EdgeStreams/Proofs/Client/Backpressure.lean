import EdgeStreams.Host.Memory
import EdgeStreams.Proofs.Client.Lasting
import EdgeStreams.Proofs.Piping.Holdback

/-!
# Backpressure, whatever clients do

A pipe hands a chunk to a transform stream only if there is room in the readable half, or if the
readable half is empty and has been pulled since the last write. So an identity transformer never
has more queued than the last chunk on top of what leaves room, as long as nobody but pipes writes
to it.

## Main statements

- `Client.LeadsTo.steady`: what holds of transform streams in every state that clients can reach
- `Client.backpressure_of_leads`: when pipes are let through, and how much is queued
-/

namespace EdgeStreams

variable {H E : Type}

namespace Client

/-- Nothing has been put into an empty registry. -/
theorem spansBridge_new {host : H} {env : E} {config : StreamConfig} {name : BridgeId}
    {bridge : Bridge E} {source : Source E} :
    ¬ (new host env config).session.streams.SpansBridge name bridge source :=
  fun hspans => by cases (SlotMap.get?_empty _).symm.trans hspans.joins

variable [Host H] {uses : H → List UInt32 → H → Prop}
variable {allowed wider : Client H E → Client H E → Prop} {client later : Client H E}

theorem LeadsTo.mono (h : LeadsTo uses allowed client later)
    (hwider : ∀ {before after}, allowed before after → wider before after) :
    LeadsTo uses wider client later := by
  induction h with
  | refl => exact .refl
  | step _ hstep hallowed ih => exact ih.step hstep (hwider hallowed)

/-- Operations on streams are calls. -/
theorem LeadsTo.calls (h : LeadsTo uses allowed client later) :
    Calls uses allowed client later := by
  induction h with
  | refl => exact .refl
  | step _ hstep hallowed ih => exact ih.call (.step hstep) hallowed

section Reached

variable {host : H} {env : E} {config : StreamConfig}

theorem LeadsTo.mutual (h : LeadsTo uses NoneBack (new host env config) client) :
    client.session.streams.Mutual := fun _ _ _ hspans =>
  (h.calls.references (sound_new host env config) (.new config)).readable hspans.joins hspans.lives

theorem LeadsTo.coupled_of_new (h : LeadsTo uses NoneBack (new host env config) client) :
    client.session.Coupled :=
  (h.mono fun hages => hages.sinks).coupled (Session.coupled_new host env config)

/-- What every operation preserves holds of transform streams. -/
theorem LeadsTo.steady_of_pressed (h : LeadsTo uses NoneBack (new host env config) client)
    (hp : client.session.Pressed config.transformHighWaterMark) :
    client.session.Steady config.transformHighWaterMark ∅ where
  composed := h.coupled_of_new.resting.composed
  couples := by
    have hconfig := h.config_eq (Session.resting_new host env config)
    have hcouples := h.coupled_of_new.couples
    rwa [hconfig] at hcouples
  linked := h.mutual
  pressed := hp
  orderly := ⟨_, _, h.orderly (orderly_new host env config)⟩
  unfed _ hw := absurd hw (Set.notMem_empty _)

/-- By induction on the operations. -/
theorem LeadsTo.steady (h : LeadsTo uses NoneBack (new host env config) client) :
    client.session.Steady config.transformHighWaterMark ∅ := by
  refine h.steady_of_pressed ?_
  induction h with
  | refl => exact fun _ _ _ hspans => absurd hspans spansBridge_new
  | step hbefore hstep hages ih =>
    have hsteady := hbefore.steady_of_pressed ih
    exact (hstep.operationStep.pacedOperation hbefore.coupled_of_new hsteady
      (hbefore.step hstep hages).mutual).pressed
      hsteady.toRegular

/-- By induction on the operations. -/
theorem LeadsTo.bounded {w : WritableId}
    (h : LeadsTo uses (fun before after => before.NoneBack after ∧
      ¬ before.session.WritesTo w after.session)
      (new host env config) client) :
    client.session.Bounded config.transformHighWaterMark w := by
  induction h with
  | refl => exact fun _ _ _ _ hspans => absurd hspans spansBridge_new
  | step hbefore hstep hallowed ih =>
    have hleads : LeadsTo uses NoneBack (new host env config) _ := hbefore.mono And.left
    have hsteady := hleads.steady
    exact (hstep.operationStep.pacedOperation hleads.coupled_of_new hsteady
      (hleads.step hstep hallowed.1).mutual).bounded
      hsteady.toRegular ih hallowed.2

/-- Backpressure lets through no more than there is room for. For all hosts, guests, transformers
and marks, and whatever has been done before: each time a pipe hands a chunk to the writable half of
a transform stream, the readable half holds less than the mark, or it is empty and has been pulled
since the last write. And if only pipes have written to a transform stream that passes every chunk
on, then all it has ever queued, also while an operation is under way, is the mark less one, or
nothing if that is zero, and the longest chunk.

The condition (`NoneBack`) is that no slot is freed 2 ^ 32 times: its generation would run over, and
a bridge would name other streams than its halves. -/
theorem backpressure_of_leads :
    (∀ client : Client H E, LeadsTo uses NoneBack (new host env config) client →
      client.session.Drives fun s made _ =>
        ∀ w chunk, (w, chunk) ∈ made → s.AdmitsWrite config.transformHighWaterMark w) ∧
    ∀ (w : WritableId) (client : Client H E),
      LeadsTo uses (fun before after => before.NoneBack after ∧
          ¬ before.session.WritesTo w after.session) (new host env config) client →
        client.session.Bounded config.transformHighWaterMark w ∧
          client.session.Drives fun _ _ t => t.Bounded config.transformHighWaterMark w := by
  refine ⟨fun client h => ?_, fun w client h => ?_⟩
  · refine h.steady.drives fun _ _ hpasses => hpasses.mono fun _ hpaced w chunk hm => ?_
    exact (hpaced.admits w chunk hm).2
  · have hleads : LeadsTo uses NoneBack (new host env config) client := h.mono And.left
    exact ⟨h.bounded, hleads.steady.drives fun hstill hregular hpasses =>
      ((hstill.bounded h.bounded).passes hregular hpasses).2⟩

end Reached

/-- A pipe hands a chunk of two octets to a transform stream with a mark of one, and then waits: as
much is queued as ever can be. -/
theorem backpressure_of_leads_full :
    ∃ client : Client MemoryHost Unit,
      LeadsTo (fun _ _ _ => True) (fun before after => before.NoneBack after ∧
        ¬ before.session.WritesTo ⟨0, 0⟩ after.session)
          (new {} () { transformHighWaterMark := 1 }) client ∧
      (client.session.streams.source? ⟨1, 0⟩).map (fun source => source.controller.queue) =
        some [[1, 2]] ∧
      client.session.streams.sinkReady ⟨0, 0⟩ = false ∧
      (client.session.Drives fun s made _ => ∀ w chunk, (w, chunk) ∈ made → s.AdmitsWrite 1 w) ∧
      client.session.Bounded 1 ⟨0, 0⟩ ∧
      client.session.Drives fun _ _ t => t.Bounded 1 ⟨0, 0⟩ := by
  obtain ⟨guest, hguest⟩ : ∃ guest : UnderlyingSource Unit, guest =
      { start := fun env =>
          .call (.enqueue [1, 2]) fun _ => .call (.enqueue [3]) fun _ => .done (.ok (), env)
        pull := fun env => .done (.ok (), env) } := ⟨_, rfl⟩
  obtain ⟨empty, hempty⟩ : ∃ empty : Client MemoryHost Unit, empty =
      new {} () { transformHighWaterMark := 1 } := ⟨_, rfl⟩
  have hrun : ((StreamOp.scriptSource guest 0).after 0 empty.session).bind (fun sourced =>
      ((StreamOp.createTransform .identity).after 0 sourced).bind fun made =>
        ((StreamOp.pipeTo ⟨0, 0⟩ ⟨0, 0⟩ {}).after 4 made).map fun piped =>
          (decide ((empty.session.streams.Ages sourced.streams ∧
              sourced.streams.Ages made.streams ∧ made.streams.Ages piped.streams) ∧
              (empty.session.streams.containsWritable ⟨0, 0⟩ = false ∧
                sourced.streams.containsWritable ⟨0, 0⟩ = false) ∧
              (made.streams.pipe? ⟨0, 0⟩).isSome = false ∧
              (piped.streams.pipe? ⟨0, 0⟩).isSome = true ∧
              piped.streams.sinkReady ⟨0, 0⟩ = false),
            (piped.streams.source? ⟨1, 0⟩).map (fun source => source.controller.queue))) =
      some (true, some [[1, 2]]) := by
    rw [hempty, hguest]
    decide +kernel
  obtain ⟨sourced, hsourced, hrun⟩ := Option.bind_eq_some_iff.mp hrun
  obtain ⟨made, hmade, hrun⟩ := Option.bind_eq_some_iff.mp hrun
  obtain ⟨piped, hpiped, hseen⟩ := Option.map_eq_some_iff.mp hrun
  simp only [Prod.mk.injEq, decide_eq_true_eq] at hseen
  obtain ⟨⟨⟨hages, hages', hages''⟩, ⟨hnone, hnone'⟩, hunpiped, hpipe, hready⟩, hqueue⟩ := hseen
  -- nobody can write before there is a sink, and a write opens no pipe
  have hunwritten : ∀ {s t : Session MemoryHost Unit}, s.streams.containsWritable ⟨0, 0⟩ = false →
      ¬ s.WritesTo ⟨0, 0⟩ t := by
    rintro s t hnone ⟨chunk, token, ⟨sink, hk, -⟩, -⟩
    simp [Registry.containsWritable, hk] at hnone
  have hopened : ¬ made.WritesTo ⟨0, 0⟩ piped := by
    rintro ⟨chunk, token, -, rfl⟩
    rw [Registry.pipe?_congr (Session.changesWithin_write made ⟨0, 0⟩ chunk token).pipes_eq,
      hunpiped] at hpipe
    cases hpipe
  have hleads : LeadsTo (fun _ _ _ => True) (fun before after => before.NoneBack after ∧
      ¬ before.session.WritesTo ⟨0, 0⟩ after.session) empty (empty.withSession piped) :=
    .step (.step (.step .refl (.operate (.scriptSource guest 0) 0 hsourced)
      ⟨hages, hunwritten hnone⟩)
      (.operate (.createTransform .identity) 0 hmade) ⟨hages', hunwritten hnone'⟩)
        (.operate (.pipeTo ⟨0, 0⟩ ⟨0, 0⟩ {}) 4 hpiped) ⟨hages'', hopened⟩
  rw [hempty] at hleads
  exact ⟨_, hleads, hqueue, hready, backpressure_of_leads.1 _ (hleads.mono And.left),
    backpressure_of_leads.2 _ _ hleads⟩

end Client

end EdgeStreams
