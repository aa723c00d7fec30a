import EdgeStreams.Host.Memory
import EdgeStreams.Proofs.Piping.Coupling
import EdgeStreams.Proofs.Piping.Waiting
import EdgeStreams.Proofs.Registry.Room
import Mathlib.Algebra.Group.Nat.Defs

/-!
# Pipes that have been driven as far as they go

All pipes are driven, round after round, until nothing is done in a round. No running pipe is left
with a destination that takes no writes: in the last round every pipe has found its own destination
open, and no destination has been ended or failed since.

## Main statements

- `Session.Poised.pump`: what is left once all pipes have been driven
- `Client.pumped_of_leads`: the same in every state that clients can reach
-/

namespace EdgeStreams

variable {H E : Type}

namespace Session

variable [Host H] {s t : Session H E} {mark : UInt64} {fuel : Nat}

/-- Streams and pipes are as assumed, and no pipe is being driven. -/
structure Poised (mark : UInt64) (s : Session H E) : Prop extends s.Apt mark where
  undriven : ∀ {name pipe}, s.streams.pipe? name = some pipe → pipe.pumping = false

namespace Poised

variable (h : s.Poised mark)
include h

theorem flowsTo (hr : s.RunsTo t) (hl : s.Level t) : t.Poised mark where
  toApt := h.toApt.flowsTo hr hl
  undriven hp' := by
    obtain ⟨pipe, hp, hsame⟩ := SlotMap.rel_some_right (hp' ▸ hl.pipe _)
    exact hsame.trans (h.undriven hp)

/-- A pipe that has been driven and has made no step has found its destination open, and has left
all destinations alone. -/
theorem pumpPipe {name : PipeId} {r : Nat × Session H E}
    (hpump : EdgeStreams.drive (Session.pumpPipe fuel name) s = some r) (hnone : r.1 = 0) :
    s.Calm r.2 ∧ ∀ pipe, r.2.streams.pipe? name = some pipe → pipe.isRunning →
      r.2.streams.Accepts pipe.destination := by
  have hmoves := (flowMoves fuel).pumpPipe hpump
  by_cases hrun : ∃ pipe, s.streams.pipe? name = some pipe ∧ pipe.isRunning
  · obtain ⟨pipe, hp, hr⟩ := hrun
    obtain ⟨hcalm, ha⟩ :=
      ((flowWaits mark fuel).pumpPipe h.toApt hp hr (h.undriven hp) hpump).2 hnone
    refine ⟨hcalm, fun pipe' hp' hr' => hcalm name pipe' hp' hr' ?_⟩
    obtain ⟨pumping, hbefore⟩ := hmoves.running_before hp' hr'
    cases hp.symm.trans hbefore
    exact ha
  · have hidle : r.2 = s := by
      cases fuel with
      | zero => cases hpump
      | succ fuel =>
        rcases pumpPipe_cases hpump with ⟨-, rfl⟩ | ⟨pipe, -, -, hp, hr, -⟩
        · rfl
        · exact absurd ⟨pipe, hp, hr⟩ hrun
    rw [hidle]
    exact ⟨.refl s, fun pipe hp hr => absurd ⟨pipe, hp, hr⟩ hrun⟩

/-- Some pipes have been driven, and none has made a step. By induction on the pipes: a destination
that is open once its pipe has been driven is still open after the others. -/
theorem pumpEach {pipes : List PipeId} {r : Nat × Session H E}
    (hpump : EdgeStreams.drive (Session.pumpEach fuel pipes) s = some r) :
    s.RunsTo r.2 ∧ s.Level r.2 ∧ (r.1 = 0 → s.Calm r.2 ∧ ∀ name ∈ pipes, ∀ pipe,
      r.2.streams.pipe? name = some pipe → pipe.isRunning →
        r.2.streams.Accepts pipe.destination) := by
  induction pipes generalizing s r with
  | nil =>
    cases hpump
    exact ⟨.refl s, .refl s, fun _ => ⟨.refl s, fun _ hm => absurd hm List.not_mem_nil⟩⟩
  | cons name rest ih =>
    rw [drive_pumpEach_cons] at hpump
    obtain ⟨⟨steps, t⟩, hfirst, hothers⟩ := Option.bind_eq_some_iff.mp hpump
    obtain ⟨⟨more, u⟩, hrest, rfl⟩ := Option.map_eq_some_iff.mp hothers
    have hruns := (flowRuns mark fuel).pumpPipe h.toWired hfirst
    have hlevel := ((flowDeeds fuel).pumpPipe h.composed hfirst).level
    obtain ⟨hmore, hlevels, hlast⟩ := ih (h.flowsTo hruns hlevel) hrest
    refine ⟨hruns.trans hmore h.composed, hlevel.trans hlevels, fun hnone => ?_⟩
    dsimp only at hnone hmore hlast hruns ⊢
    obtain ⟨hcalm, ha⟩ := h.pumpPipe hfirst (by omega)
    obtain ⟨hcalm', hothers⟩ := hlast (by omega)
    refine ⟨hcalm.trans hcalm' hmore.movesTo, fun other hm pipe hp hr => ?_⟩
    rcases List.mem_cons.mp hm with rfl | hm
    · obtain ⟨pumping, hbefore⟩ := hmore.movesTo.running_before hp hr
      have hopen := ha { pipe with pumping } hbefore hr
      exact hcalm' other pipe hp hr hopen
    · exact hothers other hm pipe hp hr

/-- Once all pipes have been driven, the destination of every pipe that runs takes writes. By
induction on the rounds: in the last one all pipes that run at its end have been driven. -/
theorem pump {r : Nat × Session H E}
    (hpump : EdgeStreams.drive (Session.pump fuel) s = some r) :
    s.RunsTo r.2 ∧ s.Level r.2 ∧ ∀ name pipe, r.2.streams.pipe? name = some pipe → pipe.isRunning →
      r.2.streams.Accepts pipe.destination := by
  induction fuel generalizing s r with
  | zero => cases hpump
  | succ fuel ih =>
    rw [drive_pump] at hpump
    obtain ⟨⟨steps, t⟩, hround, hnext⟩ := Option.bind_eq_some_iff.mp hpump
    obtain ⟨hruns, hlevel, hlast⟩ := h.pumpEach hround
    dsimp only at hnext hruns hlevel hlast
    split at hnext
    · next hnone =>
      cases hnext
      refine ⟨hruns, hlevel, fun name pipe hp hr => (hlast hnone).2 name ?_ pipe hp hr⟩
      obtain ⟨pumping, hbefore⟩ := hruns.movesTo.running_before hp hr
      exact List.mem_map.mpr ⟨_, (Registry.mem_runningPipes _).mpr ⟨hbefore, hr⟩, rfl⟩
    · obtain ⟨others, hothers, rfl⟩ := Option.map_eq_some_iff.mp hnext
      obtain ⟨hmore, hlevels, hopen⟩ := ih (h.flowsTo hruns hlevel) hothers
      exact ⟨hruns.trans hmore h.composed, hlevel.trans hlevels, hopen⟩

end Poised

omit [Host H] in
/-- Between two operations nothing is under way. -/
theorem Coupled.poised (h : s.Coupled) {held spent : Set Nat} (ho : s.streams.Orderly held spent)
    (hroom : 0 < room s.streams.config.transformHighWaterMark 0)
    (hspreads : ∀ name pipe, s.streams.pipe? name = some pipe → pipe.isRunning → pipe.SpreadsEnds) :
    s.Poised s.streams.config.transformHighWaterMark where
  composed := h.resting.composed
  couples := h.couples
  orderly := ⟨held, spent, ho⟩
  passedInOrder := h.passedInOrder
  room := hroom
  spreadsEnds := hspreads _ _
  driven hs hp := by
    cases hp.symm.trans (h.resting.unpulled hs)
  undriven := h.resting.undriven

end Session

/-- A mark that is not zero and does not read as a negative number leaves room over an empty
queue. -/
theorem room_pos {mark : UInt64} (h : 1 ≤ mark.toNat) (h' : mark.toNat < 2 ^ 63) :
    0 < room mark 0 :=
  (room_pos_iff mark 0).mpr ⟨h, by omega⟩

namespace Client

variable [Host H] {uses : H → List UInt32 → H → Prop} {client : Client H E}

/-- Once all pipes have been driven, no running pipe keeps a destination that takes no writes. For
all hosts, guests and wirings: the destination of every pipe that still runs is there and takes
writes, and a pipe that ran before and does not run any more has ended as pipes do. It has failed if
its destination took no writes to begin with, and otherwise it has failed or has closed its
destination itself; its source is over unless the pipe was to leave it alone, and its tokens lock
nothing any more.

The condition (`SinksAge`) is that no slot for sinks is freed 2 ^ 32 times: its generation would run
over, and the bridge of a writable half that has been taken out would name another sink. -/
theorem pumped_of_leads {host : H} {env : E} {config : StreamConfig} {fuel steps : Nat}
    {session : Session H E} (h : LeadsTo uses SinksAge (new host env config) client)
    (hmark : 1 ≤ config.transformHighWaterMark.toNat)
    (hmark' : config.transformHighWaterMark.toNat < 2 ^ 63)
    (hspreads : ∀ name pipe, client.session.streams.pipe? name = some pipe → pipe.isRunning →
      pipe.options.preventClose = false ∧ pipe.options.preventAbort = false)
    (hpump : drive (Session.pump fuel) client.session = some (steps, session)) :
    (∀ name pipe, session.streams.pipe? name = some pipe → pipe.state = .running →
      ∃ sink, session.streams.sink? pipe.destination = some sink ∧
        sink.controller.state = .writable) ∧
      ∀ name pipe, client.session.streams.pipe? name = some pipe → pipe.state = .running →
        ∃ state, session.streams.pipe? name = some { pipe with state } ∧
          (state = .running ∨ client.session.HasEnded session pipe state ∧
            session.streams.Unlocked pipe) := by
  have hcoupled := h.coupled (Session.coupled_new host env config)
  have horderly := h.orderly (orderly_new host env config)
  have hconfig : client.session.streams.config.transformHighWaterMark =
      config.transformHighWaterMark := by
    rw [h.config_eq (Session.resting_new host env config)]
    rfl
  have hpoised := hcoupled.poised horderly (hconfig ▸ room_pos hmark hmark') hspreads
  obtain ⟨hruns, hlevel, hopen⟩ := hpoised.pump hpump
  refine ⟨fun name pipe hp hr => hopen name pipe hp (Registry.isRunning_iff.mpr hr),
    fun name pipe hp hr => ?_⟩
  have hrunning := Registry.isRunning_iff.mpr hr
  obtain ⟨state, pumping, hp', hended⟩ := hruns.ends hp hrunning (hspreads name pipe hp hrunning)
  have hparked : pumping = pipe.pumping := by
    obtain ⟨last, hlast, hsame⟩ := SlotMap.rel_some_left (hp ▸ hlevel.pipe name)
    cases hp'.symm.trans hlast
    exact hsame
  subst hparked
  refine ⟨state, hp', hended.imp_right fun hended => ⟨hended, ?_⟩⟩
  have hspent := (hruns.movesTo.orderly horderly).spend hp'
    fun hr' => hended.stopped (Registry.isRunning_iff.mp hr')
  have hunlocked := hspent.unlocked fun _ => .inr
  exact ⟨hunlocked.reader, hunlocked.writer⟩

/-- A pipe waits for a transform stream to be read. When the stream is cancelled instead, the pipe
keeps running until pipes are driven; then it has failed and has cancelled its source. -/
theorem pumped_of_leads_canceled :
    ∃ (client : Client MemoryHost Unit) (session : Session MemoryHost Unit) (pipe : Pipe),
      LeadsTo (fun _ _ _ => True) SinksAge (new {} () { transformHighWaterMark := 1 }) client ∧
      client.session.streams.pipe? ⟨0, 0⟩ = some pipe ∧ pipe.state = .running ∧
      client.session.streams.writableState? pipe.destination = some (.errored .canceled) ∧
      drive (Session.pump 3) client.session = some (1, session) ∧
      session.streams.pipe? ⟨0, 0⟩ = some { pipe with state := .failed .canceled } ∧
      client.session.HasEnded session pipe (.failed .canceled) ∧ session.streams.Unlocked pipe := by
  obtain ⟨pipe, hpipe⟩ : ∃ pipe : Pipe, pipe =
      { source := ⟨1, 0⟩, destination := ⟨0, 0⟩, reader := ⟨1⟩, writer := ⟨2⟩, options := {}
        state := .running } := ⟨_, rfl⟩
  obtain ⟨eager, heager⟩ : ∃ eager : Transformer Unit, eager =
      { Transformer.identity with
        start := fun env => .call (.enqueue [0]) fun _ => .done (.ok (), env) } := ⟨_, rfl⟩
  obtain ⟨client, hclient⟩ : ∃ client : Client MemoryHost Unit, client =
      new {} () { transformHighWaterMark := 1 } := ⟨_, rfl⟩
  have hrun : ((StreamOp.createTransform eager).after 0 client.session).bind (fun made =>
      ((StreamOp.bodySource ⟨1⟩).after 0 made).bind fun sourced =>
        ((StreamOp.pipeTo ⟨1, 0⟩ ⟨0, 0⟩ {}).after 2 sourced).bind fun piped =>
          ((StreamOp.cancel ⟨0, 0⟩ none none).after 0 piped).bind fun canceled =>
            (drive (Session.pump 3) canceled).map fun r =>
              (canceled.streams.pipes.toList, canceled.streams.writableState? ⟨0, 0⟩, r.1,
                r.2.streams.pipe? ⟨0, 0⟩)) =
      some ([(⟨0, 0⟩, pipe)], some (.errored .canceled), 1,
        some { pipe with state := .failed .canceled }) := by
    rw [hclient, heager, hpipe]
    decide +kernel
  obtain ⟨made, hmade, hrun⟩ := Option.bind_eq_some_iff.mp hrun
  obtain ⟨sourced, hsourced, hrun⟩ := Option.bind_eq_some_iff.mp hrun
  obtain ⟨piped, hpiped, hrun⟩ := Option.bind_eq_some_iff.mp hrun
  obtain ⟨canceled, hcanceled, hrun⟩ := Option.bind_eq_some_iff.mp hrun
  obtain ⟨⟨steps, session⟩, hpump, hseen⟩ := Option.map_eq_some_iff.mp hrun
  simp only [Prod.mk.injEq] at hseen
  obtain ⟨hpipes, hdead, rfl, hfailed⟩ := hseen
  -- no operation has taken out an entry
  have hrest : client.session.Resting := hclient ▸ Session.resting_new _ _ _
  have hstep : ∀ {before : Client MemoryHost Unit} {op : StreamOp Unit} {fuel : Nat}
      {s : Session MemoryHost Unit}, LeadsTo (fun _ _ _ => True) SinksAge client before →
        op.after fuel before.session = some s → op.Retains →
          LeadsTo (fun _ _ _ => True) SinksAge client (before.withSession s) := fun hl h hr =>
    hl.step (.operate _ _ h) (StreamOp.addsNames (hl.resting hrest).wellFormed h hr).ages
  have hleads := hstep (hstep (hstep (hstep .refl hmade trivial) hsourced trivial) hpiped trivial)
    hcanceled trivial
  rw [hclient] at hleads
  have hp : canceled.streams.pipe? ⟨0, 0⟩ = some pipe :=
    SlotMap.mem_toList.mp (hpipes ▸ List.mem_singleton.mpr rfl)
  have hspreads : ∀ name found, canceled.streams.pipe? name = some found → found.isRunning →
      found.options.preventClose = false ∧ found.options.preventAbort = false := by
    intro name found hf _
    have hm : (name.key, found) ∈ canceled.streams.pipes.toList := SlotMap.mem_toList.mpr hf
    rw [hpipes, List.mem_singleton] at hm
    rw [(Prod.mk.inj hm).2, hpipe]
    exact ⟨rfl, rfl⟩
  have hstate : pipe.state = .running := by rw [hpipe]
  obtain ⟨state, hnow, hended⟩ :=
    (pumped_of_leads hleads (by decide) (by decide) hspreads hpump).2 ⟨0, 0⟩ pipe hp hstate
  cases congrArg Pipe.state (Option.some.inj (hnow.symm.trans hfailed))
  obtain ⟨hended, hunlocked⟩ := hended.resolve_left (fun h => by cases h)
  refine ⟨_, session, pipe, hleads, hp, hstate, ?_, hpump, hfailed, hended, hunlocked⟩
  rw [hpipe]
  exact hdead

end Client

end EdgeStreams
