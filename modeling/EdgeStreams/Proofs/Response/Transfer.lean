import EdgeStreams.Proofs.Response.Well

/-!
# A pipe out of a well

A pipe reads from a well and writes what it finds. While it is driven no octet is lost, and it stops
only where its destination wants no more, or at the end.

## Main definitions

- `Drain`: a writable stream that takes in what is written
- `Transfer`: a pipe that leads from a well into a drain
- `Transfer.Under`, `Transfer.Over`: the pipe runs, or has come to its end

## Main statements

- `Transfer.Under.pumpSteps`, `Transfer.Under.pumpPipe`: the pipe is driven
-/

namespace EdgeStreams

variable {E : Type}

/-- A writable stream that takes in whatever is written to it. -/
structure Drain (E : Type) where
  id : WritableId
  writer : WriterToken
  /-- What a write may change besides the stream. -/
  far : Footprint
  /-- How many host bodies are closed with the stream. -/
  closings : Nat
  /-- The stream is open and has taken in the octets. -/
  Holds : Session MemoryHost E → Bytes → Prop
  /-- The stream has been closed, having taken in the octets. -/
  Closed : Session MemoryHost E → Bytes → Prop
  unwritten : far.writables = ∅
  unpiped : far.pipes = ∅
  frame {f : Footprint} {s s' : Session MemoryHost E} {octets : Bytes} :
    Holds s octets → Frame f s s' → f.Apart ({ writables := {id} } ∪ far) → Holds s' octets
  frameClosed {f : Footprint} {s s' : Session MemoryHost E} {octets : Bytes} :
    Closed s octets → Frame f s s' → f.Apart far → Closed s' octets
  writable {s : Session MemoryHost E} {octets : Bytes} :
    Holds s octets → s.streams.writableState? id = some .writable
  write {s : Session MemoryHost E} {octets chunk : Bytes} :
    Holds s octets → s.host.Calm → chunk ≠ [] →
    ∃ s', exec (Session.write id chunk (some writer)) s = (.ok (), s') ∧
      Confined ({ writables := {id} } ∪ far) 0 s s' ∧ s'.env = s.env ∧ Holds s' (octets ++ chunk)
  close {s : Session MemoryHost E} {octets : Bytes} :
    Holds s octets → s.host.Calm →
    ∃ s', exec (Session.close id (some writer)) s = (.ok (), s') ∧
      Confined ({ writables := {id} } ∪ far) closings s s' ∧ Closed s' octets

/-- What a write may change. -/
def Drain.extent (drain : Drain E) : Footprint := { writables := {drain.id} } ∪ drain.far

/-- A pipe that leads from a well into a drain. -/
structure Transfer (E : Type) where
  well : Well E
  drain : Drain E
  id : PipeId
  reader : ReaderToken
  apart : well.extent.Apart drain.extent
  /-- Nothing behind the well has to do with a pipe into the drain. -/
  unpiped : drain.id ∉ well.reach.pipes

namespace Transfer

variable (t : Transfer E)

/-- The entry of the pipe. -/
def pipe : Pipe where
  source := t.well.id
  destination := t.drain.id
  reader := t.reader
  writer := t.drain.writer
  options := {}

@[simp] theorem source_pipe : t.pipe.source = t.well.id := rfl

@[simp] theorem destination_pipe : t.pipe.destination = t.drain.id := rfl

@[simp] theorem writer_pipe : t.pipe.writer = t.drain.writer := rfl

/-- What driving the pipe may change. -/
def extent : Footprint :=
  t.well.extent ∪ t.drain.extent ∪ { pipes := {t.drain.id} }

/-- The pipe runs. The drain has taken in `taken`, and the well still has `left` to give. -/
structure Under (pumping : Bool) (taken left : Bytes) (s : Session MemoryHost E) : Prop where
  pipe : s.streams.pipe? t.id = some { t.pipe with pumping }
  well : t.well.OffersOctets (some t.reader) left s
  drain : t.drain.Holds s taken
  /-- No other pipe into the drain runs. -/
  only : ∀ id pipe, s.streams.pipe? id = some pipe → pipe.isRunning →
    pipe.destination = t.drain.id → id = t.id

/-- The pipe has come to its end, and the drain has taken in `taken`. -/
structure Over (pumping : Bool) (taken : Bytes) (s : Session MemoryHost E) : Prop where
  pipe : s.streams.pipe? t.id = some { t.pipe with state := .done, pumping }
  drain : t.drain.Closed s taken
  spent : t.well.Spent s
  idle : ∀ id pipe, s.streams.pipe? id = some pipe → pipe.isRunning → pipe.destination ≠ t.drain.id

variable {t} {pumping : Bool} {taken left : Bytes} {s s' : Session MemoryHost E}

theorem well_within : t.well.extent.Within t.extent :=
  Footprint.within_union_left.trans Footprint.within_union_left

theorem drain_within : t.drain.extent.Within t.extent :=
  Footprint.within_union_right.trans Footprint.within_union_left

theorem mark_within : ({ pipes := {t.drain.id} } : Footprint).Within t.extent :=
  Footprint.within_union_right

/-- Reading from the well leaves the pipes into the drain alone. -/
theorem pipe_of_well (hf : Frame t.well.extent s s') (id : PipeId) (pipe : Pipe)
    (hd : pipe.destination = t.drain.id) :
    s'.streams.pipe? id = some pipe ↔ s.streams.pipe? id = some pipe := by
  refine hf.pipe _ _ ?_
  rw [hd]
  rintro (h | h)
  · exact h
  · exact t.unpiped h

theorem pipe_of_drain (hf : Frame t.drain.extent s s') (id : PipeId) (pipe : Pipe) :
    s'.streams.pipe? id = some pipe ↔ s.streams.pipe? id = some pipe := by
  refine hf.pipe _ _ ?_
  rintro (h | h)
  · exact h
  · rw [t.drain.unpiped] at h
    exact h

/-- What a pipe that is driven comes to: it has carried some octets, and waits or is over. -/
def Carries (t : Transfer E) (pumping : Bool) (taken left : Bytes) (s s' : Session MemoryHost E) :
    Prop :=
  (∃ more rest, left = more ++ rest ∧ t.Under pumping (taken ++ more) rest s' ∧
      s'.streams.sinkReady t.drain.id = false ∧
        (s.streams.sinkReady t.drain.id = true → more ≠ []) ∧ Confined t.extent 0 s s') ∨
    t.Over pumping (taken ++ left) s' ∧ Confined t.extent t.drain.closings s s'

/-- What is carried after a first chunk. -/
theorem Carries.after_chunk {chunk rest : Bytes} {between : Session MemoryHost E}
    (h : t.Carries pumping (taken ++ chunk) rest between s') (hchunk : chunk ≠ [])
    (hconfined : Confined t.extent 0 s between) :
    t.Carries pumping taken (chunk ++ rest) s s' := by
  rcases h with ⟨more, later, rfl, hunder, hready, -, hconfined'⟩ | ⟨hover, hconfined'⟩
  · refine .inl ⟨chunk ++ more, later, by rw [List.append_assoc], ?_, hready,
      fun _ => by simp [hchunk], hconfined.trans hconfined'⟩
    rw [← List.append_assoc]
    exact hunder
  · refine .inr ⟨?_, hconfined.trans hconfined'⟩
    rw [← List.append_assoc]
    exact hover

theorem Under.fault? (h : t.Under pumping taken left s) :
    Session.destinationFault? s.streams t.drain.id = none := by
  simp [Session.destinationFault?, t.drain.writable h.drain]

/-- One read by the pipe and one write, or the end. -/
theorem Under.turn (h : t.Under pumping taken left s) (hc : s.host.Calm) :
    (∃ chunk rest read s', chunk ≠ [] ∧ left = chunk ++ rest ∧
      Settles (fun fuel => attempt (Session.readByPipe fuel t.pipe) s) (.ok (.chunk chunk), read) ∧
        exec (Session.write t.drain.id chunk (some t.drain.writer)) read = (.ok (), s') ∧
          Confined t.extent 0 s s' ∧ t.Under pumping (taken ++ chunk) rest s') ∨
    (∃ read closed, left = [] ∧
      Settles (fun fuel => attempt (Session.readByPipe fuel t.pipe) s) (.ok .done, read) ∧
        exec (Session.close t.drain.id (some t.drain.writer)) read = (.ok (), closed) ∧
          Confined t.extent t.drain.closings s closed ∧
            closed.streams.pipe? t.id = some { t.pipe with pumping } ∧
              t.drain.Closed closed taken ∧ t.well.Spent closed ∧
                ∀ id pipe, closed.streams.pipe? id = some pipe → pipe.isRunning →
                  pipe.destination = t.drain.id → id = t.id) := by
  obtain ⟨source, hs, hserves, -⟩ := h.well
  obtain ⟨found, read, ⟨bound, hsettles⟩, hconfined, hfound⟩ := h.well.read hc
  have hread : Settles (fun fuel => attempt (Session.readByPipe fuel t.pipe) s) (.ok found, read) :=
    ⟨bound, fun fuel hfuel =>
      (Session.attempt_readByPipe fuel s t.pipe hs hserves.lock).trans (hsettles fuel hfuel)⟩
  have hpipe := (pipe_of_well hconfined.toFrame t.id _ rfl).mpr h.pipe
  have hdrain := t.drain.frame h.drain hconfined.toFrame t.apart
  have hwell := hconfined.mono (well_within (t := t))
  have honly : ∀ {s'}, Frame t.drain.extent read s' → ∀ id pipe, s'.streams.pipe? id = some pipe →
      pipe.isRunning → pipe.destination = t.drain.id → id = t.id := fun hf id pipe hp hr hd =>
    h.only id pipe ((pipe_of_well hconfined.toFrame id pipe hd).mp
      ((pipe_of_drain hf id pipe).mp hp)) hr hd
  rcases hfound with ⟨chunk, rest, rfl, hchunk, rfl, hoffers⟩ | ⟨rfl, rfl, hspent⟩
  · obtain ⟨s', hwrite, hwritten, henv, hholds⟩ :=
      t.drain.write hdrain (hconfined.calm hc) hchunk
    exact .inl ⟨chunk, rest, read, s', hchunk, rfl, hread, hwrite,
      hwell.trans (hwritten.mono drain_within),
      (pipe_of_drain hwritten.toFrame _ _).mpr hpipe,
      hoffers.of_frame hwritten.toFrame t.apart.symm henv, hholds, honly hwritten.toFrame⟩
  · obtain ⟨closed, hclose, hconfined', hclosed⟩ := t.drain.close hdrain (hconfined.calm hc)
    exact .inr ⟨read, closed, rfl, hread, hclose, hwell.trans (hconfined'.mono drain_within),
      (pipe_of_drain hconfined'.toFrame _ _).mpr hpipe, hclosed,
      t.well.frameSpent hspent hconfined'.toFrame
        (t.apart.within Footprint.within_union_right).symm,
      honly hconfined'.toFrame⟩

/-- The end of the pipe. -/
theorem over_pipeFinished (hpipe : s.streams.pipe? t.id = some { t.pipe with pumping })
    (hclosed : t.drain.Closed s taken) (hspent : t.well.Spent s)
    (honly : ∀ id pipe, s.streams.pipe? id = some pipe → pipe.isRunning →
      pipe.destination = t.drain.id → id = t.id) :
    t.Over pumping taken (Session.pipeFinished t.id .done s) ∧
      Confined t.extent 0 s (Session.pipeFinished t.id .done s) := by
  have hconfined := Confined.finishPipe s .done hpipe rfl
  have hentry := Registry.pipe?_finishPipe .done hpipe rfl
  refine ⟨⟨?_, t.drain.frameClosed hclosed hconfined.toFrame ?_,
    t.well.frameSpent hspent hconfined.toFrame ?_, fun id pipe hp hr hd => ?_⟩, hconfined.mono ?_⟩
  · simp [Session.pipeFinished, hentry]
  · refine ⟨?_, ?_, fun _ h => h.elim, ?_, fun _ h => h.elim⟩
    · rintro _ rfl hfar
      exact t.apart.readables _ Well.mem_extent (.inr hfar)
    · rintro id - hfar
      rw [t.drain.unwritten] at hfar
      exact hfar
    · rintro id - hfar
      rw [t.drain.unpiped] at hfar
      exact hfar
  · refine ⟨?_, ?_, fun _ h => h.elim, ?_, fun _ h => h.elim⟩
    · rintro _ rfl hreach
      exact t.well.apart hreach
    · rintro _ rfl hreach
      exact t.apart.writables _ (.inr hreach) (.inl rfl)
    · rintro _ rfl hreach
      exact t.unpiped hreach
  · simp only [Session.pipeFinished, Session.streams_mapStreams, hentry] at hp
    by_cases hid : id = t.id
    · simp only [hid, if_true, Option.some.injEq] at hp
      rw [← hp] at hr
      cases hr
    · rw [if_neg hid] at hp
      exact hid (honly id pipe hp hr hd)
  · refine ⟨?_, ?_, Set.empty_subset _, ?_, Set.empty_subset _⟩
    · exact fun _ h => .inl (.inl (.inl h))
    · exact fun _ h => .inl (.inr (.inl h))
    · exact fun _ h => .inr h

/-- The pipe is driven until its destination wants no more. By induction on what the well has. -/
theorem Under.pumpSteps (h : t.Under pumping taken left s) (hc : s.host.Calm) (steps : Nat) :
    ∃ total s', Settles (fun fuel => drive (Session.pumpSteps fuel t.id t.pipe steps) s)
      (total, s') ∧ t.Carries pumping taken left s s' := by
  induction hlen : left.length using Nat.strong_induction_on generalizing taken left s steps with
  | _ size ih =>
  subst hlen
  cases hready : s.streams.sinkReady t.drain.id with
  | false =>
    refine ⟨steps, s, .now fun fuel => ?_,
      .inl ⟨[], left, rfl, by rwa [List.append_nil], hready, fun hr => ?_, .refl _ _⟩⟩
    · simp [Session.drive_pumpSteps, h.fault?, hready]
    · rw [hready] at hr
      cases hr
  | true =>
    -- with the sink ready, what the pipe finds decides
    have hstep : ∀ fuel found, attempt (Session.readByPipe fuel t.pipe) s = some found →
        drive (Session.pumpSteps (fuel + 1) t.id t.pipe steps) s =
          Session.pumpFound t.id t.pipe steps
            (fun s => drive (Session.pumpSteps fuel t.id t.pipe (steps + 1)) s) found := by
      intro fuel found hread
      simp [Session.drive_pumpSteps, h.fault?, hready, hread]
    rcases h.turn hc with
      ⟨chunk, rest, read, between, hchunk, rfl, hread, hwrite, hconfined, hunder⟩ |
        ⟨read, closed, rfl, hread, hclose, hconfined, hpipe, hclosed, hspent, honly⟩
    · have hshorter : rest.length < (chunk ++ rest).length := by
        have hpos := List.length_pos_of_ne_nil hchunk
        simp only [List.length_append]
        omega
      obtain ⟨total, s', hsettles, hcarries⟩ :=
        ih _ hshorter hunder (hconfined.calm hc) (steps + 1) rfl
      refine ⟨total, s', .later (hread.both hsettles fun fuel hr hp => ?_),
        hcarries.after_chunk hchunk hconfined⟩
      rw [hstep fuel _ hr]
      simp only [Session.pumpFound, destination_pipe, writer_pipe, hwrite]
      exact hp
    · obtain ⟨hover, hfinished⟩ := over_pipeFinished hpipe hclosed hspent honly
      refine ⟨steps + 1, _, hread.step fun fuel hr => ?_,
        .inr ⟨by rwa [List.append_nil], hconfined.followed hfinished⟩⟩
      rw [hstep fuel _ hr]
      have hkept : t.pipe.options.preventClose = false := rfl
      have hend := Session.closeDestination_eq (s := read) hkept
      simp only [destination_pipe, writer_pipe, hclose] at hend
      simp only [Session.pumpFound, hend, Session.closedState]

/-- A mark on the pipe is nothing to its ends. -/
theorem mark_apart_well : ({ pipes := {t.drain.id} } : Footprint).Apart t.well.extent where
  readables := fun _ h => h.elim
  writables := fun _ h => h.elim
  bridges := fun _ h => h.elim
  pipes := by
    rintro _ rfl (h | h)
    · exact h
    · exact t.unpiped h
  bodies := fun _ h => h.elim

theorem mark_apart_drain : ({ pipes := {t.drain.id} } : Footprint).Apart t.drain.extent where
  readables := fun _ h => h.elim
  writables := fun _ h => h.elim
  bridges := fun _ h => h.elim
  pipes := by
    rintro _ rfl (h | h)
    · exact h
    · rw [t.drain.unpiped] at h
      exact h
  bodies := fun _ h => h.elim

/-- A mark on the pipe. -/
theorem Under.marked (h : t.Under pumping taken left s) (pumping' : Bool)
    (hs : s'.streams = s.streams.setPipe t.id { t.pipe with pumping := pumping' })
    (hh : s'.host = s.host) (he : s'.env = s.env) :
    t.Under pumping' taken left s' ∧ Confined { pipes := {t.drain.id} } 0 s s' := by
  have hend : ({ t.pipe with pumping := pumping' } : Pipe).destination = t.drain.id := rfl
  have hmark : Confined { pipes := {t.drain.id} } 0 s s' :=
    .of_frame ((Frame.setPipe s h.pipe hend).congr hs hh) hh
  refine ⟨⟨?_, h.well.of_frame hmark.toFrame mark_apart_well he,
    t.drain.frame h.drain hmark.toFrame mark_apart_drain, fun id pipe hp hr hd => ?_⟩, hmark⟩
  · simp [hs, Registry.pipe?_setPipe, h.pipe]
  · rw [hs, Registry.pipe?_setPipe] at hp
    by_cases hid : id = t.id
    · exact hid
    · rw [if_neg hid] at hp
      exact h.only id pipe hp hr hd

/-- The pipe is driven. -/
theorem Under.pumpPipe (h : t.Under false taken left s) (hc : s.host.Calm) :
    ∃ total s', Settles (fun fuel => drive (Session.pumpPipe fuel t.id) s) (total, s') ∧
      t.Carries false taken left s s' := by
  let driven : Session MemoryHost E :=
    Session.mapStreams (fun streams => streams.setPipe t.id { t.pipe with pumping := true }) s
  obtain ⟨hunder, hmark⟩ : t.Under true taken left driven ∧
      Confined { pipes := {t.drain.id} } 0 s driven := h.marked true rfl rfl rfl
  obtain ⟨total, s', hsettles, hcarries⟩ := hunder.pumpSteps (hmark.calm hc) 0
  have hdrive : ∀ fuel, drive (Session.pumpSteps fuel t.id t.pipe 0) (Session.mapStreams
      (fun streams => streams.setPipe t.id { t.pipe with pumping := true }) s) = some (total, s') →
      drive (Session.pumpPipe (fuel + 1) t.id) s =
        some (total, Session.mapStreams (Session.parked t.id) s') := by
    intro fuel hfuel
    rw [Session.drive_pumpPipe, h.pipe]
    exact congrArg (Option.map _) hfuel
  -- the mark is taken off again
  have hparked : ∀ {pipe}, s'.streams.pipe? t.id = some pipe →
      (Session.mapStreams (Session.parked t.id) s').streams =
        s'.streams.setPipe t.id { pipe with pumping := false } := by
    intro pipe hp
    simp only [Session.mapStreams, Session.parked, hp]
  refine ⟨total, _, hsettles.step hdrive, ?_⟩
  rcases hcarries with ⟨more, rest, rfl, hunder', hwaits, hprogress, hconfined⟩ | ⟨hover, hconfined⟩
  · have hstreams := hparked hunder'.pipe
    obtain ⟨hrests, hunmark⟩ := hunder'.marked false hstreams rfl rfl
    exact .inl ⟨more, rest, rfl, hrests, by rw [hstreams]; exact hwaits, hprogress,
      ((hmark.mono mark_within).trans hconfined).followed (hunmark.mono mark_within)⟩
  · have hstreams := hparked hover.pipe
    have hend : ({ t.pipe with state := .done } : Pipe).destination = t.drain.id := rfl
    have hunmark : Confined { pipes := {t.drain.id} } 0 s'
        (Session.mapStreams (Session.parked t.id) s') :=
      .of_frame ((Frame.setPipe s' hover.pipe hend).congr hstreams rfl) rfl
    have hentry : ∀ id, (Session.mapStreams (Session.parked t.id) s').streams.pipe? id =
        if id = t.id then some { t.pipe with state := .done } else s'.streams.pipe? id := by
      intro id
      rw [hstreams, Registry.pipe?_setPipe, hover.pipe]
      rfl
    refine .inr ⟨⟨(hentry _).trans (if_pos rfl), t.drain.frameClosed hover.drain hunmark.toFrame
        (mark_apart_drain.symm.within Footprint.within_union_right).symm,
      t.well.frameSpent hover.spent hunmark.toFrame
        (mark_apart_well.symm.within Footprint.within_union_right).symm, fun id pipe hp hr => ?_⟩,
      ((hmark.mono mark_within).trans hconfined).followed (hunmark.mono mark_within)⟩
    rw [hentry] at hp
    by_cases hid : id = t.id
    · rw [if_pos hid, Option.some.injEq] at hp
      rw [← hp] at hr
      cases hr
    · rw [if_neg hid] at hp
      exact hover.idle id pipe hp hr

end Transfer

end EdgeStreams
