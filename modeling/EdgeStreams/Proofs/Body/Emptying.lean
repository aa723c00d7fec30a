import EdgeStreams.Proofs.Body.Stalling
import EdgeStreams.Proofs.Host.Queues
import EdgeStreams.Proofs.Piping.Attributing
import EdgeStreams.Proofs.Piping.Waiting
import EdgeStreams.Proofs.Response.Well
import EdgeStreams.Proofs.Session.Untouched

/-!
# Reading a stream to its end

One who reads a stream to its end is given what has been queued and what is queued meanwhile, in
order, and nothing is left when the end is reached. Where the stream stands over a host body, that
is what had not been read of the body.

## Main definitions

- `Session.ReadOut`, `Session.Emptied`: a stream has been read to its end, and has given all of it
- `Session.Yields`: the octets that a stream over a host body has to give

## Main statements

- `Body.readOut_of_readAll`: every reading that succeeds has come to the end of the stream
- `Body.whole_of_readAll`: what it has been given
- `Body.unread_of_readAll`: what it has been given of a host body

## Design notes

No running pipe leads out of a stream that is read. So nothing but the reader takes chunks out of
it, and nobody cancels it.
-/

namespace EdgeStreams

variable {H E : Type} [Host H]

namespace Session

variable {id : ReadableId} {first s t u : Session H E}

/-- What a stream has queued stays in the journal. -/
theorem MovesTo.enqueued (h : MovesTo s t) (id : ReadableId) :
    ∃ new, t.enqueued id = new ++ s.enqueued id := by
  obtain ⟨new, he⟩ := h.journal
  exact ⟨new.filterMap (StreamEvent.enqueued? id),
    by rw [Session.enqueued, he, List.filterMap_append, Session.enqueued]⟩

theorem Unpiped.movesTo (hu : Unpiped id s) (h : MovesTo s t) : Unpiped id t := by
  intro name pipe hp hr
  obtain ⟨pumping, hbefore⟩ := h.running_before hp hr
  exact hu name { pipe with pumping } hbefore hr

/-- Pipes cancel only what leads into them. -/
theorem Unpiped.isCanceled (hu : Unpiped id s) (h : s.ByPipes t) (hc : t.streams.IsCanceled id) :
    s.streams.IsCanceled id := by
  rcases h.canceled hc with hbefore | ⟨name, pipe, hp, hr, he⟩
  · exact hbefore
  · exact absurd he (hu name pipe hp hr)

/-- Nothing is found in a stream that has not started. -/
theorem started_of_read {fuel : Nat} {token : Option ReaderToken} {outcome : ReadOutcome}
    (h : attempt (read fuel id token) s = some (.ok outcome, t)) (hp : outcome ≠ .pending) :
    ∃ source, s.streams.source? id = some source ∧ source.start = .resolved := by
  simp only [read, attempt_bind, attempt_finite, exec_onStreams, Registry.exec_checkReader,
    Option.bind_some] at h
  split at h
  · cases fuel with
    | zero => cases h
    | succ fuel =>
      cases hs : s.streams.source? id with
      | none => cases readUnchecked_of_gone hs h
      | some source =>
        rcases readUnchecked_cases hs h with ⟨-, he⟩ | ⟨error, -, he⟩ | ⟨hstart, -⟩
        · exact absurd (Except.ok.inj (congrArg Prod.fst he)) hp
        · cases he
        · exact ⟨source, rfl, hstart⟩
  · cases h

/-- A stream that has ended is read to its end at once. -/
theorem read_of_closed {fuel : Nat} {token : Option ReaderToken} {outcome : ReadOutcome}
    {source : Source E} (hs : s.streams.source? id = some source)
    (hstart : source.start = .resolved) (hclosed : source.controller.state = .closed)
    (h : attempt (read fuel id token) s = some (.ok outcome, t)) :
    outcome = .done ∧ t.journal = s.journal := by
  simp only [read, attempt_bind, attempt_finite, exec_onStreams, Registry.exec_checkReader,
    Option.bind_some] at h
  split at h
  · cases fuel with
    | zero => cases h
    | succ fuel =>
      rw [attempt_readUnchecked, hs] at h
      simp only [hstart, exec_takeReady (source?_disturb hs), ReadableController.takeReady, hclosed,
        Option.some.injEq, Prod.mk.injEq, Except.ok.injEq] at h
      obtain ⟨rfl, rfl⟩ := h
      exact ⟨rfl, rfl⟩
  · cases h

/-- A stream has been read to its end. The chunks that have been taken are last first. -/
structure ReadOut (id : ReadableId) (first s t : Session H E) (taken : List Bytes) : Prop where
  byPipes : s.ByPipes t
  delivered : t.delivered id = taken ++ s.delivered id
  started : ∃ source, s.streams.source? id = some source ∧ source.start = .resolved
  done : ∃ source, t.streams.source? id = some source ∧ source.controller.state = .closed ∧
    (source.canceled = true ∨ ∃ put, t.enqueued id = put ++ first.enqueued id ∧
      t.delivered id = put ++ first.delivered id)

/-- The stream has been read to its end between two moments. It has given what was queued and what
has been put in meanwhile, and nothing is left. -/
structure Emptied (id : ReadableId) (source : Source E) (put : List Bytes) (s t : Session H E) :
    Prop where
  found : s.streams.source? id = some source
  enqueued : t.enqueued id = put.reverse ++ s.enqueued id
  delivered : t.delivered id = (source.controller.queue ++ put).reverse ++ s.delivered id
  closed : ∃ last, t.streams.source? id = some last ∧ last.controller.state = .closed

/-- Something has been done before. -/
theorem ReadOut.after {taken new : List Bytes} (h : ReadOut id first u t taken) (hb : s.ByPipes u)
    (ho : s.Ordered) (hd : u.delivered id = new ++ s.delivered id) :
    ReadOut id first s t (taken ++ new) where
  byPipes := hb.trans h.byPipes
  delivered := by rw [h.delivered, hd, List.append_assoc]
  started := by
    obtain ⟨made, hcourse⟩ := hb.course
    obtain ⟨source', hs', hstart⟩ := h.started
    obtain ⟨source, hs, hstays⟩ := hcourse.stayed ho.composed hs'
    exact ⟨source, hs, hstays.start.symm.trans hstart⟩
  done := h.done

/-- A stream that was readable has not been cancelled while it was read to its end. So all that has
been put in since its beginning has been taken since. -/
theorem ReadOut.taken_of_readable {taken : List Bytes} {source : Source E}
    (h : ReadOut id first s t taken) (hu : Unpiped id s) (hc : PassedInOrder id first s)
    (hs : s.streams.source? id = some source) (hstate : source.controller.state = .readable) :
    ∃ put, t.enqueued id = put.reverse ++ s.enqueued id ∧
      taken.reverse = source.controller.queue ++ put := by
  obtain ⟨last, hlast, hclosed, hend⟩ := h.done
  obtain ⟨before, beforeTaken, hput, htaken, hpassed⟩ := hc
  rw [hs] at hpassed
  cases hpassed with
  | lives hq =>
    have hnot : last.canceled = false := by
      by_contra hcanceled
      have hended : t.streams.IsCanceled id := ⟨last, hlast, by simpa using hcanceled⟩
      obtain ⟨other, hother, hyes⟩ := hu.isCanceled h.byPipes hended
      obtain rfl : other = source := Option.some_inj.mp (hother.symm.trans hs)
      exact hq.shut hyes hstate
    obtain ⟨put, hputs, htakes⟩ := hend.resolve_left (by simp [hnot])
    obtain ⟨new, hnew⟩ := h.byPipes.movesTo.enqueued id
    have hputs_eq : put = taken ++ beforeTaken := by
      refine List.append_cancel_right (htakes.symm.trans ?_)
      rw [h.delivered, htaken, List.append_assoc]
    have hbefore : before = source.controller.queue.reverse ++ beforeTaken := by
      rw [← List.reverse_inj, hq.order_of_readable hstate]
      simp
    have htaken_eq : taken = new ++ source.controller.queue.reverse := by
      rw [hnew, hput, hbefore, hputs_eq] at hputs
      simpa [← List.append_assoc] using hputs.symm
    exact ⟨new.reverse, by simpa using hnew, by simp [htaken_eq]⟩

end Session

namespace Body

open Session

variable {id : ReadableId} {token : ReaderToken} {fuel : Nat} {chunks : List Bytes} {idle : Bool}
variable {first s t : Session H E} {data : Bytes}

/-- Whoever reads to the end has been given what has been delivered. By induction on the fuel. -/
theorem readOut_of_readAll (ho : s.Ordered) (hu : Unpiped id s) (hc : PassedInOrder id first s)
    (h : drive (readAll fuel id token chunks idle) s = some (.ok data, t)) :
    ∃ taken, ReadOut id first s t taken ∧ data = (taken ++ chunks).reverse.flatten := by
  induction fuel generalizing s chunks idle with
  | zero => cases h
  | succ fuel ih =>
    rw [drive_readAll] at h
    obtain ⟨⟨found, u⟩, hread, hon⟩ := Option.bind_eq_some_iff.mp h
    have hreads := byPipes_read ho hread
    have hreadInOrder := readInOrder_read ho.composed hc (fun _ _ _ => hu.undrawn) hread
    have hordered := hreads.ordered ho
    have hstill := hu.movesTo hreads.movesTo
    rcases found with error | (chunk | _ | _)
    · cases hon
    · obtain ⟨taken, hout, rfl⟩ := ih hordered hstill hreadInOrder.passedInOrder hon
      exact ⟨taken ++ [chunk], hout.after hreads ho hreadInOrder.delivered, by simp⟩
    · cases hon
      obtain ⟨source, hs, hclosed, hend⟩ := hreadInOrder.done rfl
      exact ⟨[], ⟨hreads, hreadInOrder.delivered, started_of_read hread (by simp),
        source, hs, hclosed, hend.imp_right And.right⟩, rfl⟩
    · -- the pipes are driven, and whatever has come of it, the reading goes on
      obtain ⟨⟨steps, v⟩, hpump, hnext⟩ := Option.bind_eq_some_iff.mp hon
      have hpumps := byPipes_pump hordered hpump
      have hkept := withholdsChunks_pump hstill.undrawn hpump
      obtain ⟨made, hcourse⟩ := hpumps.course
      obtain ⟨idle', hgoes⟩ : ∃ idle', drive (readAll fuel id token chunks idle') v =
          some (.ok data, t) := by
        split at hnext
        · split at hnext
          · cases hnext
          · exact ⟨_, hnext⟩
        · exact ⟨_, hnext⟩
      obtain ⟨taken, hout, rfl⟩ := ih (hpumps.ordered hordered) (hstill.movesTo hpumps.movesTo)
        (hcourse.passedInOrder hordered.composed hreadInOrder.passedInOrder) hgoes
      have hround : ReadOut id first s t (taken ++ []) :=
        hout.after (hreads.trans hpumps) ho (hkept.delivered.trans hreadInOrder.delivered)
      exact ⟨taken, by simpa using hround, rfl⟩

/-- The end of a stream that has ended before is found at once. -/
theorem journal_of_readAll_closed {source : Source E} (hs : s.streams.source? id = some source)
    (hstart : source.start = .resolved) (hclosed : source.controller.state = .closed)
    (h : drive (readAll fuel id token chunks idle) s = some (.ok data, t)) :
    t.journal = s.journal := by
  cases fuel with
  | zero => cases h
  | succ fuel =>
    rw [drive_readAll] at h
    obtain ⟨⟨found, u⟩, hread, hon⟩ := Option.bind_eq_some_iff.mp h
    cases found with
    | error error => cases hon
    | ok outcome =>
      obtain ⟨rfl, hjournal⟩ := read_of_closed hs hstart hclosed hread
      cases hon
      exact hjournal

/-- Whoever reads to the end has been given what was queued and what has been queued meanwhile, and
nothing is left. -/
theorem whole_of_readAll {source : Source E} (ho : s.Ordered) (hu : Unpiped id s)
    (hs : s.streams.source? id = some source) (hc : PassedInOrder id first s)
    (h : drive (readAll fuel id token [] false) s = some (.ok data, t)) :
    ∃ put, Emptied id source put s t ∧ data = (source.controller.queue ++ put).flatten := by
  obtain ⟨taken, hout, rfl⟩ := readOut_of_readAll ho hu hc h
  obtain ⟨last, hlast, hclosed, -⟩ := hout.done
  -- it is enough to say what has been taken
  suffices hwhole : ∃ put, t.enqueued id = put.reverse ++ s.enqueued id ∧
      taken.reverse = source.controller.queue ++ put by
    obtain ⟨put, henqueued, hall⟩ := hwhole
    refine ⟨put, ⟨hs, henqueued, ?_, last, hlast, hclosed⟩, by simp [hall]⟩
    rw [hout.delivered, ← hall, List.reverse_reverse]
  cases hstate : source.controller.state with
  | errored error =>
    obtain ⟨made, hcourse⟩ := hout.byPipes.course
    obtain ⟨found, hfound, hstays⟩ := hcourse.stays ho.composed hs
    obtain rfl : found = last := Option.some_inj.mp (hfound.symm.trans hlast)
    have hsame := hstays.controller.state (by simp [hstate])
    rw [hclosed, hstate] at hsame
    cases hsame
  | closed =>
    obtain ⟨other, hother, hstart⟩ := hout.started
    obtain rfl : other = source := Option.some_inj.mp (hother.symm.trans hs)
    have hjournal := journal_of_readAll_closed hs hstart hstate h
    have hnone : taken = [] := by
      have hd := hout.delivered
      rw [Session.delivered, hjournal, ← Session.delivered] at hd
      simpa using hd
    obtain ⟨before, beforeTaken, -, -, hpassed⟩ := hc
    rw [hs] at hpassed
    cases hpassed with
    | lives hq =>
      refine ⟨[], by rw [enqueued, hjournal]; rfl, ?_⟩
      simp [hnone, hq.emptied (by simp [hstate])]
  | readable => exact hout.taken_of_readable hu hc hs hstate

end Body

/-! ### Host bodies -/

/-- The octets are those that are queued and those of a host body that have not been read, unless
the stream has failed. -/
def ReadableController.Supplies (controller : ReadableController) (host : MemoryHost)
    (handle : BodyHandle) (octets : Bytes) : Prop :=
  (∃ error, controller.state = .errored error) ∨
    controller.Stocks (host.unreadOf handle = ·) True octets

/-- A source over a host body that is not being pulled, with the octets that it has to give. -/
structure Source.Yields (source : Source E) (host : MemoryHost)
    (handle : BodyHandle) (size : UInt64) (octets : Bytes) : Prop where
  backing : source.backing = .body handle size
  started : source.start = .resolved
  uncanceled : source.canceled = false
  resting : source.pulling = false
  unasked : source.pullAgain = false
  supply : source.controller.Supplies host handle octets

namespace Session

/-- The stream is one over a host body and has the octets to give. -/
structure Yields (id : ReadableId) (handle : BodyHandle) (size : UInt64) (octets : Bytes)
    (s : Session MemoryHost E) : Prop where
  size_pos : 0 < size
  chunkSize_pos : 0 < s.host.chunkSize
  found : ∃ source, s.streams.source? id = some source ∧ source.Yields s.host handle size octets

/-- Whoever reads the stream need not wait. -/
def Ripe (id : ReadableId) (s : Session MemoryHost E) : Prop :=
  ∃ source, s.streams.source? id = some source ∧ (source.controller.queue ≠ [] ∨
    source.controller.HasEnded ∨ ∃ error, source.controller.state = .errored error)

variable {id : ReadableId} {handle : BodyHandle} {size : UInt64} {octets : Bytes}
variable {source : Source E} {s t : Session MemoryHost E}

/-- One pull. What it reads of the host body it queues; if it reads nothing, the body is at its
end. -/
theorem stocks_pullBody (hsize : 0 < size) (hchunk : 0 < s.host.chunkSize)
    (hs : s.streams.source? id = some source) (hopen : source.controller.IsOpen)
    (hstocks : source.controller.Stocks (s.host.unreadOf handle = ·) True octets) :
    ∃ outcome controller t, exec (pullBody id handle size) s = (outcome, t) ∧
      t.streams.source? id = some { source with controller } ∧ t.host.chunkSize = s.host.chunkSize ∧
      (∀ error, outcome = .error error → controller = source.controller) ∧
      (outcome = .ok () → controller.Stocks (t.host.unreadOf handle = ·) True octets ∧
        (controller.queue ≠ [] ∨ controller.HasEnded)) := by
  obtain ⟨-, rest, rfl, rfl⟩ | ⟨hended, -⟩ := hstocks.supply
  · cases hread : (exec (Host.bodyRead handle size) s.host).1 with
    | error error =>
      have hsame := (s.host.quiet_bodyRead handle size).chunkSize
      exact ⟨_, _, _, exec_pullBody_error (Prod.ext hread rfl), hs, hsame, fun _ _ => rfl,
        fun hok => by cases hok⟩
    | ok data =>
      obtain ⟨body, hbody, -, rfl, hafter⟩ := MemoryHost.exec_bodyRead_ok hread
      have hunread : s.host.unreadOf handle = body.unread := by simp [MemoryHost.unreadOf, hbody]
      have hrest := body.peek_append_unread (s.host.readLimit size)
      have hleft : ((s.host.received .bodyRead handle.erase).putBody handle
          (body.advance (s.host.readLimit size))).unreadOf handle =
            (body.advance (s.host.readLimit size)).unread := by
        simp [MemoryHost.unreadOf, MemoryHost.find?_putBody]
      by_cases hdata : body.peek (s.host.readLimit size) = []
      · have hnone := body.unread_eq_nil_of_peek _ (s.host.readLimit_pos hsize hchunk) hdata
        rw [hdata] at hread
        refine ⟨_, _, _, exec_pullBody_end hs hopen.state hopen.close (Prod.ext hread hafter), ?_,
          rfl, fun _ herror => ?_, fun _ => ⟨⟨hstocks.sound.finish hopen,
            .inr ⟨hopen.hasEnded_finish, ?_, trivial⟩⟩, .inr hopen.hasEnded_finish⟩⟩
        · simp [Registry.source?_setSource, hs]
        · cases herror
        · simp [hunread, hnone, hopen.finish_eq]
      · refine ⟨_, _, _, exec_pullBody_chunk hs hopen.state hopen.close hdata
          (Prod.ext hread hafter), ?_, rfl, fun _ herror => ?_, fun _ =>
            ⟨⟨hstocks.sound.queued hdata, .inl ⟨⟨hopen.state, hopen.close⟩, _, ?_, rfl⟩⟩,
              .inl (by simp [ReadableController.queued])⟩⟩
        · simp [Registry.source?_setSource, hs]
        · cases herror
        · rw [← hleft] at hrest
          rw [hunread, ← hrest]
          simp only [ReadableController.queued, List.flatten_append, List.flatten_singleton,
            List.append_assoc]
          rfl
  · exact absurd hended hopen.not_ended

/-- A stream that is not to be pulled for a reader has something for it. -/
theorem ripe_of_not_wantsPull (hs : s.streams.source? id = some source)
    (hy : source.Yields s.host handle size octets) (hidle : source.wantsPull true = false) :
    s.Ripe id := by
  refine ⟨source, hs, .inr ?_⟩
  rcases hy.supply with herror | hstocks
  · exact .inr herror
  · rcases hstocks.supply with ⟨hopen, -⟩ | ⟨hended, -⟩
    · simp [Source.wantsPull, hy.started, StartState.isResolved, hy.uncanceled, hopen.close,
        hopen.state] at hidle
    · exact .inl hended

/-- What a pull leaves to be done when it ends. -/
theorem Yields.pull (h : s.Yields id handle size octets)
    (hs : s.streams.source? id = some source) (hy : source.Yields s.host handle size octets)
    (hopen : source.controller.IsOpen) {fuel : Nat} {outcome : Except StreamError Unit}
    (hpull : attempt (Session.pull fuel id)
      (note (.pullBegan id) (setSource id { source with pulling := true } s)) = some (outcome, t)) :
    ∃ controller, t.streams.source? id = some { source with pulling := true, controller } ∧
      0 < t.host.chunkSize ∧ (∀ error, outcome = .error error → controller = source.controller) ∧
      (outcome = .ok () → controller.Stocks (t.host.unreadOf handle = ·) True octets ∧
        (controller.queue ≠ [] ∨ controller.HasEnded)) := by
  have hstocks := hy.supply.resolve_left (by simp [hopen.state])
  obtain ⟨began, hbegan, hpulling, hhost⟩ : ∃ began : Session MemoryHost E,
      began = note (.pullBegan id) (setSource id { source with pulling := true } s) ∧
        began.streams.source? id = some { source with pulling := true } ∧ began.host = s.host :=
    ⟨_, rfl, by simp [Registry.source?_setSource, hs], rfl⟩
  rw [← hbegan] at hpull
  rw [← hhost] at hstocks
  obtain ⟨outcome', controller, t', hpulled, ht, hchunk, hfailed, hdone⟩ :=
    stocks_pullBody h.size_pos (hhost ▸ h.chunkSize_pos) hpulling hopen hstocks
  cases fuel with
  | zero => cases hpull
  | succ fuel =>
    rw [attempt_pull, hpulling] at hpull
    simp only [hy.backing, hpulled, Option.some.injEq, Prod.mk.injEq] at hpull
    obtain ⟨rfl, rfl⟩ := hpull
    exact ⟨controller, ht, hchunk ▸ hhost ▸ h.chunkSize_pos, hfailed, hdone⟩

/-- The stream is pulled if that is of use. A reader that waits for it need wait no longer. -/
theorem Yields.pullIfNeeded (h : s.Yields id handle size octets) {fuel : Nat} {waits : Bool}
    {r : Unit × Session MemoryHost E}
    (hr : EdgeStreams.drive (Session.pullIfNeeded fuel id waits) s = some r) :
    r.2.Yields id handle size octets ∧ (waits = true → r.2.Ripe id) := by
  obtain ⟨source, hs, hy⟩ := h.found
  cases fuel with
  | zero => cases hr
  | succ fuel =>
    rcases pullIfNeeded_cases hs hr with
      ⟨hidle, rfl⟩ | ⟨hwants, ⟨hpulling, -⟩ | ⟨-, outcome, u, hpull, hafter⟩⟩
    · exact ⟨h, fun hwaits => ripe_of_not_wantsPull hs hy (hwaits ▸ hidle)⟩
    · cases hy.resting.symm.trans hpulling
    have hpullable : source.Pullable := Source.pullable_of_wantsPull hwants
    have hopen : source.controller.IsOpen := ⟨hpullable.readable, hpullable.unended⟩
    obtain ⟨controller, hu, hleft, hfailed, hdone⟩ := h.pull hs hy hopen hpull
    have hlast : ∀ source', (setSource id source' (note (.pullEnded id outcome) u)).streams.source?
        id = some source' := fun _ => by simp [Registry.source?_setSource, hu]
    cases hafter with
    | gone _ hgone => cases hu.symm.trans hgone
    | failed error last hfound =>
      cases hu.symm.trans hfound
      have herrored : (controller.error error).state = .errored error := by
        simp [hfailed error rfl, ReadableController.error, hopen.state]
      exact ⟨⟨h.size_pos, hleft, _, hlast _, hy.backing, hy.started, hy.uncanceled, rfl, hy.unasked,
        .inl ⟨error, herrored⟩⟩, fun _ => ⟨_, hlast _, .inr (.inr ⟨error, herrored⟩)⟩⟩
    | settled last hfound =>
      cases hu.symm.trans hfound
      obtain ⟨hstocks, hripe⟩ := hdone rfl
      exact ⟨⟨h.size_pos, hleft, _, hlast _, hy.backing, hy.started, hy.uncanceled, rfl, rfl,
        .inr hstocks⟩, fun _ => ⟨_, hlast _, hripe.imp_right .inl⟩⟩
    | again last hfound hagain =>
      cases hu.symm.trans hfound
      cases hy.unasked.symm.trans hagain

/-- What a reader finds at once: the first chunk, the end, or nothing. -/
theorem Yields.takeReady (h : s.Yields id handle size octets) {found : Option ReadOutcome}
    (hr : exec (Session.takeReady id) s = (.ok found, t)) :
    (∃ chunk rest, found = some (.chunk chunk) ∧ octets = chunk ++ rest ∧
      t.Yields id handle size rest) ∨ (found = some .done ∧ octets = []) ∨
        found = none ∧ ¬ s.Ripe id ∧ t.Yields id handle size octets := by
  obtain ⟨source, hs, hy⟩ := h.found
  rw [exec_takeReady hs] at hr
  -- what is written down of the taking does not matter
  have hyields : ∀ (controller : ReadableController) (left : Bytes)
      (result : Except StreamError (Option ReadOutcome)),
      controller.Stocks (s.host.unreadOf handle = ·) True left →
        (noteDelivered id result (setSource id { source with controller } s)).Yields id
          handle size left := by
    intro controller left result hstocks
    refine ⟨h.size_pos, by simpa using h.chunkSize_pos, { source with controller }, ?_, hy.backing,
      hy.started, hy.uncanceled, hy.resting, hy.unasked, .inr (by simpa using hstocks)⟩
    simp [Registry.source?_setSource, hs]
  rcases hy.supply with ⟨error, herror⟩ | hstocks
  · rw [ReadableController.takeReady, herror] at hr
    cases hr
  · cases hq : source.controller.queue with
    | cons chunk queue =>
      rw [ReadableController.takeReady_of_queue hstocks.sound (hstocks.supply.imp And.left And.left)
        hq] at hr
      cases hr
      have htail : source.controller.dropped.queue = queue := by
        simp [ReadableController.dropped, hq]
      rcases hstocks.supply with ⟨hopen, rest, rfl, hrest⟩ | ⟨hended, rfl, -⟩
      · refine .inl ⟨chunk, queue.flatten ++ rest, rfl, by simp [hq], ?_⟩
        exact hyields _ _ _ ⟨hstocks.sound.dropped,
          .inl ⟨hopen.dropped, rest, by rw [htail], hrest⟩⟩
      · refine .inl ⟨chunk, queue.flatten, rfl, by simp [hq], ?_⟩
        exact hyields _ _ _ ⟨hstocks.sound.dropped,
          .inr ⟨hended.dropped hq, by rw [htail], trivial⟩⟩
    | nil =>
      rcases hstocks.supply with ⟨hopen, -⟩ | ⟨hended, rfl, -⟩
      · rw [hopen.takeReady hq] at hr
        cases hr
        refine .inr (.inr ⟨rfl, ?_, hyields _ _ _ hstocks⟩)
        rintro ⟨other, hother, hripe⟩
        obtain rfl : source = other := Option.some_inj.mp (hs.symm.trans hother)
        rcases hripe with hne | hended | ⟨error, herror⟩
        · exact hne hq
        · exact hopen.not_ended hended
        · simp [hopen.state] at herror
      · rw [hended.takeReady hq] at hr
        cases hr
        exact .inr (.inl ⟨rfl, by simp [hq]⟩)

/-- A reader takes the first chunk, or finds the end. It never has to wait. -/
theorem Yields.read (h : s.Yields id handle size octets) {fuel : Nat} {token : Option ReaderToken}
    {outcome : ReadOutcome} (hr : attempt (Session.read fuel id token) s = some (.ok outcome, t)) :
    (∃ chunk rest, outcome = .chunk chunk ∧ octets = chunk ++ rest ∧ t.Yields id handle size rest) ∨
      outcome = .done ∧ octets = [] := by
  obtain ⟨source, hs, hy⟩ := h.found
  simp only [Session.read, attempt_bind, attempt_finite, exec_onStreams, Registry.exec_checkReader,
    Option.bind_some] at hr
  split at hr
  · cases fuel with
    | zero => cases hr
    | succ fuel =>
      have hmarked : (disturb id source s).Yields id handle size octets :=
        ⟨h.size_pos, h.chunkSize_pos, { source with disturbed := true }, source?_disturb hs,
          hy.backing, hy.started, hy.uncanceled, hy.resting, hy.unasked, hy.supply⟩
      generalize hend : (Except.ok outcome, t) = r at hr
      rcases readUnchecked_cases hs hr with ⟨hstart, -⟩ | ⟨error, hstart, -⟩ |
        ⟨-, found, u, htake, hafter⟩
      · cases hstart.symm.trans hy.started
      · cases hstart.symm.trans hy.started
      cases hafter with
      | settled found hsome hempty =>
        obtain ⟨hfound, rfl⟩ := Prod.mk.inj hend
        cases found with
        | error error => cases hfound
        | ok found =>
          rcases hmarked.takeReady htake with ⟨chunk, rest, rfl, -⟩ | ⟨rfl, hnil⟩ | ⟨rfl, -⟩
          · exact absurd rfl (hempty chunk)
          · exact .inr ⟨Except.ok.inj hfound, hnil⟩
          · exact absurd rfl hsome
      | full data v hpull =>
        obtain ⟨⟨⟩, rfl⟩ := Prod.mk.inj hend
        rcases hmarked.takeReady htake with ⟨chunk, rest, ⟨⟩, rfl, hleft⟩ | ⟨⟨⟩, -⟩ | ⟨⟨⟩, -⟩
        exact .inl ⟨data, rest, rfl, rfl, (hleft.pullIfNeeded hpull).1⟩
      | empty v hpull =>
        obtain ⟨hfound, rfl⟩ := Prod.mk.inj hend
        rcases hmarked.takeReady htake with ⟨-, -, ⟨⟩, -⟩ | ⟨⟨⟩, -⟩ | ⟨-, -, hleft⟩
        obtain ⟨hpulled, hripe⟩ := hleft.pullIfNeeded hpull
        cases hlate : (exec (Session.takeReady id) v).1 with
        | error error =>
          rw [hlate] at hfound
          cases hfound
        | ok late =>
          rw [hlate] at hfound
          have hgiven := Except.ok.inj hfound
          rcases hpulled.takeReady (Prod.ext hlate rfl) with ⟨chunk, rest, rfl, rfl, hlast⟩ |
            ⟨rfl, hnil⟩ | ⟨-, hnot, -⟩
          · exact .inl ⟨chunk, rest, hgiven, rfl, hlast⟩
          · exact .inr ⟨hgiven, hnil⟩
          · exact absurd (hripe rfl) hnot
  · cases hr

/-- A source that nobody has read has what has not been read of its host body. -/
theorem yields_of_untouched (hs : s.streams.source? id = some source) (hu : source.Untouched)
    (hback : source.backing = .body handle size) (hchunk : 0 < s.host.chunkSize) :
    s.Yields id handle size (s.host.unreadOf handle) := by
  obtain ⟨hsize, hopen, hempty⟩ := hu.body handle size hback
  have hsound : source.controller.Sound := by
    rcases hu.controller with ⟨error, herror⟩ | ⟨hsound, -⟩
    · simp [hopen.state] at herror
    · exact hsound
  exact ⟨hsize, hchunk, source, hs, hback, hu.started, hu.uncanceled, hu.resting, hu.unasked,
    .inr ⟨hsound, .inl ⟨hopen, _, by simp [hempty], rfl⟩⟩⟩

end Session

/-- Whoever reads a source over a host body to its end has been given what it had to give. By
induction on the fuel. -/
theorem Body.unread_of_readAll {id : ReadableId} {token : ReaderToken} {fuel : Nat}
    {chunks : List Bytes} {idle : Bool} {handle : BodyHandle} {size : UInt64} {octets data : Bytes}
    {s t : Session MemoryHost E} (hy : s.Yields id handle size octets)
    (h : drive (readAll fuel id token chunks idle) s = some (.ok data, t)) :
    data = chunks.reverse.flatten ++ octets := by
  induction fuel generalizing s chunks idle octets with
  | zero => cases h
  | succ fuel ih =>
    rw [drive_readAll] at h
    obtain ⟨⟨found, u⟩, hread, hon⟩ := Option.bind_eq_some_iff.mp h
    cases found with
    | error error => cases hon
    | ok outcome =>
      rcases hy.read hread with ⟨chunk, rest, rfl, rfl, hleft⟩ | ⟨rfl, rfl⟩
      · rw [ih hleft hon]
        simp
      · cases hon
        simp

end EdgeStreams
