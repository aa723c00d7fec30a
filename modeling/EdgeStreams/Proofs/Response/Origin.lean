import EdgeStreams.Proofs.Response.Well

/-!
# Where the octets of a response come from

A source over a host body brings the octets of the body that have not been read. A guest's source
brings what its pulls do, provided that each of them brings at least one chunk or the end.

## Main definitions

- `UnderlyingSource.Brings`: the octets that a guest's pulls bring
- `Well.overBody`, `Well.overScript`: both kinds of source as wells
-/

namespace EdgeStreams

variable {E : Type}

/-- The next pulls of a guest, at most so many, bring the octets and then the end. Each of them
brings at least one chunk or the end, whatever the queue holds. -/
def UnderlyingSource.Brings (guest : UnderlyingSource E) (highWaterMark : UInt64) :
    Nat → E → Bytes → Prop
  | 0, _, _ => False
  | pulls + 1, env, octets => ∀ controller : ReadableController,
    controller.highWaterMark = highWaterMark → controller.Sound → controller.IsOpen →
      ∃ env' desk, (guest.pull env).run SourceDesk.perform { controller } = ((.ok (), env'), desk) ∧
        (∀ error, desk.controller.state ≠ .errored error) ∧
          (desk.controller.closeRequested = true ∧ octets = desk.accepted.reverse.flatten ∨
            desk.controller.closeRequested = false ∧ desk.accepted ≠ [] ∧
              ∃ later, octets = desk.accepted.reverse.flatten ++ later ∧
                guest.Brings highWaterMark pulls env' later)

/-- A body has the octets left to read. -/
def MemoryHost.HasUnread (host : MemoryHost) (handle : BodyHandle) (octets : Bytes) : Prop :=
  ∃ body, host.bodies.find? handle.raw = some body ∧ body.state ≠ .abandoned ∧ body.unread = octets

/-- No read of at most so many octets goes too far, from the place up to which a body has been read
until its end. -/
def MemoryHost.InReach (host : MemoryHost) (handle : BodyHandle) (size : UInt64) : Prop :=
  ∀ body, host.bodies.find? handle.raw = some body →
    body.position + body.unread.length + host.readLimit size < UInt64.size

theorem MemoryHost.InReach.place_lt {host : MemoryHost} {handle : BodyHandle} {size : UInt64}
    {body : MemoryBody} (h : host.InReach handle size)
    (hfound : host.bodies.find? handle.raw = some body) :
    body.position + host.readLimit size < UInt64.size := by
  have := h body hfound
  omega

/-- It stays so where the body and the size of the reads do. -/
theorem MemoryHost.InReach.congr {host later : MemoryHost} {handle : BodyHandle} {size : UInt64}
    (h : host.InReach handle size)
    (hbody : later.bodies.find? handle.raw = host.bodies.find? handle.raw)
    (hchunk : later.chunkSize = host.chunkSize) : later.InReach handle size := by
  intro body hfound
  rw [readLimit_congr host hchunk]
  exact h body (hbody.symm.trans hfound)

/-- It stays so when the body is read. -/
theorem MemoryHost.InReach.read {host later : MemoryHost} {handle : BodyHandle} {size : UInt64}
    {body : MemoryBody} (h : host.InReach handle size)
    (hfound : host.bodies.find? handle.raw = some body) (limit : Nat)
    (hlater : later.bodies.find? handle.raw = some (body.advance limit))
    (hchunk : later.chunkSize = host.chunkSize) : later.InReach handle size := by
  intro after hafter
  obtain rfl : body.advance limit = after := Option.some_inj.mp (hlater.symm.trans hafter)
  rw [readLimit_congr host hchunk]
  have hplace := body.position_add_length_unread_advance limit
  have := h body hfound
  omega

/-- No read has gone too far, and no read of one body will. -/
structure MemoryHost.WithinReach (host : MemoryHost) (handle : BodyHandle)
    (size : UInt64) : Prop where
  intact : host.overrun = none
  inReach : host.InReach handle size

namespace Session

variable {s : Session MemoryHost E} {id : ReadableId} {source : Source E}

/-- The end of the body, as the source finds it. -/
theorem exec_pullBody_unread_nil {handle : BodyHandle} {size : UInt64}
    (hs : s.streams.source? id = some source) (ho : source.controller.IsOpen)
    (hc : s.host.Calm) (hunread : s.host.HasUnread handle [])
    (hreach : s.host.InReach handle size) :
    ∃ body, exec (pullBody id handle size) s =
      (.ok (), setSource id { source with controller := source.controller.finish }
        { s with host := (s.host.received .bodyRead handle.erase).putBody handle body }) := by
  obtain ⟨body, hfound, hopen, hnil⟩ := hunread
  have hread := MemoryHost.exec_bodyRead s.host handle size
  have hpeek : body.peek (s.host.readLimit size) = [] := by
    have hsplit := body.peek_append_unread (s.host.readLimit size)
    rw [hnil] at hsplit
    exact (List.append_eq_nil_iff.mp hsplit).1
  simp only [hc.faultless, FaultPlan.take_empty, hfound, hopen, if_false, hpeek] at hread
  rw [MemoryHost.reaching_of_lt _ _ _ (hreach.place_lt hfound)] at hread
  exact ⟨_, exec_pullBody_end hs ho.state ho.close hread⟩

/-- A read that finds something queues it. -/
theorem exec_pullBody_unread {handle : BodyHandle} {size : UInt64} {octets : Bytes}
    (hs : s.streams.source? id = some source) (ho : source.controller.IsOpen)
    (hc : s.host.Calm) (hsize : 0 < size) (hunread : s.host.HasUnread handle octets)
    (hreach : s.host.InReach handle size) (hne : octets ≠ []) :
    ∃ body chunk, chunk ≠ [] ∧ octets = chunk ++ body.unread ∧ body.state ≠ .abandoned ∧
      ((s.host.received .bodyRead handle.erase).putBody handle body).InReach handle size ∧
      exec (pullBody id handle size) s =
        (.ok (), noteEnqueued id [chunk]
          (setSource id { source with controller := source.controller.queued chunk }
            { s with host := (s.host.received .bodyRead handle.erase).putBody handle body })) := by
  obtain ⟨body, hfound, hopen, rfl⟩ := hunread
  have hread := MemoryHost.exec_bodyRead s.host handle size
  have hpeek : body.peek (s.host.readLimit size) ≠ [] := fun hp =>
    hne (body.unread_eq_nil_of_peek _ (s.host.readLimit_pos hsize hc.chunkSize) hp)
  simp only [hc.faultless, FaultPlan.take_empty, hfound, hopen, if_false] at hread
  rw [MemoryHost.reaching_of_lt _ _ _ (hreach.place_lt hfound)] at hread
  exact ⟨body.advance (s.host.readLimit size), body.peek (s.host.readLimit size), hpeek,
    (body.peek_append_unread _).symm, hopen,
    hreach.read hfound (s.host.readLimit size) (by simp [MemoryHost.find?_putBody]) rfl,
    exec_pullBody_chunk hs ho.state ho.close hpeek hread⟩

theorem exec_pullScript (guest : UnderlyingSource E) (h : s.streams.source? id = some source) :
    exec (pullScript id guest) s =
      (((guest.pull s.env).run SourceDesk.perform { controller := source.controller }).1.1,
        atDesk id source
          ((guest.pull s.env).run SourceDesk.perform { controller := source.controller }).2
          { s with
            env :=
              ((guest.pull s.env).run SourceDesk.perform { controller := source.controller }).1.2
                }) := by
  simp [pullScript, exec_bind, h]

end Session

namespace Well

/-- A source over a host body. -/
def overBody (id : ReadableId) (handle : BodyHandle) (size mark : UInt64) (hsize : 0 < size) :
    Well E where
  id := id
  backing := .body handle size
  mark := mark
  reach := { bodies := {handle} }
  Behind s octets := s.host.HasUnread handle octets ∧ s.host.InReach handle size
  Spent _ := True
  apart := fun h => h.elim
  frame := by
    rintro f s s' octets ⟨⟨body, hfound, hrest⟩, hreach⟩ hf ha -
    have hout : handle ∉ f.bodies := fun hm => ha.bodies _ hm rfl
    exact ⟨⟨body, (hf.body handle hout).trans hfound, hrest⟩,
      hreach.congr (hf.body handle hout) hf.chunkSize⟩
  frameSpent _ _ _ := trivial
  pull := by
    rintro s source octets hs hback hmark hsound hopen ⟨hunread, hreach⟩ hc
    have hpull : ∀ fuel, attempt (Session.pull (fuel + 1) id) s =
        some (exec (Session.pullBody id handle size) s) := fun fuel => by
      simp only [Session.attempt_pull, hs, hback]
    have hset : ∀ (body : MemoryBody) (source' : Source E),
        Confined ({ readables := {id} } ∪ { bodies := {handle} }) 0 s
          (Session.setSource id source'
            { s with host := (s.host.received .bodyRead handle.erase).putBody handle body }) :=
      fun body source' =>
        ((Confined.putBody s .bodyRead (.inl rfl) _ handle body).mono
          Footprint.within_union_right).trans
            ((Confined.setSource _ id source').mono Footprint.within_union_left)
    by_cases hne : octets = []
    · subst hne
      obtain ⟨body, hexec⟩ := Session.exec_pullBody_unread_nil hs hopen hc hunread hreach
      refine ⟨source.controller.finish, _, .now fun fuel => (hpull fuel).trans
        (congrArg some hexec), hset _ _, by simp [Registry.source?_setSource, hs], ?_,
        ⟨hsound.finish hopen, .inr ⟨?_, ?_, trivial⟩⟩, .inr ?_⟩
      · rw [hopen.finish_eq]
        exact hmark
      · exact hopen.hasEnded_finish
      · simp [hopen.finish_eq]
      · exact hopen.hasEnded_finish
    · obtain ⟨body, chunk, hchunk, rfl, hstate, hleft, hexec⟩ :=
        Session.exec_pullBody_unread hs hopen hc hsize hunread hreach hne
      refine ⟨source.controller.queued chunk, _,
        .now fun fuel => (hpull fuel).trans (congrArg some hexec), (hset _ _).notedEnqueued _ _,
        by simp [Registry.source?_setSource, hs], hmark,
        ⟨hsound.queued hchunk, .inl ⟨⟨hopen.state, hopen.close⟩, body.unread, ?_,
          ⟨body, ?_, hstate, rfl⟩, hleft⟩⟩,
        .inl ?_⟩
      · simp [ReadableController.queued]
      · simp [MemoryHost.find?_putBody]
      · simp [ReadableController.queued]

/-- A guest's source. -/
def overScript (id : ReadableId) (guest : UnderlyingSource E) (mark : UInt64) : Well E where
  id := id
  backing := .script guest
  mark := mark
  reach := {}
  Behind s octets := ∃ pulls, guest.Brings mark pulls s.env octets
  Spent _ := True
  apart := fun h => h.elim
  frame := by
    rintro f s s' octets ⟨pulls, hbrings⟩ - - he
    exact ⟨pulls, he ▸ hbrings⟩
  frameSpent _ _ _ := trivial
  pull := by
    rintro s source octets hs hback hmark hsound hopen ⟨pulls, hbrings⟩ -
    have hpull : ∀ fuel, attempt (Session.pull (fuel + 1) id) s =
        some (exec (Session.pullScript id guest) s) := fun fuel => by
      simp only [Session.attempt_pull, hs, hback]
    cases pulls with
    | zero => exact hbrings.elim
    | succ pulls =>
      obtain ⟨env', desk, hrun, hfine, hbrought⟩ := hbrings source.controller hmark hsound hopen
      have hfed := ReadableController.fed_run (guest.pull s.env) hsound hopen
      rw [hrun] at hfed
      obtain ⟨hmark', ⟨error, herror⟩ | ⟨hsound', hqueue, hstate⟩⟩ := hfed
      · exact absurd herror (hfine error)
      · simp only at hsound' hqueue hstate
        have hexec := Session.exec_pullScript guest hs
        rw [hrun] at hexec
        have henv : Confined ({ readables := {id} } ∪ {}) 0 s { s with env := env' } :=
          .of_frame ((Frame.refl _ s).congr rfl rfl) rfl
        have hset := Confined.setSource { s with env := env' } id
          { source with controller := desk.controller }
        refine ⟨desk.controller, _, .now fun fuel => ?_,
          (henv.trans (hset.mono Footprint.within_union_left)).notedEnqueued id desk.accepted, ?_,
          hmark'.trans hmark, ⟨hsound', ?_⟩, ?_⟩
        · rw [hpull]
          exact congrArg some hexec
        · simp [Registry.source?_setSource, hs]
        · rcases hbrought with ⟨hclose, rfl⟩ | ⟨hclose, -, later, rfl, hlater⟩
          · exact .inr ⟨hstate.resolve_left fun ho => by simp [ho.close] at hclose,
              by rw [hqueue, List.flatten_append], trivial⟩
          · exact .inl ⟨hstate.resolve_right fun he => by simp [he.close] at hclose, later,
              by rw [hqueue, List.flatten_append, List.append_assoc], pulls, hlater⟩
        · rcases hbrought with ⟨hclose, -⟩ | ⟨-, hsome, -⟩
          · exact .inr (hstate.resolve_left fun ho => by simp [ho.close] at hclose)
          · exact .inl (by simp [hqueue, hsome])

end Well

end EdgeStreams
