import EdgeStreams.Proofs.Session.Draining
import EdgeStreams.Proofs.Session.Watched

/-!
# What is asked of a source

A source is pulled, one pull after the end of the other, as long as no pull has failed and the
stream has neither ended nor failed nor been cancelled. It is cancelled once at most, and never
pulled again.

## Main definitions

- `Demand.Lawful`: pulls, and after them at most one cancellation
- `BodyUse.Drawn`: reads of a body, and after them at most one call that ends the reading
- `Session.KeepsSource`: the name of a source that is gone is not given to another one

## Main statements

- `Session.Story.sourceLife`: what is asked of a source over its life
- `Session.Story.drawn`: what the host sees of a source over one of its bodies
-/

namespace EdgeStreams

variable {H E : Type}

namespace Demand

/-- A pull, or the end of one that has not failed. -/
def IsFine : Demand → Prop
  | .pull => True
  | .pulled outcome => outcome = .ok ()
  | .cancel _ => False

/-- Whether a pull is under way, after what has been asked, last first. -/
def underWay : List Demand → Bool
  | [] => false
  | .pull :: _ => true
  | .pulled _ :: _ => false
  | .cancel _ :: older => underWay older

/-- What is asked of a source over its life, last first: pulls, none of which begins while another
is under way, and at most one cancellation. After it, and after a pull that has failed, nothing is
asked. -/
inductive Lawful : List Demand → Prop
  | nil : Lawful []
  | pull {older : List Demand} : Lawful older → (∀ demand ∈ older, demand.IsFine) →
    underWay older = false → Lawful (.pull :: older)
  | pulled {older : List Demand} (outcome : Except StreamError Unit) : Lawful older →
    underWay older = true → Lawful (.pulled outcome :: older)
  | cancel {older : List Demand} (outcome : Except StreamError Unit) : Lawful older →
    (∀ demand ∈ older, demand.IsFine) → Lawful (.cancel outcome :: older)

end Demand

namespace Source

variable {source source' : Source E} {demands more : List Demand}

/-- What a source has been asked, last first. As long as the stream has neither ended nor failed nor
been cancelled, nothing has gone wrong. -/
structure Asked (demands : List Demand) (source : Source E) : Prop where
  lawful : Demand.Lawful demands
  underWay : Demand.underWay demands = source.pulling
  going : source.controller.state = .readable → source.canceled = false →
    ∀ demand ∈ demands, demand.IsFine

theorem Asked.new (h : source.pulling = false) : source.Asked [] := ⟨.nil, h.symm, nofun⟩

theorem Asked.congr (h : source.Asked demands) (hs : source.Same source') :
    source'.Asked demands where
  lawful := h.lawful
  underWay := h.underWay.trans hs.pulling.symm
  going hstate hc := h.going (hs.controller ▸ hstate) (hs.canceled ▸ hc)

/-- A source that is readable was readable before. -/
theorem Stays.readable (h : source.Stays source') (hs : source'.controller.state = .readable) :
    source.controller.state = .readable := by
  by_contra hne
  exact hne ((h.controller.state hne).symm.trans hs)

theorem Asked.proceedsTo (h : source.Asked demands) (hp : source.ProceedsTo more source') :
    source'.Asked (more ++ demands) := by
  cases hp with
  | stays hstays hc hpulling _ =>
    exact ⟨h.lawful, h.underWay.trans hpulling.symm,
      fun hs hcanceled => h.going (hstays.readable hs) (hc ▸ hcanceled)⟩
  | pulls outcome hpullable hidle hstays hc hpulling _ hfailed =>
    have hfine := h.going hpullable.readable hpullable.uncanceled
    have hpull : Demand.Lawful (.pull :: demands) := .pull h.lawful hfine (h.underWay.trans hidle)
    refine ⟨.pulled outcome hpull rfl, hpulling.symm, fun hs _ => ?_⟩
    have houtcome : outcome = .ok () := by
      cases outcome with
      | ok => rfl
      | error error => exact absurd hs (hfailed error rfl)
    simpa [Demand.IsFine, houtcome] using hfine
  | begins _ hpullable hidle hstays hc hpulling =>
    have hfine := h.going hpullable.readable hpullable.uncanceled
    exact ⟨.pull h.lawful hfine (h.underWay.trans hidle), hpulling.symm,
      fun _ _ => by simpa [Demand.IsFine] using hfine⟩
  | ends hidle hstays hc hpulling _ =>
    refine ⟨.pulled _ h.lawful (h.underWay.trans hidle), hpulling.symm, fun hs hcanceled => ?_⟩
    simpa [Demand.IsFine] using h.going (hstays.readable hs) (hc ▸ hcanceled)
  | cancels outcome hstate hcanceled hstays hc hpulling _ =>
    exact ⟨.cancel outcome h.lawful (h.going hstate hcanceled), h.underWay.trans hpulling.symm,
      fun _ hnot => by simp [hc] at hnot⟩

theorem Same.pullable (h : source.Same source') (hp : source'.Pullable) : source.Pullable :=
  ⟨h.start ▸ hp.started, h.canceled ▸ hp.uncanceled, h.controller ▸ hp.unended,
    h.controller ▸ hp.readable⟩

/-- A source that may not be pulled is not pulled, and may not be pulled afterwards. -/
theorem ProceedsTo.of_not_pullable (h : source.ProceedsTo more source') (hs : ¬ source.Pullable) :
    .pull ∉ more ∧ ¬ source'.Pullable := by
  cases h with
  | stays hstays hc => exact ⟨by simp, fun hp => hs (hstays.pullable hc hp)⟩
  | pulls _ hpullable | begins _ hpullable => exact absurd hpullable hs
  | ends _ hstays hc => exact ⟨by simp, fun hp => hs (hstays.pullable hc hp)⟩
  | cancels _ _ _ _ hc => exact ⟨by simp, fun hp => by simp [hp.uncanceled] at hc⟩

theorem ProceedsTo.backing (h : source.ProceedsTo more source') :
    source'.backing = source.backing := by
  cases h with
  | stays hstays | pulls _ _ _ hstays | begins _ _ _ hstays | ends _ hstays
  | cancels _ _ _ hstays => exact hstays.backing

/-- The life of a source, with what is asked of it, last first. In the end it may be gone. -/
inductive Life (source : Source E) : List Demand → Option (Source E) → Prop
  | new : Life source [] (some source)
  | proceedsTo {demands more : List Demand} {last last' : Source E} :
    Life source demands (some last) → last.ProceedsTo more last' →
      Life source (more ++ demands) (some last')
  | same {demands : List Demand} {last last' : Source E} :
    Life source demands (some last) → last.Same last' → Life source demands (some last')
  | gone {demands : List Demand} {last : Option (Source E)} :
    Life source demands last → Life source demands none

namespace Life

variable {found : Option (Source E)}

/-- By induction on the life. -/
theorem asked (h : source.Life demands found) (hp : source.pulling = false) :
    Demand.Lawful demands ∧
    ∀ last, found = some last → last.backing = source.backing ∧ last.Asked demands := by
  induction h with
  | new =>
    refine ⟨.nil, fun last hlast => ?_⟩
    cases hlast
    exact ⟨rfl, .new hp⟩
  | proceedsTo _ hproc ih =>
    obtain ⟨hback, hasked⟩ := ih.2 _ rfl
    have hnext := hasked.proceedsTo hproc
    refine ⟨hnext.lawful, fun last hlast => ?_⟩
    cases hlast
    exact ⟨hproc.backing.trans hback, hnext⟩
  | same _ hsame ih =>
    obtain ⟨hback, hasked⟩ := ih.2 _ rfl
    refine ⟨ih.1, fun last hlast => ?_⟩
    cases hlast
    exact ⟨hsame.backing.trans hback, hasked.congr hsame⟩
  | gone _ ih => exact ⟨ih.1, fun _ hlast => by cases hlast⟩

/-- A source that may not be pulled is never pulled again. By induction on the life. -/
theorem shut (h : source.Life demands found) (hs : ¬ source.Pullable) :
    .pull ∉ demands ∧ ∀ last, found = some last → ¬ last.Pullable := by
  induction h with
  | new =>
    refine ⟨by simp, fun last hlast => ?_⟩
    cases hlast
    exact hs
  | proceedsTo _ hproc ih =>
    obtain ⟨hnone, hshut⟩ := hproc.of_not_pullable (ih.2 _ rfl)
    refine ⟨by simp [hnone, ih.1], fun last hlast => ?_⟩
    cases hlast
    exact hshut
  | same _ hsame ih =>
    refine ⟨ih.1, fun last hlast => ?_⟩
    cases hlast
    exact fun hp => ih.2 _ rfl (hsame.pullable hp)
  | gone _ ih => exact ⟨ih.1, fun _ hlast => by cases hlast⟩

end Life

end Source

namespace Session

variable {s t u : Session H E} {id : ReadableId} {source : Source E}
variable {made more : List (WritableId × Bytes)}

/-- The name of a source that is gone is not given to another one. -/
def KeepsSource (id : ReadableId) (s t : Session H E) : Prop :=
  s.streams.source? id = none → t.streams.source? id = none

theorem Turnover.demands_eq (h : s.Turnover t) (id : ReadableId) : t.demands id = s.demands id := by
  rw [Session.demands_eq, Session.demands_eq, h.calls]

variable [Host H]

theorem KeepsSource.of_flowsTo (h : KeepsSource id s u) (hc : t.streams.Composed)
    (hf : t.FlowsTo u) : KeepsSource id s t := fun hnone => (hf.source?_eq_none_iff hc).mp (h hnone)

/-- What is asked of a source is what its life is made of. By induction on the deeds and changes. -/
theorem Story.sourceLife (h : Story (KeepsSource id) s made t) (hc : s.streams.Composed)
    (hs : s.streams.source? id = some source) :
    ∃ demands, t.demands id = demands ++ s.demands id ∧
      source.Life demands (t.streams.source? id) := by
  induction h with
  | refl => exact ⟨[], rfl, hs ▸ .new⟩
  | @deed t u made more hbefore hdeed ih =>
    obtain ⟨demands, hdemands, hlife⟩ := ih
    have ha := hdeed.advancesTo (hbefore.composed hc)
    cases ht : t.streams.source? id with
    | none =>
      obtain ⟨hgone, hsame⟩ := ha.noSource ht
      refine ⟨demands, hsame.trans hdemands, ?_⟩
      rw [hgone, ← ht]
      exact hlife
    | some held =>
      obtain ⟨last, new, hlast, hnew, hp, -⟩ := ha.source ht
      refine ⟨new ++ demands, ?_, ?_⟩
      · rw [hnew, hdemands, List.append_assoc]
      · rw [hlast]
        exact (ht ▸ hlife).proceedsTo hp
  | @shift t u made hbefore hturnover hkeeps ih =>
    obtain ⟨demands, hdemands, hlife⟩ := ih
    refine ⟨demands, (hturnover.demands_eq id).trans hdemands, ?_⟩
    have hshift := hturnover.streams.source id
    generalize hold : t.streams.source? id = old at hshift hlife
    generalize hnew : u.streams.source? id = new at hshift
    cases hshift with
    | kept hsame => exact hlife.same hsame
    | gone => exact hlife.gone
    | made =>
      rw [hkeeps hold] at hnew
      cases hnew

/-! ### Sources over host bodies -/

end Session

/-- A read that has taken something. -/
def BodyUse.Takes : BodyUse → Prop
  | .read _ result => ∃ chunk, result = .ok chunk ∧ chunk ≠ []
  | _ => False

/-- What is done with a body that is read, last first: reads that take something, and after them at
most one more call. That may be a read that fails or finds the end, or the abandonment of the
body. -/
structure BodyUse.Drawn (uses : List BodyUse) : Prop where
  reads : ∀ use ∈ uses.tail, use.Takes
  last : ∀ use ∈ uses.head?, (∃ limit result, use = .read limit result) ∨
    ∃ result, use = .abandon result

namespace Source

variable {source source' : Source E} {uses : List BodyUse}

/-- What has been done with the body of a source, last first. Nothing waits in the source, and as
long as it has neither ended nor failed nor been cancelled, every read has taken something. -/
structure Draws (uses : List BodyUse) (source : Source E) : Prop where
  drawn : BodyUse.Drawn uses
  queue : source.controller.queue = []
  going : source.controller.state = .readable → source.canceled = false → ∀ use ∈ uses, use.Takes

end Source

namespace Session

variable {s t u : Session H E} {id : ReadableId} {source : Source E}
variable {made more : List (WritableId × Bytes)} [Host H]
variable {handle : BodyHandle} {size : UInt64} {log : H → List BodyUse}

omit [Host H] in
/-- A bridge into a source is as old as the source. -/
theorem Turnover.joins (h : s.Turnover t) (hj : t.streams.Joins id) : s.streams.Joins id ∨
    s.streams.source? id = none ∧ ∃ source, t.streams.source? id = some source ∧
    source.IsTransform := by
  obtain ⟨name, bridge, hb, rfl⟩ := hj
  rcases h.streams.bridge hb with ⟨old, hold, hsame⟩ | hnew
  · exact .inl ⟨name, old, hold, hsame⟩
  · exact .inr hnew

/-- Deeds make no bridge. -/
theorem AdvancesTo.joins (h : s.AdvancesTo made t) (hj : t.streams.Joins id) :
    s.streams.Joins id := by
  obtain ⟨name, bridge, hb, rfl⟩ := hj
  obtain ⟨old, hold, hkeeps⟩ := SlotMap.rel_some_right (hb ▸ h.bridge name)
  exact ⟨name, old, hold, hkeeps.readable.symm⟩

/-- A host body is left to one source. -/
abbrev LeavesToSource (handle : BodyHandle) (log : H → List BodyUse) (id : ReadableId)
    (s t : Session H E) : Prop :=
  KeepsSource id s t ∧ Leaves handle log (· = id) (fun _ => False) s t

/-- What the host sees of a source over one of its bodies, if nothing else comes into the source. -/
structure Drawn (handle : BodyHandle) (log : H → List BodyUse) (id : ReadableId)
    (s t : Session H E) : Prop where
  apart : ¬ t.streams.Joins id
  reserves : t.streams.ReservesBody handle (· = id) (fun _ => False)
  uses : ∃ uses, log t.host = uses ++ log s.host ∧ BodyUse.Drawn uses ∧
    ∀ {held}, t.streams.source? id = some held →
      (∃ size, held.backing = .body handle size) ∧ held.Draws uses

theorem Drawn.deed (hw : WatchesBody handle log) (h : Drawn handle log id s t)
    (hc : t.streams.Composed) (hd : Deed t more u) : Drawn handle log id s u := by
  obtain ⟨hapart, hreserves, uses, huses, hdrawn, hheld⟩ := h
  have ha := hd.advancesTo hc
  refine ⟨fun hj => hapart (ha.joins hj), (ha.reserves_iff hc).mpr hreserves, ?_⟩
  have hquiet : u.demands id = t.demands id → log u.host = log t.host := fun hsame =>
    ha.log_eq hw (fun _ _ _ hsource hback => hreserves.source hsource hback ▸ hsame)
      fun _ _ hsink hback => (hreserves.sink hsink hback).elim
  cases ht : t.streams.source? id with
  | none =>
    obtain ⟨hgone, hsame⟩ := ha.noSource ht
    refine ⟨uses, (hquiet hsame).trans huses, hdrawn, fun hlast => ?_⟩
    rw [hgone] at hlast
    cases hlast
  | some held =>
    obtain ⟨⟨size, hback⟩, hdraws⟩ := hheld ht
    obtain ⟨last, new, hlast, hnew, hp, hperforms⟩ := ha.source ht
    obtain ⟨found, hfound, hqueue⟩ := hd.queue_eq_nil hc hapart ht hback hdraws.queue
    rw [hlast] at hfound
    cases hfound
    have hbehind : ∃ size, last.backing = .body handle size := ⟨size, hp.backing.trans hback⟩
    -- it is enough to say what has been done with the body
    suffices hsuffices : ∃ uses, log u.host = uses ++ log s.host ∧ last.Draws uses by
      obtain ⟨uses, huses, hlastDraws⟩ := hsuffices
      refine ⟨uses, huses, hlastDraws.drawn, fun hfound => ?_⟩
      rw [hlast] at hfound
      cases hfound
      exact ⟨hbehind, hlastDraws⟩
    by_cases hasked : new = []
    · subst hasked
      refine ⟨uses, (hquiet hnew).trans huses, hdrawn, hqueue, fun hs hcanceled => ?_⟩
      cases hp with
      | stays hstays hsame => exact hdraws.going (hstays.readable hs) (hsame ▸ hcanceled)
    · rcases hperforms.log_own hw hback hasked with
        ⟨result, rfl, hlog, hempty⟩ | ⟨result, rfl, hlog⟩
      · -- a read is asked by a pull
        generalize houtcome : readResult result = outcome at hp
        cases hp with
        | pulls _ hpullable _ _ _ _ _ hfailed =>
          have htakes := hdraws.going hpullable.readable hpullable.uncanceled
          refine ⟨.read size result :: uses, by rw [hlog, huses, List.cons_append],
            ⟨htakes, by simp⟩, hqueue, fun hs _ => ?_⟩
          rw [List.forall_mem_cons]
          refine ⟨?_, htakes⟩
          cases result with
          | error error => exact absurd hs (hfailed _ houtcome.symm)
          | ok chunk =>
            refine ⟨chunk, rfl, ?_⟩
            rintro rfl
            exact hempty rfl hdraws.queue hs
      · cases hp with
        | cancels _ hstate hnot _ hcanceled =>
          exact ⟨.abandon result :: uses, by rw [hlog, huses, List.cons_append],
            ⟨hdraws.going hstate hnot, by simp⟩, hqueue, fun _ hc => by simp [hcanceled] at hc⟩

omit [Host H] in
theorem Drawn.shift (h : Drawn handle log id s t) (hs : t.Turnover u)
    (hl : LeavesToSource handle log id t u) : Drawn handle log id s u := by
  obtain ⟨hapart, hreserves, uses, huses, hdrawn, hheld⟩ := h
  refine ⟨fun hj => ?_, hl.2.reserves, uses, (hl.2.log hs.calls).trans huses, hdrawn,
    fun hlast => ?_⟩
  · rcases hs.joins hj with hold | ⟨hnone, source, hsome, -⟩
    · exact hapart hold
    · cases (hl.1 hnone).symm.trans hsome
  · have hshift := hs.streams.source id
    rw [hlast] at hshift
    generalize hold : t.streams.source? id = old at hshift
    cases hshift with
    | kept hsame =>
      obtain ⟨⟨size, hback⟩, hdraws⟩ := hheld hold
      exact ⟨⟨size, hsame.backing.trans hback⟩, hdraws.drawn, hsame.controller ▸ hdraws.queue,
        fun hstate hcanceled => hdraws.going (hsame.controller ▸ hstate)
          (hsame.canceled ▸ hcanceled)⟩
    | made => cases (hl.1 hold).symm.trans hlast

/-- By induction on the deeds and changes. -/
theorem Story.drawn (hw : WatchesBody handle log)
    (h : Story (LeavesToSource handle log id) s made t) (hc : s.streams.Composed)
    (hs : Drawn handle log id s s) : Drawn handle log id s t := by
  induction h with
  | refl => exact hs
  | deed hbefore hdeed ih => exact ih.deed hw (hbefore.composed hc) hdeed
  | shift _ hturnover hleaves ih => exact ih.shift hturnover hleaves

end Session

end EdgeStreams
