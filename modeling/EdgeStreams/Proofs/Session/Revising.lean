import EdgeStreams.Proofs.Session.Advancing
import EdgeStreams.Proofs.Session.Quiescence

/-!
# Work on one source

Reading a host body or a guest changes the source and nothing else in the registry.

## Main definitions

- `Session.Revised`: a source is another one, and no other stream has changed

## Main statements

- `Session.revised_readUnchecked`: reading a host body or a guest
- `Session.Revised.advancesTo`: work on one source does no more than deeds do
-/

namespace EdgeStreams

variable {H E : Type}

namespace Session

variable {s t u : Session H E}

section Sources

variable {id : ReadableId} {source source' source'' : Source E} {calls : List StreamEvent}
variable {host : H} {env : E}

/-- A source is another one, and nothing else has happened but to host, guests and journal. -/
def Revised (id : ReadableId) (source' : Source E) (calls : List StreamEvent) (host : H) (env : E)
    (s t : Session H E) : Prop :=
  ∃ new, List.filter StreamEvent.isCall new = calls ∧
    t = setSource id source' { s with host, env, journal := new ++ s.journal }

namespace Revised

theorem refl (hs : s.streams.source? id = some source) : Revised id source [] s.host s.env s s :=
  ⟨[], rfl, (setSource_self hs).symm⟩

theorem setSource (h : Revised id source' calls host env s t) (source'' : Source E) :
    Revised id source'' calls host env s (Session.setSource id source'' t) := by
  obtain ⟨new, hnew, rfl⟩ := h
  exact ⟨new, hnew, by simp [Session.setSource, mapStreams]⟩

theorem call (h : Revised id source' calls host env s t) {event : StreamEvent}
    (he : event.isCall = true) :
    Revised id source' (event :: calls) host env s (note event t) := by
  obtain ⟨new, rfl, rfl⟩ := h
  exact ⟨event :: new, by simp [he], rfl⟩

theorem note (h : Revised id source' calls host env s t) {event : StreamEvent}
    (he : event.isCall = false) : Revised id source' calls host env s (note event t) := by
  obtain ⟨new, rfl, rfl⟩ := h
  exact ⟨event :: new, by simp [he], rfl⟩

theorem noteEnqueued (h : Revised id source' calls host env s t) (other : ReadableId)
    (chunks : List Bytes) : Revised id source' calls host env s (noteEnqueued other chunks t) := by
  obtain ⟨new, rfl, rfl⟩ := h
  refine ⟨chunks.map (.enqueued other) ++ new, ?_, by
    simp [Session.noteEnqueued, Session.setSource, mapStreams]⟩
  rw [List.filter_append]
  simp [List.filter_eq_nil_iff, StreamEvent.isCall]

theorem onHost (h : Revised id source' calls host env s t) (host' : H) :
    Revised id source' calls host' env s { t with host := host' } := by
  obtain ⟨new, hnew, rfl⟩ := h
  exact ⟨new, hnew, rfl⟩

theorem inEnv (h : Revised id source' calls host env s t) (env' : E) :
    Revised id source' calls host env' s { t with env := env' } := by
  obtain ⟨new, hnew, rfl⟩ := h
  exact ⟨new, hnew, rfl⟩

theorem source? (h : Revised id source' calls host env s t)
    (hs : s.streams.source? id = some source) : t.streams.source? id = some source' := by
  obtain ⟨new, -, rfl⟩ := h
  simp [Registry.source?_setSource, hs]

theorem source?_other (h : Revised id source' calls host env s t) {other : ReadableId}
    (hne : other ≠ id) : t.streams.source? other = s.streams.source? other := by
  obtain ⟨new, -, rfl⟩ := h
  simp [Registry.source?_setSource, hne]

theorem calls_eq (h : Revised id source' calls host env s t) : t.calls = calls ++ s.calls := by
  obtain ⟨new, rfl, rfl⟩ := h
  exact List.filter_append _ _

theorem host_eq (h : Revised id source' calls host env s t) : t.host = host ∧ t.env = env := by
  obtain ⟨new, -, rfl⟩ := h
  exact ⟨rfl, rfl⟩

end Revised

/-- A source has been worked on, and other streams besides. -/
theorem Revised.advancesTo [Host H] {events : List StreamEvent}
    (hs : s.streams.source? id = some source)
    (h : Revised id source' calls host env s t) (hr : WorkedInto events t u)
    (hsinks : ∀ w, (events ++ calls).filterMap (StreamEvent.sinkCall? w) = [])
    (hother : ∀ r, r ≠ id → (events ++ calls).filterMap (StreamEvent.demand? r) = [])
    (hp : source.ProceedsTo ((events ++ calls).filterMap (StreamEvent.demand? id)) source')
    (hperforms : source.Performs s u source' ((events ++ calls).filterMap (StreamEvent.demand? id)))
    (hhost : (events ++ calls).filterMap (StreamEvent.demand? id) = [] → u.host = s.host) :
    s.AdvancesTo [] u := by
  have hcalls : u.calls = (events ++ calls) ++ s.calls := by
    rw [hr.calls, h.calls_eq, List.append_assoc]
  have hsink : ∀ other, t.streams.sink? other = s.streams.sink? other := by
    obtain ⟨new, -, rfl⟩ := h
    exact fun _ => rfl
  have hbridge : ∀ other, t.streams.bridge? other = s.streams.bridge? other := by
    obtain ⟨new, -, rfl⟩ := h
    exact fun _ => rfl
  constructor
  · intro other found hother'
    by_cases he : other = id
    -- the source itself: what was demanded of it, and then the other work on it
    · subst he
      rw [hs] at hother'
      cases hother'
      obtain ⟨last, hu, hrip⟩ := SlotMap.rel_some_left (h.source? hs ▸ hr.source other)
      exact ⟨last, _, hu, demands_append hcalls other, hp.workedInto hrip,
        hperforms.workedInto hrip⟩
    · obtain ⟨last, hu, hrip⟩ :=
        SlotMap.rel_some_left (((h.source?_other he).trans hother') ▸ hr.source other)
      exact ⟨last, [], hu, by rw [demands_append hcalls, hother other he],
        hrip.proceedsTo, .nothing⟩
  · intro other hnone
    have hne : other ≠ id := by
      rintro rfl
      rw [hs] at hnone
      cases hnone
    have hrel := hr.source other
    rw [h.source?_other hne, hnone] at hrel
    exact ⟨SlotMap.rel_none_left hrel, by
      rw [demands_append hcalls, hother other hne, List.nil_append]⟩
  · intro other sink hsome
    obtain ⟨last, hu, hrip⟩ := SlotMap.rel_some_left (((hsink other).trans hsome) ▸ hr.sink other)
    exact ⟨last, [], hu, by rw [sinkCalls_append hcalls, hsinks], .stays hrip.stays, rfl, nofun⟩
  · intro other hnone
    have hrel := hr.sink other
    rw [hsink, hnone] at hrel
    exact ⟨SlotMap.rel_none_left hrel, by
      rw [sinkCalls_append hcalls, hsinks, List.nil_append]⟩
  · exact fun other => hbridge other ▸ hr.bridge other
  -- the host is asked only where something is demanded of the source
  · by_cases hnone : (events ++ calls).filterMap (StreamEvent.demand? id) = []
    · exact .inl (hhost hnone)
    · rcases hperforms.host hnone with ⟨handle, size, hback⟩ | hsame
      · refine .inr (.inl ⟨id, source, handle, size, hs, hback, ?_⟩)
        rw [demands_append hcalls]
        exact fun hsame => hnone (List.append_left_eq_self.mp hsame)
      · exact .inl hsame

/-! ### Reading a host body or a guest -/

theorem Revised.takeReady (h : Revised id source' calls host env s t)
    (hs : s.streams.source? id = some source) :
    Revised id { source' with controller := source'.controller.takeReady.2 } calls host env s
      (exec (takeReady id) t).2 := by
  rw [exec_takeReady (h.source? hs)]
  unfold noteDelivered
  split
  · exact (h.setSource _).note rfl
  · exact h.setSource _

section Native

variable [Host H]

/-- A pull of a host body is one read of it. -/
theorem Revised.pullBody {handle : BodyHandle} {size : UInt64} {result : Except HostError Bytes}
    {host' : H} (h : Revised id source' calls host env s t)
    (hs : s.streams.source? id = some source) (hopen : source'.controller.IsOpen)
    (hread : exec (Host.bodyRead handle size) host = (result, host')) :
    (exec (pullBody id handle size) t).1 = readResult result ∧
      ∃ controller, source'.controller.ProceedsTo controller ∧
        (result = .ok [] → ¬ controller.IsOpen ∧
          (source'.controller.queue = [] → controller.state ≠ .readable)) ∧
          Revised id { source' with controller } calls host' env s
            (exec (pullBody id handle size) t).2 := by
  obtain ⟨hhost, -⟩ := h.host_eq
  rw [← hhost] at hread
  have hcalled := h.onHost host'
  cases result with
  | error error =>
    rw [exec_pullBody_error hread]
    exact ⟨rfl, source'.controller, .refl _, nofun, hcalled⟩
  | ok chunk =>
    by_cases hchunk : chunk = []
    · subst hchunk
      rw [exec_pullBody_end (h.source? hs) hopen.state hopen.close hread]
      refine ⟨rfl, _, .close_call _, fun _ => ⟨ReadableController.not_open_close _, fun hq => ?_⟩,
        hcalled.setSource _⟩
      simp [ReadableController.close_of_open hopen.state hopen.close, hq]
    · rw [exec_pullBody_chunk (h.source? hs) hopen.state hopen.close hchunk hread]
      refine ⟨rfl, _, ?_, fun he => absurd (Except.ok.inj he) hchunk,
        (hcalled.setSource _).noteEnqueued _ _⟩
      have henqueue := ReadableController.ProceedsTo.enqueue source'.controller chunk
      rwa [ReadableController.enqueue_of_open hopen.state hopen.close hchunk] at henqueue

omit [Host H] in
/-- A pull of a guest is one call of it. -/
theorem Revised.pullScript (h : Revised id source' calls host env s t)
    (hs : s.streams.source? id = some source) (guest : UnderlyingSource E) :
    let worked := (guest.pull env).run SourceDesk.perform { controller := source'.controller }
    (exec (pullScript id guest) t).1 = worked.1.1 ∧
      Revised id { source' with controller := worked.2.controller } calls host worked.1.2 s
        (exec (pullScript id guest) t).2 := by
  obtain ⟨-, rfl⟩ := h.host_eq
  simp only [Session.pullScript, exec_bind, exec_source, h.source? hs, Registry.need_some]
  exact ⟨rfl, ((h.inEnv _).setSource _).noteEnqueued _ _⟩

/-- A pull of a host body or a guest is one call, and changes the controller. -/
theorem Revised.pull {fuel : Nat} {r : Except StreamError Unit × Session H E}
    (h : Revised id source' calls s.host s.env s t) (hs : s.streams.source? id = some source)
    (hopen : source'.controller.IsOpen) (hn : ¬ source'.IsTransform)
    (hr : attempt (pull fuel id) t = some r) :
    ∃ controller host env, source'.controller.ProceedsTo controller ∧
      Revised id { source' with controller } calls host env s r.2 ∧
        source'.Performs s r.2 { source' with controller } [.pulled r.1, .pull] := by
  cases fuel with
  | zero => cases hr
  | succ fuel =>
    rw [attempt_pull, h.source? hs] at hr
    dsimp only at hr
    split at hr
    · next handle size hback =>
      cases hr
      cases hread : exec (Host.bodyRead handle size) s.host with
      | mk result host =>
        obtain ⟨hresult, controller, hproceeds, hend, hpulled⟩ := h.pullBody hs hopen hread
        refine ⟨controller, host, s.env, hproceeds, hpulled, ?_⟩
        obtain ⟨hhost, henv⟩ := hpulled.host_eq
        rw [hresult]
        exact .read hback henv (hhost ▸ hread) hend
    · next guest hback =>
      cases hr
      obtain ⟨hresult, hpulled⟩ := h.pullScript hs guest
      refine ⟨_, _, _, .run (guest.pull s.env) { controller := source'.controller }, hpulled, ?_⟩
      obtain ⟨hhost, henv⟩ := hpulled.host_eq
      have hran : ((guest.pull s.env).run SourceDesk.perform
          { controller := source'.controller }).1 =
            ((exec (Session.pullScript id guest) t).1,
              (exec (Session.pullScript id guest) t).2.env) := by rw [hresult, henv]
      exact .pull hback hhost hran fun call hmakes he => SourceDesk.not_open_of_makes hmakes he
    · next name hb => exact absurd ⟨name, hb⟩ hn

/-- A source that is not being pulled is pulled once, if that is of use. -/
theorem Revised.pullIfNeeded {fuel : Nat} {waits : Bool} {r : Unit × Session H E}
    (h : Revised id source' calls s.host s.env s t) (hs : s.streams.source? id = some source)
    (hn : ¬ source'.IsTransform) (hp : source'.pulling = false) (ha : source'.pullAgain = false)
    (hr : drive (pullIfNeeded fuel id waits) t = some r) :
    r.2 = t ∨ ∃ outcome source'' host env, source'.ProceedsTo [.pulled outcome, .pull] source'' ∧
      Revised id source'' (.pullEnded id outcome :: .pullBegan id :: calls) host env s r.2 ∧
        source'.Performs s r.2 source'' [.pulled outcome, .pull] := by
  cases fuel with
  | zero => cases hr
  | succ fuel =>
    rcases pullIfNeeded_cases (h.source? hs) hr with
      ⟨-, rfl⟩ | ⟨hwants, ⟨hpulling, -⟩ | ⟨-, outcome, u, hpull, hafter⟩⟩
    · exact .inl rfl
    · cases hp.symm.trans hpulling
    have hpullable : source'.Pullable := Source.pullable_of_wantsPull hwants
    have hbegan := (h.setSource { source' with pulling := true }).call
      (show (StreamEvent.pullBegan id).isCall = true from rfl)
    obtain ⟨controller, host, env, hproceeds, hpulled, hperforms⟩ :=
      hbegan.pull hs ⟨hpullable.readable, hpullable.unended⟩ hn hpull
    have hended := hpulled.call (show (StreamEvent.pullEnded id outcome).isCall = true from rfl)
    have hfound := hpulled.source? hs
    refine .inr ⟨outcome, ?_⟩
    cases hafter with
    | gone _ hgone => cases hfound.symm.trans hgone
    | failed error last hlast =>
      cases hfound.symm.trans hlast
      refine ⟨{ source' with pulling := false, controller := controller.error error }, host, env,
        ?_, hended.setSource _, hperforms.congr rfl (fun hq => hq)
          rfl rfl (.error controller error)⟩
      refine .pulls _ hpullable hp ⟨rfl, rfl, hproceeds.trans (.error _ _)⟩ rfl rfl ha
        fun _ _ => ?_
      unfold ReadableController.error
      dsimp only
      split
      · simp
      · assumption
    | settled last hlast =>
      cases hfound.symm.trans hlast
      exact ⟨{ source' with pulling := false, pullAgain := false, controller }, host, env,
        .pulls _ hpullable hp ⟨rfl, rfl, hproceeds⟩ rfl rfl rfl nofun, hended.setSource _,
        hperforms.congr rfl (fun hq => hq) rfl rfl (.refl _)⟩
    | again last hlast hagain =>
      cases hfound.symm.trans hlast
      cases ha.symm.trans hagain

/-- Reading a host body or a guest takes what is ready, and may pull the source once. -/
theorem revised_readUnchecked {fuel : Nat} {r : Except StreamError ReadOutcome × Session H E}
    (hs : s.streams.source? id = some source) (hn : ¬ source.IsTransform)
    (hp : source.pulling = false) (ha : source.pullAgain = false)
    (hr : attempt (readUnchecked fuel id) s = some r) :
    (∃ source', source.ProceedsTo [] source' ∧ Revised id source' [] s.host s.env s r.2) ∨
      ∃ outcome source' host env, source.ProceedsTo [.pulled outcome, .pull] source' ∧
        Revised id source' [.pullEnded id outcome, .pullBegan id] host env s r.2 ∧
          source.Performs s r.2 source' [.pulled outcome, .pull] := by
  cases fuel with
  | zero => cases hr
  | succ fuel =>
    have hunread : ∃ source', source.ProceedsTo [] source' ∧
        Revised id source' [] s.host s.env s s :=
      ⟨source, .stays (.refl _) rfl rfl .inl, .refl hs⟩
    rcases readUnchecked_cases hs hr with ⟨-, rfl⟩ | ⟨error, -, rfl⟩ | ⟨-, found, t, htake, hfound⟩
    · exact .inl hunread
    · exact .inl hunread
    have htaken := ((Revised.refl hs).setSource { source with disturbed := true }).takeReady hs
    have hstays : source.Stays { source with
        disturbed := true, controller := source.controller.takeReady.2 } :=
      ⟨rfl, rfl, .takeReady _⟩
    change Revised id _ [] s.host s.env s (exec (takeReady id) (disturb id source s)).2 at htaken
    rw [htake] at htaken
    have hquiet : ∃ source', source.ProceedsTo [] source' ∧
        Revised id source' [] s.host s.env s t :=
      ⟨_, .stays hstays rfl rfl .inl, htaken⟩
    -- what is ready may be all there is to it; otherwise the source is pulled if that is of use
    have hpull : ∀ {waits : Bool} {pulled : Unit × Session H E},
        drive (Session.pullIfNeeded fuel id waits) t = some pulled →
          (∃ source', source.ProceedsTo [] source' ∧
            Revised id source' [] s.host s.env s pulled.2) ∨
            ∃ outcome source' host env, source.ProceedsTo [.pulled outcome, .pull] source' ∧
              Revised id source' [.pullEnded id outcome, .pullBegan id] host env s pulled.2 ∧
                source.Performs s pulled.2 source' [.pulled outcome, .pull] := by
      intro waits pulled hpulled
      rcases htaken.pullIfNeeded hs hn hp ha hpulled with heq |
        ⟨outcome, source', host, env, hproc, hrev, hperforms⟩
      · exact .inl (heq ▸ hquiet)
      · exact .inr ⟨outcome, source', host, env, .pulls_after hstays rfl rfl hproc, hrev,
          hperforms.congr rfl source.controller.queue_takeReady_of_nil rfl rfl (.refl _)⟩
    cases hfound with
    | settled => exact .inl hquiet
    | full data u hpulled => exact hpull hpulled
    | empty u hpulled =>
      rcases hpull hpulled with ⟨source', hproc, hrev⟩ |
        ⟨outcome, source', host, env, hproc, hrev, hperforms⟩
      · exact .inl ⟨_, hproc.workedInto ⟨rfl, .takeReady _⟩, hrev.takeReady hs⟩
      · have hlast := hrev.takeReady hs
        obtain ⟨hhost, henv⟩ := hrev.host_eq
        obtain ⟨hhost', henv'⟩ := hlast.host_eq
        exact .inr ⟨outcome, _, host, env, hproc.workedInto ⟨rfl, .takeReady _⟩, hlast,
          hperforms.congr rfl (fun hq => hq)
            (hhost'.trans hhost.symm) (henv'.trans henv.symm) (.takeReady _)⟩

end Native

end Sources

end Session

end EdgeStreams
