import EdgeStreams.Host.Memory
import EdgeStreams.Proofs.Host.Watching
import EdgeStreams.Proofs.Session.Operating

/-!
# What the host sees of a stream

The host is called for a stream only when something is asked of the stream, and then once. If nobody
else uses a host body, all calls on it are made for its stream.

## Main definitions

- `Registry.ReservesBody`: only some streams are over a host body
- `Session.Leaves`: the host is called about a body only for streams, and only for these

## Main statements

- `Source.Performs.log_own`, `Sink.Performs.log_own`: the one call that is made
- `Session.AdvancesTo.log_eq`: no call is made on a body for other streams
-/

namespace EdgeStreams

variable {H E : Type} {handle : BodyHandle} {log : H → List BodyUse}

/-- What a sink over a host body was asked when the call was made. -/
def BodyUse.sinkCall? : BodyUse → Option SinkCall
  | .write chunk result => some (.write chunk (result.mapError (.host .bodyWrite)))
  | .close result => some (.close (result.mapError (.host .bodyClose)))
  | .abandon result => some (.abort (result.mapError (.host .bodyAbandon)))
  | .read _ _ | .move _ => none

section Performs

variable [Host H] {s t : Session H E} {source source' : Source E} {sink : Sink E}
variable {demands : List Demand} {call : SinkCall}

/-- What is asked of a source over a host body is one call on it. -/
theorem Source.Performs.log_own (h : source.Performs s t source' demands)
    (hw : WatchesBody handle log) {size : UInt64} (hb : source.backing = .body handle size)
    (hd : demands ≠ []) :
    (∃ result, demands = [.pulled (readResult result), .pull] ∧
      log t.host = .read size result :: log s.host ∧
        (result = .ok [] → source.controller.queue = [] →
          source'.controller.state ≠ .readable)) ∨
      ∃ result, demands = [.cancel (result.mapError (.host .bodyAbandon))] ∧
        log t.host = .abandon result :: log s.host := by
  cases h with
  | nothing => exact absurd rfl hd
  | @read other limit result hback _ hcall hend =>
    obtain ⟨hother, hlimit⟩ := SourceBacking.body.inj (hback.symm.trans hb)
    have hlog := hw.read other limit s.host
    rw [if_pos hother, hcall, hlimit] at hlog
    exact .inl ⟨_, rfl, hlog, fun he => (hend he).2⟩
  | @abandon other limit result hback _ hcall =>
    obtain ⟨hother, -⟩ := SourceBacking.body.inj (hback.symm.trans hb)
    have hlog := hw.abandon other s.host
    rw [if_pos hother, hcall] at hlog
    exact .inr ⟨_, rfl, hlog⟩
  | pull hback | cancel hback => cases hback.symm.trans hb
  | relay ht =>
    obtain ⟨name, hname⟩ := ht
    cases hname.symm.trans hb

theorem Source.Performs.log_other (h : source.Performs s t source' demands)
    (hw : WatchesBody handle log) (hb : ∀ size, source.backing ≠ .body handle size)
    (hd : demands ≠ []) :
    log t.host = log s.host := by
  cases h with
  | nothing => exact absurd rfl hd
  | @read other size result hback _ hcall =>
    have hlog := hw.read other size s.host
    have hne : other ≠ handle := by
      rintro rfl
      exact hb _ hback
    rwa [if_neg hne, hcall] at hlog
  | @abandon other size result hback _ hcall =>
    have hlog := hw.abandon other s.host
    have hne : other ≠ handle := by
      rintro rfl
      exact hb _ hback
    rwa [if_neg hne, hcall] at hlog
  | pull _ hsame | cancel _ hsame | relay _ hsame => rw [hsame]

/-- What is asked of a sink over a host body is one call on it. -/
theorem Sink.Performs.log_own (h : sink.Performs s t call) (hw : WatchesBody handle log)
    (hb : sink.backing = .body handle) :
    ∃ use, BodyUse.sinkCall? use = some call ∧ log t.host = use :: log s.host := by
  cases h with
  | @bodyWrite other chunk result hback _ hcall =>
    have hother := SinkBacking.body.inj (hback.symm.trans hb)
    have hlog := hw.write other chunk s.host
    rw [if_pos hother, hcall] at hlog
    exact ⟨_, rfl, hlog⟩
  | @bodyClose other result hback _ hcall =>
    have hother := SinkBacking.body.inj (hback.symm.trans hb)
    have hlog := hw.close other s.host
    rw [if_pos hother, hcall] at hlog
    exact ⟨_, rfl, hlog⟩
  | @bodyAbandon other result hback _ hcall =>
    have hother := SinkBacking.body.inj (hback.symm.trans hb)
    have hlog := hw.abandon other s.host
    rw [if_pos hother, hcall] at hlog
    exact ⟨_, rfl, hlog⟩
  | guestWrite hback | guestClose hback | guestAbort hback | transform hback | flush hback
  | drop hback => cases hback.symm.trans hb

theorem Sink.Performs.log_other (h : sink.Performs s t call) (hw : WatchesBody handle log)
    (hb : sink.backing ≠ .body handle) : log t.host = log s.host := by
  have hne : ∀ {other}, sink.backing = .body other → other ≠ handle := by
    rintro other hback rfl
    exact hb hback
  cases h with
  | @bodyWrite other chunk result hback _ hcall =>
    have hlog := hw.write other chunk s.host
    rwa [if_neg (hne hback), hcall] at hlog
  | @bodyClose other result hback _ hcall =>
    have hlog := hw.close other s.host
    rwa [if_neg (hne hback), hcall] at hlog
  | @bodyAbandon other result hback _ hcall =>
    have hlog := hw.abandon other s.host
    rwa [if_neg (hne hback), hcall] at hlog
  | guestWrite _ hsame | guestClose _ hsame | guestAbort _ hsame | transform _ hsame | flush _ hsame
  | drop _ hsame => rw [hsame]

end Performs

/-- Only some streams are over a host body. -/
structure Registry.ReservesBody (handle : BodyHandle) (readable : ReadableId → Prop)
    (writable : WritableId → Prop) (streams : Registry E) : Prop where
  source : ∀ {id source size}, streams.source? id = some source →
    source.backing = .body handle size → readable id
  sink : ∀ {id sink}, streams.sink? id = some sink → sink.backing = .body handle → writable id

namespace Registry

variable {streams : Registry E}

theorem reserves_new (config : StreamConfig) (handle : BodyHandle) :
    (Registry.new config : Registry E).ReservesBody handle (fun _ => False) (fun _ => False) where
  source hs := by cases hs.symm.trans (SlotMap.get?_empty _)
  sink hs := by cases hs.symm.trans (SlotMap.get?_empty _)

/-- A body over which there is no stream is that of a new sink. -/
theorem ReservesBody.addSink (h : streams.ReservesBody handle (fun _ => False) (fun _ => False))
    (wf : streams.WellFormed) (sink : Sink E) :
    (streams.addSink sink).2.ReservesBody handle (fun _ => False)
      (· = (streams.addSink sink).1) where
  source := h.source
  sink {id found} hs hb := by
    by_contra hne
    rw [sink?_addSink wf, if_neg hne] at hs
    exact h.sink hs hb

/-- A body over which there is no stream is that of a new source. -/
theorem ReservesBody.addSource (h : streams.ReservesBody handle (fun _ => False) (fun _ => False))
    (wf : streams.WellFormed) (source : Source E) :
    (streams.addSource source).2.ReservesBody handle (· = (streams.addSource source).1)
      (fun _ => False) where
  source {id found size} hs hb := by
    by_contra hne
    rw [source?_addSource wf, if_neg hne] at hs
    exact h.source hs hb
  sink := h.sink

end Registry

namespace Session

/-- A new session with a host in memory whose calls are recorded. -/
def recorded (host : MemoryHost) : Session (Recorded MemoryHost) Unit where
  host := ⟨host, []⟩
  env := ()
  streams := .new {}

variable {s t u : Session H E} {readable : ReadableId → Prop} {writable : WritableId → Prop}

/-- Only some streams are over a host body, and the host is called about it for streams only. -/
structure Leaves (handle : BodyHandle) (log : H → List BodyUse) (readable : ReadableId → Prop)
    (writable : WritableId → Prop) (s t : Session H E) : Prop where
  reserves : t.streams.ReservesBody handle readable writable
  log : t.calls = s.calls → log t.host = log s.host

variable [Host H] {made : List (WritableId × Bytes)}

/-- A deed for which no stream over a body has been asked anything makes no call on it. -/
theorem AdvancesTo.log_eq (h : s.AdvancesTo made t) (hw : WatchesBody handle log)
    (hsource : ∀ id source size, s.streams.source? id = some source →
      source.backing = .body handle size → t.demands id = s.demands id)
    (hsink : ∀ id sink, s.streams.sink? id = some sink → sink.backing = .body handle →
      t.sinkCalls id = s.sinkCalls id) : log t.host = log s.host := by
  rcases h.host with hsame | ⟨id, source, other, size, hs, hback, hd⟩ |
    ⟨id, sink, other, hs, hback, hd⟩
  · rw [hsame]
  · obtain ⟨source', demands, -, hdemands, -, hperforms⟩ := h.source hs
    refine hperforms.log_other hw (fun size' hb => hd (hsource id source size' hs hb)) ?_
    rintro rfl
    exact hd hdemands
  · obtain ⟨sink', calls, -, hcalls, -, -, hperforms⟩ := h.sink hs
    cases calls with
    | nil => exact absurd hcalls hd
    | cons call calls =>
      exact (hperforms call List.mem_cons_self).log_other hw fun hb => hd (hsink id sink hs hb)

/-- Deeds leave what is behind a stream, and make none and take none out. -/
theorem AdvancesTo.reserves_iff (h : s.AdvancesTo made t) (hc : s.streams.Composed) :
    t.streams.ReservesBody handle readable writable ↔
    s.streams.ReservesBody handle readable writable := by
  constructor
  · intro hr
    refine ⟨fun {id source size} hs hb => ?_, fun {id sink} hs hb => ?_⟩
    · obtain ⟨source', demands, ht, -, hp, -⟩ := h.source hs
      exact hr.source ht ((hc.source_proceedsTo hs hp).1.backing.trans hb)
    · obtain ⟨sink', calls, ht, -, hp, -⟩ := h.sink hs
      exact hr.sink ht ((hc.sink_proceedsTo hs hp).1.trans hb)
  · intro hr
    refine ⟨fun {id source' size} ht hb => ?_, fun {id sink'} ht hb => ?_⟩
    · obtain ⟨source, demands, hs, hp⟩ := h.source_before ht
      exact hr.source hs ((hc.source_proceedsTo hs hp).1.backing.symm.trans hb)
    · obtain ⟨sink, calls, hs, hp⟩ := h.sink_before ht
      exact hr.sink hs ((hc.sink_proceedsTo hs hp).1.symm.trans hb)

/-- By induction on the deeds. -/
theorem Course.reserves_iff (h : Course s made t) (hc : s.streams.Composed) :
    t.streams.ReservesBody handle readable writable ↔
    s.streams.ReservesBody handle readable writable := by
  induction h with
  | refl => exact .rfl
  | step hbefore hdeed ih =>
    have hcomposed := hbefore.composed hc
    exact ((hdeed.advancesTo hcomposed).reserves_iff hcomposed).trans ih

/-- What an operation leaves alone is left alone by its change of the registry. -/
theorem Leaves.of_flowsTo (h : Leaves handle log readable writable s u) (hs : s.Turnover t)
    (hc : s.streams.Composed) (hf : t.FlowsTo u) (hkind : t = u ∨ t.host = s.host) :
    Leaves handle log readable writable s t := by
  obtain ⟨⟨made, hcourse⟩, -⟩ := hf
  refine ⟨(hcourse.reserves_iff (hs.streams.composed hc)).mp h.reserves, fun hcalls => ?_⟩
  rcases hkind with rfl | hsame
  · exact h.log hcalls
  · rw [hsame]

end Session

end EdgeStreams
