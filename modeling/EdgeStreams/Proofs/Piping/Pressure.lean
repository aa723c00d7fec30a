import EdgeStreams.Proofs.Piping.Easing
import EdgeStreams.Proofs.Registry.Room

/-!
# What holds a writer back

A transform stream holds its writers back while its readable half is full. Then one chunk is let
through once the readable half has been pulled. A pull comes from a reader that has found nothing,
or finds room in the queue; only a write adds to the queue, and it takes the permission away. So
nobody is let through to a readable half that is full.

## Main definitions

- `Session.PulledSince`: a readable half has been pulled since the last write
- `Session.AdmitsWrite`: there is room in a transform stream, or a reader waits for it
- `Session.Regular`: what holds of transform streams between two deeds
- `Session.Bounded`: what an identity transformer has queued at most

## Main statements

- `Session.Regular.admits_of_ready`: a pipe that finds its destination ready is let through rightly
- `Session.Regular.eased`, `Session.Regular.write`, `Session.Regular.request`: deeds
- `Session.AdmitsWrite.nothingAdded`: what lets a writer through, until it writes
- `Session.Bounded.nothingAdded`, `Session.Bounded.write`: what is queued after a deed
-/

namespace EdgeStreams

variable {H E : Type}

/-- A queue with room in it holds fewer octets than the mark says. -/
theorem lt_of_room_pos {mark : UInt64} {queued : Nat} (h : 0 < room mark queued) :
    queued < mark.toNat :=
  ((room_pos_iff mark queued).mp h).1

namespace Session

variable {s t : Session H E} {mark : UInt64} {name : BridgeId} {bridge : Bridge E}
  {source : Source E}

section Deeds

variable [Host H]

/-! ### Pulls since the last write -/

/-- A readable half has been pulled since the last write to the writable half. -/
def PulledSince (r : ReadableId) (w : WritableId) (s : Session H E) : Prop :=
  ∃ before after, s.journal = after ++ .pullBegan r :: before ∧
    ∀ chunk outcome, .written w chunk outcome ∉ after

/-- The journal only grows. -/
theorem Deed.journal {made : List (WritableId × Bytes)} (hd : Deed s made t) :
    ∃ new, t.journal = new ++ s.journal := by
  cases hd with
  | read _ _ hr => exact (flowMoves _).readUnchecked hr |>.journal
  | take hs _ =>
    obtain ⟨new, -, he⟩ := (Revised.refl hs).takeReady hs
    exact ⟨new, by rw [he]; rfl⟩
  | disturb | ask | request | drive => exact ⟨[], rfl⟩
  | beginPull => exact ⟨[_], rfl⟩
  | endPull => exact ⟨[_], rfl⟩
  | cancel id reason => exact (changesWithin_cancelUnchecked .refl reason s .refl).journal
  | write chunk _ | refuse chunk _ => exact (changesWithin_write s _ chunk _).journal
  | close id => exact (changesWithin_closeUnchecked .refl s .refl).journal
  | abort id reason => exact (changesWithin_abortUnchecked .refl reason s .refl).journal
  | finish id state => exact ⟨[], rfl⟩

/-- Only a write makes a pull be forgotten. -/
theorem Deed.pulledSince {made : List (WritableId × Bytes)} (hd : Deed s made t)
    (hc : s.streams.Composed) {r : ReadableId} {w : WritableId} (hw : ∀ chunk, (w, chunk) ∉ made)
    (h : s.PulledSince r w) : t.PulledSince r w := by
  obtain ⟨before, after, hbefore, hunwritten⟩ := h
  obtain ⟨new, hnew⟩ := hd.journal
  refine ⟨before, new ++ after, by rw [hnew, hbefore, List.append_assoc],
    fun chunk outcome hm => ?_⟩
  rcases List.mem_append.mp hm with hm | hm
  · -- what is written is one of the writes that have been made
    have hadvances := hd.advancesTo hc
    have hcalls : ∃ calls, t.sinkCalls w = calls ++ s.sinkCalls w ∧
        calls.filterMap SinkCall.chunk? = [] := by
      have hnone : chunksTo w made = [] := by
        simp only [chunksTo, List.map_eq_nil_iff, List.filter_eq_nil_iff, decide_eq_true_eq]
        rintro ⟨other, written⟩ hmade rfl
        exact hw written hmade
      cases hk : s.streams.sink? w with
      | none => exact ⟨[], (hadvances.noSink hk).2, rfl⟩
      | some sink =>
        obtain ⟨sink', calls, -, hcalls, -, hchunks, -⟩ := hadvances.sink hk
        exact ⟨calls, hcalls, hchunks.trans hnone⟩
    obtain ⟨calls, hcalls, hnone⟩ := hcalls
    rw [sinkCalls, hnew, List.filterMap_append] at hcalls
    rw [← List.append_cancel_right hcalls, List.filterMap_filterMap,
      List.filterMap_eq_nil_iff] at hnone
    simpa [StreamEvent.sinkCall?, SinkCall.chunk?] using hnone _ hm
  · exact hunwritten chunk outcome hm

/-! ### Who is let through -/

/-- What holds in a transform stream when a pipe hands a chunk to its writable half: the readable
half holds less than the mark, or nothing and it has been pulled since the last write. -/
def AdmitsWrite (mark : UInt64) (w : WritableId) (s : Session H E) : Prop :=
  ∀ name bridge source, s.streams.SpansBridge name bridge source → bridge.writable = w →
    source.controller.queuedBytes < mark.toNat ∨
      source.controller.queue = [] ∧ s.PulledSince bridge.readable w

/-- While the writable half takes writes, the readable half has not failed; and if one chunk is let
through because of a pull, then there is room for it, or nothing in the way. -/
def Pressed (mark : UInt64) (s : Session H E) : Prop :=
  ∀ name bridge source, s.streams.SpansBridge name bridge source →
  s.streams.Accepts bridge.writable →
    ¬ source.controller.HasFailed ∧
      (bridge.pullRequested = true → s.PulledSince bridge.readable bridge.writable ∧
        (source.controller.queuedBytes < mark.toNat ∨ source.controller.queue = []))

/-- What holds of transform streams between two deeds. -/
structure Regular (mark : UInt64) (s : Session H E) : Prop where
  composed : s.streams.Composed
  couples : s.streams.Couples mark
  linked : s.streams.Mutual
  pressed : s.Pressed mark

theorem Deed.accepts {made : List (WritableId × Bytes)} (hd : Deed s made t)
    (hc : s.streams.Composed) {w : WritableId} (ha : t.streams.Accepts w) : s.streams.Accepts w :=
  (Course.step .refl hd).accepts hc ha

/-- There is still room, or a reader still waits, as long as nothing is written. -/
theorem AdmitsWrite.nothingAdded {w : WritableId} (h : s.AdmitsWrite mark w)
    {made : List (WritableId × Bytes)} (hd : Deed s made t) (hc : s.streams.Composed)
    (hw : ∀ chunk, (w, chunk) ∉ made) (hnoneAdded : NothingAdded w s t) (ha : t.streams.Accepts w) :
    t.AdmitsWrite mark w := by
  intro name bridge' source' hspans he
  obtain ⟨bridge, source, hbefore, hkeeps, hlightens⟩ := hnoneAdded.spansBridge hspans he
  obtain ⟨hbytes, hqueue⟩ := hlightens (.inl ha)
  rw [hkeeps.writable] at he
  rcases h name bridge source hbefore he with hroom | ⟨hempty, hpulled⟩
  · exact .inl (hbytes.trans_lt hroom)
  · exact .inr ⟨hqueue hempty, hkeeps.readable ▸ hd.pulledSince hc hw hpulled⟩

namespace Regular

variable {made : List (WritableId × Bytes)} (h : s.Regular mark)
include h

omit [Host H] in
/-- The writable half of a transform stream refers to the bridge. -/
theorem backing (hspans : s.streams.SpansBridge name bridge source) {sink : Sink E}
    (hk : s.streams.sink? bridge.writable = some sink) : sink.backing = .transform name :=
  (h.couples.paired hspans.lives (h.linked _ _ _ hspans) hspans.joins hk).1

omit [Host H] in
/-- A pipe that finds its destination ready is let through rightly. -/
theorem admits_of_ready {w : WritableId} (ha : s.streams.Accepts w)
    (hready : s.streams.sinkReady w = true) : s.AdmitsWrite mark w := by
  intro name bridge source hspans he
  subst he
  obtain ⟨hsound, hpulled⟩ := h.pressed name bridge source hspans ha
  cases hflag : bridge.pullRequested with
  | true =>
    obtain ⟨hpulled, hroom | hempty⟩ := hpulled hflag
    · exact .inl hroom
    · exact .inr ⟨hempty, hpulled⟩
  | false =>
    obtain ⟨sink, hk, -⟩ := ha
    have hidle := h.composed.idle hk
    have hpasses : s.streams.backpressure name = false := by
      simpa [Registry.sinkReady, hk, hidle.inFlight, hidle.pending,
        h.backing hspans hk] using hready
    simp only [Registry.backpressure, hspans.joins, hflag, Bool.not_false,
      Bool.true_and, hspans.lives, Option.bind_some] at hpasses
    have hmark := (h.couples.marked hspans.lives ⟨name, h.linked _ _ _ hspans⟩).1
    cases hstate : source.controller.state with
    | errored error => exact absurd ⟨error, hstate⟩ hsound
    | closed => simp [ReadableController.desiredSize, hstate] at hpasses
    | readable =>
      simp only [ReadableController.desiredSize, hstate, hmark, decide_eq_false_iff_not,
        Int.not_le] at hpasses
      exact .inl (lt_of_room_pos hpasses)

/-- A transform stream that is no fuller than before lets no more through. -/
theorem pressed_of_nothingLoosened (hd : Deed s made t) {bridge' : Bridge E} {source' : Source E}
    (hw : ∀ chunk, (bridge'.writable, chunk) ∉ made)
    (hnotLoosened : NothingLoosened bridge'.writable s t)
    (hspans : t.streams.SpansBridge name bridge' source')
    (ha : t.streams.Accepts bridge'.writable) :
    ¬ source'.controller.HasFailed ∧
      (bridge'.pullRequested = true → t.PulledSince bridge'.readable bridge'.writable ∧
        (source'.controller.queuedBytes < mark.toNat ∨ source'.controller.queue = [])) := by
  obtain ⟨bridge, source, hbefore, hkeeps, hlightens, hopen⟩ := hnotLoosened.spansBridge hspans rfl
  obtain ⟨hbytes, hqueue⟩ := hlightens (.inl ha)
  obtain ⟨hflag, hfailed⟩ := hopen ha
  have hopened := hd.accepts h.composed ha
  rw [hkeeps.writable] at hopened hw
  obtain ⟨hsound, hpulled⟩ := h.pressed name bridge source hbefore hopened
  refine ⟨fun hf => hsound (hfailed hf), fun hf => ?_⟩
  obtain ⟨hpulled, hroom⟩ := hpulled (hflag hf)
  rw [hkeeps.readable, hkeeps.writable]
  exact ⟨hd.pulledSince h.composed hw hpulled, hroom.imp hbytes.trans_lt hqueue⟩

/-- A deed that makes no transform stream fuller and lets no more through. -/
theorem eased (hd : Deed s [] t) (hnotLoosened : ∀ w, NothingLoosened w s t) : t.Regular mark where
  composed := h.composed.advancesTo (hd.advancesTo h.composed)
  couples := hd.couples h.composed h.couples
  linked := hd.mutual h.composed h.linked
  pressed _ _ _ hspans ha := h.pressed_of_nothingLoosened hd (by simp) (hnotLoosened _) hspans ha

/-- A write takes the permission away. -/
theorem write {w : WritableId} {token : Option WriterToken} (chunk : Bytes)
    (htakes : s.streams.Takes w token) : (exec (write w chunk token) s).2.Regular mark := by
  have hd : Deed s [(w, chunk)] (exec (Session.write w chunk token) s).2 := .write chunk htakes
  have hcouples := hd.couples h.composed h.couples
  refine ⟨h.composed.advancesTo (hd.advancesTo h.composed), hcouples, hd.mutual h.composed h.linked,
    fun name bridge' source' hspans ha => ?_⟩
  obtain ⟨sink, hk, rfl, hw, -⟩ := htakes
  rw [exec_write_of_lock hk] at hspans ha hd ⊢
  by_cases he : bridge'.writable = w
  · obtain ⟨bridge, source, hbefore, hkeeps, -⟩ := hd.spansBridge_before h.composed hspans
    rw [hkeeps.writable] at he ha
    subst he
    obtain ⟨last, controller, hb', hflag, hs', -, hsound⟩ :=
      halves_write chunk h.composed hbefore hk hw (h.backing hbefore hk)
    cases hspans.joins.symm.trans hb'
    cases (hkeeps.readable ▸ hspans.lives).symm.trans hs'
    refine ⟨hsound ha, fun hraised => ?_⟩
    rw [hflag] at hraised
    cases hraised
  · exact h.pressed_of_nothingLoosened hd (by simpa using he)
      (.write h.composed h.linked chunk he) hspans ha

/-- A reader asks a transform stream for a chunk after it has pulled, and there is room for the
chunk or nothing in the way. -/
theorem request (hb : s.streams.bridge? name = some bridge)
    (hpulled : s.PulledSince bridge.readable bridge.writable)
    (hroom : ∀ source, s.streams.source? bridge.readable = some source →
      source.controller.queuedBytes < mark.toNat ∨ source.controller.queue = []) :
    (setBridge name { bridge with pullRequested := true } s).Regular mark := by
  have hd : Deed s [] (setBridge name { bridge with pullRequested := true } s) := .request hb
  refine ⟨h.composed.advancesTo (hd.advancesTo h.composed), hd.couples h.composed h.couples,
    hd.mutual h.composed h.linked, fun other bridge' source' hspans ha => ?_⟩
  have hjoins := hspans.joins
  rw [setBridge, streams_mapStreams, Registry.bridge?_setBridge] at hjoins
  split at hjoins
  · next he =>
    subst he
    rw [hb] at hjoins
    cases hjoins
    have hs : s.streams.source? bridge.readable = some source' := hspans.lives
    exact ⟨(h.pressed other bridge source' ⟨hb, hs⟩ ha).1, fun _ => ⟨hpulled, hroom source' hs⟩⟩
  · exact h.pressed other bridge' source' ⟨hjoins, hspans.lives⟩ ha

end Regular

/-! ### What is queued at most -/

/-- What an identity transformer has queued at most: the last chunk has come to less than the mark,
or to nothing. The chunks of all writes so far have at most the given length. -/
def Bounded (mark : UInt64) (w : WritableId) (s : Session H E) : Prop :=
  ∀ name bridge source longest, s.streams.SpansBridge name bridge source → bridge.writable = w →
    bridge.transformer = .identity →
      (∀ chunk outcome, .write chunk outcome ∈ s.sinkCalls w → chunk.length ≤ longest) →
        source.controller.queuedBytes ≤ max mark.toNat 1 - 1 + longest

/-- The calls on a sink only become more. -/
theorem AdvancesTo.sinkCalls_sub {made : List (WritableId × Bytes)} (h : s.AdvancesTo made t)
    {w : WritableId} {call : SinkCall} (hm : call ∈ s.sinkCalls w) : call ∈ t.sinkCalls w := by
  cases hk : s.streams.sink? w with
  | none => rwa [(h.noSink hk).2]
  | some sink =>
    obtain ⟨sink', calls, -, hcalls, -⟩ := h.sink hk
    rw [hcalls]
    exact List.mem_append_right _ hm

/-- Deeds that write nothing leave no more than there was. -/
theorem Bounded.nothingAdded {w : WritableId} (h : s.Bounded mark w)
    {made : List (WritableId × Bytes)} (hd : Deed s made t) (hc : s.streams.Composed)
    (hnoneAdded : NothingAdded w s t) :
    t.Bounded mark w := by
  intro name bridge' source' longest hspans he hid hshort
  obtain ⟨bridge, source, hbefore, hkeeps, hlightens⟩ := hnoneAdded.spansBridge hspans he
  rw [hkeeps.writable] at he
  rw [hkeeps.transformer] at hid
  exact (hlightens (.inr hid)).bytes.trans (h name bridge source longest hbefore he hid
    fun chunk outcome hm => hshort chunk outcome ((hd.advancesTo hc).sinkCalls_sub hm))

/-- A write to a readable half that holds less than the mark, or nothing. -/
theorem Bounded.write {w : WritableId} {token : Option WriterToken} {chunk : Bytes}
    (hr : s.Regular mark) (ha : s.AdmitsWrite mark w) (htakes : s.streams.Takes w token) :
    (exec (write w chunk token) s).2.Bounded mark w := by
  intro name bridge' source' longest hspans he hid hshort
  have hd : Deed s [(w, chunk)] (exec (Session.write w chunk token) s).2 := .write chunk htakes
  obtain ⟨bridge, source, hbefore, hkeeps, -⟩ := hd.spansBridge_before hr.composed hspans
  rw [hkeeps.writable] at he
  rw [hkeeps.transformer] at hid
  subst he
  obtain ⟨sink, hk, rfl, hw, -⟩ := htakes
  have hadded : chunk.length ≤ longest := by
    obtain ⟨sink', calls, -, hcalls, -, hchunks, -⟩ := (hd.advancesTo hr.composed).sink hk
    have hm : chunk ∈ calls.filterMap SinkCall.chunk? := by
      rw [hchunks]
      simp [chunksTo]
    obtain ⟨call, hcall, hchunk⟩ := List.mem_filterMap.mp hm
    cases call with
    | write written outcome =>
      cases hchunk
      exact hshort chunk outcome (hcalls ▸ List.mem_append_left _ hcall)
    | close | abort => cases hchunk
  rw [exec_write_of_lock hk] at hspans
  obtain ⟨last, controller, -, -, hs', hqueued, -⟩ :=
    halves_write chunk hr.composed hbefore hk hw (hr.backing hbefore hk)
  cases (hkeeps.readable ▸ hspans.lives).symm.trans hs'
  have hqueued := hqueued hid
  have hmeasured := (hr.couples.marked hbefore.lives ⟨name, hr.linked _ _ _ hbefore⟩).2.queued
  rcases ha name bridge source hbefore rfl with hroom | ⟨hempty, -⟩
  · dsimp only
    omega
  · rw [hempty] at hmeasured
    simp only [List.flatten_nil, List.length_nil] at hmeasured
    dsimp only
    omega

end Deeds

end Session

end EdgeStreams
