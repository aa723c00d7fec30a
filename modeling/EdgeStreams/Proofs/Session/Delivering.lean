import EdgeStreams.Proofs.Session.Watched

/-!
# What reaches a sink

A sink is handed writes, one after the other, as long as they succeed and it takes writes. An end,
an abort or a write that fails is the last that reaches it.

## Main definitions

- `SinkCall.Lawful`: writes that succeed, and after them at most one more call
- `Session.KeepsSink`: the name of a sink that is gone is not given to another one

## Main statements

- `Sink.Life.handed`: what reaches a sink over its life
- `Session.FailsAtStart.not_writable`: nothing reaches a sink that has failed at its start
- `Session.Story.close_again`, `Session.Story.abort_again`: an end or an abort that comes after
  another
-/

namespace EdgeStreams

variable {H E : Type}

/-- What reaches a sink over its life, last first: writes that succeed, and after them at most one
more call. That may be a write, whatever comes of it, an end or an abort. -/
def SinkCall.Lawful (calls : List SinkCall) : Prop :=
  ∀ call ∈ calls.tail, ∃ chunk, call = .write chunk (.ok ())

namespace Sink

variable {sink sink' : Sink E} {calls more : List SinkCall}

/-- What a sink has been handed, last first. As long as it takes writes, nothing has gone wrong. -/
structure Handed (calls : List SinkCall) (sink : Sink E) : Prop where
  lawful : SinkCall.Lawful calls
  going : sink.controller.state = .writable → ∀ call ∈ calls, ∃ chunk, call = .write chunk (.ok ())

theorem Handed.new (sink : Sink E) : sink.Handed [] := ⟨nofun, nofun⟩

theorem Handed.congr (h : sink.Handed calls) (hc : sink'.controller = sink.controller) :
    sink'.Handed calls := ⟨h.lawful, fun hs => h.going (hc ▸ hs)⟩

/-- A sink that takes writes took them before. -/
theorem Stays.writable (h : sink.Stays sink') (hs : sink'.controller.state = .writable) :
    sink.controller.state = .writable := by
  rcases h.controller with hsame | ⟨hwritable, -⟩
  · exact hsame ▸ hs
  · exact hwritable

/-- A sink that takes no writes is left as it is. -/
theorem ProceedsTo.of_not_writable (h : sink.ProceedsTo calls sink')
    (hs : sink.controller.state ≠ .writable) : calls = [] ∧ sink'.controller = sink.controller := by
  cases h with
  | stays hstays => exact ⟨rfl, hstays.controller.resolve_right fun h => hs h.1⟩
  | writes _ _ hw | closes _ hw | aborts _ hw => exact absurd hw hs

theorem ProceedsTo.calls_cases (h : sink.ProceedsTo calls sink') :
    calls = [] ∨ ∃ call, calls = [call] := by
  cases h with
  | stays => exact .inl rfl
  | writes | closes | aborts => exact .inr ⟨_, rfl⟩

theorem ProceedsTo.backing (h : sink.ProceedsTo calls sink') : sink'.backing = sink.backing := by
  cases h with
  | stays hstays | writes _ _ _ hstays | closes _ _ hstays | aborts _ _ hstays =>
    exact hstays.backing

theorem Handed.proceedsTo (h : sink.Handed calls) (hp : sink.ProceedsTo more sink') :
    sink'.Handed (more ++ calls) := by
  have hended : sink'.controller.state.isTerminal = true → sink'.controller.state ≠ .writable := by
    intro hterminal hs
    rw [hs] at hterminal
    cases hterminal
  cases hp with
  | stays hstays => exact ⟨h.lawful, fun hs => h.going (hstays.writable hs)⟩
  | writes chunk outcome hw hstays hfailed =>
    refine ⟨h.going hw, fun hs => ?_⟩
    cases outcome with
    | ok => simpa using h.going hw
    | error error => exact absurd hs (hended (hfailed error rfl))
  | closes outcome hw hstays hterminal | aborts outcome hw hstays hterminal =>
    exact ⟨h.going hw, fun hs => absurd hs (hended hterminal)⟩

/-- The life of a sink, with what reaches it, last first. In the end it may be gone. -/
inductive Life (sink : Sink E) : List SinkCall → Option (Sink E) → Prop
  | new : Life sink [] (some sink)
  | proceedsTo {calls more : List SinkCall} {last last' : Sink E} :
    Life sink calls (some last) → last.ProceedsTo more last' →
    Life sink (more ++ calls) (some last')
  | same {calls : List SinkCall} {last last' : Sink E} :
    Life sink calls (some last) → last.Same last' → Life sink calls (some last')
  | gone {calls : List SinkCall} {last : Option (Sink E)} :
    Life sink calls last → Life sink calls none

namespace Life

variable {found : Option (Sink E)}

/-- By induction on the life. -/
theorem handed (h : sink.Life calls found) : SinkCall.Lawful calls ∧
    ∀ last, found = some last → last.backing = sink.backing ∧ last.Handed calls := by
  induction h with
  | new =>
    refine ⟨nofun, fun last hlast => ?_⟩
    cases hlast
    exact ⟨rfl, .new sink⟩
  | proceedsTo _ hp ih =>
    obtain ⟨hback, hhanded⟩ := ih.2 _ rfl
    have hnext := hhanded.proceedsTo hp
    refine ⟨hnext.lawful, fun last hlast => ?_⟩
    cases hlast
    exact ⟨hp.backing.trans hback, hnext⟩
  | same _ hsame ih =>
    obtain ⟨hback, hhanded⟩ := ih.2 _ rfl
    refine ⟨ih.1, fun last hlast => ?_⟩
    cases hlast
    exact ⟨hsame.backing.trans hback, hhanded.congr hsame.controller⟩
  | gone _ ih => exact ⟨ih.1, fun _ hlast => by cases hlast⟩

/-- A sink that takes no writes stays as it is, and nothing reaches it. By induction on the life. -/
theorem stuck (h : sink.Life calls found) (hs : sink.controller.state ≠ .writable) :
    calls = [] ∧ ∀ last, found = some last → last.controller = sink.controller := by
  induction h with
  | new =>
    refine ⟨rfl, fun last hlast => ?_⟩
    cases hlast
    rfl
  | proceedsTo _ hp ih =>
    obtain ⟨rfl, hkept⟩ := ih
    obtain ⟨rfl, hsame⟩ := hp.of_not_writable (hkept _ rfl ▸ hs)
    refine ⟨rfl, fun last hlast => ?_⟩
    cases hlast
    exact hsame.trans (hkept _ rfl)
  | same _ hsame ih =>
    refine ⟨ih.1, fun last hlast => ?_⟩
    cases hlast
    exact hsame.controller.trans (ih.2 _ rfl)
  | gone _ ih => exact ⟨ih.1, fun _ hlast => by cases hlast⟩

end Life

end Sink

namespace Session

variable {s t u : Session H E} {id : WritableId} {sink : Sink E}
variable {made more : List (WritableId × Bytes)}

/-- The name of a sink that is gone is not given to another one. -/
def KeepsSink (id : WritableId) (s t : Session H E) : Prop :=
  s.streams.sink? id = none → t.streams.sink? id = none

theorem Turnover.sinkCalls_eq (h : s.Turnover t) (id : WritableId) :
    t.sinkCalls id = s.sinkCalls id := by
  rw [Session.sinkCalls_eq, Session.sinkCalls_eq, h.calls]

variable [Host H]

/-- A write that has been made has found its sink. -/
theorem Deed.takes (h : Deed s made t) {chunk : Bytes} (hm : (id, chunk) ∈ made) :
    ∃ token, s.streams.Takes id token := by
  cases h with
  | write _ htakes =>
    obtain ⟨rfl, rfl⟩ := Prod.mk.inj (List.mem_singleton.mp hm)
    exact ⟨_, htakes⟩
  | _ => cases hm

theorem Deed.chunksTo_of_gone (h : Deed s made t) (hs : s.streams.sink? id = none) :
    chunksTo id made = [] := by
  rw [chunksTo, List.map_eq_nil_iff, List.filter_eq_nil_iff]
  rintro ⟨other, chunk⟩ hm he
  obtain ⟨token, sink, hsink, -⟩ := h.takes hm
  rw [show other = id from of_decide_eq_true he, hs] at hsink
  cases hsink

/-- What reaches a sink is what its life is made of. By induction on the deeds and changes. -/
theorem Story.sinkLife (h : Story (KeepsSink id) s made t) (hc : s.streams.Composed)
    (hs : s.streams.sink? id = some sink) :
    ∃ calls, t.sinkCalls id = calls ++ s.sinkCalls id ∧ sink.Life calls (t.streams.sink? id) ∧
      calls.filterMap SinkCall.chunk? = chunksTo id made := by
  induction h with
  | refl => exact ⟨[], rfl, hs ▸ .new, rfl⟩
  | @deed t u made more hbefore hdeed ih =>
    obtain ⟨calls, hcalls, hlife, hchunks⟩ := ih
    have ha := hdeed.advancesTo (hbefore.composed hc)
    cases ht : t.streams.sink? id with
    | none =>
      obtain ⟨hgone, hsame⟩ := ha.noSink ht
      refine ⟨calls, hsame.trans hcalls, ?_, ?_⟩
      · rw [hgone, ← ht]
        exact hlife
      · rw [chunksTo_append, hdeed.chunksTo_of_gone ht, List.nil_append]
        exact hchunks
    | some held =>
      obtain ⟨last, new, hlast, hnew, hp, hmade, -⟩ := ha.sink ht
      refine ⟨new ++ calls, ?_, ?_, ?_⟩
      · rw [hnew, hcalls, List.append_assoc]
      · rw [hlast]
        exact (ht ▸ hlife).proceedsTo hp
      · rw [List.filterMap_append, chunksTo_append, hmade, hchunks]
  | @shift t u made hbefore hturnover hkeeps ih =>
    obtain ⟨calls, hcalls, hlife, hchunks⟩ := ih
    refine ⟨calls, (hturnover.sinkCalls_eq id).trans hcalls, ?_, hchunks⟩
    have hshift := hturnover.streams.sink id
    generalize hold : t.streams.sink? id = old at hshift hlife
    generalize hnew : u.streams.sink? id = new at hshift
    cases hshift with
    | kept hsame => exact hlife.same hsame
    | gone => exact hlife.gone
    | made =>
      rw [hkeeps hold] at hnew
      cases hnew

/-! ### Writing, ending and aborting at some point -/

section Point

variable {token : Option WriterToken} (hc : t.streams.Composed)
include hc

/-- A write that is admitted is one call, and succeeds only if the call has. -/
theorem sinkCalls_write (htakes : t.streams.Takes id token) (chunk : Bytes) :
    ∃ outcome, (exec (write id chunk token) t).2.sinkCalls id =
        .write chunk outcome :: t.sinkCalls id ∧
      ((exec (write id chunk token) t).1 = .ok () → outcome = .ok ()) := by
  obtain ⟨sink, hs, rfl, hw, -⟩ := htakes
  rw [exec_write_of_lock hs]
  obtain ⟨outcome, hr, -, hsuccess, -⟩ := workedInto_writeUnchecked hc hs hw chunk
  refine ⟨outcome, ?_, hsuccess⟩
  rw [sinkCalls_append hr.calls]
  simp [StreamEvent.sinkCall?]

omit [Host H] hc in
theorem exec_close_of_lock [Host H] (hs : t.streams.sink? id = some sink) :
    exec (close id sink.writerLock) t = exec (closeUnchecked id) t := by
  simp [close, exec_bind, hs, Except.bind]

omit [Host H] hc in
theorem exec_abort_of_lock [Host H] (hs : t.streams.sink? id = some sink) (reason : Option String) :
    exec (abort id reason sink.writerLock) t = exec (abortUnchecked id reason) t := by
  simp [abort, exec_bind, hs, Except.bind]

omit [Host H] hc in
/-- A close that succeeds has passed the lock. -/
theorem admitted_of_close [Host H] (h : exec (close id token) t = (.ok (), u)) :
    ∃ sink, t.streams.sink? id = some sink ∧ sink.writerLock = token ∧
      exec (closeUnchecked id) t = (.ok (), u) := by
  cases hs : t.streams.sink? id with
  | none => simp [close, exec_bind, hs, Except.bind] at h
  | some sink =>
    cases hadmits : Registry.admits sink.writerLock token with
    | error error => simp [close, exec_bind, hs, Except.bind, hadmits] at h
    | ok =>
      obtain rfl := Registry.admits_eq_ok_iff.mp hadmits
      exact ⟨sink, rfl, rfl, exec_close_of_lock hs ▸ h⟩

omit [Host H] hc in
/-- What comes of a close that follows another depends on the controller only. -/
theorem exec_closeUnchecked_congr [Host H] {v : Session H E} {last : Sink E}
    (hs : t.streams.sink? id = some sink) (hv : v.streams.sink? id = some last)
    (hsame : last.controller = sink.controller) (ht : sink.controller.state.isTerminal = true) :
    exec (closeUnchecked id) v = ((exec (closeUnchecked id) t).1, v) := by
  cases hstate : sink.controller.state with
  | writable | closing => simp [hstate, WritableState.isTerminal] at ht
  | closed => simp [closeUnchecked, exec_bind, hs, hv, hsame, hstate]
  | errored error =>
    by_cases he : error = .aborted
    · subst he
      simp [closeUnchecked, exec_bind, hs, hv, hsame, hstate]
    · simp only [closeUnchecked, exec_bind, exec_sink, hs, hv, hsame, Registry.need_some, hstate,
        exec_throw]

/-- A close that follows one that has succeeded succeeds, too, and nothing reaches the sink. -/
theorem Story.close_again {v : Session H E} {last : Sink E}
    (hclose : exec (close id token) t = (.ok (), u)) (h : Story (KeepsSink id) u made v)
    (hv : v.streams.sink? id = some last) : exec (close id last.writerLock) v = (.ok (), v) := by
  obtain ⟨sink, hs, -, hclosed⟩ := admitted_of_close hclose
  rw [exec_close_of_lock hv]
  have hcomposed : u.streams.Composed := by
    have hadvances := advancesTo_closeUnchecked hc id
    rw [hclosed] at hadvances
    exact hc.advancesTo hadvances
  have hlife : ∀ {ended : Sink E}, u.streams.sink? id = some ended →
      ended.controller.state ≠ .writable → last.controller = ended.controller := by
    intro ended hended hstate
    obtain ⟨calls, -, hlife, -⟩ := h.sinkLife hcomposed hended
    exact (hlife.stuck hstate).2 last hv
  cases hterminal : sink.controller.state.isTerminal with
  | true =>
    obtain ⟨result, hresult, -⟩ := exec_closeUnchecked_of_terminal hs hterminal
    rw [hclosed] at hresult
    obtain ⟨-, rfl⟩ := Prod.mk.inj hresult
    have hsame := hlife hs fun hw => by simp [hw, WritableState.isTerminal] at hterminal
    rw [exec_closeUnchecked_congr hs hv hsame hterminal, hclosed]
  | false =>
    have hw := (hc.idle hs).writable hterminal
    obtain ⟨outcome, -, -, hresult, ended, hended, -, hstate⟩ := workedInto_closeUnchecked hc hs hw
    rw [hclosed] at hresult hended
    have hstate := hstate hresult.symm
    have hsame := hlife hended (by simp [hstate])
    simp [closeUnchecked, exec_bind, hv, hsame, hstate]

/-- An abort that follows another succeeds, and nothing reaches the sink. -/
theorem Story.abort_again {v : Session H E} {last : Sink E} {reason : Option String}
    (hs : t.streams.sink? id = some sink)
    (h : Story (KeepsSink id) (exec (abort id reason sink.writerLock) t).2 made v)
    (hv : v.streams.sink? id = some last) (reason' : Option String) :
    exec (abort id reason' last.writerLock) v = (.ok (), v) := by
  rw [exec_abort_of_lock hs] at h
  rw [exec_abort_of_lock hv]
  have hcomposed := hc.advancesTo (advancesTo_abortUnchecked hc id reason)
  -- an abort leaves a sink that has ended or failed
  have hended : ∃ ended, (exec (abortUnchecked id reason) t).2.streams.sink? id = some ended ∧
      ended.controller.state.isTerminal = true := by
    cases hterminal : sink.controller.state.isTerminal with
    | true =>
      rw [exec_abortUnchecked_of_terminal hs hterminal]
      exact ⟨sink, hs, hterminal⟩
    | false =>
      have hw := (hc.idle hs).writable hterminal
      obtain ⟨outcome, -, -, -, ended, hended, hstate⟩ := workedInto_abortUnchecked hc hs hw reason
      exact ⟨ended, hended, hstate⟩
  obtain ⟨ended, hfound, hterminal⟩ := hended
  obtain ⟨calls, -, hlife, -⟩ := h.sinkLife hcomposed hfound
  have hsame := (hlife.stuck fun hw => by simp [hw, WritableState.isTerminal] at hterminal).2 last
    hv
  exact exec_abortUnchecked_of_terminal hv (hsame ▸ hterminal)

end Point

/-! ### Starts that fail -/

omit [Host H] in
theorem not_writable_of_error {controller : WritableController} (error : StreamError) :
    (controller.error error).state ≠ .writable := by
  unfold WritableController.error
  split
  · next hterminal =>
    intro hw
    simp [hw, WritableState.isTerminal] at hterminal
  · simp

/-- A sink is made whose guest, or whose transformer, fails at its start. -/
inductive FailsAtStart (s : Session H E) : WritableId → Session H E → Prop
  | guest {guest : UnderlyingSink E} {error : StreamError} :
    (guest.start s.env).1 = .error error →
      FailsAtStart s (scriptSink guest s).1 (scriptSink guest s).2
  | transformer {transformer : Transformer E} {error : StreamError} :
    (startWork transformer s).1.1 = .error error →
      FailsAtStart s (createTransform transformer s).1.writable (createTransform transformer s).2

omit [Host H] in
theorem FailsAtStart.not_writable (h : FailsAtStart s id t) (wf : s.streams.WellFormed)
    (ht : t.streams.sink? id = some sink) : sink.controller.state ≠ .writable := by
  cases h with
  | @guest guest error hfails =>
    have hnew : sink = { backing := .script guest
                         controller := startedWriter guest
                           s.streams.config.bodyChunkSize s.env } := by
      rw [streams_scriptSink, Registry.sink?_addSink wf] at ht
      exact (Option.some.inj ((if_pos rfl).symm.trans ht)).symm
    rw [hnew]
    simp only [startedWriter, hfails]
    exact not_writable_of_error error
  | @transformer transformer error hfails =>
    rw [createTransform_eq wf transformer] at ht
    obtain ⟨half, hhalf, -⟩ := sink?_startedTransform_new wf transformer
    rw [streams_mapStreams, sink?_settleTransform, if_pos rfl, streams_note, hhalf,
      Option.map_some, Option.some.injEq, hfails] at ht
    rw [← ht]
    exact not_writable_of_error error

/-! ### Sinks over host bodies -/

/-- A host body is left to one sink. -/
abbrev LeavesToSink (handle : BodyHandle) (log : H → List BodyUse) (id : WritableId)
    (s t : Session H E) : Prop :=
  KeepsSink id s t ∧ Leaves handle log (fun _ => False) (· = id) s t

/-- What reaches a sink over a host body is what the host sees. By induction on the deeds and
changes. -/
theorem Story.logged {handle : BodyHandle} {log : H → List BodyUse} (hw : WatchesBody handle log)
    (h : Story (LeavesToSink handle log id) s made t) (hc : s.streams.Composed)
    (hs : s.streams.sink? id = some sink) (hb : sink.backing = .body handle)
    (hr : s.streams.ReservesBody handle (fun _ => False) (· = id)) :
    t.streams.ReservesBody handle (fun _ => False) (· = id) ∧
      ∃ uses calls, log t.host = uses ++ log s.host ∧ t.sinkCalls id = calls ++ s.sinkCalls id ∧
        uses.map BodyUse.sinkCall? = calls.map some := by
  induction h with
  | refl => exact ⟨hr, [], [], rfl, rfl, rfl⟩
  | @deed t u made more hbefore hdeed ih =>
    obtain ⟨hreserves, uses, calls, huses, hcalls, hmatch⟩ := ih
    have hcomposed := hbefore.composed hc
    have ha := hdeed.advancesTo hcomposed
    refine ⟨(ha.reserves_iff hcomposed).mpr hreserves, ?_⟩
    have hquiet : u.sinkCalls id = t.sinkCalls id → log u.host = log t.host := fun hsame =>
      ha.log_eq hw (fun _ _ _ hsource hback => (hreserves.source hsource hback).elim)
        fun _ _ hsink hback => hreserves.sink hsink hback ▸ hsame
    cases ht : t.streams.sink? id with
    | none =>
      have hsame := (ha.noSink ht).2
      exact ⟨uses, calls, (hquiet hsame).trans huses, hsame.trans hcalls, hmatch⟩
    | some held =>
      obtain ⟨last, new, hlast, hnew, hp, -, hperforms⟩ := ha.sink ht
      obtain ⟨older, -, hlife, -⟩ := (hbefore.mono And.left).sinkLife hc hs
      have hback := (hlife.handed.2 held ht).1.trans hb
      rcases hp.calls_cases with rfl | ⟨call, rfl⟩
      · exact ⟨uses, calls, (hquiet hnew).trans huses, hnew.trans hcalls, hmatch⟩
      · obtain ⟨use, huse, hlog⟩ := (hperforms call List.mem_cons_self).log_own hw hback
        refine ⟨use :: uses, call :: calls, ?_, ?_, ?_⟩
        · rw [hlog, huses, List.cons_append]
        · rw [hnew, hcalls, List.singleton_append, List.cons_append]
        · rw [List.map_cons, List.map_cons, huse, hmatch]
  | shift _ hturnover hleaves ih =>
    obtain ⟨-, uses, calls, huses, hcalls, hmatch⟩ := ih
    exact ⟨hleaves.2.reserves, uses, calls, (hleaves.2.log hturnover.calls).trans huses,
      (hturnover.sinkCalls_eq id).trans hcalls, hmatch⟩

/-! ### Sinks -/

/-- What becomes of a sink that was made before `s`, if the writes `made` have led to `t`. -/
structure SinkContract (id : WritableId) (sink : Sink E) (s : Session H E)
    (made : List (WritableId × Bytes)) (t : Session H E) : Prop where
  /-- The sink has been handed the chunks of the writes, in their order and each once. -/
  calls : ∃ calls, t.sinkCalls id = calls ++ s.sinkCalls id ∧ SinkCall.Lawful calls ∧
    calls.filterMap SinkCall.chunk? = chunksTo id made
  /-- Whatever is done next, at most one call reaches the sink. -/
  deed : ∀ {more u}, Deed t more u → u.sinkCalls id = t.sinkCalls id ∨
    ∃ call, u.sinkCalls id = call :: t.sinkCalls id ∧ sink.Performs t u call
  write : ∀ {token} chunk, t.streams.Takes id token →
    ∃ outcome, (exec (write id chunk token) t).2.sinkCalls id =
        .write chunk outcome :: t.sinkCalls id ∧
      ((exec (write id chunk token) t).1 = .ok () → outcome = .ok ())
  refuse : ∀ {token} chunk, ¬ t.streams.Takes id token →
    ∃ error, exec (Session.write id chunk token) t = (.error error, t)
  close : ∀ {token u}, exec (close id token) t = (.ok (), u) →
    ∀ {more v last}, Story (KeepsSink id) u more v → v.streams.sink? id = some last →
      exec (Session.close id last.writerLock) v = (.ok (), v)
  abort : ∀ {held reason}, t.streams.sink? id = some held →
    ∀ {more v last}, Story (KeepsSink id) (exec (abort id reason held.writerLock) t).2 more v →
      v.streams.sink? id = some last →
        ∀ reason', exec (Session.abort id reason' last.writerLock) v = (.ok (), v)

theorem Story.sinkContract (h : Story (KeepsSink id) s made t) (hc : s.streams.Composed)
    (hs : s.streams.sink? id = some sink) : SinkContract id sink s made t := by
  have hcomposed := h.composed hc
  obtain ⟨calls, hcalls, hlife, hchunks⟩ := h.sinkLife hc hs
  refine ⟨⟨calls, hcalls, hlife.handed.1, hchunks⟩, fun {more u} hdeed => ?_,
    fun chunk htakes => sinkCalls_write hcomposed htakes chunk,
    fun chunk hrefused => exec_write_of_refused chunk hrefused,
    fun hclose _ _ _ hstory hlast => hstory.close_again hcomposed hclose hlast,
    fun hheld _ _ _ hstory hlast reason' => hstory.abort_again hcomposed hheld hlast reason'⟩
  have ha := hdeed.advancesTo hcomposed
  cases ht : t.streams.sink? id with
  | none => exact .inl (ha.noSink ht).2
  | some held =>
    obtain ⟨last, new, -, hnew, hp, -, hperforms⟩ := ha.sink ht
    rcases hp.calls_cases with rfl | ⟨call, rfl⟩
    · exact .inl hnew
    · have hback := (hlife.handed.2 held ht).1
      exact .inr ⟨call, hnew, (hperforms call List.mem_cons_self).congr hback.symm rfl rfl⟩

theorem KeepsSink.of_flowsTo (h : KeepsSink id s u) (hc : t.streams.Composed) (hf : t.FlowsTo u) :
    KeepsSink id s t := fun hnone => (hf.sink?_eq_none_iff hc).mp (h hnone)

/-- From the time when a sink is made, whatever is done: the calls that reach it are writes that
succeed and after them at most one more call; they hand it the chunks of the writes that are
admitted, in their order and each once; and a write succeeds only if its own call has succeeded
before. Nothing reaches a sink that has failed at its start. A host that is called about a body for
one sink only sees these calls and no others. -/
theorem delivers_of_leads {host : H} {env : E} {config : StreamConfig} {before after : Session H E}
    (hbefore : LeadsTo { host, env, streams := .new config } before)
    (hmade : OperationStep before after) (hnone : before.streams.sink? id = none)
    (hsome : after.streams.sink? id = some sink) :
    after.sinkCalls id = before.sinkCalls id ∧
      (∀ {t}, Reaches (KeepsSink id) after t → ∃ made, Story (KeepsSink id) after made t) ∧
      (∀ {made t}, Story (KeepsSink id) after made t → SinkContract id sink after made t ∧
        (FailsAtStart before id after → t.sinkCalls id = after.sinkCalls id)) ∧
      ∀ {handle log}, sink.backing = .body handle → WatchesBody handle log →
        after.streams.ReservesBody handle (fun _ => False) (· = id) →
          ∀ {t}, Reaches (LeavesToSink handle log id) after t →
            ∃ uses calls, log t.host = uses ++ log after.host ∧
              t.sinkCalls id = calls ++ after.sinkCalls id ∧ SinkCall.Lawful calls ∧
                uses.map BodyUse.sinkCall? = calls.map some := by
  have hresting := hbefore.resting (resting_new host env config)
  have hturnover := hmade.turnover_of_sink hresting hnone hsome
  have hafter := hmade.resting hresting
  have hc := hafter.composed
  refine ⟨hturnover.sinkCalls_eq id, fun hrun => ?_,
    fun hstory => ⟨hstory.sinkContract hc hsome, fun hfails => ?_⟩,
    fun {handle log} hback hw hreserves t hrun => ?_⟩
  · exact hrun.story hafter fun hc hturnover hflows _ hkeeps =>
      hkeeps.of_flowsTo (hturnover.streams.composed hc) hflows
  · obtain ⟨calls, hcalls, hlife, -⟩ := hstory.sinkLife hc hsome
    rw [hcalls, (hlife.stuck (hfails.not_writable hresting.wellFormed hsome)).1, List.nil_append]
  · have hstory : ∃ made, Story (LeavesToSink handle log id) after made t :=
      hrun.story hafter fun hc hturnover hflows hkind hleaves =>
        ⟨hleaves.1.of_flowsTo (hturnover.streams.composed hc) hflows,
          hleaves.2.of_flowsTo hturnover hc hflows hkind⟩
    obtain ⟨made, hstory⟩ := hstory
    obtain ⟨-, uses, calls, huses, hcalls, hmatch⟩ := hstory.logged hw hc hsome hback hreserves
    obtain ⟨calls', hcalls', hlife, -⟩ := (hstory.mono And.left).sinkLife hc hsome
    obtain rfl := List.append_cancel_right (hcalls'.symm.trans hcalls)
    exact ⟨uses, calls', huses, hcalls, hlife.handed.1, hmatch⟩

/-- A chunk is written to a sink over a new host body, which nobody else uses. -/
theorem delivers_of_leads_written :
    ∃ (after t : Session (Recorded MemoryHost) Unit) (sink : Sink Unit),
      after.streams.sink? ⟨0, 0⟩ = some sink ∧
      (∃ made, Story (KeepsSink ⟨0, 0⟩) after made t ∧ SinkContract ⟨0, 0⟩ sink after made t) ∧
      t.sinkCalls ⟨0, 0⟩ = [.write [7] (.ok ())] ∧
      ∃ uses calls, t.host.about ⟨1⟩ = uses ++ after.host.about ⟨1⟩ ∧
        t.sinkCalls ⟨0, 0⟩ = calls ++ after.sinkCalls ⟨0, 0⟩ ∧ SinkCall.Lawful calls ∧
          uses.map BodyUse.sinkCall? = calls.map some := by
  obtain ⟨before, hbefore⟩ : ∃ before, before = recorded (MemoryHost.allocateBody {} .writable).2 :=
    ⟨_, rfl⟩
  obtain ⟨after, hafter⟩ : ∃ after, after = before.mapStreams fun streams =>
      (streams.bodySink ⟨1⟩).2 := ⟨_, rfl⟩
  have hmade : OperationStep before after := .operate (.bodySink ⟨1⟩) 0 (by rw [hafter]; rfl)
  have hnew : LeadsTo (recorded (MemoryHost.allocateBody {} .writable).2) before := hbefore ▸ .refl
  obtain ⟨sink, hsome, hback, htakes⟩ : ∃ sink, after.streams.sink? ⟨0, 0⟩ = some sink ∧
      sink.backing = .body ⟨1⟩ ∧ after.streams.Takes ⟨0, 0⟩ none := by
    rw [hafter, hbefore]
    exact ⟨_, rfl, rfl, _, rfl, rfl, rfl, nofun⟩
  obtain ⟨t, ht, hcalls⟩ : ∃ t, t = (exec (write ⟨0, 0⟩ [7] none) after).2 ∧
      t.sinkCalls ⟨0, 0⟩ = [.write [7] (.ok ())] := by
    rw [hafter, hbefore]
    exact ⟨_, rfl, rfl⟩
  have hnone : before.streams.sink? ⟨0, 0⟩ = none ∧ after.sinkCalls ⟨0, 0⟩ = [] := by
    rw [hafter, hbefore]
    exact ⟨rfl, rfl⟩
  have hreserves : after.streams.ReservesBody ⟨1⟩ (fun _ => False) (· = ⟨0, 0⟩) := by
    rw [hafter, hbefore]
    exact (Registry.reserves_new {} ⟨1⟩).addSink (Registry.wellFormed_new {}) _
  obtain ⟨-, hstory, hdelivers, hwatched⟩ := delivers_of_leads hnew hmade hnone.1 hsome
  have hcomposed := (hmade.resting (hnew.resting (resting_new _ _ _))).composed
  have hadvances := (Deed.write [7] htakes).advancesTo hcomposed
  have hoperation : OperationStep after t := .operate (.write ⟨0, 0⟩ [7] none) 0 (by rw [ht]; rfl)
  rw [← ht] at hadvances
  have hstays : KeepsSink ⟨0, 0⟩ after t := fun hgone => by cases hgone.symm.trans hsome
  have hleaves : Leaves ⟨1⟩ (Recorded.about ⟨1⟩) (fun _ => False) (· = ⟨0, 0⟩) after t := by
    refine ⟨(hadvances.reserves_iff hcomposed).mpr hreserves, fun hsame => ?_⟩
    rw [sinkCalls_eq, hsame, ← sinkCalls_eq, hnone.2] at hcalls
    cases hcalls
  obtain ⟨made, hmakes⟩ := hstory (.step .refl hoperation hstays)
  exact ⟨after, t, sink, hsome, ⟨made, hmakes, (hdelivers hmakes).1⟩, hcalls,
    hwatched hback (Recorded.watchesBody ⟨1⟩) hreserves (.step .refl hoperation ⟨hstays, hleaves⟩)⟩

end Session

end EdgeStreams
