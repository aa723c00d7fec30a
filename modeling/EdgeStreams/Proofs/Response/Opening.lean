import EdgeStreams.Proofs.Response.Relay

/-!
# Opening a pipe out of a well

A pipe is opened between a well and a drain that nobody holds, and then driven as far as it goes.

## Main statements

- `Well.OffersOctets.relock`: what a stream has to give does not depend on who holds it
- `Transfer.pipeTo`: a pipe is opened and driven
-/

namespace EdgeStreams

variable {E : Type}

/-- Only the lock, the owner and the marks of a source have changed. -/
structure Source.Handed (lock' : Option ReaderToken) (source source' : Source E) : Prop where
  backing : source'.backing = source.backing
  controller : source'.controller = source.controller
  start : source'.start = source.start
  canceled : source'.canceled = source.canceled
  pulling : source'.pulling = source.pulling
  pullAgain : source'.pullAgain = source.pullAgain
  lock : source'.readerLock = lock'

/-- What a stream has to give does not depend on who holds it. -/
theorem Well.OffersOctets.relock {well : Well E} {lock lock' : Option ReaderToken} {octets : Bytes}
    {s s' : Session MemoryHost E} {f : Footprint} (h : well.OffersOctets lock octets s)
    (hf : Frame f s s') (ha : f.Apart well.reach) (he : s'.env = s.env)
    (hs : ∀ source, s.streams.source? well.id = some source → source.readerLock = lock →
      ∃ source', s'.streams.source? well.id = some source' ∧ source.Handed lock' source') :
    well.OffersOctets lock' octets s' := by
  obtain ⟨source, hsource, hserves, hstocks⟩ := h
  obtain ⟨source', hs', hh⟩ := hs source hsource hserves.lock
  refine ⟨source', hs', ⟨hh.backing.trans hserves.backing, ?_, hh.start.trans hserves.started,
    hh.canceled.trans hserves.uncanceled, hh.pulling.trans hserves.resting,
    hh.pullAgain.trans hserves.unasked, hh.lock⟩, ?_⟩
  · rw [hh.controller]
    exact hserves.mark
  · rw [hh.controller]
    exact Well.stocks_of_frame hstocks hf ha he

namespace Transfer

variable {t : Transfer E} {taken left : Bytes} {s : Session MemoryHost E}

/-- What opening the pipe changes. -/
def ends (t : Transfer E) : Footprint :=
  { readables := {t.well.id}, writables := {t.drain.id}, pipes := {t.drain.id} }

/-- The pipe is the next to be entered in a registry. -/
structure IsNext (t : Transfer E) (streams : Registry E) : Prop where
  id : t.id = ⟨streams.pipes.nextKey⟩
  reader : t.reader = ⟨streams.nextToken⟩
  writer : t.drain.writer = ⟨streams.nextToken + 1⟩

/-- The pipe is opened. -/
theorem openPipe (hnext : t.IsNext s.streams) (hwf : s.streams.pipes.WellFormed)
    (hwell : t.well.OffersOctets none left s) {sink : Sink E}
    (hk : s.streams.sink? t.drain.id = some sink) (hkl : sink.writerLock = none)
    (hidle : ∀ id pipe, s.streams.pipe? id = some pipe → pipe.isRunning →
      pipe.destination ≠ t.drain.id)
    (hholds : ∀ s', Frame t.ends s s' →
      s'.streams.sink? t.drain.id = some { sink with writerLock := some t.drain.writer } →
        t.drain.Holds s' taken) :
    ∃ streams, exec (Registry.openPipe t.well.id t.drain.id {}) s.streams = (.ok t.id, streams) ∧
      t.Under false taken left { s with streams } ∧ Confined t.ends 0 s { s with streams } := by
  have hoffers := hwell
  obtain ⟨source, hs, hserves, -⟩ := hwell
  obtain ⟨streams, hopen, hpipes, hsources, hsinks, hbridges⟩ :=
    Registry.exec_openPipe s.streams {} hs hserves.lock hk hkl
  rw [← hnext.id] at hopen
  rw [← hnext.reader, ← hnext.writer] at hpipes
  rw [← hnext.reader] at hsources
  rw [← hnext.writer] at hsinks
  have hframe : Frame t.ends s { s with streams } :=
    Frame.openPipe hwf rfl hpipes hsources hsinks hbridges
  have hentry : ∀ id, streams.pipe? id = if id = t.id then some t.pipe else s.streams.pipe? id := by
    intro id
    simp only [Registry.pipe?, hpipes, hwf.get?_insert, hnext.id, ← EntryId.key_inj]
    rfl
  refine ⟨streams, hopen, ⟨(hentry _).trans (if_pos rfl), ?_, ?_, fun id pipe hp hr hd => ?_⟩,
    .of_frame hframe rfl⟩
  · refine hoffers.relock hframe ⟨?_, ?_, fun _ h => h.elim, ?_, fun _ h => h.elim⟩ rfl ?_
    · rintro _ rfl
      exact t.well.apart
    · rintro _ rfl hreach
      exact t.apart.writables _ (.inr hreach) (.inl rfl)
    · rintro _ rfl
      exact t.unpiped
    · intro other hother _
      obtain rfl : source = other := Option.some_inj.mp (hs.symm.trans hother)
      exact ⟨_, (hsources _).trans (if_pos rfl), rfl, rfl, rfl, rfl, rfl, rfl, rfl⟩
  · exact hholds _ hframe ((hsinks _).trans (if_pos rfl))
  · have hp' := hentry id
    rw [show streams.pipe? id = some pipe from hp] at hp'
    by_cases hid : id = t.id
    · exact hid
    · rw [if_neg hid] at hp'
      exact absurd hd (hidle id pipe hp'.symm hr)

/-- The pipe is opened and driven. -/
theorem pipeTo (hnext : t.IsNext s.streams) (hwf : s.streams.pipes.WellFormed)
    (hwell : t.well.OffersOctets none left s) (hc : s.host.Calm) {sink : Sink E}
    (hk : s.streams.sink? t.drain.id = some sink) (hkl : sink.writerLock = none)
    (hidle : ∀ id pipe, s.streams.pipe? id = some pipe → pipe.isRunning →
      pipe.destination ≠ t.drain.id)
    (hholds : ∀ s', Frame t.ends s s' →
      s'.streams.sink? t.drain.id = some { sink with writerLock := some t.drain.writer } →
        t.drain.Holds s' taken) :
    ∃ opened s', Settles (fun fuel => attempt (Session.pipeTo fuel t.well.id t.drain.id) s)
        (.ok t.id, s') ∧
      Confined t.ends 0 s opened ∧ t.Carries false taken left opened s' := by
  obtain ⟨streams, hopen, hunder, hconfined⟩ := openPipe hnext hwf hwell hk hkl hidle hholds
  obtain ⟨total, s', ⟨bound, hsettles⟩, hcarries⟩ := hunder.pumpPipe (hconfined.calm hc)
  refine ⟨_, s', ⟨bound, fun fuel hfuel => ?_⟩, hconfined, hcarries⟩
  simp only [Session.attempt_pipeTo, hopen, hsettles fuel hfuel, Option.map_some]

end Transfer

/-- The owners of two ends let go of them. -/
theorem Frame.releaseEnds (s : Session MemoryHost E) (r : ReadableId) (w : WritableId) :
    Frame { readables := {r}, writables := {w} } s (Session.mapStreams (fun streams =>
      (streams.releaseReadable r).releaseWritable w) s) := by
  have hfirst := Frame.modifySource s r fun source =>
      { source with released := true, owner := none }
  have hsecond := Frame.modifySink (Session.mapStreams (fun streams => streams.releaseReadable r) s)
    w fun sink => { sink with released := true, owner := none }
  refine .trans (hfirst.mono ?_) (hsecond.mono ?_)
  · exact ⟨subset_rfl, Set.empty_subset _, subset_rfl, subset_rfl, subset_rfl⟩
  · exact ⟨Set.empty_subset _, subset_rfl, subset_rfl, subset_rfl, subset_rfl⟩

namespace Relay

variable {r : Relay E} {lock : Option ReaderToken} {octets : Bytes} {s : Session MemoryHost E}

/-- What the readable half has to give does not depend on whether the owners of the ends of the pipe
have let go of them. -/
theorem offersOctets_released (h : r.asWell.OffersOctets lock octets s) :
    r.asWell.OffersOctets lock octets (Session.mapStreams (fun streams =>
      (streams.releaseReadable r.well.id).releaseWritable r.stage.writable) s) := by
  let released : Session MemoryHost E := Session.mapStreams (fun streams =>
    (streams.releaseReadable r.well.id).releaseWritable r.stage.writable) s
  have hframe : Frame { readables := {r.well.id}, writables := {r.stage.writable} } s released :=
    .releaseEnds s _ _
  have happart : ({ readables := {r.well.id}, writables := {r.stage.writable} } : Footprint).Apart
      r.well.reach := by
    refine ⟨?_, ?_, fun _ h => h.elim, fun _ h => h.elim, fun _ h => h.elim⟩
    · rintro _ rfl
      exact r.well.apart
    · rintro _ rfl hreach
      exact r.writable (.inr hreach)
  have hpipe : ∀ id pipe, released.streams.pipe? id = some pipe ↔ s.streams.pipe? id = some pipe :=
    fun id pipe => hframe.pipe id pipe fun h => h
  obtain ⟨half, hs, hserves, hsound, hsupply⟩ := h
  have hne : r.stage.readable ≠ r.well.id := fun he => r.readable (.inl he)
  refine ⟨half, (hframe.source _ hne).trans hs, hserves, hsound, hsupply.imp ?_ ?_⟩
  · rintro ⟨hopen, rest, hoctets, hwell, ⟨⟨sink, hk, hback, hrest⟩, bridge, hb, hparts⟩, hp, honly⟩
    refine ⟨hopen, rest, hoctets, ?_, ⟨⟨{ sink with released := true, owner := none }, ?_, hback,
      ⟨hrest.started, hrest.pending, hrest.idle, hrest.unaborted, hrest.state, hrest.lock⟩⟩,
      bridge, (hframe.bridge _ fun h => h).trans hb, hparts⟩, (hpipe _ _).mpr hp,
      fun id pipe hp => honly id pipe ((hpipe id pipe).mp hp)⟩
    · refine hwell.relock hframe happart rfl fun source hsource hlock => ?_
      refine ⟨{ source with released := true, owner := none }, ?_, rfl, rfl, rfl, rfl, rfl, rfl,
        hlock⟩
      simp [Registry.releaseReadable, Registry.releaseWritable,
        Registry.source?_modifySource, hsource]
    · simp [Registry.releaseReadable, Registry.releaseWritable,
        Registry.sink?_modifySink, hk]
  · rintro ⟨hended, hoctets, hspent, hidle⟩
    exact ⟨hended, hoctets, r.well.frameSpent hspent hframe happart,
      fun id pipe hp => hidle id pipe ((hpipe id pipe).mp hp)⟩

end Relay

end EdgeStreams
