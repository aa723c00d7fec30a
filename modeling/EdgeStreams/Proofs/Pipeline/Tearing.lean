import EdgeStreams.Proofs.Client.Tearing
import EdgeStreams.Proofs.Pipeline.Outcome

/-!
# Tearing down a pipeline

Once one of the pipes of a pipeline is torn down, what has not passed it is given up. The stream
behind it has failed, so that driving all pipes fails the pipes after it, one after the other; the
pipes before it find their destinations failed. In the end all have finished, and the host body
behind the sink has been abandoned with the beginning of the content in it.

## Main definitions

- `Passage.torn`: the passage when what has not come out may be given up
- `Cell.tornOff`: a cell once the pipe out of it has been torn down
- `Pipeline.Abandoned`: what is left of a pipeline that has been torn down

## Main statements

- `Passage.Holds.tear`: a running pipe is torn down
- `Passage.Holds.abandon`: what comes of a pipeline of which a pipe is torn down
- `Client.tearsDown_of_leads`: any pipe that clients can reach, and any pipe of a pipeline
-/

namespace EdgeStreams

variable {E : Type}

namespace Passage

/-! ### What may be given up -/

/-- The same passage when what has not come out may be given up. -/
def torn (p : Passage) : Passage := { p with calm := False, faultless_of_calm := False.elim }

variable {p : Passage} {i : Nat} {s t : Session MemoryHost E} {below : List Cell}
variable {last target : Cell} {intake : Intake} {lock : Option WriterToken}

@[simp] theorem not_calm_torn (p : Passage) : ¬ p.torn.calm := fun h => h

theorem Joins.torn (h : p.Joins target intake) : p.torn.Joins target intake :=
  ⟨h.settled, h.released, False.elim, h.carried⟩

theorem Spring.torn (h : p.Spring target s) : p.torn.Spring target s :=
  ⟨h.source.imp fun _ ⟨hadmits, hs⟩ => ⟨⟨hadmits.pos, hadmits.within⟩, hs⟩, h.origin, False.elim,
    h.chunkSize, h.faultless, h.intact⟩

theorem Crossing.torn (h : p.Crossing i target intake lock s) :
    p.torn.Crossing i target intake lock s :=
  ⟨h.source, h.sink, h.bridge, h.answers, h.accounts, False.elim⟩

theorem Upto.torn (h : p.Upto below last s) : p.torn.Upto below last s := by
  induction below generalizing last with
  | nil => exact Spring.torn h
  | cons next below ih =>
    obtain ⟨hnext, hrests, hpipe, intake, hcross, hjoins⟩ := h
    exact ⟨ih hnext, hrests, hpipe, intake, hcross.torn, hjoins.torn⟩

theorem Mouth.torn (h : p.Mouth intake lock s) : p.torn.Mouth intake lock s :=
  ⟨h.sink, h.basin.body, False.elim, h.basin.faultless, h.basin.intact⟩

theorem Holds.torn (h : p.Holds below last s) : p.torn.Holds below last s := by
  obtain ⟨intake, hmouth, hjoins⟩ := h.mouth
  exact ⟨h.length, h.upto.torn, h.resting, h.pipe, ⟨intake, hmouth.torn, hjoins.torn⟩, h.alone,
    h.wellFormed⟩

/-- As long as nothing fails, a running pipe leads into a stream that can be written. -/
theorem Joins.writable_of_running (h : p.Joins target intake) (hr : target.link.IsRunning)
    (hu : ∀ error, intake.state ≠ .errored error) : intake.state = .writable := by
  have hcarried := h.carried
  cases hstate : intake.state with
  | writable => rfl
  | closing => rw [hstate] at hcarried; exact hcarried.elim
  | closed =>
    simp only [hstate] at hcarried
    rw [hcarried.2.1] at hr
    exact hr.elim
  | errored error => exact absurd hstate (hu error)

end Passage

/-! ### One pipe -/

/-- The cell once the pipe out of it has been torn down. -/
def Cell.tornOff (cell : Cell) : Cell :=
  { cell with supply := cell.supply.afterCancel, link := .finished (.failed .aborted) }

theorem Supply.queue_afterCancel {supply : Supply} (h : supply.queue = []) :
    supply.afterCancel.queue = [] := by
  cases supply with
  | flowing queue | draining queue => rfl
  | ended | canceled | failed error => exact h

theorem Cell.Rests.tornOff {cell : Cell} {below : List Cell} (h : cell.Rests below) :
    cell.tornOff.Rests below :=
  ⟨h.pulling, fun hb => Supply.queue_afterCancel (h.dry hb)⟩

namespace Passage

variable {p : Passage} {i : Nat} {s t : Session MemoryHost E} {above below rest : List Cell}
variable {last target : Cell} {intake : Intake} {id : PipeId} {reader : ReaderToken}
variable {writer : WriterToken}

theorem Joins.tornOff (hc : ¬ p.calm) (h : p.Joins target intake) :
    p.Joins target.tornOff intake.afterAbort :=
  ⟨fun _ => Supply.isTerminal_afterCancel _, fun _ => trivial, fun hn => absurd hn hc,
    h.octets_prefix, by simp [Cell.tornOff]⟩

/-- The destination of a pipe is aborted, its source is cancelled, and it has failed. -/
theorem Upto.tear (hp : p.Distinct) (hi : i ≤ p.length) (hc : ¬ p.calm) (hlen : rest.length = i)
    (h : p.Upto rest target s) (hlink : target.link = .running id reader writer)
    (hpipe : p.PipeAt i target.link false s) {o : p.Outlet E i}
    (hout : o.Stands intake (some writer) s) (hstate : intake.state = .writable)
    (reason : Option String) :
    ∃ t, t = Session.pipeFinished id (.failed .aborted)
        (exec (Session.cancel (p.readable i) reason (some reader))
          (exec (Session.abort (p.writable i) reason (some writer)) s).2).2 ∧
      p.Upto rest target.tornOff t ∧ p.PipeAt i target.tornOff.link false t ∧
      o.Stands intake.afterAbort none t ∧ Frame o.course s t := by
  obtain ⟨outcome, aborted, habort, hframe, hout'⟩ := hout.exec_abort hstate hc reason
  have hupto : p.Upto rest target aborted :=
    h.of_frame hframe (hlen.symm ▸ Outlet.reach_apart hp hi)
  have hpipe' : p.PipeAt i target.link false aborted := by
    refine hpipe.of_frame hframe ?_
    rw [Outlet.reach, o.unpiped]
    exact Set.notMem_empty _
  obtain ⟨canceled, hcancel, hupto', hframe'⟩ :=
    hupto.cancel hp hi hlen hc (show target.link.reader? = some reader by rw [hlink]; rfl) reason
  have hpipe'' := hpipe'.of_frame hframe' (hp.writable_notMem_pipes hi (Nat.le_refl i))
  have hbehind : p.writable i ∉ (p.upstream i).writables := by
    rintro ⟨j, hj, he⟩
    have := hp.writable _ _ hi (by omega) he
    omega
  have hout'' := hout'.of_frame hframe' o.apart.symm hbehind
  obtain ⟨hupto₃, hpipe₃, hout₃, hframe'', -⟩ :=
    hupto'.finish hp hi hlen hlink hpipe'' hout''
      (show PipeState.failed StreamError.aborted ≠ .running by simp)
  refine ⟨_, rfl, ?_⟩
  rw [habort, hcancel]
  exact ⟨hupto₃, hpipe₃, hout₃, (hframe.mono Outlet.reach_within).trans
    ((hframe'.mono Outlet.upstream_within).trans (hframe''.mono Outlet.link_within))⟩

/-- The running pipe out of a stream of a pipeline. -/
theorem Holds.pipeFrom?_eq (hp : p.Distinct) (h : p.Holds below last s)
    (he : last :: below = above ++ target :: rest)
    (hlink : target.link = .running id reader writer) :
    s.streams.pipeFrom? (p.readable rest.length) = some (id, p.pipe rest.length reader writer) := by
  obtain ⟨hentry, honly⟩ : p.PipeAt rest.length (.running id reader writer) false s :=
    hlink ▸ (h.link_of_split he).1
  refine s.streams.pipeFrom?_eq_some hentry rfl fun other found hs hr hsource => ?_
  obtain ⟨above', cell, rest', reader', writer', he', hlink', -⟩ := h.split_of_running hs hr
  obtain ⟨hentry', -⟩ : p.PipeAt rest'.length (.running other reader' writer') false s :=
    hlink' ▸ (h.link_of_split he').1
  obtain rfl := Option.some_inj.mp (hs.symm.trans hentry')
  have hlength : rest'.length = rest.length :=
    hp.readable _ _ (h.length_of_split he') (h.length_of_split he) hsource
  exact honly other _ hs (congrArg p.writable hlength)

/-- A running pipe of a pipeline is torn down. What was done before the pipe and after it is as it
was, but for the stream behind it, which has failed. -/
theorem Holds.tear (hp : p.Distinct) (hc : p.calm) (h : p.Holds below last s)
    (he : last :: below = above ++ target :: rest) (hlink : target.link = .running id reader writer)
    (reason : Option String) :
    ∃ below' last' t,
      exec (Session.abortCorrelated (p.readable rest.length) reason) s = (.ok (), t) ∧
        p.torn.Holds below' last' t ∧ (last' :: below').map Cell.link =
          above.map Cell.link ++ .finished (.failed .aborted) :: rest.map Cell.link := by
  rw [Session.exec_abortCorrelated_of_pipe (h.pipeFrom?_eq hp he hlink)]
  have hrunning : target.link.IsRunning := by rw [hlink]; trivial
  have hi := h.length_of_split he
  rcases above.eq_nil_or_concat with rfl | ⟨further, next, rfl⟩
  · -- the last pipe
    obtain ⟨rfl, rfl⟩ := List.cons_eq_cons.mp he
    obtain ⟨intake, hmouth, hjoins⟩ := h.mouth
    have hstate := hjoins.writable_of_running hrunning (hmouth.basin.unbroken hc)
    have hout : (p.torn.mouthOutlet E hp).Stands intake last.link.writer? s :=
      ⟨hmouth.torn.sink, hmouth.torn.basin⟩
    rw [hlink] at hout
    obtain ⟨t, ht, hupto, hpipe, hout', hframe⟩ :=
      h.torn.upto.tear (p := p.torn) hp (Nat.le_refl _) p.not_calm_torn h.length hlink h.pipe hout
        hstate reason
    rw [h.length]
    refine ⟨below, last.tornOff, t, congrArg _ ht.symm, ⟨h.length, hupto, h.resting.tornOff, hpipe,
      ⟨intake.afterAbort, ⟨hout'.sink, hout'.behind⟩, hjoins.torn.tornOff p.not_calm_torn⟩,
      alone_of_frame hframe ?_ h.alone, hframe.wellFormed h.wellFormed⟩, rfl⟩
    rintro name (⟨j, hj, rfl⟩ | rfl | hname)
    · exact ⟨j, hj.le, rfl⟩
    · exact ⟨p.length, Nat.le_refl _, rfl⟩
    · exact hname.elim
  · -- a pipe before the last
    rw [List.concat_eq_append, List.append_assoc, List.singleton_append] at he
    have hi' : rest.length < p.length := h.length_of_split he
    obtain ⟨htarget, hrests, hpipe, intake, hcross, hjoins⟩ := h.upto.suffix he
    have hstate := hjoins.writable_of_running hrunning (hcross.unbroken hc)
    have hout := hcross.torn.outlet (p := p.torn) hp hi'
    rw [hlink] at hout
    obtain ⟨t, ht, hupto, hpipe', ⟨hsink, supply, hsource, hbridge, hanswers, haccounts, hhealthy,
        huncanceled, hterminal⟩, hframe⟩ :=
      htarget.torn.tear (p := p.torn) hp hi p.not_calm_torn rfl hlink hpipe hout hstate reason
    have hnext : next.Resupplied { next with supply } := ⟨rfl, rfl, rfl, hterminal, huncanceled⟩
    obtain ⟨below', last', he', h'⟩ :=
      h.torn.splice (p := p.torn) hp he (hframe.mono course_within_upstream)
        (show p.torn.Upto (target.tornOff :: rest) { next with supply } t from
          ⟨hupto, hrests.tornOff, hpipe', intake.afterAbort,
            ⟨hsource, hsink, hbridge, hanswers, haccounts, hhealthy⟩,
              hjoins.torn.tornOff p.not_calm_torn⟩)
        rfl (List.cons_ne_nil _ _) hnext
    refine ⟨below', last', t, congrArg _ ht.symm, h', ?_⟩
    simp [he', Cell.tornOff]

/-! ### What comes of it -/

/-- All pipes before a stream that has ended are done. -/
theorem Upto.done_of_ended (h : p.Upto below last s) (he : last.supply = .ended) :
    ∀ cell ∈ below, cell.link = .finished .done := by
  induction below generalizing last with
  | nil => exact fun _ hmem => absurd hmem List.not_mem_nil
  | cons next below ih =>
    obtain ⟨hnext, -, -, intake, hcross, hjoins⟩ := h
    have hanswers := hcross.answers
    have hcarried := hjoins.carried
    rw [he] at hanswers
    simp only [show intake.state = .closed from hanswers] at hcarried
    intro cell hmem
    rcases List.mem_cons.mp hmem with rfl | hmem
    · exact hcarried.2.1
    · exact ih hnext hcarried.2.2 cell hmem

/-- Where all pipes have finished and one of them is not done, the host body behind the sink has
been abandoned. -/
theorem Holds.abandoned (h : p.Holds below last s) (hf : p.faultless)
    (hall : ∀ cell ∈ last :: below, cell.link.IsFinished)
    (hcut : ∃ cell ∈ last :: below, cell.link ≠ .finished .done) :
    s.host.bodyIsAbandoned p.destination = true := by
  obtain ⟨intake, hmouth, hjoins⟩ := h.mouth
  obtain ⟨body, hfound, -, -, -, habandoned⟩ := hmouth.basin.body
  have hterminal := hjoins.terminal (hall last List.mem_cons_self)
  have hcarried := hjoins.carried
  cases hstate : intake.state with
  | writable | closing => rw [hstate] at hterminal; cases hterminal
  | errored error =>
    simp [MemoryHost.bodyIsAbandoned, MemoryHost.bodyState?, hfound, habandoned hf error hstate]
  | closed =>
    -- a sink that is closed has taken in everything
    simp only [hstate] at hcarried
    obtain ⟨cell, hmem, hundone⟩ := hcut
    rcases List.mem_cons.mp hmem with rfl | hmem
    · exact absurd hcarried.2.1 hundone
    · exact absurd (h.upto.done_of_ended hcarried.2.2 cell hmem) hundone

end Passage

/-- A pipe that has finished stays as it is. -/
theorem Cell.finished_mem_of_growsTo {cells cells' : List Cell}
    (h : List.Forall₂ GrowsTo cells cells') {outcome : PipeState}
    (hm : ∃ cell ∈ cells, cell.link = .finished outcome) :
    ∃ cell ∈ cells', cell.link = .finished outcome := by
  induction h with
  | nil => exact hm
  | @cons cell cell' _ _ hgrows _ ih =>
    simp only [List.exists_mem_cons_iff] at hm ⊢
    refine hm.imp (fun hlink => ?_) ih
    rcases hgrows.link with hsame | ⟨hrunning, -⟩
    · exact hsame.trans hlink
    · rw [hlink] at hrunning
      exact hrunning.elim

/-- What is left of a pipeline that has been torn down: nothing can happen to it any more, and the
host body behind its sink has been abandoned with the beginning of the content in it. -/
structure Pipeline.Abandoned (p : Pipeline) (s : Session MemoryHost E) (content : Bytes)
    (swept : Prop) : Prop where
  settled : p.Settled s content swept
  abandoned : s.host.bodyIsAbandoned p.destination = true
  written : ∃ written, p.written s = some written ∧ written <+: content

/-- A pipeline without failures of which a running pipe is torn down is abandoned once all pipes
have been driven. -/
theorem Passage.Holds.abandon {p : Passage} {s : Session MemoryHost E}
    {below : List Cell} {last : Cell} (hp : p.Distinct) (hc : p.calm) (h : p.Holds below last s)
    (hstarted : ¬ ∃ cell ∈ last :: below, cell.link.IsIdle) {id : PipeId} {pipe : Pipe}
    (hs : s.streams.pipe? id = some pipe) (hr : pipe.isRunning) (reason : Option String) :
    ∃ torn steps t, exec (Session.abortCorrelated pipe.source reason) s = (.ok (), torn) ∧
      Settles (fun fuel => drive (Session.pump fuel) torn) (steps, t) ∧
      p.toPipeline.Abandoned t p.content p.swept := by
  obtain ⟨above, cell, rest, reader, writer, he, hlink, -⟩ := h.split_of_running hs hr
  obtain ⟨hentry, -⟩ : p.PipeAt rest.length (.running id reader writer) false s :=
    hlink ▸ (h.link_of_split he).1
  obtain rfl := Option.some_inj.mp (hs.symm.trans hentry)
  obtain ⟨below₁, last₁, torn, htorn, h₁, hlinks⟩ := h.tear hp hc he hlink reason
  -- the pipe that has been torn down is not done, and no pipe is idle
  have hcut : ∃ cell ∈ last₁ :: below₁, cell.link = .finished (.failed .aborted) := by
    have hmem : LinkStatus.finished (.failed .aborted) ∈ (last₁ :: below₁).map Cell.link := by
      simp [hlinks]
    obtain ⟨cell, hcell, hfailed⟩ := List.mem_map.mp hmem
    exact ⟨cell, hcell, hfailed⟩
  have hstarted₁ : ¬ ∃ cell ∈ last₁ :: below₁, cell.link.IsIdle := by
    rintro ⟨idle, hmem, hidle⟩
    have hmem' := List.mem_map_of_mem (f := Cell.link) hmem
    rw [hlinks, List.mem_append, List.mem_cons] at hmem'
    rcases hmem' with hmem' | hfailed | hmem'
    · obtain ⟨same, hsame, hlinked⟩ := List.mem_map.mp hmem'
      exact hstarted ⟨same, by rw [he]; simp [hsame], hlinked ▸ hidle⟩
    · rw [hfailed] at hidle
      exact hidle
    · obtain ⟨same, hsame, hlinked⟩ := List.mem_map.mp hmem'
      exact hstarted ⟨same, by rw [he]; simp [hsame], hlinked ▸ hidle⟩
  obtain ⟨steps, below₂, last₂, t, hpump, h₂, hgrows, hall⟩ := h₁.finish (p := p.torn) hp hstarted₁
  obtain ⟨failed, hmem, hfailed⟩ := Cell.finished_mem_of_growsTo hgrows hcut
  refine ⟨torn, steps, t, htorn, hpump, h₂.settled hall,
    h₂.abandoned (p := p.torn) (p.faultless_of_calm hc) hall ⟨failed, hmem, by simp [hfailed]⟩,
    h₂.written_prefix⟩

/-- Whoever aborts what the source of a running pipe is piped into tears down the pipe, whatever the
host and the guests answer, and to do it again reaches neither of them. Where it is a pipe of a
pipeline and nothing else fails, driving all pipes abandons the whole pipeline. -/
theorem Client.tearsDown_of_leads {H : Type} [Host H] {uses : H → List UInt32 → H → Prop} (host : H)
    (env : E) (config : StreamConfig) :
    (∀ client, Client.LeadsTo uses Client.Honest (Client.new host env config) client →
      ∀ id pipe, client.session.streams.pipe? id = some pipe → pipe.isRunning → ∀ reason,
        ∃ t, exec (Session.abortCorrelated pipe.source reason) client.session = (.ok (), t) ∧
          client.session.TornDown t id pipe ∧
          ∀ again, ∃ result streams, ∀ (host : H) (env : E),
            exec (Session.abortCorrelated pipe.source again) { t with host, env } =
              (result, { t with host, env, streams })) ∧
    ∀ s : Session MemoryHost E, s.Fit → ∀ content count, ∃ p laid,
      exec (Session.layPipeline content count) s = (.ok p, laid) ∧ p.length = count ∧
        ∀ ops, PipelineOp.Proper count ops → (∀ op ∈ ops, op.IsCalm) →
          (∀ i, i ≤ count → i ∈ PipelineOp.starts ops) →
            ∃ s', Settles (fun fuel => PipelineOp.runAll p fuel ops laid) s' ∧
              ∀ id pipe, s'.streams.pipe? id = some pipe → pipe.isRunning → ∀ reason,
                ∃ torn steps t,
                  exec (Session.abortCorrelated pipe.source reason) s' = (.ok (), torn) ∧
                    Settles (fun fuel => drive (Session.pump fuel) torn) (steps, t) ∧
                    p.Abandoned t content (.sweep ∈ ops) := by
  refine ⟨fun client hleads id pipe hp hr reason => ?_, fun s hs content count => ?_⟩
  · have hresting := hleads.resting (Session.resting_new host env config)
    have ho := hleads.orderly (Client.orderly_new host env config)
    have hu := hleads.unshut (Session.resting_new host env config)
      (Client.orderly_new host env config) (Client.unshut_new host env config)
    obtain ⟨t, hrun, htorn⟩ := Session.tornDown_abortCorrelated hresting.composed ho hp hr hu
      (fun hs => hleads.whole (Session.resting_new host env config)
        (Client.whole_new host env config) hs) reason
    exact ⟨t, hrun, htorn, htorn.abortCorrelated_again ho hp hr⟩
  · obtain ⟨p, laid, hlay, hlength, hlaid, -⟩ := hs.lay content count
    subst hlength
    refine ⟨p, laid, hlay, rfl, fun ops hops hcalm hstarts => ?_⟩
    obtain ⟨below, last, s', hsettles, hholds, hstarted⟩ := hlaid.runAll hops False.elim
    exact ⟨s', hsettles, fun id pipe hp hr reason =>
      hholds.abandon hlaid.distinct hcalm (hstarted hstarts) hp hr reason⟩

/-- A pipe whose destination has no room, and a pipeline whose first pipe has filled the transform
stream. -/
theorem Client.tearsDown_of_leads_full :
    (∃ (client : Client MemoryHost Unit) (pipe : Pipe) (t : Session MemoryHost Unit),
      client.session.streams.pipe? ⟨0, 0⟩ = some pipe ∧ pipe.isRunning ∧
        exec (Session.abortCorrelated pipe.source none) client.session = (.ok (), t) ∧
        client.session.TornDown t ⟨0, 0⟩ pipe) ∧
    ∃ (p : Pipeline) (s : Session MemoryHost Unit) (pipe : Pipe) (torn t : Session MemoryHost Unit)
        (steps : Nat),
      s.streams.pipe? ⟨1, 0⟩ = some pipe ∧ pipe.isRunning ∧ pipe.source = p.source ∧
        exec (Session.abortCorrelated p.source none) s = (.ok (), torn) ∧
        Settles (fun fuel => drive (Session.pump fuel) torn) (steps, t) ∧
        p.Abandoned t [1, 2, 3] False := by
  constructor
  · have hmade : Client.LeadsTo (H := MemoryHost) (E := Unit) (fun _ _ _ => True) Client.Honest
        (Client.new {} () { transformHighWaterMark := 0 }) _ :=
      .step (.step .refl (.operate (.createTransform .identity) 0 rfl)
          (.operate (.createTransform .identity) 0 trivial rfl))
        (.operate (.bodySource ⟨1⟩) 0 rfl) (.operate (.bodySource ⟨1⟩) 0 trivial rfl)
    obtain ⟨client, hpiped, pipe, hp, hr⟩ : ∃ client : Client MemoryHost Unit,
        Client.LeadsTo (fun _ _ _ => True) Client.Honest
          (Client.new {} () { transformHighWaterMark := 0 }) client ∧
        ∃ pipe, client.session.streams.pipe? ⟨0, 0⟩ = some pipe ∧ pipe.isRunning :=
      ⟨_, hmade.step (.operate (.pipeTo ⟨1, 0⟩ ⟨0, 0⟩ {}) 3 rfl)
        (.operate (.pipeTo ⟨1, 0⟩ ⟨0, 0⟩ {}) 3 trivial rfl), _, rfl, rfl⟩
    obtain ⟨t, hrun, htorn, -⟩ := (Client.tearsDown_of_leads ({} : MemoryHost) ()
      { transformHighWaterMark := 0 }).1 client hpiped ⟨0, 0⟩ pipe hp hr none
    exact ⟨client, pipe, t, hp, hr, hrun, htorn⟩
  · have hfull : ((exec (Session.layPipeline [1, 2, 3] 1)
          ({ host := .withChunkSize 1, env := (),
             streams := .new { transformHighWaterMark := 1 } } : Session MemoryHost Unit)) |>
        fun laid => laid.1.toOption.bind fun p =>
          (PipelineOp.runAll p 8 [.pipeTo 1, .pipeThrough 0] laid.2).bind fun s =>
            (s.streams.pipe? ⟨1, 0⟩).map fun pipe => (pipe.isRunning, pipe.source == p.source)) =
        some (true, true) := by decide +kernel
    obtain ⟨p, laid, hlay, -, hwork⟩ :=
      (@Client.tearsDown_of_leads Unit MemoryHost _ (fun _ _ _ => True) {} () {}).2 _
        (Session.fit_new 1 { transformHighWaterMark := 1 } ()) [1, 2, 3] 1
    obtain ⟨s, hsettles, htears⟩ := hwork [.pipeTo 1, .pipeThrough 0]
      ⟨by simp [PipelineOp.Fits], by decide⟩ (by simp [PipelineOp.IsCalm]) (by decide)
    rw [hlay] at hfull
    simp only [Except.toOption, Option.bind_some] at hfull
    obtain ⟨found, hrunall, hpipe⟩ := Option.bind_eq_some_iff.mp hfull
    obtain rfl := hsettles.unique (.of_more (fun _ _ => PipelineOp.runAll_more) hrunall)
    obtain ⟨pipe, hp, hrunning⟩ := Option.map_eq_some_iff.mp hpipe
    obtain ⟨hr, hsource⟩ := Prod.mk.inj hrunning
    obtain ⟨torn, steps, t, hrun, hpump, habandoned⟩ := htears _ pipe hp hr none
    rw [eq_of_beq hsource] at hrun
    rw [show (PipelineOp.sweep ∈ _) = False by simp] at habandoned
    exact ⟨p, s, pipe, torn, t, steps, hp, hr, eq_of_beq hsource, hrun, hpump, habandoned⟩

end EdgeStreams
