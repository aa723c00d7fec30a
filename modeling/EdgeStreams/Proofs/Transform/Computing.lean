import EdgeStreams.Proofs.Client.Locks
import EdgeStreams.Proofs.Transform.Halves

/-!
# Transform streams compute their transformers

A transform stream is written to at the one end and read at the other. However the writes and the
reads come one after the other, the reader gets what the transformer makes of the chunks.

## Main definitions

- `HalfUse`: something done with one of the halves, and `HalfAnswer`: what comes of it
- `Session.performAll`: one such use after another
- `ReadsOut`: the answers are those of a stream out of which some chunks come

## Main statements

- `Session.Relays.performAll`: a transform stream whose end is still to come
- `Client.readsOut_of_leads`: a transform stream from the start to the end
-/

namespace EdgeStreams

variable {H E : Type}

/-- Something that is done with a half of a transform stream. -/
inductive HalfUse where
  | write (chunk : Bytes)
  | close
  | read
  | backpressure
  deriving DecidableEq, Repr

/-- Whether it is done with the writable half. -/
def HalfUse.isWriting : HalfUse → Bool
  | .write _ | .close => true
  | .read | .backpressure => false

/-- What comes of something that is done with a half of a transform stream. -/
inductive HalfAnswer where
  | wrote (result : Except StreamError Unit)
  | closed (result : Except StreamError Unit)
  | found (result : Except StreamError ReadOutcome)
  | pressed (backpressure : Bool)

namespace HalfAnswer

/-- The chunk that a reader has got. -/
def chunk? : HalfAnswer → Option Bytes
  | .found (.ok (.chunk chunk)) => some chunk
  | _ => none

/-- Whether all has gone well. -/
def isFine : HalfAnswer → Bool
  | .wrote result | .closed result => result.isOk
  | .found result => result.isOk
  | .pressed _ => true

/-- A reader has come to the end. -/
abbrev done : HalfAnswer := .found (.ok .done)

end HalfAnswer

/-! ### What a reader gets -/

/-- All has gone well, and a reader has got the chunks, or the first of them, and the end only after
all of them. -/
structure ReadsOut (out : List Bytes) (answers : List HalfAnswer) : Prop where
  fine : ∀ answer ∈ answers, answer.isFine
  chunks : answers.filterMap HalfAnswer.chunk? <+: out
  upToDone : ∀ before after, answers = before ++ .done :: after →
    before.filterMap HalfAnswer.chunk? = out

namespace ReadsOut

variable {out waiting : List Bytes} {answers : List HalfAnswer} {answer : HalfAnswer} {ended : Bool}

theorem nil (out : List Bytes) : ReadsOut out [] :=
  ⟨nofun, List.nil_prefix, fun before _ h => by cases before <;> cases h⟩

/-- An answer that tells the reader nothing. -/
theorem other (h : ReadsOut out answers) (hfine : answer.isFine) (hchunk : answer.chunk? = none)
    (hdone : answer ≠ .done) : ReadsOut out (answer :: answers) := by
  refine ⟨List.forall_mem_cons.mpr ⟨hfine, h.fine⟩, ?_, fun before after heq => ?_⟩
  · rw [List.filterMap_cons_none hchunk]
    exact h.chunks
  · cases before with
    | nil => exact absurd (List.cons.inj heq).1 hdone
    | cons first rest =>
      obtain ⟨rfl, hrest⟩ := List.cons.inj heq
      rw [List.filterMap_cons_none hchunk]
      exact h.upToDone rest after hrest

theorem chunk (h : ReadsOut out answers) (chunk : Bytes) :
    ReadsOut (chunk :: out) (.found (.ok (.chunk chunk)) :: answers) := by
  have hchunk : (HalfAnswer.found (.ok (.chunk chunk))).chunk? = some chunk := rfl
  refine ⟨List.forall_mem_cons.mpr ⟨rfl, h.fine⟩, ?_, fun before after heq => ?_⟩
  · rw [List.filterMap_cons_some hchunk]
    exact (List.prefix_cons_inj chunk).mpr h.chunks
  · cases before with
    | nil => cases heq
    | cons first rest =>
      obtain ⟨rfl, hrest⟩ := List.cons.inj heq
      rw [List.filterMap_cons_some hchunk, h.upToDone rest after hrest]

/-- The end may be told again and again. -/
theorem done (h : ReadsOut [] answers) : ReadsOut [] (.done :: answers) := by
  refine ⟨List.forall_mem_cons.mpr ⟨rfl, h.fine⟩, ?_, fun before after heq => ?_⟩
  · rw [List.filterMap_cons_none rfl]
    exact h.chunks
  · cases before with
    | nil => rfl
    | cons first rest =>
      obtain ⟨rfl, hrest⟩ := List.cons.inj heq
      rw [List.filterMap_cons_none rfl]
      exact h.upToDone rest after hrest

/-- A read where some chunks wait and others may follow, unless the stream has been ended. -/
theorem found (h : ReadsOut (waiting.tail ++ out) answers) (hended : ended = true → out = []) :
    ReadsOut (waiting ++ out) (.found (.ok (firstOf waiting ended)) :: answers) := by
  cases waiting with
  | cons first rest => exact h.chunk first
  | nil =>
    cases ended with
    | false => exact h.other rfl rfl nofun
    | true =>
      obtain rfl := hended rfl
      exact h.done

end ReadsOut

namespace Session

variable [Host H] {s t : Session H E} {stream : TransformStream} {transformer : Transformer E}
variable {waiting out : List Bytes} {use : HalfUse} {uses : List HalfUse}

/-- What comes of something that is done with a half, and the session after it. There is none if a
read does not come to an end. -/
def perform (fuel : Nat) (stream : TransformStream) (s : Session H E) :
    HalfUse → Option (HalfAnswer × Session H E)
  | .write chunk =>
    some ((exec (write stream.writable chunk) s).map .wrote id)
  | .close => some ((exec (close stream.writable) s).map .closed id)
  | .read => (attempt (read fuel stream.readable) s).map (Prod.map .found id)
  | .backpressure => some (.pressed (s.streams.backpressure stream.bridge), s)

/-- What comes of what is done with the halves, one after the other. -/
def performAll (fuel : Nat) (stream : TransformStream) :
    List HalfUse → Session H E → Option (List HalfAnswer × Session H E)
  | [], s => some ([], s)
  | use :: uses, s => do
    let (answer, s) ← perform fuel stream s use
    let (answers, s) ← performAll fuel stream uses s
    return (answer :: answers, s)

/-- What comes of making a transform stream and of what is then done with its halves. -/
def useTransform (fuel : Nat) (transformer : Transformer E) (uses : List HalfUse)
    (s : Session H E) : Option (List HalfAnswer × Session H E) :=
  performAll fuel (createTransform transformer s).1 uses (createTransform transformer s).2

theorem performAll_cons {fuel : Nat} {answer : HalfAnswer} {answers : List HalfAnswer}
    {u : Session H E} (h : perform fuel stream s use = some (answer, t))
    (hrest : performAll fuel stream uses t = some (answers, u)) :
    performAll fuel stream (use :: uses) s = some (answer :: answers, u) := by
  simp [performAll, h, hrest]

/-- Once the stream has been ended, a reader gets the chunks that wait, and then the end. By
induction on what is done. -/
theorem Relays.performAll_ended (h : Relays stream transformer waiting true s)
    (huses : uses.filter HalfUse.isWriting = []) (fuel : Nat) :
    ∃ answers t, performAll (fuel + 3) stream uses s = some (answers, t) ∧
    ReadsOut waiting answers ∧ (waiting.length < uses.count .read → .done ∈ answers) := by
  induction uses generalizing waiting s with
  | nil => exact ⟨[], s, rfl, .nil waiting, nofun⟩
  | cons use rest ih =>
    cases use with
    | write | close => cases huses
    | backpressure =>
      obtain ⟨answers, t, hrest, hreads, hends⟩ := ih h huses
      refine ⟨.pressed (s.streams.backpressure stream.bridge) :: answers, t,
        performAll_cons rfl hrest, hreads.other rfl rfl nofun, fun hlt => ?_⟩
      exact List.mem_cons_of_mem _ (hends (by simpa using hlt))
    | read =>
      obtain ⟨u, hread, hu, -⟩ := h.read fuel
      obtain ⟨answers, t, hrest, hreads, hends⟩ := ih hu huses
      refine ⟨.found (.ok (firstOf waiting true)) :: answers, t,
        performAll_cons (by simp [perform, hread]) hrest, ?_, fun hlt => ?_⟩
      · rw [← List.append_nil waiting.tail] at hreads
        have hfound := hreads.found fun _ : true = true => rfl
        rwa [List.append_nil] at hfound
      · cases waiting with
        | nil => exact List.mem_cons_self
        | cons first others =>
          refine List.mem_cons_of_mem _ (hends ?_)
          simpa using hlt

/-- What comes out of a stream whose end is still to come: the chunks that wait, and then what the
transformer makes of the chunks that are still to be written. By induction on what is done. -/
theorem Relays.performAll {writes : List Bytes} (h : Relays stream transformer waiting false s)
    (huses : uses.filter HalfUse.isWriting = writes.map .write ++ [.close])
    (hout : transformer.outputToEnd writes s.env = some out) (fuel : Nat) :
    ∃ answers t, Session.performAll (fuel + 3) stream uses s = some (answers, t) ∧
      ReadsOut (waiting ++ out) answers ∧
      ∀ before after, uses = before ++ .close :: after →
        (waiting ++ out).length < after.count .read → .done ∈ answers := by
  induction uses generalizing writes waiting out s with
  | nil => simp at huses
  | cons use rest ih =>
    cases use with
    | write chunk =>
      cases writes with
      | nil => cases huses
      | cons first others =>
        obtain ⟨⟨rfl⟩, hrestUses⟩ := List.cons.inj huses
        obtain ⟨new, left, others, hnew, hothers, rfl⟩ :=
          Transformer.exists_of_outputToEnd_cons hout
        obtain ⟨u, hwrite, hu, henv⟩ := h.write hnew
        obtain ⟨answers, t, hrest, hreads, hends⟩ := ih hu hrestUses (henv.symm ▸ hothers)
        rw [List.append_assoc] at hreads hends
        refine ⟨.wrote (.ok ()) :: answers, t, performAll_cons (by simp [perform, hwrite]) hrest,
          hreads.other rfl rfl nofun, fun before after heq hlt => ?_⟩
        cases before with
        | nil => cases heq
        | cons => exact List.mem_cons_of_mem _ (hends _ after (List.cons.inj heq).2 hlt)
    | close =>
      cases writes with
      | cons => cases huses
      | nil =>
        have hlast : rest.filter HalfUse.isWriting = [] := (List.cons.inj huses).2
        obtain ⟨left, hflush⟩ := Transformer.exists_of_outputToEnd_nil hout
        obtain ⟨u, hclose, hu, -⟩ := h.close hflush
        obtain ⟨answers, t, hrest, hreads, hends⟩ := hu.performAll_ended hlast fuel
        refine ⟨.closed (.ok ()) :: answers, t, performAll_cons (by simp [perform, hclose]) hrest,
          hreads.other rfl rfl nofun, fun before after heq hlt => ?_⟩
        cases before with
        | nil =>
          obtain ⟨-, rfl⟩ := List.cons.inj heq
          exact List.mem_cons_of_mem _ (hends hlt)
        | cons =>
          -- The stream is ended once only.
          obtain ⟨-, rfl⟩ := List.cons.inj heq
          simp [HalfUse.isWriting] at hlast
    | backpressure =>
      obtain ⟨answers, t, hrest, hreads, hends⟩ := ih h huses hout
      refine ⟨.pressed (s.streams.backpressure stream.bridge) :: answers, t,
        performAll_cons rfl hrest, hreads.other rfl rfl nofun, fun before after heq hlt => ?_⟩
      cases before with
      | nil => cases heq
      | cons => exact List.mem_cons_of_mem _ (hends _ after (List.cons.inj heq).2 hlt)
    | read =>
      obtain ⟨u, hread, hu, henv⟩ := h.read fuel
      obtain ⟨answers, t, hrest, hreads, hends⟩ := ih hu huses (henv.symm ▸ hout)
      refine ⟨.found (.ok (firstOf waiting false)) :: answers, t,
        performAll_cons (by simp [perform, hread]) hrest, hreads.found nofun,
          fun before after heq hlt => ?_⟩
      cases before with
      | nil => cases heq
      | cons =>
        refine List.mem_cons_of_mem _ (hends _ after (List.cons.inj heq).2 ?_)
        simp only [List.length_append, List.length_tail] at hlt ⊢
        omega

/-- A transform stream that is made and used gives its reader what the transformer makes of the
chunks. -/
theorem readsOut_useTransform {writes : List Bytes} {held spent : Set Nat}
    (ho : s.streams.Orderly held spent)
    (huses : uses.filter HalfUse.isWriting = writes.map .write ++ [.close])
    (hout : transformer.output writes s.env = some out) (fuel : Nat) :
    ∃ answers t, useTransform (fuel + 3) transformer uses s = some (answers, t) ∧
      ReadsOut out answers ∧
      ∀ before after, uses = before ++ .close :: after → out.length < after.count .read →
        .done ∈ answers := by
  obtain ⟨first, left, others, hstart, hothers, rfl⟩ := Transformer.exists_of_output hout
  obtain ⟨hmade, henv⟩ := relays_createTransform ho hstart
  exact hmade.performAll huses (henv.symm ▸ hothers) fuel

end Session

namespace Client

open Session

variable [Host H] {uses : H → List UInt32 → H → Prop} {allowed : Client H E → Client H E → Prop}

/-- Whenever a transform stream is made whose transformer only queues chunks, however much its
readable half has room for, and in whatever order its halves are written to and read: every write
succeeds and so does the close, and the reader gets what the transformer makes of the chunks, first
at its start, then of each chunk, and last at the end. After that comes the end, and nothing else.
So another stream over such a transformer, with other room or other reads, delivers the same
chunks. -/
theorem readsOut_of_leads {host : H} {env : E} {config : StreamConfig} {client : Client H E}
    {transformer : Transformer E} {writes out : List Bytes} {steps : List HalfUse}
    (h : LeadsTo uses allowed (new host env config) client)
    (hsteps : steps.filter HalfUse.isWriting = writes.map .write ++ [.close])
    (hout : transformer.output writes client.session.env = some out) (fuel : Nat) :
    ∃ answers later,
      useTransform (fuel + 3) transformer steps client.session = some (answers, later) ∧
      ReadsOut out answers ∧
      (∀ before after, steps = before ++ .close :: after → out.length < after.count .read →
        .done ∈ answers) ∧
      ∀ {host' : H} {env' : E} {config' : StreamConfig} {client' : Client H E}
        {steps' fuel' answers' later' before before' after after'},
        LeadsTo uses allowed (new host' env' config') client' →
        client'.session.env = client.session.env →
        steps'.filter HalfUse.isWriting = steps.filter HalfUse.isWriting →
        useTransform (fuel' + 3) transformer steps' client'.session = some (answers', later') →
        answers = before ++ .done :: after → answers' = before' ++ .done :: after' →
          before'.filterMap HalfAnswer.chunk? = before.filterMap HalfAnswer.chunk? := by
  obtain ⟨answers, later, huse, hreads, hends⟩ :=
    readsOut_useTransform (h.orderly (orderly_new host env config)) hsteps hout fuel
  refine ⟨answers, later, huse, hreads, hends, ?_⟩
  intro host' env' config' client' steps' fuel' answers' later' before before' after after' h' henv
    hsteps' huse' hdone hdone'
  obtain ⟨_, _, hother, hreads', -⟩ := readsOut_useTransform
    (h'.orderly (orderly_new host' env' config')) (hsteps'.trans hsteps) (henv.symm ▸ hout) fuel'
  obtain ⟨rfl, -⟩ := Prod.mk.inj (Option.some.inj (hother.symm.trans huse'))
  rw [hreads.upToDone before after hdone, hreads'.upToDone before' after' hdone']

/-- A transformer that numbers the chunks and queues their number last. Its readable half is read at
once, or has room for one byte and is read at the end: the same chunks come out. -/
theorem readsOut_of_leads_numbered :
    ∃ (transformer : Transformer UInt8) (client client' : Client MemoryHost UInt8)
      (steps steps' : List HalfUse) (answers before after : List HalfAnswer)
      (later : Session MemoryHost UInt8),
      client.session.streams.config ≠ client'.session.streams.config ∧ steps ≠ steps' ∧
      useTransform 3 transformer steps client.session = some (answers, later) ∧
      answers = before ++ .done :: after ∧
      before.filterMap HalfAnswer.chunk? = [[0, 7], [1], [2, 8], [3]] ∧
      ∃ (answers' before' after' : List HalfAnswer) (later' : Session MemoryHost UInt8),
        useTransform 3 transformer steps' client'.session = some (answers', later') ∧
        answers' = before' ++ .done :: after' ∧
        before'.filterMap HalfAnswer.chunk? = before.filterMap HalfAnswer.chunk? := by
  obtain ⟨numbered, hnumbered⟩ : ∃ numbered : Transformer UInt8, numbered =
      { transform := fun chunk env =>
          .call (.enqueue (env :: chunk)) fun _ => .done (.ok (), env + 1)
        flush := fun env => .call (.enqueue []) fun _ => .call (.enqueue [env]) fun _ =>
          .done (.ok (), env) } := ⟨_, rfl⟩
  obtain ⟨client, hclient⟩ : ∃ client : Client MemoryHost UInt8, client = new {} 0 {} := ⟨_, rfl⟩
  obtain ⟨client', hclient'⟩ : ∃ client' : Client MemoryHost UInt8, client' =
      new {} 0 { transformHighWaterMark := 1 } := ⟨_, rfl⟩
  have hnew : LeadsTo (fun _ _ _ => True) (fun _ _ => True) (new {} 0 {}) client := hclient ▸ .refl
  have hnew' : LeadsTo (fun _ _ _ => True) (fun _ _ => True)
      (new {} 0 { transformHighWaterMark := 1 }) client' := hclient' ▸ .refl
  have henv : client'.session.env = client.session.env := by
    rw [hclient, hclient']
    rfl
  have hout : numbered.output [[7], [], [8]] client.session.env = some
      [[0, 7], [1], [2, 8], [3]] := by
    rw [hclient, hnumbered]
    rfl
  have hsteps : ([.read, .write [7], .read, .backpressure, .write [], .write [8],
    .read, .close, .read, .read, .read, .read, .read] : List HalfUse).filter HalfUse.isWriting =
        [[7], [], [8]].map .write ++ [.close] := rfl
  have hsteps' : ([.write [7], .write [], .backpressure, .write [8], .close, .read,
    .read, .read, .read, .read] : List HalfUse).filter HalfUse.isWriting =
    [[7], [], [8]].map .write ++ [.close] := rfl
  obtain ⟨answers, later, huse, hreads, hends, hsame⟩ :=
    readsOut_of_leads hnew hsteps hout 0
  obtain ⟨answers', later', huse', -, hends', -⟩ :=
    readsOut_of_leads hnew' hsteps' (henv.symm ▸ hout) 0
  obtain ⟨before, after, hdone⟩ := List.append_of_mem
    (hends [.read, .write [7], .read, .backpressure, .write [], .write [8], .read]
      _ rfl (by decide))
  obtain ⟨before', after', hdone'⟩ := List.append_of_mem
    (hends' [.write [7], .write [], .backpressure, .write [8]] _ rfl (by decide))
  refine ⟨numbered, client, client', _, _, answers, before, after, later, ?_, ?_, huse, hdone,
    hreads.upToDone before after hdone, answers', before', after', later', huse', hdone', ?_⟩
  · rw [hclient, hclient']
    decide
  · decide
  · exact hsame hnew' henv (hsteps'.trans hsteps.symm) huse' hdone hdone'

end Client

end EdgeStreams
