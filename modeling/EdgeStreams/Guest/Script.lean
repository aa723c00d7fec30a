import EdgeStreams.Stream.Guest
import EdgeStreams.Table
import EdgeStreams.Text.Hex

/-!
# Scripted guests

A script says what a guest does each time it is called upon: a list of actions for the start, for
each of the first calls, for all later calls, and for the end. Scripted guests log what happens to
them, and may wait at a gate.

## Main definitions

- `ScriptEffect`, `ScriptAction`, `Script`: scripts
- `ScriptEvent`: what is logged
- `ScriptEnv`: the environment of scripted guests: gates, calls made, and the log
- `ScriptDesk`: how a script reaches the controller of the call
- `Script.source`, `Script.sink`, `Script.transformer`: the guests that follow a script
-/

namespace EdgeStreams

/-- What one action does. `emit`, `upper`, `reverse` and `split` pass on the chunk that the call is
about. -/
inductive ScriptEffect where
  | enqueue (data : Bytes)
  | emit
  /-- Passes the chunk on with ASCII letters in upper case. -/
  | upper
  | reverse
  /-- Passes the chunk on in pieces of the given size. -/
  | split (size : Nat)
  | close
  | terminate
  | error (error : StreamError)
  /-- Fails the call. -/
  | fail (error : StreamError)
  /-- Logs how much room there is. -/
  | size
  | nothing
deriving DecidableEq, Repr

/-- One action of a script. -/
structure ScriptAction where
  effect : ScriptEffect
  /-- If present, the outcome is logged under this name and does not fail the call. -/
  attempt : Option String := none
deriving DecidableEq, Repr

/-- What a guest does each time it is called upon. -/
structure Script where
  start : List ScriptAction := []
  /-- What the first calls do, one after the other. -/
  calls : List (List ScriptAction) := []
  /-- What every later call does. -/
  rest : List ScriptAction := []
  cancel : List ScriptAction := []
  close : List ScriptAction := []
  abort : List ScriptAction := []
  flush : List ScriptAction := []
  /-- While this gate is shut, calls do nothing and are not counted. -/
  gate : Option String := none
deriving DecidableEq, Repr

/-- What happens to a scripted guest. -/
inductive ScriptEvent where
  | started
  | pulled
  | canceled (reason : Option String)
  | written (chunk : Bytes)
  | closed
  | aborted (reason : Option String)
  | transformed (chunk : Bytes)
  | flushed
  /-- The call has found the gate shut. -/
  | gated
  | size (room : Option Int)
  | attempted (action : String) (outcome : Except StreamError Unit)

namespace ScriptEvent

/-- The reason that a consumer or producer gives. -/
def reasonText : Option String → String
  | some reason => "=" ++ reason
  | none => "-"

/-- An event as reports show it. -/
def text : ScriptEvent → String
  | .started => "start"
  | .pulled => "pull"
  | .canceled reason => "cancel " ++ reasonText reason
  | .written chunk => "write " ++ (Text.excerpt chunk).text
  | .closed => "close"
  | .aborted reason => "abort " ++ reasonText reason
  | .transformed chunk => "transform " ++ (Text.excerpt chunk).text
  | .flushed => "flush"
  | .gated => "gated"
  | .size room => "size " ++ (room.map toString).getD "none"
  | .attempted action (.ok ()) => action ++ " ok"
  | .attempted action (.error error) => action ++ " " ++ error.label

end ScriptEvent

/-- The environment of scripted guests. -/
structure ScriptEnv where
  openGates : List String := []
  /-- How many calls each guest has counted. -/
  counts : Table Nat Nat := {}
  /-- The number of the next guest. -/
  nextGuest : Nat := 0
  /-- What has happened to which guest, last first. -/
  log : List (String × ScriptEvent) := []

namespace ScriptEnv

def note (name : String) (event : ScriptEvent) (env : ScriptEnv) : ScriptEnv :=
  { env with log := (name, event) :: env.log }

def count (env : ScriptEnv) (guest : Nat) : Nat := (env.counts.find? guest).getD 0

def openGate (gate : String) (env : ScriptEnv) : ScriptEnv :=
  { env with openGates := gate :: env.openGates.filter (· ≠ gate) }

def shutGate (gate : String) (env : ScriptEnv) : ScriptEnv :=
  { env with openGates := env.openGates.filter (· ≠ gate) }

/-- Numbers a new guest. -/
def enroll (env : ScriptEnv) : Nat × ScriptEnv :=
  (env.nextGuest, { env with nextGuest := env.nextGuest + 1 })

end ScriptEnv

/-- How a script reaches the controller of the call. -/
structure ScriptDesk {Op : Type} (Answer : Op → Type) where
  enqueue : Bytes → Program Answer (Except StreamError Unit) := fun _ => .done (.ok ())
  close : Program Answer (Except StreamError Unit) := .done (.ok ())
  terminate : Program Answer (Except StreamError Unit) := .done (.ok ())
  error : StreamError → Program Answer (Except StreamError Unit) := fun _ => .done (.ok ())
  desiredSize : Program Answer (Option Int) := .done none

namespace ScriptDesk

def source : ScriptDesk SourceCall.Answer where
  enqueue chunk := .call (.enqueue chunk) .done
  close := .call .close .done
  error error := .call (.error error) fun _ => .done (.ok ())
  desiredSize := .call .desiredSize .done

def transform : ScriptDesk TransformCall.Answer where
  enqueue chunk := .call (.enqueue chunk) .done
  terminate := .call .terminate fun _ => .done (.ok ())
  error error := .call (.error error) fun _ => .done (.ok ())
  desiredSize := .call .desiredSize .done

/-- No controller at all: every action on one succeeds without effect. -/
def idle : ScriptDesk (fun _ : Empty => Unit) := {}

variable {Op : Type} {Answer : Op → Type}

/-- Queues chunks up to the first that is refused. -/
def enqueueAll (desk : ScriptDesk Answer) :
    List Bytes → Program Answer (Except StreamError Unit)
  | [] => .done (.ok ())
  | chunk :: rest =>
    (desk.enqueue chunk).bind fun
      | .ok () => desk.enqueueAll rest
      | .error error => .done (.error error)

end ScriptDesk

/-- An octet with ASCII letters in upper case. -/
def upperOctet (octet : UInt8) : UInt8 :=
  if 0x61 ≤ octet ∧ octet ≤ 0x7A then octet - 0x20 else octet

/-- A chunk in pieces of a size; zero counts as one. -/
def pieces (size : Nat) : Bytes → List Bytes
  | [] => []
  | octet :: rest =>
    (octet :: rest.take (size - 1)) :: pieces size (rest.drop (size - 1))
termination_by chunk => chunk.length
decreasing_by simp only [List.length_drop, List.length_cons]; omega

namespace Script

section Actions

variable {Op : Type} {Answer : Op → Type}

/-- The outcome of an effect, and the room it has asked for. -/
def perform (desk : ScriptDesk Answer) (input : Bytes) (name : String) (env : ScriptEnv) :
    ScriptEffect → Program Answer (GuestResult ScriptEnv)
  | .enqueue data => (desk.enqueue data).map (·, env)
  | .emit => (desk.enqueue input).map (·, env)
  | .upper => (desk.enqueue (input.map upperOctet)).map (·, env)
  | .reverse => (desk.enqueue input.reverse).map (·, env)
  | .split size => (desk.enqueueAll (pieces size input)).map (·, env)
  | .close => desk.close.map (·, env)
  | .terminate => desk.terminate.map (·, env)
  | .error error => (desk.error error).map (·, env)
  | .fail error => .done (.error error, env)
  | .size => desk.desiredSize.map fun room => (.ok (), env.note name (.size room))
  | .nothing => .done (.ok (), env)

/-- Does actions up to the first that fails. -/
def follow (desk : ScriptDesk Answer) (input : Bytes) (name : String) :
    List ScriptAction → ScriptEnv → Program Answer (GuestResult ScriptEnv)
  | [], env => .done (.ok (), env)
  | action :: rest, env =>
    (perform desk input name env action.effect).bind fun (outcome, env) =>
      match action.attempt, outcome with
      | some label, outcome =>
        follow desk input name rest (env.note name (.attempted label outcome))
      | none, .ok () => follow desk input name rest env
      | none, .error error => .done (.error error, env)

/-- The actions of a call, unless the gate is shut, and the environment with the call counted. -/
def next (script : Script) (guest : Nat) (name : String) (env : ScriptEnv) :
    List ScriptAction × ScriptEnv :=
  if script.gate.any fun gate => !env.openGates.contains gate then ([], env.note name .gated)
  else
    let count := env.count guest
    (script.calls.getD count script.rest,
      { env with counts := env.counts.insert guest (count + 1) })

/-- Follows the actions of a call. -/
def call (script : Script) (desk : ScriptDesk Answer) (guest : Nat) (name : String)
    (input : Bytes) (env : ScriptEnv) : Program Answer (GuestResult ScriptEnv) :=
  let (actions, env) := script.next guest name env
  follow desk input name actions env

end Actions

/-- The result of a program that has no calls to make. -/
def settle (program : Program (fun _ : Empty => Unit) (GuestResult ScriptEnv)) :
    GuestResult ScriptEnv :=
  (program.run (fun op => nomatch op) ()).1

/-- Follows actions without a controller. -/
def followIdle (name : String) (actions : List ScriptAction) (env : ScriptEnv) :
    GuestResult ScriptEnv :=
  settle (follow .idle [] name actions env)

/-- A source that follows a script. -/
def source (script : Script) (guest : Nat) (name : String) : UnderlyingSource ScriptEnv where
  start env := follow .source [] name script.start (env.note name .started)
  pull env := script.call .source guest name [] (env.note name .pulled)
  cancel reason env := followIdle name script.cancel (env.note name (.canceled reason))

/-- A sink that follows a script. -/
def sink (script : Script) (guest : Nat) (name : String) : UnderlyingSink ScriptEnv where
  start env := followIdle name script.start (env.note name .started)
  write chunk env :=
    settle (script.call .idle guest name chunk (env.note name (.written chunk)))
  close env := followIdle name script.close (env.note name .closed)
  abort reason env := followIdle name script.abort (env.note name (.aborted reason))

/-- A transformer that follows a script. -/
def transformer (script : Script) (guest : Nat) (name : String) : Transformer ScriptEnv where
  start env := follow .transform [] name script.start (env.note name .started)
  transform chunk env :=
    script.call .transform guest name chunk (env.note name (.transformed chunk))
  flush env := follow .transform [] name script.flush (env.note name .flushed)

/-- A source that answers pulls only. -/
def plainSource (script : Script) (guest : Nat) (name : String) : UnderlyingSource ScriptEnv where
  pull := (script.source guest name).pull

/-- A sink that answers writes only. -/
def plainSink (script : Script) (guest : Nat) (name : String) : UnderlyingSink ScriptEnv where
  write := (script.sink guest name).write

/-- A transformer that answers chunks only. -/
def plainTransformer (script : Script) (guest : Nat) (name : String) : Transformer ScriptEnv where
  transform := (script.transformer guest name).transform

end Script

end EdgeStreams
