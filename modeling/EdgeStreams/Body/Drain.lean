import EdgeStreams.Body.Basic
import EdgeStreams.Body.Representation

/-!
# Draining a body

A body is drained by reading its stream to the end under the lock of a reader, and then decoding
what has been read.

## Main definitions

- `Body.readAll`: reads a locked stream to its end
- `Body.drainWith`: consumes and decodes a body
- `Body.drain`: the same with the decoders at hand
- `Body.bytes`, `Body.text`, `Body.json`, `Body.form`: the same for one target

## Design notes

A read that finds nothing is followed by driving all pipes. The stream has stalled when nothing has
come and no pipe has moved twice since the last chunk.
-/

namespace EdgeStreams

namespace Body

variable {H E : Type} [Host H]

/-- Reads a locked stream to its end. `chunks` are those read so far, last first; `idle` says that
the round before has moved nothing. -/
def readAll : Nat → ReadableId → ReaderToken → List Bytes → Bool →
    Run H E (Except BodyError Bytes)
  | 0, _, _, _, _ => Session.outOfFuel
  | fuel + 1, id, token, chunks, idle => do
    match ← (Session.read fuel id (some token)).run with
    | .error error => return .error (.stream error)
    | .ok (.chunk data) => readAll fuel id token (data :: chunks) false
    | .ok .done => return .ok chunks.reverse.flatten
    | .ok .pending =>
      let steps ← Session.pump fuel
      if steps = 0 then
        if idle then return .error .stalled
        else readAll fuel id token chunks true
      else readAll fuel id token chunks idle

/-- Consumes a body and decodes it. Without a stream that nothing has touched it fails before the
host is called; otherwise the body counts as used, whatever comes of the reading. -/
def drainWith (decoders : Decoders) (fuel : Nat) (body : Body) (target : TargetType) :
    Run H E (Except BodyError Representation × Body) := do
  if body.used then return (.error .alreadyUsed, body)
  else
    match ← modifyGet (Session.outcome body.stream) with
    | .error error => return (.error error, body)
    | .ok (id, body) =>
      let streams := (← get).streams
      if streams.isLocked id then return (.error .locked, body)
      else if streams.isDisturbed id then return (.error .alreadyUsed, body)
      else
        let body := body.markUsed
        let read ← (Session.withReader id fun token =>
          Session.sure (readAll fuel id token [] false)).run
        match read with
        | .error error => return (.error (.stream error), body)
        | .ok (.error error) => return (.error error, body)
        | .ok (.ok data) => return (Representation.decodeWith decoders data target, body)

/-- Consumes a body and decodes it with the decoders at hand. -/
def drain (fuel : Nat) (body : Body) (target : TargetType) :
    Run H E (Except BodyError Representation × Body) :=
  drainWith .standard fuel body target

/-- The error of a body that has been decoded to something else. -/
def unexpected (target : TargetType) (got : Representation) : BodyError :=
  .parse target ("decoded as " ++ got.target.name)

/-- Drains a body to one target and takes its value out. -/
def drainTo {α : Type} (fuel : Nat) (body : Body) (target : TargetType)
    (value : Representation → Except BodyError α) : Run H E (Except BodyError α × Body) := do
  let (result, body) ← drain fuel body target
  return (result.bind value, body)

/-- Consumes a body as octets. -/
def bytes (fuel : Nat) (body : Body) : Run H E (Except BodyError Bytes × Body) :=
  drainTo fuel body .bytes fun
    | .bytes data => .ok data
    | other => .error (unexpected .bytes other)

/-- Consumes a body as a text. -/
def text (fuel : Nat) (body : Body) : Run H E (Except BodyError String × Body) :=
  drainTo fuel body .text fun
    | .text text => .ok text
    | other => .error (unexpected .text other)

/-- Consumes a body as a JSON document and reads that with `read?`. -/
def jsonWith {α : Type} (fuel : Nat) (body : Body) (read? : Json.Document → Option α) :
    Run H E (Except BodyError α × Body) :=
  drainTo fuel body .json fun
    | .json document =>
      match read? document with
      | some value => .ok value
      | none => .error (.parse .json "unexpected kind of document")
    | other => .error (unexpected .json other)

/-- Consumes a body as a JSON document of a certain kind. -/
def json {α : Type} [Json.FromDocument α] (fuel : Nat) (body : Body) :
    Run H E (Except BodyError α × Body) :=
  jsonWith fuel body Json.fromDocument?

/-- Consumes a body as form data. -/
def form (fuel : Nat) (body : Body) :
    Run H E (Except BodyError (List (String × String)) × Body) :=
  drainTo fuel body .form fun
    | .form pairs => .ok pairs
    | other => .error (unexpected .form other)

end Body

end EdgeStreams
