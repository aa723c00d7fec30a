import EdgeStreams.Stream.Config
import EdgeStreams.Text.Utf8
import EdgeStreams.Worker.Error

/-!
# Worker settings

## Main definitions

- `WorkerConfig`: the settings of a worker
- `WorkerConfig.ofJson`, `WorkerConfig.ofFile`, `WorkerConfig.render`: reading and writing a
  settings file
-/

namespace EdgeStreams

/-- The settings of a worker. -/
structure WorkerConfig extends StreamConfig where
  /-- Sweep the registry after every request. -/
  sweepAfterRequest : Bool := true
deriving DecidableEq, Repr

namespace WorkerConfig

instance : Inhabited WorkerConfig := ⟨{}⟩

/-- A field of the stream settings as a field of the worker settings. -/
def liftField (field : Json.Field StreamConfig) : Json.Field WorkerConfig where
  name := field.name
  set? config value :=
    (field.set? config.toStreamConfig value).map ({ config with toStreamConfig := · })

def fields : List (Json.Field WorkerConfig) :=
  StreamConfig.fields.map liftField ++
    [⟨"sweep_after_request",
      fun config value => value.bool?.map ({ config with sweepAfterRequest := · })⟩]

/-- Refuses settings that make no sense. -/
def validate (config : WorkerConfig) : Except WorkerError WorkerConfig :=
  if config.bodyChunkSize = 0 then
    .error (.invalidConfig "body_chunk_size must be greater than zero")
  else .ok config

/-- Reads settings; those not given keep their defaults. -/
def ofJson (text : String) : Except WorkerError WorkerConfig :=
  match (Json.Outline.parse? text).bind (·.record? fields {}) with
  | some config => config.validate
  | none => .error .config

/-- Reads the settings in a file, given what is in it; nothing if there is no file. -/
def ofFile (content : Option Bytes) : Except WorkerError WorkerConfig :=
  match content.bind Utf8.decode? with
  | some text => ofJson text
  | none => .error .io

def render (config : WorkerConfig) : String :=
  "\x7b" ++ config.renderMembers ++ ",\"sweep_after_request\":" ++
    (if config.sweepAfterRequest then "true" else "false") ++ "\x7d"

end WorkerConfig

end EdgeStreams
