import EdgeStreams.Builtin.ScriptError

/-!
# Worker errors

## Main definitions

- `WorkerError`, `WorkerError.message`, `WorkerError.label`
-/

namespace EdgeStreams

/-- Why settings are refused or a request is not answered. -/
inductive WorkerError where
  /-- A settings file cannot be read. -/
  | io
  /-- A settings file spells no settings. -/
  | config
  /-- A settings file spells settings that make no sense. -/
  | invalidConfig (text : String)
  /-- The handler failed. -/
  | handler (error : ScriptError)
  | body (error : BodyError)
  /-- The response stream failed. -/
  | stream (error : StreamError)
  /-- A host call made for the response failed. -/
  | host (operation : HostOperation) (error : HostError)
  /-- The response stream has stopped without having ended. -/
  | stalled
deriving DecidableEq, Repr

namespace WorkerError

def message : WorkerError → String
  | .io => "io error"
  | .config => "invalid config"
  | .invalidConfig text => "invalid config: " ++ text
  | .handler error => "handler failed: " ++ error.message
  | .body error => "response body: " ++ error.message
  | .stream error => "response stream failed: " ++ error.message
  | .host operation error => operation.failure error
  | .stalled => "response stream stalled"

/-- The name of the kind of error, as reports give it. -/
def label : WorkerError → String
  | .io => "Io"
  | .config => "Config"
  | .invalidConfig _ => "InvalidConfig"
  | .handler error => "Handler." ++ error.label
  | .body error => "Body." ++ error.label
  | .stream error => "Stream." ++ error.label
  | .host _ error => "Host." ++ error.label
  | .stalled => "Stalled"

end WorkerError

end EdgeStreams
