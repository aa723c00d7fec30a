import EdgeStreams.Builtin.Lookup

/-!
# Loggers

## Main definitions

- `Logger`: an open log endpoint
- `Logger.openNamed`, `Logger.log`
-/

namespace EdgeStreams

/-- An open log endpoint. -/
structure Logger where
  name : String
  handle : LogEndpointHandle
deriving DecidableEq, Repr

namespace Logger

variable {H E : Type} [Host H]

/-- Opens by name. -/
def openNamed (name : String) : Action H E ScriptError Logger := do
  NameKind.logEndpointName.require name
  let handle ← ScriptError.hostCall .logEndpointOpen (Host.logEndpointOpen name)
  return { name, handle }

/-- Writes one message. -/
def log (logger : Logger) (message : String) : Action H E ScriptError Unit :=
  ScriptError.hostCall .logWrite (Host.logWrite logger.handle message)

end Logger

end EdgeStreams
