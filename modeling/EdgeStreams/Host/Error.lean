/-!
# Host errors

A host call can fail in four ways. The platform reports them as numeric status codes, which go no
further than this module.

## Main definitions

- `HostError`, `HostError.message`, `HostError.label`
- `HostStatus`, `HostStatus.result`, `HostError.status`
- `HostError.optional`: finding nothing as an answer instead of a failure
-/

namespace EdgeStreams

/-- How a host call fails. -/
inductive HostError where
  /-- The handle names nothing, or a resource that is closed. -/
  | badHandle
  /-- The payload is malformed or too large. -/
  | invalidArgument
  /-- A look-up found nothing. -/
  | optionalNone
  /-- Any other failure. -/
  | generic
deriving DecidableEq, Repr

namespace HostError

def message : HostError → String
  | .badHandle => "bad handle"
  | .invalidArgument => "invalid argument"
  | .optionalNone => "no value"
  | .generic => "host error"

/-- The name of the kind of error, as reports give it. -/
def label : HostError → String
  | .badHandle => "BadHandle"
  | .invalidArgument => "InvalidArgument"
  | .optionalNone => "OptionalNone"
  | .generic => "Generic"

/-- The error of a label. -/
def ofLabel? (text : String) : Option HostError :=
  [badHandle, invalidArgument, optionalNone, generic].find? fun error => error.label == text

def isNone (error : HostError) : Bool := error = .optionalNone

/-- Finding nothing is an answer; other failures stay failures. -/
def optional {α : Type} : Except HostError α → Except HostError (Option α)
  | .ok value => .ok (some value)
  | .error .optionalNone => .ok none
  | .error error => .error error

end HostError

/-- The status code that the platform answers a call with. -/
structure HostStatus where
  code : UInt32
deriving DecidableEq, Repr

namespace HostStatus

def ok : HostStatus := ⟨0⟩
def error : HostStatus := ⟨1⟩
def invalidArgument : HostStatus := ⟨2⟩
def badHandle : HostStatus := ⟨3⟩
def bufferLength : HostStatus := ⟨4⟩
def unsupported : HostStatus := ⟨5⟩
def none : HostStatus := ⟨10⟩

/-- What a status code reports. A buffer that is too short is an invalid argument; an unknown code
is a generic failure. -/
def result (status : HostStatus) : Except HostError Unit :=
  if status = ok then .ok ()
  else if status = invalidArgument ∨ status = bufferLength then .error .invalidArgument
  else if status = badHandle then .error .badHandle
  else if status = none then .error .optionalNone
  else .error .generic

end HostStatus

/-- The status code that reports an error. -/
def HostError.status : HostError → HostStatus
  | .badHandle => .badHandle
  | .invalidArgument => .invalidArgument
  | .optionalNone => .none
  | .generic => .error

/-- Reporting an error by its code loses nothing. -/
theorem HostError.result_status (error : HostError) : error.status.result = .error error := by
  cases error <;> rfl

end EdgeStreams
