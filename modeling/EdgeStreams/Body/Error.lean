import EdgeStreams.Stream.Error

/-!
# Body errors

## Main definitions

- `TargetType`: what a body is to be decoded to
- `BodyError`, `BodyError.message`, `BodyError.label`
-/

namespace EdgeStreams

/-- What a body is to be decoded to. -/
inductive TargetType where
  | bytes
  | text
  | json
  | form
deriving DecidableEq, Repr

def TargetType.name : TargetType → String
  | .bytes => "bytes"
  | .text => "text"
  | .json => "json"
  | .form => "form"

/-- The target of a name. -/
def TargetType.ofName? (text : String) : Option TargetType :=
  [bytes, .text, json, form].find? fun target => target.name == text

/-- Why a body cannot be made, read or decoded. -/
inductive BodyError where
  /-- The body has been consumed. -/
  | alreadyUsed
  /-- Something else holds the lock of the body's stream. -/
  | locked
  /-- Reading the body's stream failed. -/
  | stream (error : StreamError)
  /-- A host call made for the body failed. -/
  | host (operation : HostOperation) (error : HostError)
  /-- The octets were read but do not decode. -/
  | parse (target : TargetType) (text : String)
  /-- The stream has stopped without having ended. -/
  | stalled
deriving DecidableEq, Repr

namespace BodyError

/-- How messages speak of octets that do not decode. -/
def parseFailure (target : TargetType) : String := "could not parse body as " ++ target.name

def message : BodyError → String
  | .alreadyUsed => "body has already been used"
  | .locked => "body stream is locked"
  | .stream error => error.message
  | .host operation error => operation.failure error
  | .parse target text => parseFailure target ++ ": " ++ text
  | .stalled => "body stream stalled before completion"

/-- The name of the kind of error, as reports give it. -/
def label : BodyError → String
  | .alreadyUsed => "AlreadyUsed"
  | .locked => "Locked"
  | .stream error => "Stream." ++ error.label
  | .host _ error => "Host." ++ error.label
  | .parse target _ => "Parse." ++ target.name
  | .stalled => "Stalled"

end BodyError

end EdgeStreams
