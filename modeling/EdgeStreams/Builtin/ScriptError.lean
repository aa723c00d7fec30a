import EdgeStreams.Body.Error
import EdgeStreams.Naming

/-!
# Errors as scripts see them

A script sees every failure as one of two exceptions: a type error, when what it has asked for was
wrong in itself, or else a plain error.

## Main definitions

- `ScriptError`, `ScriptError.text`, `ScriptError.message`,
  `ScriptError.label`
- `ScriptError.ofHost`, `ScriptError.ofName`, `ScriptError.ofStream`, `ScriptError.ofBody`: how
  other errors are seen
-/

namespace EdgeStreams

/-- An exception that a script sees. -/
inductive ScriptError where
  | typeError (text : String)
  | error (text : String)
deriving DecidableEq, Repr

namespace ScriptError

/-- What has gone wrong, without the name of the exception. -/
def text : ScriptError → String
  | .typeError text | .error text => text

/-- The exception as it is shown. -/
def message : ScriptError → String
  | .typeError text => "TypeError: " ++ text
  | .error text => "Error: " ++ text

/-- The name of the kind of exception, as reports give it. -/
def label : ScriptError → String
  | .typeError _ => "TypeError"
  | .error _ => "Error"

/-- A failed host call. Only an invalid argument is the script's own fault. -/
def ofHost (operation : HostOperation) (error : HostError) : ScriptError :=
  match error with
  | .invalidArgument => .typeError (operation.failure error)
  | _ => .error (operation.failure error)

/-- A malformed name or key. -/
def ofName (error : NameError) : ScriptError := .typeError error.message

/-- A failed stream. Only the use of a stream that another holds is the script's own fault. -/
def ofStream (error : StreamError) : ScriptError :=
  match error with
  | .locked | .notLockHolder => .typeError error.message
  | _ => .error error.message

/-- A failed body. -/
def ofBody (error : BodyError) : ScriptError :=
  match error with
  | .stream inner => ofStream inner
  | .host operation inner => ofHost operation inner
  | .alreadyUsed | .locked => .typeError error.message
  | .parse _ _ | .stalled => .error error.message

end ScriptError

end EdgeStreams
