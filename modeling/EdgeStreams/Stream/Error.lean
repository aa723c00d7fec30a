import EdgeStreams.Host.Error
import EdgeStreams.Host.Operation

/-!
# Stream errors

What goes wrong on a stream. A stream that has failed keeps its error and answers every later read
or write with it.

## Main definitions

- `StreamError`, `StreamError.message`, `StreamError.label`
-/

namespace EdgeStreams

/-- What goes wrong on a stream. -/
inductive StreamError where
  /-- A host call made for the stream failed. -/
  | host (operation : HostOperation) (error : HostError)
  /-- A reader, writer or pipe holds the stream. -/
  | locked
  /-- The token does not hold the stream. -/
  | notLockHolder
  /-- The stream is closed or closing. -/
  | closed
  /-- The consumer cancelled the stream. -/
  | canceled
  /-- The producer aborted the stream. -/
  | aborted
  /-- A guest failed. -/
  | algorithm (message : String)
  /-- The stream is gone. -/
  | released
deriving DecidableEq, Repr

/-- How messages speak of a failed host call. -/
def HostOperation.failure (operation : HostOperation) (error : HostError) : String :=
  operation.name ++ " failed: " ++ error.message

namespace StreamError

def message : StreamError → String
  | .host operation error => operation.failure error
  | .locked => "stream is locked"
  | .notLockHolder => "token does not hold the lock on this stream"
  | .closed => "stream is closed"
  | .canceled => "stream was canceled"
  | .aborted => "stream was aborted"
  | .algorithm text => text
  | .released => "stream has been released"

/-- The name of the kind of error, as reports give it. -/
def label : StreamError → String
  | .host _ _ => "Host"
  | .locked => "Locked"
  | .notLockHolder => "NotLockHolder"
  | .closed => "Closed"
  | .canceled => "Canceled"
  | .aborted => "Aborted"
  | .algorithm _ => "Algorithm"
  | .released => "Released"

/-- The error of a label that says all about it; any other text is the message of a guest. -/
def ofText (text : String) : StreamError :=
  ([locked, notLockHolder, closed, canceled, aborted, released].find?
    fun error => error.label == text).getD (algorithm text)

/-- The kind of host failure, if a host call failed. -/
def hostError? : StreamError → Option HostError
  | .host _ error => some error
  | _ => none

end StreamError

end EdgeStreams
