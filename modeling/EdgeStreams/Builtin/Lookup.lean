import EdgeStreams.Builtin.ScriptError
import EdgeStreams.Stream.Session

/-!
# Dictionaries and config stores

Both look up texts by keys and cannot be written. They differ in how messages speak of them.

## Main definitions

- `LookupKind`: the two kinds
- `Lookup`: an open dictionary or config store
- `Lookup.openNamed`, `Lookup.get`
-/

namespace EdgeStreams

variable {H E : Type}

/-- Checks a name or key before anything else is done. -/
def NameKind.require (kind : NameKind) (text : String) : Action H E ScriptError Unit :=
  (Session.settled (kind.check text)).adapt ScriptError.ofName

/-- Calls the host for a script. -/
def ScriptError.hostCall {α : Type} (operation : HostOperation) (call : HostCall H α) :
    Action H E ScriptError α :=
  (Session.onHost call).adapt (ScriptError.ofHost operation)

/-- Calls the host for a script, where finding nothing is an answer. -/
def ScriptError.hostQuery {α : Type} (operation : HostOperation) (call : HostCall H α) :
    Action H E ScriptError (Option α) := do
  let result ← Session.caught (Session.onHost call)
  (Session.settled (HostError.optional result)).adapt (ScriptError.ofHost operation)

/-- The error of a script that opens what does not exist. -/
def ScriptError.missing (label name : String) : ScriptError :=
  .error (label ++ " '" ++ name ++ "' does not exist")

/-- The two kinds of look-up. -/
inductive LookupKind where
  | dictionary
  | configStore
deriving DecidableEq, Repr

namespace LookupKind

def label : LookupKind → String
  | .dictionary => "dictionary"
  | .configStore => "config store"

def nameKind : LookupKind → NameKind
  | .dictionary => .dictionaryName
  | .configStore => .configStoreName

def keyKind : LookupKind → NameKind
  | .dictionary => .dictionaryKey
  | .configStore => .configStoreKey

end LookupKind

/-- An open dictionary or config store. -/
structure Lookup (kind : LookupKind) where
  name : String
  handle : DictionaryHandle
deriving DecidableEq, Repr

abbrev Dictionary := Lookup .dictionary
abbrev ConfigStore := Lookup .configStore

namespace Lookup

variable [Host H] {kind : LookupKind}

/-- Opens by name. -/
def openNamed (kind : LookupKind) (name : String) : Action H E ScriptError (Lookup kind) := do
  kind.nameKind.require name
  match ← ScriptError.hostQuery .dictionaryOpen (Host.dictionaryOpen name) with
  | some handle => return { name, handle }
  | none => throw (.missing kind.label name)

/-- The text of a key, if there is one. -/
def get (lookup : Lookup kind) (key : String) : Action H E ScriptError (Option String) := do
  kind.keyKind.require key
  ScriptError.hostQuery .dictionaryGet (Host.dictionaryGet lookup.handle key)

end Lookup

end EdgeStreams
