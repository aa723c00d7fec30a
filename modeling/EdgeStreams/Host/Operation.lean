/-!
# Host operations

## Main definitions

- `HostOperation`: the thirteen calls that a host answers
- `HostOperation.name`: the name used in messages and call records
- `HostOperation.all`: the operations in order
-/

namespace EdgeStreams

/-- The calls that a host answers. -/
inductive HostOperation where
  | dictionaryOpen
  | dictionaryGet
  | logEndpointOpen
  | logWrite
  | bodyNew
  | bodyRead
  | bodyWrite
  | bodyAppend
  | bodyClose
  | bodyAbandon
  | objectStoreOpen
  | objectStoreLookup
  | objectStoreInsert
deriving DecidableEq, Repr

namespace HostOperation

def name : HostOperation → String
  | .dictionaryOpen => "dictionary_open"
  | .dictionaryGet => "dictionary_get"
  | .logEndpointOpen => "log_endpoint_open"
  | .logWrite => "log_write"
  | .bodyNew => "body_new"
  | .bodyRead => "body_read"
  | .bodyWrite => "body_write"
  | .bodyAppend => "body_append"
  | .bodyClose => "body_close"
  | .bodyAbandon => "body_abandon"
  | .objectStoreOpen => "object_store_open"
  | .objectStoreLookup => "object_store_lookup"
  | .objectStoreInsert => "object_store_insert"

/-- The operations in order. -/
def all : List HostOperation :=
  [.dictionaryOpen, .dictionaryGet, .logEndpointOpen, .logWrite, .bodyNew, .bodyRead, .bodyWrite,
    .bodyAppend, .bodyClose, .bodyAbandon, .objectStoreOpen, .objectStoreLookup,
    .objectStoreInsert]

theorem mem_all (operation : HostOperation) : operation ∈ all := by
  cases operation <;> decide

/-- The operation of a name. -/
def ofName? (text : String) : Option HostOperation :=
  all.find? fun operation => operation.name == text

end HostOperation

end EdgeStreams
