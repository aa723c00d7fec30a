/-!
# Handles

The host names its resources by numbers. A handle is such a number together with the kind of
resource it names, so that a body's number is never handed to a call on dictionaries.

## Main definitions

- `HandleKind`: the four kinds of resource
- `Handle`: a number with its kind in the type
- `AnyHandle`: a number with its kind as data

## Design notes

One number stands for a handle that was never opened. Any other number is passed to the host, and
the host decides whether it names something.
-/

namespace EdgeStreams

/-- The four kinds of resource. -/
inductive HandleKind where
  | body
  | dictionary
  | logEndpoint
  | objectStore
deriving DecidableEq, Repr

def HandleKind.name : HandleKind → String
  | .body => "body"
  | .dictionary => "dictionary"
  | .logEndpoint => "log endpoint"
  | .objectStore => "object store"

/-- The name of a resource of a known kind. -/
structure Handle (kind : HandleKind) where
  raw : UInt32
deriving DecidableEq, Repr

abbrev BodyHandle := Handle .body
abbrev DictionaryHandle := Handle .dictionary
abbrev LogEndpointHandle := Handle .logEndpoint
abbrev ObjectStoreHandle := Handle .objectStore

/-- The name of a resource of any kind. -/
structure AnyHandle where
  kind : HandleKind
  raw : UInt32
deriving DecidableEq, Repr

/-- A handle as messages and call records show it. -/
def AnyHandle.text (handle : AnyHandle) : String :=
  handle.kind.name ++ "#" ++ toString handle.raw.toNat

namespace Handle

variable {kind : HandleKind}

/-- The number of a handle that was never opened. -/
def invalidRaw : UInt32 := 0xFFFFFFFE

/-- The handle that was never opened. -/
def invalid : Handle kind := ⟨invalidRaw⟩

instance : Inhabited (Handle kind) := ⟨invalid⟩

/-- Whether a handle may have been opened. -/
def isValid (handle : Handle kind) : Bool := handle.raw != invalidRaw

/-- Moves the kind from the type into the data. -/
def erase (handle : Handle kind) : AnyHandle := ⟨kind, handle.raw⟩

def text (handle : Handle kind) : String := handle.erase.text

/-- Handles of one kind are ordered by their numbers. -/
instance : Ord (Handle kind) := ⟨fun a b => compare a.raw b.raw⟩

end Handle

end EdgeStreams
