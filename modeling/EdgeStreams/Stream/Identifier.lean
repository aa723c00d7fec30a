import EdgeStreams.SlotMap.Basic

/-!
# Identifiers and tokens

## Main definitions

- `EntryKind`, `EntryId`: names of streams, bridges and pipes
- `ReaderToken`, `WriterToken`: proofs of holding a lock
- `OwnerKey`: who owns a stream
-/

namespace EdgeStreams

/-- The kinds of entry in a registry. -/
inductive EntryKind where
  /-- A stream seen by its consumer. -/
  | readable
  /-- A stream seen by its producer. -/
  | writable
  /-- What the two halves of a transform stream share. -/
  | bridge
  | pipe
deriving DecidableEq, Repr

def EntryKind.name : EntryKind → String
  | .readable => "readable"
  | .writable => "writable"
  | .bridge => "bridge"
  | .pipe => "pipe"

/-- The name of an entry of a known kind. -/
structure EntryId (kind : EntryKind) where
  key : SlotMap.Key
deriving DecidableEq, Repr, Inhabited

def EntryId.text {kind : EntryKind} (id : EntryId kind) : String :=
  kind.name ++ "#" ++ id.key.text

abbrev ReadableId := EntryId .readable
abbrev WritableId := EntryId .writable
abbrev BridgeId := EntryId .bridge
abbrev PipeId := EntryId .pipe

/-- Proof of holding the lock of a readable stream. -/
structure ReaderToken where
  number : Nat
deriving DecidableEq, Repr

/-- Proof of holding the lock of a writable stream. -/
structure WriterToken where
  number : Nat
deriving DecidableEq, Repr

/-- Names the owner of a stream, usually a request or response body. It means nothing to the
streams themselves. -/
structure OwnerKey where
  number : Nat
deriving DecidableEq, Repr

end EdgeStreams
