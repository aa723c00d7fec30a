/-!
# Slot maps

A slot map hands out a key for every value put into it. A key names a slot and the generation of
that slot. Taking a value out raises the generation, so that a key never finds a value other than
the one it was handed out for: holding a key does not keep a value alive, and a stale key is
harmless.

## Main definitions

- `SlotMap.Key`: slot index and generation
- `SlotMap`: slots, the vacant ones among them in the order of reuse, and the number of values
- `SlotMap.insert`, `SlotMap.get?`, `SlotMap.set`, `SlotMap.remove`, `SlotMap.retain`,
  `SlotMap.clear`

## Design notes

The slot vacated last is reused first. Generations are 32-bit words and wrap.
-/

namespace EdgeStreams

/-- The name of a value in a slot map. -/
structure SlotMap.Key where
  index : Nat
  generation : UInt32
deriving DecidableEq, Repr, Inhabited

/-- A key's written form. -/
def SlotMap.Key.text (key : SlotMap.Key) : String :=
  toString key.index ++ "v" ++ toString key.generation.toNat

/-- A place for one value. -/
structure SlotMap.Slot (α : Type) where
  generation : UInt32
  value : Option α
deriving Repr

/-- Values in slots, found by the keys they were given. -/
structure SlotMap (α : Type) where
  slots : Array (SlotMap.Slot α) := #[]
  /-- Vacant slots; the head is reused first. -/
  free : List Nat := []
  /-- How many values there are. -/
  size : Nat := 0
deriving Repr

namespace SlotMap

variable {α β : Type}

instance : Inhabited (SlotMap α) := ⟨{}⟩

def isEmpty (map : SlotMap α) : Bool := map.size == 0

/-- The value a key was handed out for, unless it has been taken out. -/
def get? (map : SlotMap α) (key : Key) : Option α :=
  match map.slots[key.index]? with
  | some slot => if slot.generation = key.generation then slot.value else none
  | none => none

def contains (map : SlotMap α) (key : Key) : Bool := (map.get? key).isSome

/-- The key that the next insertion hands out. -/
def nextKey (map : SlotMap α) : Key :=
  match map.free with
  | [] => ⟨map.slots.size, 0⟩
  | index :: _ => ⟨index, ((map.slots[index]?).map Slot.generation).getD 0⟩

/-- Puts a value in; the answer is its key. -/
def insert (map : SlotMap α) (value : α) : Key × SlotMap α :=
  let key := map.nextKey
  let slot : Slot α := ⟨key.generation, some value⟩
  match map.free with
  | [] => (key, { map with slots := map.slots.push slot, size := map.size + 1 })
  | index :: rest =>
    (key, { slots := map.slots.setIfInBounds index slot, free := rest, size := map.size + 1 })

/-- Puts in a value that is made from its own key. `make` may give a further result. -/
def insertWith (map : SlotMap α) (make : Key → α × β) : (Key × β) × SlotMap α :=
  let made := make map.nextKey
  let inserted := map.insert made.1
  ((inserted.1, made.2), inserted.2)

/-- Replaces the value of a live key. A stale key has no effect. -/
def set (map : SlotMap α) (key : Key) (value : α) : SlotMap α :=
  if map.contains key then
    { map with slots := map.slots.setIfInBounds key.index ⟨key.generation, some value⟩ }
  else map

/-- Takes the value of a live key out and retires the key. -/
def remove (map : SlotMap α) (key : Key) : Option α × SlotMap α :=
  match map.get? key with
  | none => (none, map)
  | some value =>
    (some value,
      { slots := map.slots.setIfInBounds key.index ⟨key.generation + 1, none⟩
        free := key.index :: map.free
        size := map.size - 1 })

/-- The live keys with their values, in slot order. -/
def toList (map : SlotMap α) : List (Key × α) :=
  map.slots.toList.zipIdx.filterMap fun (slot, index) =>
    slot.value.map fun value => (⟨index, slot.generation⟩, value)

/-- The live keys, in slot order. -/
def keys (map : SlotMap α) : List Key := map.toList.map Prod.fst

/-- Takes out, in slot order, the values that fail a test; the answer is their number. -/
def retain (map : SlotMap α) (keep : Key → α → Bool) : Nat × SlotMap α :=
  let doomed := (map.toList.filter fun entry => !keep entry.1 entry.2).map Prod.fst
  (doomed.length, doomed.foldl (fun map key => (map.remove key).2) map)

/-- Takes all values out, in slot order. -/
def clear (map : SlotMap α) : SlotMap α :=
  map.keys.foldl (fun map key => (map.remove key).2) map

end SlotMap

end EdgeStreams
