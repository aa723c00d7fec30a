/-!
# Tables

A table assigns values to finitely many keys. Small keyed resources (dictionaries, bodies, injected
faults) live in tables.

## Main definitions

- `Table`: a finite assignment of values to keys
- `Table.find?`, `Table.insert`, `Table.erase`: look-up and change at one key

## Main statements

- `Table.find?_insert`, `Table.find?_erase`: a change at one key is seen at that key and nowhere
  else
-/

namespace EdgeStreams

/-- A finite assignment of values to keys; the entry nearest the front counts. -/
structure Table (κ α : Type) where
  entries : List (κ × α) := []
deriving Repr, DecidableEq

namespace Table

variable {κ α : Type} [DecidableEq κ]

instance : Inhabited (Table κ α) := ⟨{}⟩

/-- The value at a key. -/
def find? (table : Table κ α) (key : κ) : Option α :=
  (table.entries.find? fun entry => decide (entry.1 = key)).map Prod.snd

def contains (table : Table κ α) (key : κ) : Bool := (table.find? key).isSome

/-- Gives a key a value, replacing the one it had. -/
def insert (table : Table κ α) (key : κ) (value : α) : Table κ α :=
  ⟨(key, value) :: table.entries.filter fun entry => decide (entry.1 ≠ key)⟩

/-- Takes a key and its value out. -/
def erase (table : Table κ α) (key : κ) : Table κ α :=
  ⟨table.entries.filter fun entry => decide (entry.1 ≠ key)⟩

/-- Enters a list of pairs in order, so that the last pair of a key counts. -/
def ofList (pairs : List (κ × α)) : Table κ α :=
  pairs.foldl (fun table pair => table.insert pair.1 pair.2) {}

@[simp] theorem find?_empty (key : κ) : ({} : Table κ α).find? key = none := rfl

theorem find?_filter_ne (entries : List (κ × α)) (key other : κ) :
    ((entries.filter fun entry => decide (entry.1 ≠ key)).find?
        fun entry => decide (entry.1 = other)) =
      if other = key then none else entries.find? fun entry => decide (entry.1 = other) := by
  induction entries with
  | nil => simp
  | cons head rest ih =>
    by_cases hk : head.1 = key
    · by_cases ho : other = key
      · simp_all
      · have : head.1 ≠ other := fun h => ho (h ▸ hk)
        simp_all
    · by_cases ho : head.1 = other
      · have : other ≠ key := fun h => hk (ho.trans h)
        simp_all
      · simp_all

/-- Insertion is seen at its own key and nowhere else. -/
theorem find?_insert (table : Table κ α) (key other : κ) (value : α) :
    (table.insert key value).find? other =
      if other = key then some value else table.find? other := by
  unfold find? insert
  by_cases h : other = key
  · simp [h]
  · have : ¬ key = other := fun e => h e.symm
    simp only [List.find?_cons, this, decide_false, h, if_false]
    rw [find?_filter_ne, if_neg h]

/-- Removal is seen at its own key and nowhere else. -/
theorem find?_erase (table : Table κ α) (key other : κ) :
    (table.erase key).find? other = if other = key then none else table.find? other := by
  unfold find? erase
  rw [find?_filter_ne]
  split <;> rfl

@[simp] theorem find?_insert_self (table : Table κ α) (key : κ) (value : α) :
    (table.insert key value).find? key = some value := by
  simp [find?_insert]

theorem find?_insert_of_ne (table : Table κ α) {key other : κ} (value : α) (h : other ≠ key) :
    (table.insert key value).find? other = table.find? other := by
  simp [find?_insert, h]

@[simp] theorem find?_erase_self (table : Table κ α) (key : κ) :
    (table.erase key).find? key = none := by
  simp [find?_erase]

theorem find?_erase_of_ne (table : Table κ α) {key other : κ} (h : other ≠ key) :
    (table.erase key).find? other = table.find? other := by
  simp [find?_erase, h]

end Table

end EdgeStreams
