import EdgeStreams.SlotMap.Basic
import Mathlib.Data.List.Basic

/-!
# Looking up in slot maps

What each operation on a slot map does to the value of every key. An operation is then known by its
effect on `SlotMap.get?`, and its slots need not be looked at again.

## Main definitions

- `SlotMap.WellFormed`: the vacant slots are those that wait for reuse, each once

## Main statements

- `SlotMap.WellFormed.get?_insert`, `SlotMap.get?_set`, `SlotMap.get?_remove`,
  `SlotMap.get?_retain`: what each operation does to every key
- `SlotMap.mem_toList`: the entries of a slot map
-/

namespace EdgeStreams.SlotMap

variable {α : Type} {map : SlotMap α} {key other : Key} {value : α}

theorem get?_eq_some_iff :
    map.get? key = some value ↔ map.slots[key.index]? = some ⟨key.generation, some value⟩ := by
  unfold get?
  cases hs : map.slots[key.index]? with
  | none => simp
  | some slot =>
    obtain ⟨generation, content⟩ := slot
    by_cases hg : generation = key.generation <;> simp [hg]

theorem contains_iff : map.contains key = true ↔ ∃ value, map.get? key = some value := by
  unfold contains
  exact Option.isSome_iff_exists

/-- The entries of a slot map are the live keys with their values. -/
theorem mem_toList : (key, value) ∈ map.toList ↔ map.get? key = some value := by
  rw [get?_eq_some_iff]
  simp only [toList, List.mem_filterMap, Option.map_eq_some_iff, Prod.exists, Prod.mk.injEq,
    List.mem_zipIdx_iff_getElem?, Array.getElem?_toList]
  constructor
  · rintro ⟨⟨generation, content⟩, index, hs, v, hc, rfl, rfl⟩
    simp only at hc
    rw [hs, hc]
  · intro hs
    exact ⟨_, key.index, hs, value, rfl, rfl, rfl⟩

theorem mem_keys : key ∈ map.keys ↔ ∃ value, map.get? key = some value := by
  simp only [keys, List.mem_map, Prod.exists, exists_and_right, exists_eq_right, mem_toList]

/-! ### Replacing a value -/

theorem get?_set_self (h : (map.get? key).isSome) : (map.set key value).get? key = some value := by
  have hc : map.contains key = true := h
  obtain ⟨old, ho⟩ := Option.isSome_iff_exists.mp h
  rw [get?_eq_some_iff] at ho
  have hlt : key.index < map.slots.size := (Array.getElem?_eq_some_iff.mp ho).1
  rw [get?_eq_some_iff]
  simp [set, hc, hlt]

theorem get?_set_of_ne (h : other ≠ key) : (map.set key value).get? other = map.get? other := by
  by_cases hc : map.contains key
  · obtain ⟨old, ho⟩ := contains_iff.mp hc
    rw [get?_eq_some_iff] at ho
    have hlt : key.index < map.slots.size := (Array.getElem?_eq_some_iff.mp ho).1
    simp only [set, hc, if_true, get?]
    by_cases hi : other.index = key.index
    · -- the two keys name one slot, which only one of them can find
      have hg : ¬ key.generation = other.generation := by
        intro hg
        exact h (by cases other; cases key; simp_all)
      rw [hi, ho, Array.getElem?_setIfInBounds_self, if_pos hlt]
      simp [hg]
    · rw [Array.getElem?_setIfInBounds_ne (Ne.symm hi)]
  · simp [set, hc]

theorem get?_set (map : SlotMap α) (key other : Key) (value : α) :
    (map.set key value).get? other =
      if other = key then (map.get? key).map fun _ => value else map.get? other := by
  split
  · next h =>
    subst h
    cases ho : map.get? other with
    | none =>
      have hc : map.contains other = false := by simp [contains, ho]
      simp [set, hc, ho]
    | some old => exact get?_set_self (by simp [ho])
  · next h => exact get?_set_of_ne h

/-- A value that is there already changes nothing. -/
theorem set_of_get? (h : map.get? key = some value) : map.set key value = map := by
  have hc : map.contains key = true := contains_iff.mpr ⟨value, h⟩
  obtain ⟨hlt, hslot⟩ := Array.getElem?_eq_some_iff.mp (get?_eq_some_iff.mp h)
  have hsame : map.slots.setIfInBounds key.index ⟨key.generation, some value⟩ = map.slots := by
    rw [← hslot, Array.setIfInBounds_def, dif_pos hlt, Array.set_getElem_self]
  rw [set, if_pos hc, hsame]

/-- Only the last value set at a key counts. -/
@[simp] theorem set_set (map : SlotMap α) (key : Key) (first second : α) :
    (map.set key first).set key second = map.set key second := by
  by_cases hc : map.contains key
  · have hf : (map.set key first).contains key = true :=
      contains_iff.mpr ⟨first, get?_set_self hc⟩
    simp only [set] at hf
    simp only [set, hc, if_true] at hf ⊢
    rw [if_pos hf, Array.setIfInBounds_setIfInBounds]
  · simp [set, hc]

/-! ### Taking values out -/

theorem get?_remove (map : SlotMap α) (key other : Key) :
    (map.remove key).2.get? other = if other = key then none else map.get? other := by
  unfold remove
  cases hk : map.get? key with
  | none =>
    by_cases h : other = key
    · simp [h, hk]
    · simp [h]
  | some old =>
    rw [get?_eq_some_iff] at hk
    have hlt : key.index < map.slots.size := (Array.getElem?_eq_some_iff.mp hk).1
    simp only [get?]
    by_cases hi : other.index = key.index
    · rw [hi, Array.getElem?_setIfInBounds_self, if_pos hlt, hk]
      by_cases h : other = key
      · simp [h]
      · have hg : ¬ key.generation = other.generation := by
          intro hg
          exact h (by cases other; cases key; simp_all)
        simp [h, hg]
    · have h : other ≠ key := fun e => hi (by rw [e])
      rw [Array.getElem?_setIfInBounds_ne (Ne.symm hi), if_neg h]

theorem get?_foldl_remove (keys : List Key) (map : SlotMap α) (other : Key) :
    (keys.foldl (fun map key => (map.remove key).2) map).get? other =
      if other ∈ keys then none else map.get? other := by
  induction keys generalizing map with
  | nil => simp
  | cons key rest ih =>
    rw [List.foldl_cons, ih, get?_remove]
    by_cases hr : other ∈ rest
    · simp [hr]
    · by_cases hk : other = key <;> simp [hr, hk]

/-- What passes the test stays, and nothing else. -/
theorem get?_retain (map : SlotMap α) (keep : Key → α → Bool) (key : Key) :
    (map.retain keep).2.get? key = (map.get? key).filter (keep key) := by
  simp only [retain, get?_foldl_remove, List.mem_map, List.mem_filter, Prod.exists,
    exists_and_right, exists_eq_right, mem_toList]
  cases hk : map.get? key with
  | none => simp
  | some value => cases h : keep key value <;> simp [h, Option.filter]

theorem get?_clear (map : SlotMap α) (key : Key) : map.clear.get? key = none := by
  rw [clear, get?_foldl_remove]
  split
  · rfl
  · next h =>
    rw [mem_keys] at h
    exact Option.eq_none_iff_forall_ne_some.mpr fun value hv => h ⟨value, hv⟩

/-! ### Putting a value in -/

/-- The slots that wait for reuse are the vacant ones, each once. -/
structure WellFormed (map : SlotMap α) : Prop where
  nodup : map.free.Nodup
  mem_free : ∀ index, index ∈ map.free ↔ ∃ generation, map.slots[index]? = some ⟨generation, none⟩

@[simp] theorem get?_empty (key : Key) : ({} : SlotMap α).get? key = none := by
  simp [get?]

theorem wellFormed_empty : ({} : SlotMap α).WellFormed where
  nodup := List.nodup_nil
  mem_free := by simp

@[simp] theorem insert_fst : (map.insert value).1 = map.nextKey := by
  unfold insert
  cases map.free <;> rfl

/-- The key that is handed out next finds nothing yet. -/
theorem WellFormed.get?_nextKey (wf : map.WellFormed) : map.get? map.nextKey = none := by
  cases hf : map.free with
  | nil => simp [nextKey, hf, get?]
  | cons index rest =>
    obtain ⟨generation, hs⟩ := (wf.mem_free index).mp (by simp [hf])
    simp [nextKey, hf, get?, hs]

theorem WellFormed.slots_insert (wf : map.WellFormed) (index : Nat) :
    (map.insert value).2.slots[index]? =
      if index = map.nextKey.index then some ⟨map.nextKey.generation, some value⟩
      else map.slots[index]? := by
  cases hf : map.free with
  | nil =>
    simp only [insert, nextKey, hf, Array.getElem?_push]
  | cons first rest =>
    obtain ⟨generation, hs⟩ := (wf.mem_free first).mp (by simp [hf])
    have hlt : first < map.slots.size := (Array.getElem?_eq_some_iff.mp hs).1
    simp only [insert, nextKey, hf]
    by_cases hi : index = first
    · subst hi
      rw [Array.getElem?_setIfInBounds_self, if_pos hlt, if_pos rfl]
    · rw [Array.getElem?_setIfInBounds_ne (Ne.symm hi), if_neg hi]

/-- Insertion is seen at the key that it hands out and nowhere else. -/
theorem WellFormed.get?_insert (wf : map.WellFormed) (value : α) (key : Key) :
    (map.insert value).2.get? key = if key = map.nextKey then some value else map.get? key := by
  unfold get?
  rw [wf.slots_insert]
  by_cases hi : key.index = map.nextKey.index
  · rw [if_pos hi]
    by_cases hk : key = map.nextKey
    · simp [hk]
    · have hg : ¬ map.nextKey.generation = key.generation := by
        intro hg
        exact hk (by cases key; cases h : map.nextKey; simp_all)
      have hold := wf.get?_nextKey
      simp only [if_neg hk, hg, if_false]
      -- the slot is vacant, so that no key finds anything in it
      unfold nextKey at hi
      cases hf : map.free with
      | nil =>
        rw [hf] at hi
        simp [hi]
      | cons first rest =>
        obtain ⟨generation, hs⟩ := (wf.mem_free first).mp (by simp [hf])
        rw [hf] at hi
        simp only at hi
        simp [hi, hs]
  · have hk : key ≠ map.nextKey := fun e => hi (by rw [e])
    rw [if_neg hi, if_neg hk]

theorem WellFormed.insert (wf : map.WellFormed) (value : α) : (map.insert value).2.WellFormed := by
  refine ⟨?_, fun index => ?_⟩
  · cases hf : map.free with
    | nil => simp [SlotMap.insert, hf]
    | cons first rest =>
      have := wf.nodup
      rw [hf] at this
      simpa [SlotMap.insert, hf] using (List.nodup_cons.mp this).2
  · rw [wf.slots_insert]
    cases hf : map.free with
    | nil =>
      have hm := wf.mem_free index
      rw [hf] at hm
      simp only [SlotMap.insert, nextKey, hf]
      by_cases hi : index = map.slots.size
      · simp [hi]
      · simpa [hi] using hm
    | cons first rest =>
      have hm := wf.mem_free index
      have hn := wf.nodup
      rw [hf] at hm hn
      simp only [SlotMap.insert, nextKey, hf]
      by_cases hi : index = first
      · subst hi
        simp [(List.nodup_cons.mp hn).1]
      · simpa [hi] using hm

theorem WellFormed.set (wf : map.WellFormed) (key : Key) (value : α) :
    (map.set key value).WellFormed := by
  by_cases hc : map.contains key
  · obtain ⟨old, ho⟩ := contains_iff.mp hc
    rw [get?_eq_some_iff] at ho
    have hlt : key.index < map.slots.size := (Array.getElem?_eq_some_iff.mp ho).1
    refine ⟨by simpa [SlotMap.set, hc] using wf.nodup, fun index => ?_⟩
    have hm := wf.mem_free index
    simp only [SlotMap.set, hc, if_true]
    by_cases hi : index = key.index
    · subst hi
      rw [Array.getElem?_setIfInBounds_self, if_pos hlt]
      rw [ho] at hm
      simpa using hm
    · rw [Array.getElem?_setIfInBounds_ne (Ne.symm hi)]
      exact hm
  · simpa [SlotMap.set, hc] using wf

theorem WellFormed.remove (wf : map.WellFormed) (key : Key) : (map.remove key).2.WellFormed := by
  unfold SlotMap.remove
  cases hk : map.get? key with
  | none => exact wf
  | some old =>
    rw [get?_eq_some_iff] at hk
    have hlt : key.index < map.slots.size := (Array.getElem?_eq_some_iff.mp hk).1
    have hfree : key.index ∉ map.free := by
      intro hm
      obtain ⟨generation, hs⟩ := (wf.mem_free key.index).mp hm
      simp [hk] at hs
    refine ⟨List.nodup_cons.mpr ⟨hfree, wf.nodup⟩, fun index => ?_⟩
    have hm := wf.mem_free index
    by_cases hi : index = key.index
    · subst hi
      simp [hlt]
    · rw [Array.getElem?_setIfInBounds_ne (Ne.symm hi)]
      simpa [hi] using hm

theorem WellFormed.foldl_remove (wf : map.WellFormed) (keys : List Key) :
    (keys.foldl (fun map key => (map.remove key).2) map).WellFormed := by
  induction keys generalizing map with
  | nil => exact wf
  | cons key rest ih => exact ih (wf.remove key)

theorem WellFormed.retain (wf : map.WellFormed) (keep : Key → α → Bool) :
    (map.retain keep).2.WellFormed := wf.foldl_remove _

theorem WellFormed.clear (wf : map.WellFormed) : map.clear.WellFormed := wf.foldl_remove _

end EdgeStreams.SlotMap
