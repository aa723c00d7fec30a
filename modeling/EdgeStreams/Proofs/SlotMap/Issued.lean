import EdgeStreams.Proofs.SlotMap.Lookup
import Mathlib.Data.List.Nodup

/-!
# Keys that have been handed out

A key stays a key after its value has been taken out: nothing hands it out a second time, as long as
the generation of its slot does not run over. Replacing values concerns no key at all, which is read
off the outline of a slot map.

## Main definitions

- `SlotMap.outline`: a slot map without its values
- `SlotMap.Issued`: a key that has been handed out
- `SlotMap.Ages`: no generation has gone back

## Main statements

- `SlotMap.WellFormed.not_issued_nextKey`: the next key has never been handed out
- `SlotMap.Issued.insert`, `SlotMap.Issued.retain`, `SlotMap.Issued.clear`: a key remains issued
-/

namespace EdgeStreams.SlotMap

variable {α : Type} {map map' : SlotMap α} {key other : Key} {value : α}

/-- The generations of the slots, which of them hold a value, and which are reused next. -/
def outline (map : SlotMap α) : Array (UInt32 × Bool) × List Nat :=
  (map.slots.map fun slot => (slot.generation, slot.value.isSome), map.free)

theorem outline_set (map : SlotMap α) (key : Key) (value : α) :
    (map.set key value).outline = map.outline := by
  by_cases hc : map.contains key
  · obtain ⟨old, ho⟩ := contains_iff.mp hc
    rw [get?_eq_some_iff] at ho
    simp only [outline, set, hc, if_true, Prod.mk.injEq, and_true]
    apply Array.ext_getElem?
    intro index
    simp only [Array.getElem?_map]
    by_cases hi : index = key.index
    · subst hi
      have hlt : key.index < map.slots.size := (Array.getElem?_eq_some_iff.mp ho).1
      rw [Array.getElem?_setIfInBounds_self, if_pos hlt, ho]
      rfl
    · rw [Array.getElem?_setIfInBounds_ne (Ne.symm hi)]
  · simp [set, hc]

/-- Maps with the same outline agree on what a slot shows without its value. -/
theorem getElem?_of_outline (h : map'.outline = map.outline) (index : Nat) :
    (map'.slots[index]?).map (fun slot => (slot.generation, slot.value.isSome)) =
      (map.slots[index]?).map fun slot => (slot.generation, slot.value.isSome) := by
  have hslots := congrArg Prod.fst h
  simp only [outline] at hslots
  rw [← Array.getElem?_map, ← Array.getElem?_map, hslots]

theorem WellFormed.of_outline (wf : map.WellFormed) (h : map'.outline = map.outline) :
    map'.WellFormed := by
  have hfree : map'.free = map.free := congrArg Prod.snd h
  refine ⟨hfree ▸ wf.nodup, fun index => ?_⟩
  have hslot := getElem?_of_outline h index
  rw [hfree, wf.mem_free index]
  constructor
  · rintro ⟨generation, hs⟩
    rw [hs] at hslot
    obtain ⟨⟨generation', value⟩, hs', he⟩ := Option.map_eq_some_iff.mp hslot
    simp only [Prod.mk.injEq, Option.isSome_none, Option.isSome_eq_false_iff,
      Option.isNone_iff_eq_none] at he
    exact ⟨generation', by rw [hs', he.2]⟩
  · rintro ⟨generation, hs⟩
    rw [hs] at hslot
    obtain ⟨⟨generation', value⟩, hs', he⟩ := Option.map_eq_some_iff.mp hslot.symm
    simp only [Prod.mk.injEq, Option.isSome_none, Option.isSome_eq_false_iff,
      Option.isNone_iff_eq_none] at he
    exact ⟨generation', by rw [hs', he.2]⟩

/-! ### Keys that have been handed out -/

/-- A key has been handed out: its slot holds its value, or is already of a later generation. -/
def Issued (map : SlotMap α) (key : Key) : Prop :=
  ∃ slot, map.slots[key.index]? = some slot ∧
    (key.generation < slot.generation ∨ key.generation = slot.generation ∧ slot.value.isSome)

theorem issued_of_get? (h : map.get? key = some value) : map.Issued key :=
  ⟨_, get?_eq_some_iff.mp h, .inr ⟨rfl, rfl⟩⟩

theorem Issued.of_outline (hk : map.Issued key) (h : map'.outline = map.outline) :
    map'.Issued key := by
  obtain ⟨slot, hs, hi⟩ := hk
  have hslot := getElem?_of_outline h key.index
  rw [hs] at hslot
  obtain ⟨slot', hs', he⟩ := Option.map_eq_some_iff.mp hslot
  simp only [Prod.mk.injEq] at he
  exact ⟨slot', hs', by rw [he.1, he.2]; exact hi⟩

/-- The next key is new. -/
theorem WellFormed.not_issued_nextKey (wf : map.WellFormed) : ¬ map.Issued map.nextKey := by
  rintro ⟨slot, hs, hi⟩
  cases hf : map.free with
  | nil => simp [nextKey, hf] at hs
  | cons index rest =>
    obtain ⟨generation, hvacant⟩ := (wf.mem_free index).mp (by simp [hf])
    simp only [nextKey, hf, hvacant, Option.map_some, Option.getD_some, Option.some.injEq] at hs hi
    subst hs
    rcases hi with hlt | ⟨-, hv⟩
    · exact absurd hlt (by simp)
    · simp at hv

theorem Issued.ne_nextKey (hk : map.Issued key) (wf : map.WellFormed) : key ≠ map.nextKey := by
  rintro rfl
  exact wf.not_issued_nextKey hk

theorem Issued.insert (hk : map.Issued key) (wf : map.WellFormed) (value : α) :
    (map.insert value).2.Issued key := by
  obtain ⟨slot, hs, hi⟩ := hk
  by_cases hkey : key.index = map.nextKey.index
  · -- the slot was vacant, and its generation remains
    refine ⟨_, (wf.slots_insert _).trans (if_pos hkey), .inl ?_⟩
    cases hf : map.free with
    | nil =>
      rw [hkey] at hs
      simp [nextKey, hf] at hs
    | cons index rest =>
      obtain ⟨generation, hvacant⟩ := (wf.mem_free index).mp (by simp [hf])
      have hindex : key.index = index := by rw [hkey, nextKey, hf]
      rw [hindex, hvacant, Option.some.injEq] at hs
      subst hs
      simp only [nextKey, hf, hvacant, Option.map_some, Option.getD_some]
      rcases hi with hlt | ⟨-, hv⟩
      · exact hlt
      · simp at hv
  · exact ⟨slot, (wf.slots_insert _).trans ((if_neg hkey).trans hs), hi⟩

/-! ### Taking values out -/

/-- The generations have not gone back, which they would do only where they run over. -/
def Ages (map map' : SlotMap α) : Prop :=
  ∀ (index : Nat) (slot slot' : Slot α), map.slots[index]? = some slot →
    map'.slots[index]? = some slot' → slot.generation ≤ slot'.generation

theorem Ages.refl (map : SlotMap α) : map.Ages map := by
  intro index slot slot' hs hs'
  rw [hs, Option.some.injEq] at hs'
  rw [hs']
  exact UInt32.le_refl _

/-- Replacing values concerns no generation. -/
theorem Ages.outline (h : map.Ages map') {map'' : SlotMap α} (ho : map''.outline = map'.outline) :
    map.Ages map'' := by
  intro index slot slot'' hs hs''
  have hslot := getElem?_of_outline ho index
  rw [hs''] at hslot
  obtain ⟨slot', hs', he⟩ := Option.map_eq_some_iff.mp hslot.symm
  rw [← (Prod.mk.inj he).1]
  exact h index slot slot' hs hs'

theorem Ages.of_outline (h : map'.outline = map.outline) : map.Ages map' :=
    (Ages.refl map).outline h

theorem WellFormed.ages_insert (wf : map.WellFormed) (value : α) :
    map.Ages (map.insert value).2 := by
  intro index slot slot' hs hs'
  rw [wf.slots_insert] at hs'
  by_cases hi : index = map.nextKey.index
  · rw [if_pos hi, Option.some.injEq] at hs'
    cases hf : map.free with
    | nil =>
      rw [hi] at hs
      simp [nextKey, hf] at hs
    | cons first rest =>
      obtain ⟨generation, hvacant⟩ := (wf.mem_free first).mp (by simp [hf])
      have hindex : index = first := by rw [hi, nextKey, hf]
      rw [hindex, hvacant, Option.some.injEq] at hs
      subst hs hs'
      simp [nextKey, hf, hvacant]
  · rw [if_neg hi, hs, Option.some.injEq] at hs'
    rw [hs']
    exact UInt32.le_refl _

/-- The entries stand in the order of the slots. -/
theorem ordered_toList (map : SlotMap α) :
    map.toList.Pairwise fun entry other => entry.1.index < other.1.index := by
  have hrange : (map.slots.toList.zipIdx.map Prod.snd).Pairwise (· < ·) := by
    rw [List.zipIdx_map_snd]
    exact List.pairwise_lt_range'
  rw [List.pairwise_map] at hrange
  rw [toList, List.pairwise_filterMap]
  refine hrange.imp ?_
  rintro ⟨slot, index⟩ ⟨slot', index'⟩ hlt entry he entry' he'
  simp only [Option.map_eq_some_iff] at he he'
  obtain ⟨-, -, rfl⟩ := he
  obtain ⟨-, -, rfl⟩ := he'
  exact hlt

theorem nodup_toList (map : SlotMap α) : (map.toList.map fun entry => entry.1.index).Nodup :=
  List.pairwise_map.mpr (map.ordered_toList.imp Nat.ne_of_lt)

/-- Taking out several values leaves their slots vacant, each one generation older. -/
theorem slots_foldl_remove (keys : List Key) (map : SlotMap α)
    (hnodup : (keys.map Key.index).Nodup) (hlive : ∀ key ∈ keys, ∃ value, map.get? key = some value)
    (index : Nat) :
    (keys.foldl (fun map key => (map.remove key).2) map).slots[index]? =
      (map.slots[index]?).map fun slot =>
        if index ∈ keys.map Key.index then ⟨slot.generation + 1, none⟩ else slot := by
  induction keys generalizing map with
  | nil => simp
  | cons key rest ih =>
    obtain ⟨value, hv⟩ := hlive key List.mem_cons_self
    rw [List.map_cons, List.nodup_cons] at hnodup
    have hlive' : ∀ other ∈ rest, ∃ value, (map.remove key).2.get? other = some value := by
      intro other ho
      have hne : other ≠ key := by
        rintro rfl
        exact hnodup.1 (List.mem_map_of_mem ho)
      rw [get?_remove, if_neg hne]
      exact hlive other (List.mem_cons_of_mem _ ho)
    rw [List.foldl_cons, ih _ hnodup.2 hlive']
    rw [get?_eq_some_iff] at hv
    simp only [remove, get?_eq_some_iff.mpr hv]
    by_cases hi : index = key.index
    · subst hi
      have hlt : key.index < map.slots.size := (Array.getElem?_eq_some_iff.mp hv).1
      rw [Array.getElem?_setIfInBounds_self, if_pos hlt, hv]
      simp [hnodup.1]
    · rw [Array.getElem?_setIfInBounds_ne (Ne.symm hi)]
      simp only [List.map_cons, List.mem_cons, hi, false_or]

/-- A key remains issued while values are taken out, unless the generation of its slot runs over. -/
theorem Issued.foldl_remove {keys : List Key} (hk : map.Issued key)
    (hnodup : (keys.map Key.index).Nodup) (hlive : ∀ key ∈ keys, ∃ value, map.get? key = some value)
    (hages : map.Ages (keys.foldl (fun map key => (map.remove key).2) map)) :
    (keys.foldl (fun map key => (map.remove key).2) map).Issued key := by
  obtain ⟨slot, hs, hi⟩ := hk
  have hs' := slots_foldl_remove keys map hnodup hlive key.index
  rw [hs, Option.map_some] at hs'
  refine ⟨_, hs', ?_⟩
  have hle := hages _ _ _ hs hs'
  by_cases hm : key.index ∈ keys.map Key.index
  · simp only [hm, if_true] at hle ⊢
    left
    have hsucc : slot.generation < slot.generation + 1 := UInt32.lt_of_le_of_ne hle (by simp)
    rcases hi with hlt | ⟨he, -⟩
    · exact UInt32.lt_trans hlt hsucc
    · rw [he]
      exact hsucc
  · simp only [hm, if_false]
    exact hi

theorem Issued.retain (hk : map.Issued key) (keep : Key → α → Bool)
    (hages : map.Ages (map.retain keep).2) : (map.retain keep).2.Issued key := by
  refine hk.foldl_remove ?_ ?_ hages
  · rw [List.map_map]
    exact (map.nodup_toList).sublist ((List.filter_sublist).map _)
  · intro other ho
    obtain ⟨⟨_, value⟩, hm, rfl⟩ := List.mem_map.mp ho
    exact ⟨value, mem_toList.mp (List.mem_of_mem_filter hm)⟩

theorem Issued.clear (hk : map.Issued key) (hages : map.Ages map.clear) : map.clear.Issued key := by
  refine hk.foldl_remove ?_ (fun other ho => mem_keys.mp ho) hages
  rw [keys, List.map_map]
  exact map.nodup_toList

end EdgeStreams.SlotMap
