import EdgeStreams.Proofs.SlotMap.Issued

/-!
# Values that last

A key finds one value from the time it is handed out until the value is taken out, and nothing
afterwards. The value may be replaced meanwhile, but a part of it stays: it is what tells whether
the value is still the same.

## Main definitions

- `SlotMap.GrowsTo`: values are put in and replaced
- `SlotMap.Lasts`: the keys that have been handed out find what they found before, or nothing

## Main statements

- `SlotMap.GrowsTo.lasts`, `SlotMap.Lasts.retain`, `SlotMap.Lasts.clear`: it is so, whatever
  is done to a slot map
-/

namespace EdgeStreams.SlotMap

variable {α β : Type} {part : α → β} {map map' map'' : SlotMap α} {key : Key} {value : α}

instance : Decidable (map.Ages map') :=
  decidable_of_iff (∀ index : Fin map.slots.size, ∀ slot' ∈ map'.slots[index.val]?,
    map.slots[index].generation ≤ slot'.generation) <| by
      constructor
      · intro h index slot slot' hs hs'
        obtain ⟨hlt, rfl⟩ := Array.getElem?_eq_some_iff.mp hs
        exact h ⟨index, hlt⟩ slot' hs'
      · intro h index slot' hs'
        exact h index _ slot' (Array.getElem?_eq_getElem index.isLt) hs'

/-- Values are put in, and replaced by others with the same part. -/
inductive GrowsTo (part : α → β) (map : SlotMap α) : SlotMap α → Prop
  | refl : GrowsTo part map map
  | set {between : SlotMap α} {key : Key} {value value' : α} : GrowsTo part map between →
    between.get? key = some value → part value' = part value →
      GrowsTo part map (between.set key value')
  | insert {between : SlotMap α} (value : α) : GrowsTo part map between →
    GrowsTo part map (between.insert value).2

/-- A key that has been handed out remains so. It finds a value only if it found one before, and the
part of that has stayed. -/
structure Lasts (part : α → β) (map map' : SlotMap α) : Prop where
  issued : ∀ {key}, map.Issued key → map'.Issued key
  back : ∀ {key value'}, map.Issued key → map'.get? key = some value' →
    ∃ value, map.get? key = some value ∧ part value' = part value

namespace Lasts

theorem refl (map : SlotMap α) : map.Lasts part map := ⟨id, fun _ hv => ⟨_, hv, rfl⟩⟩

theorem trans (h : map.Lasts part map') (h' : map'.Lasts part map'') :
    map.Lasts part map'' where
  issued hk := h'.issued (h.issued hk)
  back hk hv := by
    obtain ⟨value', hv', hpart'⟩ := h'.back (h.issued hk) hv
    obtain ⟨value, hv, hpart⟩ := h.back hk hv'
    exact ⟨value, hv, hpart'.trans hpart⟩

/-- A key that finds nothing any more finds nothing for ever. -/
theorem get?_eq_none (h : map.Lasts part map') (hk : map.Issued key)
    (hnone : map.get? key = none) : map'.get? key = none := by
  cases hv' : map'.get? key with
  | none => rfl
  | some value' =>
    obtain ⟨value, hv, -⟩ := h.back hk hv'
    cases hnone.symm.trans hv

theorem set {value' : α} (hv : map.get? key = some value) (hpart : part value' = part value) :
    map.Lasts part (map.set key value') where
  issued hk := hk.of_outline (outline_set _ _ _)
  back {other found} _ hfound := by
    rw [get?_set] at hfound
    split at hfound
    · next he =>
      subst he
      rw [hv] at hfound
      cases hfound
      exact ⟨value, hv, hpart⟩
    · exact ⟨found, hfound, rfl⟩

/-- A new value has a new key. -/
theorem insert (wf : map.WellFormed) (value : α) : map.Lasts part (map.insert value).2 where
  issued hk := hk.insert wf value
  back hk hfound := by
    rw [wf.get?_insert, if_neg (hk.ne_nextKey wf)] at hfound
    exact ⟨_, hfound, rfl⟩

/-- Values are taken out. -/
theorem of_filter (hissued : ∀ {key}, map.Issued key → map'.Issued key)
    (h : ∀ {key value}, map'.get? key = some value → map.get? key = some value) :
    map.Lasts part map' := ⟨hissued, fun _ hv => ⟨_, h hv, rfl⟩⟩

theorem retain (keep : Key → α → Bool) (hages : map.Ages (map.retain keep).2) :
    map.Lasts part (map.retain keep).2 := by
  refine .of_filter (fun hk => hk.retain keep hages) fun hv => ?_
  rw [get?_retain] at hv
  exact (Option.filter_eq_some_iff.mp hv).1

theorem clear (hages : map.Ages map.clear) : map.Lasts part map.clear := by
  refine .of_filter (fun hk => hk.clear hages) fun hv => ?_
  rw [get?_clear] at hv
  cases hv

end Lasts

namespace GrowsTo

theorem trans (h : map.GrowsTo part map') (h' : map'.GrowsTo part map'') :
    map.GrowsTo part map'' := by
  induction h' with
  | refl => exact h
  | set _ hv hpart ih => exact ih.set hv hpart
  | insert value _ ih => exact ih.insert value

theorem wellFormed (h : map.GrowsTo part map') (wf : map.WellFormed) : map'.WellFormed := by
  induction h with
  | refl => exact wf
  | set _ _ _ ih => exact ih.set _ _
  | insert value _ ih => exact ih.insert value

/-- By induction on the changes. -/
theorem lasts (h : map.GrowsTo part map') (wf : map.WellFormed) : map.Lasts part map' := by
  induction h with
  | refl => exact .refl map
  | set _ hv hpart ih => exact ih.trans (.set hv hpart)
  | insert value hgrows ih => exact ih.trans (.insert (hgrows.wellFormed wf) value)

/-- The slots stay, and their generations do not go back. By induction on the changes. -/
theorem slot (h : map.GrowsTo part map') (wf : map.WellFormed) {index : Nat} {slot : Slot α}
    (hs : map.slots[index]? = some slot) :
    ∃ slot', map'.slots[index]? = some slot' ∧ slot.generation ≤ slot'.generation := by
  induction h with
  | refl => exact ⟨slot, hs, UInt32.le_refl _⟩
  | @set between key _ value' _ _ _ ih =>
    obtain ⟨slot', hs', hle⟩ := ih
    have hslot := getElem?_of_outline (outline_set between key value') index
    rw [hs'] at hslot
    obtain ⟨slot'', hs'', he⟩ := Option.map_eq_some_iff.mp hslot
    exact ⟨slot'', hs'', (Prod.mk.inj he).1 ▸ hle⟩
  | @insert between value hgrows ih =>
    obtain ⟨slot', hs', hle⟩ := ih
    have hwf := hgrows.wellFormed wf
    obtain ⟨slot'', hs''⟩ : ∃ slot'', (between.insert value).2.slots[index]? = some slot'' := by
      rw [hwf.slots_insert]
      split
      · exact ⟨_, rfl⟩
      · exact ⟨slot', hs'⟩
    exact ⟨slot'', hs'', UInt32.le_trans hle (hwf.ages_insert value index slot' slot'' hs' hs'')⟩

/-- A generation runs over only where a value is taken out. -/
theorem ages (h : map.GrowsTo part map') (wf : map.WellFormed) : map.Ages map' := by
  intro index slot slot' hs hs'
  obtain ⟨found, hfound, hle⟩ := h.slot wf hs
  cases hfound.symm.trans hs'
  exact hle

end GrowsTo

end EdgeStreams.SlotMap
