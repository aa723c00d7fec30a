import EdgeStreams.Proofs.SlotMap.Issued
import Mathlib.Algebra.Group.Nat.Defs
import Mathlib.Data.Finset.Card
import Mathlib.Data.Finset.Filter

/-!
# Slot maps are finite maps

Seen from outside, a slot map is a finite map from the keys that it has handed out. Which keys it
hands out is its own affair, as long as they are new; slots, generations and the order of reuse do
not show.

## Main definitions

- `SlotMap.Op`, `SlotMap.Answer`, `SlotMap.perform`: the operations of a slot map as data
- `Ledger`: a finite map from keys that have been issued
- `Ledger.Step`, `Ledger.Run`: what operations may answer, and what they lead to
- `SlotMap.Represents`: a slot map shows what a ledger has
- `SlotMap.freed`: how often a slot is freed

## Main statements

- `SlotMap.age_perform`: the generation of a slot counts how often it has been freed
- `SlotMap.Follows.perform`: an operation is a step of the ledger
- `SlotMap.refines_ledger`: every sequence of operations is a run of the ledger

## Design notes

A generation is a 32-bit word. If a slot is freed 2 ^ 32 times, it begins anew, and the slot map
hands out a key a second time.
-/

namespace EdgeStreams

namespace SlotMap

variable {α β : Type}

/-- An operation that changes a slot map. -/
inductive Op (α β : Type) where
  | insert (value : α)
  | insertWith (make : Key → α × β)
  /-- Changes the value of a live key in place. -/
  | update (key : Key) (f : α → α)
  | remove (key : Key)
  | retain (keep : Key → α → Bool)
  | clear

/-- What an operation answers with. -/
inductive Answer (α β : Type) where
  | key (key : Key)
  | made (key : Key) (extra : β)
  /-- The value that was found, if there was one. -/
  | value (found : Option α)
  | count (number : Nat)
  | done

/-- The key that is handed out with an answer. -/
def Answer.issues : Answer α β → Option Key
  | key issued | made issued _ => some issued
  | value _ | count _ | done => none

/-- Does an operation on a slot map. -/
def perform (map : SlotMap α) : Op α β → Answer α β × SlotMap α
  | .insert value =>
    let (key, map) := map.insert value
    (.key key, map)
  | .insertWith make =>
    let ((key, extra), map) := map.insertWith make
    (.made key extra, map)
  | .update key f =>
    match map.get? key with
    | some value => (.value (some value), map.set key (f value))
    | none => (.value none, map)
  | .remove key =>
    let (found, map) := map.remove key
    (.value found, map)
  | .retain keep =>
    let (number, map) := map.retain keep
    (.count number, map)
  | .clear => (.done, map.clear)

/-- Does operations one after the other. -/
def performAll (map : SlotMap α) : List (Op α β) → List (Answer α β) × SlotMap α
  | [] => ([], map)
  | op :: ops =>
    let (answer, between) := map.perform op
    let (answers, later) := between.performAll ops
    (answer :: answers, later)

/-- A slot holds a value. -/
def occupied (map : SlotMap α) (index : Nat) : Bool :=
  ((map.slots[index]?).bind Slot.value).isSome

/-- An operation frees a slot: it has held a value and then holds none. -/
def frees (map : SlotMap α) (op : Op α β) (index : Nat) : Nat :=
  if map.occupied index ∧ (map.perform op).2.occupied index = false then 1 else 0

/-- How often a slot is freed while operations are done. -/
def freed (map : SlotMap α) : List (Op α β) → Nat → Nat
  | [], _ => 0
  | op :: ops, index => map.frees op index + (map.perform op).2.freed ops index

end SlotMap

/-! ### Ledgers -/

/-- A finite map from keys that have been issued. -/
structure Ledger (α : Type) where
  /-- All keys that have ever been issued. -/
  issued : Finset SlotMap.Key
  /-- The value of each key that is still live. -/
  find : SlotMap.Key → Option α
  mem_issued : ∀ key, find key ≠ none → key ∈ issued

namespace Ledger

open SlotMap

variable {α β : Type}

/-- No key has been issued. -/
def empty : Ledger α := ⟨∅, fun _ => none, fun _ h => absurd rfl h⟩

variable (ledger : Ledger α)

/-- The keys that have a value. -/
def live : Finset Key := ledger.issued.filter fun key => (ledger.find key).isSome

/-- The keys whose values fail a test. -/
def rejected (keep : Key → α → Bool) : Finset Key :=
  ledger.live.filter fun key => (ledger.find key).any fun value => !keep key value

/-- Issues a key with a value. -/
def insert (key : Key) (value : α) : Ledger α where
  issued := Insert.insert key ledger.issued
  find := Function.update ledger.find key (some value)
  mem_issued other h := by
    by_cases he : other = key
    · exact he ▸ Finset.mem_insert_self _ _
    · rw [Function.update_of_ne he] at h
      exact Finset.mem_insert_of_mem (ledger.mem_issued other h)

/-- Changes the value of every key, or takes it out. -/
def restrict (f : Key → α → Option α) : Ledger α where
  issued := ledger.issued
  find key := (ledger.find key).bind (f key)
  mem_issued key h := ledger.mem_issued key fun hnone => h (by rw [hnone]; rfl)

/-- Changes the value of one key. -/
def update (key : Key) (f : α → α) : Ledger α :=
  ledger.restrict fun other value => some (if other = key then f value else value)

/-- Takes out the value of one key. -/
def erase (key : Key) : Ledger α :=
  ledger.restrict fun other value => if other = key then none else some value

/-- Takes out the values that fail a test. -/
def retain (keep : Key → α → Bool) : Ledger α :=
  ledger.restrict fun key value => if keep key value then some value else none

/-- Takes out all values. -/
def clear : Ledger α := ledger.restrict fun _ _ => none

/-- What an operation may answer, and what it leads to. Only the key of a new value is left open. -/
inductive Step : Op α β → Answer α β → Ledger α → Prop
  | insert {key : Key} (value : α) : key ∉ ledger.issued →
    Step (.insert value) (.key key) (ledger.insert key value)
  | insertWith {key : Key} (make : Key → α × β) : key ∉ ledger.issued →
    Step (.insertWith make) (.made key (make key).2) (ledger.insert key (make key).1)
  | update (key : Key) (f : α → α) :
    Step (.update key f) (.value (ledger.find key)) (ledger.update key f)
  | remove (key : Key) : Step (.remove key) (.value (ledger.find key)) (ledger.erase key)
  | retain (keep : Key → α → Bool) :
    Step (.retain keep) (.count (ledger.rejected keep).card) (ledger.retain keep)
  | clear : Step .clear .done ledger.clear

/-- One step after the other. -/
inductive Run : Ledger α → List (Op α β) → List (Answer α β) → Ledger α → Prop
  | nil (ledger : Ledger α) : Run ledger [] [] ledger
  | cons {ledger between later : Ledger α} {op : Op α β} {answer : Answer α β}
    {ops : List (Op α β)} {answers : List (Answer α β)} : ledger.Step op answer between →
      Run between ops answers later → Run ledger (op :: ops) (answer :: answers) later

variable {ledger} {between later : Ledger α} {key : Key}

theorem mem_live : key ∈ ledger.live ↔ ∃ value, ledger.find key = some value := by
  rw [live, Finset.mem_filter, Option.isSome_iff_exists]
  refine and_iff_right_of_imp fun ⟨value, hv⟩ => ledger.mem_issued key ?_
  rw [hv]
  exact Option.some_ne_none value

theorem find_insert (key other : Key) (value : α) :
    (ledger.insert key value).find other = if other = key then some value else ledger.find other :=
  Function.update_apply _ _ _ _

theorem mem_issued_insert {other : Key} {value : α} :
    other ∈ (ledger.insert key value).issued ↔ other = key ∨ other ∈ ledger.issued :=
  Finset.mem_insert

namespace Step

variable {op : Op α β} {answer : Answer α β}

/-- A key that has been issued remains so. -/
theorem mem_issued (h : ledger.Step op answer later) (hk : key ∈ ledger.issued) :
    key ∈ later.issued := by
  cases h with
  | insert | insertWith => exact Finset.mem_insert_of_mem hk
  | update | remove | retain | clear => exact hk

/-- A key that has no value any more has none for ever. -/
theorem find_eq_none (h : ledger.Step op answer later) (hk : key ∈ ledger.issued)
    (hnone : ledger.find key = none) : later.find key = none := by
  cases h with
  | insert _ hnew | insertWith _ hnew =>
    rw [find_insert, if_neg (by rintro rfl; exact hnew hk), hnone]
  | update | remove | retain | clear =>
    change (ledger.find key).bind _ = none
    rw [hnone]
    rfl

/-- A key that is handed out has been issued. -/
theorem issued_of_answer (h : ledger.Step op answer later) (ha : answer.issues = some key) :
    key ∈ later.issued := by
  cases h with
  | insert | insertWith =>
    cases ha
    exact Finset.mem_insert_self _ _
  | update | remove | retain | clear => cases ha

end Step

namespace Run

variable {ops more : List (Op α β)} {answers others : List (Answer α β)}

theorem mem_issued (h : Run ledger ops answers later) (hk : key ∈ ledger.issued) :
    key ∈ later.issued := by
  induction h with
  | nil => exact hk
  | cons hstep _ ih => exact ih (hstep.mem_issued hk)

theorem find_eq_none (h : Run ledger ops answers later) (hk : key ∈ ledger.issued)
    (hnone : ledger.find key = none) : later.find key = none := by
  induction h with
  | nil => exact hnone
  | cons hstep _ ih => exact ih (hstep.mem_issued hk) (hstep.find_eq_none hk hnone)

theorem issued_of_answer (h : Run ledger ops answers later) {answer : Answer α β}
    (hm : answer ∈ answers) (ha : answer.issues = some key) : key ∈ later.issued := by
  induction h with
  | nil => exact absurd hm List.not_mem_nil
  | cons hstep hrun ih =>
    rcases List.mem_cons.mp hm with rfl | hrest
    · exact hrun.mem_issued (hstep.issued_of_answer ha)
    · exact ih hrest

theorem append (h : Run ledger ops answers between) (h' : Run between more others later) :
    Run ledger (ops ++ more) (answers ++ others) later := by
  induction h with
  | nil => exact h'
  | cons hstep _ ih => exact .cons hstep (ih h')

end Run

end Ledger

namespace SlotMap

variable {α β : Type} {map : SlotMap α} {key : Key} {index : Nat} {op : Op α β}

/-! ### What an operation does to the slots -/

/-- What an operation does to the slots: it leaves them as they are but for values, fills one, or
frees some. -/
theorem perform_cases (map : SlotMap α) (op : Op α β) :
    (map.perform op).2.outline = map.outline ∨
      (∃ value, (map.perform op).2 = (map.insert value).2) ∨
      ∃ keys : List Key, (keys.map Key.index).Nodup ∧
        (∀ key ∈ keys, ∃ value, map.get? key = some value) ∧
        (map.perform op).2 = keys.foldl (fun map key => (map.remove key).2) map := by
  have hlive : ∀ keep : Key × α → Bool,
      (((map.toList.filter keep).map Prod.fst).map Key.index).Nodup ∧
        ∀ key ∈ (map.toList.filter keep).map Prod.fst, ∃ value, map.get? key = some value := by
    intro keep
    refine ⟨?_, fun key hk => ?_⟩
    · rw [List.map_map]
      exact map.nodup_toList.sublist (List.filter_sublist.map _)
    · obtain ⟨⟨_, value⟩, hm, rfl⟩ := List.mem_map.mp hk
      exact ⟨value, mem_toList.mp (List.mem_of_mem_filter hm)⟩
  cases op with
  | insert value => exact .inr (.inl ⟨value, rfl⟩)
  | insertWith make => exact .inr (.inl ⟨(make map.nextKey).1, rfl⟩)
  | update key f =>
    left
    cases hv : map.get? key with
    | none => simp [perform, hv]
    | some value => simpa [perform, hv] using outline_set map key (f value)
  | remove key =>
    right; right
    cases hv : map.get? key with
    | none => exact ⟨[], List.nodup_nil, nofun, by simp [perform, remove, hv]⟩
    | some value => exact ⟨[key], List.nodup_singleton _, by simp [hv], rfl⟩
  | retain keep => exact .inr (.inr ⟨_, (hlive _).1, (hlive _).2, rfl⟩)
  | clear =>
    have hall := hlive fun _ => true
    rw [List.filter_true] at hall
    exact .inr (.inr ⟨map.keys, hall.1, hall.2, rfl⟩)

theorem WellFormed.perform (wf : map.WellFormed) (op : Op α β) : (map.perform op).2.WellFormed := by
  rcases map.perform_cases op with h | ⟨value, h⟩ | ⟨keys, -, -, h⟩
  · exact wf.of_outline h
  · exact h ▸ wf.insert value
  · exact h ▸ wf.foldl_remove keys

/-! ### Generations count -/

/-- The generation of a slot, which is zero before there is one. -/
def age (map : SlotMap α) (index : Nat) : Nat :=
  ((map.slots[index]?).map fun slot => slot.generation.toNat).getD 0

theorem age_of_slot {slot : Slot α} (h : map.slots[index]? = some slot) :
    map.age index = slot.generation.toNat := by rw [age, h]; rfl

theorem occupied_iff : map.occupied index = true ↔ ∃ generation value,
    map.slots[index]? = some ⟨generation, some value⟩ := by
  unfold occupied
  cases h : map.slots[index]? with
  | none => simp
  | some slot =>
    obtain ⟨generation, _ | value⟩ := slot <;> simp

theorem age_insert (wf : map.WellFormed) (value : α) (index : Nat) :
    (map.insert value).2.age index = map.age index := by
  unfold age
  rw [wf.slots_insert]
  by_cases hi : index = map.nextKey.index
  · rw [if_pos hi]
    cases hf : map.free with
    | nil => simp [hi, nextKey, hf]
    | cons first rest =>
      obtain ⟨generation, hs⟩ := (wf.mem_free first).mp (by simp [hf])
      simp [hi, nextKey, hf, hs]
  · rw [if_neg hi]

theorem occupied_insert (wf : map.WellFormed) (value : α) (h : map.occupied index = true) :
    (map.insert value).2.occupied index = true := by
  rw [occupied_iff] at h ⊢
  obtain ⟨generation, old, hs⟩ := h
  rw [wf.slots_insert]
  split
  · exact ⟨_, _, rfl⟩
  · exact ⟨generation, old, hs⟩

theorem age_of_outline {map' : SlotMap α} (h : map'.outline = map.outline) (index : Nat) :
    map'.age index = map.age index ∧ map'.occupied index = map.occupied index := by
  have hslot := getElem?_of_outline h index
  unfold age occupied
  cases hs : map.slots[index]? <;> cases hs' : map'.slots[index]? <;> simp_all

/-- The generation of a slot counts how often it has been freed, as long as the count fits. -/
theorem age_perform (wf : map.WellFormed) (op : Op α β) (index : Nat)
    (hroom : map.age index + map.frees op index < 2 ^ 32) :
    (map.perform op).2.age index = map.age index + map.frees op index := by
  unfold frees at hroom ⊢
  rcases map.perform_cases op with h | ⟨value, h⟩ | ⟨keys, hnodup, hlive, h⟩
  · obtain ⟨hage, hoccupied⟩ := age_of_outline h index
    rw [hage, hoccupied, if_neg (by simp)]
    rfl
  · rw [h, age_insert wf, if_neg]
    · rfl
    · rintro ⟨hheld, hfree⟩
      rw [occupied_insert wf value hheld] at hfree
      cases hfree
  · rw [h] at hroom ⊢
    have hslot := slots_foldl_remove keys map hnodup hlive index
    by_cases hm : index ∈ keys.map Key.index
    · -- the slot has held the value of one of the keys
      obtain ⟨key, hk, rfl⟩ := List.mem_map.mp hm
      obtain ⟨value, hv⟩ := hlive key hk
      rw [get?_eq_some_iff] at hv
      have hheld : map.occupied key.index = true := occupied_iff.mpr ⟨_, _, hv⟩
      rw [hv, Option.map_some, if_pos hm] at hslot
      have hfree : (keys.foldl (fun map key => (map.remove key).2) map).occupied key.index =
          false := by
        simp [occupied, hslot]
      rw [if_pos ⟨hheld, hfree⟩, age_of_slot hv] at hroom ⊢
      -- the generation does not wrap, since there is room for one more
      rw [age_of_slot hslot, UInt32.toNat_add]
      exact Nat.mod_eq_of_lt hroom
    · have hsame : (keys.foldl (fun map key => (map.remove key).2) map).slots[index]? =
          map.slots[index]? := by
        rw [hslot]
        simp only [hm, if_false, Option.map_id']
      have hstill : (keys.foldl (fun map key => (map.remove key).2) map).occupied index =
          map.occupied index := by simp only [occupied, hsame]
      rw [hstill, if_neg (by simp)]
      simp only [age, hsame, Nat.add_zero]

theorem ages_perform (wf : map.WellFormed) (op : Op α β)
    (hroom : ∀ index, map.age index + map.frees op index < 2 ^ 32) :
    map.Ages (map.perform op).2 := by
  intro index slot slot' hs hs'
  have hage := age_perform wf op index (hroom index)
  rw [age_of_slot hs, age_of_slot hs'] at hage
  rw [UInt32.le_iff_toNat_le]
  omega

theorem Issued.perform (hk : map.Issued key) (wf : map.WellFormed) (op : Op α β)
    (hroom : ∀ index, map.age index + map.frees op index < 2 ^ 32) :
    (map.perform op).2.Issued key := by
  have hages := ages_perform wf op hroom
  rcases map.perform_cases op with h | ⟨value, h⟩ | ⟨keys, hnodup, hlive, h⟩
  · exact hk.of_outline h
  · exact h ▸ hk.insert wf value
  · rw [h] at hages ⊢
    exact hk.foldl_remove hnodup hlive hages

/-! ### Counting values -/

/-- The size is the number of slots that hold a value. -/
def Tallied (map : SlotMap α) : Prop := map.size = map.slots.countP fun slot => slot.value.isSome

theorem length_toList (map : SlotMap α) :
    map.toList.length = map.slots.countP fun slot => slot.value.isSome := by
  have hzip : map.slots.toList.zipIdx.countP (fun entry => entry.1.value.isSome) =
      map.slots.toList.countP fun slot => slot.value.isSome := by
    conv_rhs => rw [← List.zipIdx_map_fst 0 map.slots.toList, List.countP_map]
    rfl
  rw [toList, List.length_filterMap_eq_countP, ← Array.countP_toList, ← hzip]
  simp only [Option.isSome_map]

namespace Tallied

theorem empty : ({} : SlotMap α).Tallied := rfl

theorem insert (h : map.Tallied) (wf : map.WellFormed) (value : α) :
    (map.insert value).2.Tallied := by
  unfold Tallied at h ⊢
  cases hf : map.free with
  | nil => simp [SlotMap.insert, hf, h]
  | cons first rest =>
    obtain ⟨generation, hs⟩ := (wf.mem_free first).mp (by simp [hf])
    obtain ⟨hlt, hslot⟩ := Array.getElem?_eq_some_iff.mp hs
    simp [SlotMap.insert, hf, Array.setIfInBounds_def, hlt, Array.countP_set, hslot, h]

theorem set (h : map.Tallied) (key : Key) (value : α) : (map.set key value).Tallied := by
  unfold Tallied at h ⊢
  by_cases hc : map.contains key
  · obtain ⟨old, ho⟩ := contains_iff.mp hc
    obtain ⟨hlt, hslot⟩ := Array.getElem?_eq_some_iff.mp (get?_eq_some_iff.mp ho)
    have hpos : 0 < map.slots.countP fun slot => slot.value.isSome :=
      Array.countP_pos_iff.mpr ⟨_, Array.getElem_mem hlt, by rw [hslot]; rfl⟩
    simp only [SlotMap.set, hc, if_true, Array.setIfInBounds_def, hlt, dif_pos, Array.countP_set,
      hslot, Option.isSome_some, h]
    omega
  · simpa [SlotMap.set, hc] using h

/-- Taking a value out lowers the size by one, which is not zero. -/
theorem size_remove (h : map.Tallied) {value : α} (hv : map.get? key = some value) :
    (map.remove key).2.size + 1 = map.size := by
  obtain ⟨hlt, hslot⟩ := Array.getElem?_eq_some_iff.mp (get?_eq_some_iff.mp hv)
  have hpos : 0 < map.slots.countP fun slot => slot.value.isSome :=
    Array.countP_pos_iff.mpr ⟨_, Array.getElem_mem hlt, by rw [hslot]; rfl⟩
  rw [← show map.size = _ from h] at hpos
  simp only [SlotMap.remove, hv]
  omega

theorem remove (h : map.Tallied) (key : Key) : (map.remove key).2.Tallied := by
  cases hv : map.get? key with
  | none => simpa [SlotMap.remove, hv] using h
  | some value =>
    have hsize := h.size_remove hv
    obtain ⟨hlt, hslot⟩ := Array.getElem?_eq_some_iff.mp (get?_eq_some_iff.mp hv)
    unfold Tallied at h ⊢
    simp only [SlotMap.remove, hv, Array.setIfInBounds_def, hlt, dif_pos, Array.countP_set, hslot,
      Option.isSome_some, Option.isSome_none, if_true, h]
    rfl

theorem foldl_remove (h : map.Tallied) (keys : List Key) :
    (keys.foldl (fun map key => (map.remove key).2) map).Tallied := by
  induction keys generalizing map with
  | nil => exact h
  | cons key rest ih => exact ih (h.remove key)

theorem perform (h : map.Tallied) (wf : map.WellFormed) (op : Op α β) :
    (map.perform op).2.Tallied := by
  cases op with
  | insert value => exact h.insert wf value
  | insertWith make => exact h.insert wf (make map.nextKey).1
  | update key f =>
    cases hv : map.get? key with
    | none => simpa [SlotMap.perform, hv] using h
    | some value => simpa [SlotMap.perform, hv] using h.set key (f value)
  | remove key => exact h.remove key
  | retain keep => exact h.foldl_remove _
  | clear => exact h.foldl_remove _

end Tallied

/-! ### Operations are steps -/

variable {ledger : Ledger α}

/-- A slot map and its ledger go together. -/
structure Follows (map : SlotMap α) (ledger : Ledger α) : Prop where
  wellFormed : map.WellFormed
  tallied : map.Tallied
  get? : ∀ key, map.get? key = ledger.find key
  issued : ∀ key ∈ ledger.issued, map.Issued key

namespace Follows

theorem empty : ({} : SlotMap α).Follows Ledger.empty where
  wellFormed := wellFormed_empty
  tallied := .empty
  get? := get?_empty
  issued _ h := absurd h (Finset.notMem_empty _)

theorem mem_live (h : map.Follows ledger) :
    key ∈ ledger.live ↔ ∃ value, map.get? key = some value := by
  rw [Ledger.mem_live, h.get?]

theorem not_issued (h : map.Follows ledger) : map.nextKey ∉ ledger.issued := fun hm =>
  h.wellFormed.not_issued_nextKey (h.issued _ hm)

theorem get?_insert (h : map.Follows ledger) (value : α) (key : Key) :
    (map.insert value).2.get? key = (ledger.insert map.nextKey value).find key := by
  rw [h.wellFormed.get?_insert, Ledger.find_insert, h.get?]

theorem inserted (h : map.Follows ledger) (value : α) :
    (map.insert value).2.Follows (ledger.insert map.nextKey value) where
  wellFormed := h.wellFormed.insert value
  tallied := h.tallied.insert h.wellFormed value
  get? := h.get?_insert value
  issued key hk := by
    rcases Ledger.mem_issued_insert.mp hk with rfl | hold
    · exact issued_of_get? ((h.wellFormed.get?_insert value map.nextKey).trans (if_pos rfl))
    · exact (h.issued key hold).insert h.wellFormed value

/-- The values that fail a test are as many as there are keys of such values. -/
theorem card_rejected (h : map.Follows ledger) (keep : Key → α → Bool) :
    (map.retain keep).1 = (ledger.rejected keep).card := by
  have hnodup : ((map.toList.filter fun entry => !keep entry.1 entry.2).map Prod.fst).Nodup := by
    refine .of_map Key.index ?_
    rw [List.map_map]
    exact map.nodup_toList.sublist (List.filter_sublist.map _)
  have hkeys : ((map.toList.filter fun entry => !keep entry.1 entry.2).map Prod.fst).toFinset =
      ledger.rejected keep := by
    ext key
    simp only [List.mem_toFinset, List.mem_map, List.mem_filter, Prod.exists, exists_and_right,
      exists_eq_right, SlotMap.mem_toList, Ledger.rejected, Finset.mem_filter, h.mem_live, ← h.get?]
    cases map.get? key <;> simp
  rw [← hkeys, List.toFinset_card_of_nodup hnodup]
  rfl

/-- An operation answers as the ledger permits, and what it leads to goes together again. -/
theorem perform (h : map.Follows ledger) (op : Op α β)
    (hroom : ∀ index, map.age index + map.frees op index < 2 ^ 32) :
    ∃ later, ledger.Step op (map.perform op).1 later ∧ (map.perform op).2.Follows later := by
  -- what puts no value in restricts the ledger
  have hrestricts : ∀ f : Key → α → Option α,
      (∀ key, (map.perform op).2.get? key = (map.get? key).bind (f key)) →
        (map.perform op).2.Follows (ledger.restrict f) := fun f hget =>
    ⟨h.wellFormed.perform op, h.tallied.perform h.wellFormed op,
      fun key => (hget key).trans (congrArg (Option.bind · (f key)) (h.get? key)),
      fun key hk => (h.issued key hk).perform h.wellFormed op hroom⟩
  cases op with
  | insert value =>
    refine ⟨_, ?_, h.inserted value⟩
    rw [show (map.perform (.insert value : Op α β)).1 = .key map.nextKey from congrArg _ insert_fst]
    exact .insert value h.not_issued
  | insertWith make =>
    refine ⟨_, ?_, h.inserted (make map.nextKey).1⟩
    rw [show (map.perform (.insertWith make)).1 = .made map.nextKey (make map.nextKey).2 from
      congrArg (Answer.made · _) insert_fst]
    exact .insertWith make h.not_issued
  | update key f =>
    refine ⟨ledger.update key f, ?_, hrestricts _ fun other => ?_⟩
    · rw [show (map.perform (.update key f : Op α β)).1 = .value (ledger.find key) by
        rw [← h.get?]; cases hv : map.get? key <;> simp [SlotMap.perform, hv]]
      exact .update key f
    · cases hv : map.get? key with
      | none =>
        by_cases he : other = key
        · simp [SlotMap.perform, hv, he]
        · simp [SlotMap.perform, hv, he]
      | some value =>
        simp only [SlotMap.perform, hv, SlotMap.get?_set]
        by_cases he : other = key
        · simp [hv, he]
        · simp [he]
  | remove key =>
    refine ⟨ledger.erase key, ?_, hrestricts _ fun other => ?_⟩
    · rw [show (map.perform (.remove key : Op α β)).1 = .value (ledger.find key) by
        rw [← h.get?]; cases hv : map.get? key <;> simp [SlotMap.perform, SlotMap.remove, hv]]
      exact .remove key
    · refine (get?_remove map key other).trans ?_
      by_cases he : other = key <;> simp [he]
  | retain keep =>
    refine ⟨ledger.retain keep, ?_, hrestricts _ fun other => ?_⟩
    · rw [show (map.perform (.retain keep : Op α β)).1 = .count (ledger.rejected keep).card from
        congrArg Answer.count (h.card_rejected keep)]
      exact .retain keep
    · refine (get?_retain map keep other).trans ?_
      cases map.get? other <;> rfl
  | clear =>
    refine ⟨ledger.clear, .clear, hrestricts _ fun other => ?_⟩
    refine (get?_clear map other).trans ?_
    cases map.get? other <;> rfl

end Follows

/-! ### Runs -/

/-- What a slot map shows is what its ledger has. Its free slots are the vacant ones. -/
structure Represents (map : SlotMap α) (ledger : Ledger α) : Prop where
  get? : ∀ key, map.get? key = ledger.find key
  contains : ∀ key, map.contains key = true ↔ key ∈ ledger.live
  /-- The entries are the live keys with their values, once each and in the order of the slots. -/
  mem_toList : ∀ key value, (key, value) ∈ map.toList ↔ ledger.find key = some value
  toList_ordered : map.toList.Pairwise fun entry other => entry.1.index < other.1.index
  mem_keys : ∀ key, key ∈ map.keys ↔ key ∈ ledger.live
  keys_ordered : map.keys.Pairwise fun key other => key.index < other.index
  size : map.size = ledger.live.card
  isEmpty : map.isEmpty = true ↔ ledger.live = ∅
  /-- The size is not zero when a value is taken out. -/
  size_remove : ∀ key ∈ ledger.live, (map.remove key).2.size + 1 = map.size
  free_nodup : map.free.Nodup
  /-- The slots that wait for reuse are those that exist and are vacant. -/
  mem_free : ∀ index, index ∈ map.free ↔ index < map.slots.size ∧ map.occupied index = false

theorem WellFormed.mem_free_iff (wf : map.WellFormed) (index : Nat) :
    index ∈ map.free ↔ index < map.slots.size ∧ map.occupied index = false := by
  rw [wf.mem_free]
  constructor
  · rintro ⟨generation, hs⟩
    exact ⟨(Array.getElem?_eq_some_iff.mp hs).1, by simp [occupied, hs]⟩
  · rintro ⟨hlt, hfree⟩
    refine ⟨map.slots[index].generation, ?_⟩
    rw [Array.getElem?_eq_getElem hlt]
    simp only [occupied, Array.getElem?_eq_getElem hlt, Option.bind_some,
      Option.isSome_eq_false_iff, Option.isNone_iff_eq_none] at hfree
    rw [← hfree]

theorem ordered_keys (map : SlotMap α) :
    map.keys.Pairwise fun key other => key.index < other.index :=
  List.pairwise_map.mpr map.ordered_toList

theorem Follows.represents (h : map.Follows ledger) : map.Represents ledger := by
  have hlive : ∀ key, key ∈ map.keys ↔ key ∈ ledger.live := fun key =>
    SlotMap.mem_keys.trans h.mem_live.symm
  have hsize : map.size = ledger.live.card := by
    have hnodup : map.keys.Nodup := by
      refine .of_map Key.index ?_
      rw [keys, List.map_map]
      exact map.nodup_toList
    have hkeys : map.keys.toFinset = ledger.live := by
      ext key
      rw [List.mem_toFinset, hlive]
    rw [← hkeys, List.toFinset_card_of_nodup hnodup, keys, List.length_map, length_toList]
    exact h.tallied
  exact {
    get? := h.get?
    contains := fun key => contains_iff.trans h.mem_live.symm
    mem_toList := fun key value => by rw [SlotMap.mem_toList, h.get?]
    toList_ordered := map.ordered_toList
    mem_keys := hlive
    keys_ordered := map.ordered_keys
    size := hsize
    isEmpty := by rw [isEmpty, beq_iff_eq, hsize, Finset.card_eq_zero]
    size_remove := fun key hk => by
      obtain ⟨value, hv⟩ := h.mem_live.mp hk
      exact h.tallied.size_remove hv
    free_nodup := h.wellFormed.nodup
    mem_free := h.wellFormed.mem_free_iff }

/-- Operations answer as the ledger permits. By induction on the operations: what a slot has been
freed so far shows in its generation, and what is still to come leaves room for one more. -/
theorem Follows.performAll (h : map.Follows ledger) (ops : List (Op α β))
    (hroom : ∀ index, map.age index + map.freed ops index < 2 ^ 32) :
    ∃ later, ledger.Run ops (map.performAll ops).1 later ∧
    (map.performAll ops).2.Follows later := by
  induction ops generalizing map ledger with
  | nil => exact ⟨ledger, .nil ledger, h⟩
  | cons op ops ih =>
    have hnow : ∀ index, map.age index + map.frees op index < 2 ^ 32 := fun index => by
      have hall := hroom index
      simp only [freed] at hall
      omega
    obtain ⟨between, hstep, hbetween⟩ := h.perform op hnow
    obtain ⟨later, hrun, hlater⟩ := ih hbetween fun index => by
      have hall := hroom index
      rw [age_perform h.wellFormed op index (hnow index)]
      simp only [freed] at hall
      omega
    exact ⟨later, .cons hstep hrun, hlater⟩

/-- The generation of a slot counts how often it has been freed. By induction on the operations. -/
theorem age_performAll (wf : map.WellFormed) (ops : List (Op α β)) (index : Nat)
    (hroom : map.age index + map.freed ops index < 2 ^ 32) :
    (map.performAll ops).2.age index = map.age index + map.freed ops index := by
  induction ops generalizing map with
  | nil => rfl
  | cons op ops ih =>
    simp only [freed] at hroom ⊢
    have hage := age_perform wf op index (by omega)
    refine (ih (wf.perform op) ?_).trans ?_ <;> omega

theorem performAll_append (map : SlotMap α) (ops more : List (Op α β)) :
    map.performAll (ops ++ more) =
      ((map.performAll ops).1 ++ ((map.performAll ops).2.performAll more).1,
        ((map.performAll ops).2.performAll more).2) := by
  induction ops generalizing map with
  | nil => rfl
  | cons op ops ih => simp only [List.cons_append, performAll, ih]

theorem freed_append (map : SlotMap α) (ops more : List (Op α β)) (index : Nat) :
    map.freed (ops ++ more) index =
      map.freed ops index + (map.performAll ops).2.freed more index := by
  induction ops generalizing map with
  | nil => simp [freed, performAll]
  | cons op ops ih => simp only [List.cons_append, freed, performAll, ih, Nat.add_assoc]

/-- An operation frees a slot once at most. -/
theorem freed_le_length (map : SlotMap α) (ops : List (Op α β)) (index : Nat) :
    map.freed ops index ≤ ops.length := by
  induction ops generalizing map with
  | nil => exact Nat.le_refl 0
  | cons op ops ih =>
    have hop : map.frees op index ≤ 1 := by
      unfold frees
      split <;> omega
    have hrest := ih (map.perform op).2
    simp only [freed, List.length_cons]
    omega

/-- As long as no slot is freed 2 ^ 32 times, a slot map does what a finite map does: in every state
that operations lead to it shows what the map has, it answers as the map does, and the keys that it
hands out are new. A key that has been handed out and finds nothing any more finds nothing for
ever. -/
theorem refines_ledger (ops : List (Op α β))
    (hfreed : ∀ index, ({} : SlotMap α).freed ops index < 2 ^ 32) :
    ∃ ledger, Ledger.empty.Run ops (({} : SlotMap α).performAll ops).1 ledger ∧
      (({} : SlotMap α).performAll ops).2.Represents ledger ∧
      ∀ earlier later, ops = earlier ++ later →
        (∃ between, Ledger.empty.Run earlier (({} : SlotMap α).performAll earlier).1 between ∧
          (({} : SlotMap α).performAll earlier).2.Represents between) ∧
        ∀ key, (∃ answer ∈ (({} : SlotMap α).performAll earlier).1, answer.issues = some key) →
          (({} : SlotMap α).performAll earlier).2.get? key = none →
            (({} : SlotMap α).performAll ops).2.get? key = none := by
  have hempty : ∀ index, ({} : SlotMap α).age index = 0 := fun _ => rfl
  obtain ⟨ledger, hrun, hfollows⟩ := Follows.empty.performAll ops fun index => by
    rw [hempty, Nat.zero_add]
    exact hfreed index
  refine ⟨ledger, hrun, hfollows.represents, fun earlier later he => ?_⟩
  subst he
  have hroom : ∀ index, ({} : SlotMap α).freed earlier index +
      (({} : SlotMap α).performAll earlier).2.freed later index < 2 ^ 32 := fun index =>
    freed_append _ earlier later index ▸ hfreed index
  obtain ⟨between, hbefore, hbetween⟩ := Follows.empty.performAll earlier fun index => by
    have hall := hroom index
    rw [hempty]
    omega
  refine ⟨⟨between, hbefore, hbetween.represents⟩, fun key ⟨answer, hm, ha⟩ hnone => ?_⟩
  -- The later operations are a run of their own, from what the earlier ones have led to.
  obtain ⟨last, hafter, hlast⟩ := hbetween.performAll later fun index => by
    have hall := hroom index
    rw [age_performAll wellFormed_empty earlier index (by rw [hempty]; omega), hempty, Nat.zero_add]
    exact hall
  rw [performAll_append, hlast.get?]
  exact hafter.find_eq_none (hbefore.issued_of_answer hm ha) ((hbetween.get? key).symm.trans hnone)

/-- Two values go in, the first comes out and a third takes its slot over; then one value is
changed, the values below 20 go, and everything goes. -/
def reusing : List (Op Nat Unit) :=
  [.insert 10, .insert 20, .remove ⟨0, 0⟩, .insert 5, .update ⟨1, 0⟩ (· + 1),
    .retain fun _ value => 20 ≤ value, .clear]

/-- The slot that is taken over is handed out under a new key. -/
theorem refines_ledger_reusing :
    (({} : SlotMap Nat).performAll reusing).1 = [.key ⟨0, 0⟩, .key ⟨1, 0⟩, .value (some 10),
        .key ⟨0, 1⟩, .value (some 20), .count 1, .done] ∧
      ∃ ledger, Ledger.empty.Run reusing (({} : SlotMap Nat).performAll reusing).1 ledger ∧
        (({} : SlotMap Nat).performAll reusing).2.Represents ledger ∧
        ∀ earlier later, reusing = earlier ++ later →
          (∃ between, Ledger.empty.Run earlier (({} : SlotMap Nat).performAll earlier).1 between ∧
            (({} : SlotMap Nat).performAll earlier).2.Represents between) ∧
          ∀ key, (∃ answer ∈ (({} : SlotMap Nat).performAll earlier).1, answer.issues = some key) →
            (({} : SlotMap Nat).performAll earlier).2.get? key = none →
              (({} : SlotMap Nat).performAll reusing).2.get? key = none :=
  ⟨by rfl, refines_ledger reusing fun index =>
    (freed_le_length _ _ index).trans_lt (by decide)⟩

end SlotMap

end EdgeStreams
