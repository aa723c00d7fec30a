import EdgeStreams.Proofs.Registry.Lookup
import Mathlib.Algebra.Group.Int.Defs
import Mathlib.Algebra.Group.Nat.Defs

/-!
# How much room a mark leaves

A high-water mark is a word without a sign, but it is read as one with a sign before the queue is
subtracted. Below 2 ^ 63 that makes no difference: there is room as long as less is queued than the
mark says, and a higher mark holds back less. A mark from 2 ^ 63 on is negative and leaves no room
even over an empty queue, until so much is queued that the difference leaves the words with a sign
and comes round.

## Main statements

- `ReadableController.desiredSize_pos_iff`: when a source may add more
- `Source.wantsPull_of_negative`: a mark 2 ^ 63 above the queue pulls for nobody but a reader who
  waits
- `Registry.backpressure_eq_true_iff`: when the writes to a transform stream should wait
- `Registry.backpressure_of_higher`: a higher mark below 2 ^ 63 lets through whatever a lower one
  does
- `Registry.backpressure_of_negative`: a mark 2 ^ 63 above the queue lets nothing through but what
  is asked for
-/

namespace EdgeStreams

variable {E : Type} {mark : UInt64}

theorem room_of_lt (h : mark.toNat < 2 ^ 63) (queued : Nat) :
    room mark queued = mark.toNat - queued := by
  have hsign : mark.toBitVec.toInt = mark.toNat := by
    rw [BitVec.toInt_eq_toNat_of_lt, UInt64.toNat_toBitVec]
    rw [UInt64.toNat_toBitVec]
    omega
  have hnonneg : ¬ mark.toInt64 < 0 := by
    rw [Int64.lt_iff_toInt_lt]
    change ¬ mark.toBitVec.toInt < 0
    omega
  rw [room, if_neg fun hover => hnonneg hover.1]
  change mark.toBitVec.toInt - (queued : Int) = _
  rw [hsign]

/-- A mark from 2 ^ 63 on counts as negative, and comes round to a positive number if more is queued
than it exceeds 2 ^ 63 by. -/
theorem room_of_le (h : 2 ^ 63 ≤ mark.toNat) (queued : Nat) :
    room mark queued =
      if mark.toNat < queued + 2 ^ 63 then (mark.toNat : Int) - queued
      else mark.toNat - 2 ^ 64 - queued := by
  have hsign : mark.toBitVec.toInt = mark.toNat - 2 ^ 64 := by
    rw [BitVec.toInt_eq_toNat_cond, UInt64.toNat_toBitVec, if_neg (by omega)]
    rfl
  have hword := mark.toNat_lt
  have hneg : mark.toInt64 < 0 := by
    rw [Int64.lt_iff_toInt_lt]
    change mark.toBitVec.toInt < 0
    omega
  have hroom : room mark queued =
      if mark.toBitVec.toInt - (queued : Int) < -2 ^ 63
        then mark.toBitVec.toInt - (queued : Int) + 2 ^ 64
      else mark.toBitVec.toInt - (queued : Int) := by
    simp only [room, hneg, true_and, Int64.toInt_minValue]
    rfl
  rw [hroom, hsign]
  split <;> split <;> omega

/-- There is room over a queue exactly if it holds less than the mark, by less than 2 ^ 63. -/
theorem room_pos_iff (mark : UInt64) (queued : Nat) :
    0 < room mark queued ↔ queued < mark.toNat ∧ mark.toNat < queued + 2 ^ 63 := by
  have hword := mark.toNat_lt
  by_cases h : mark.toNat < 2 ^ 63
  · rw [room_of_lt h]
    omega
  · rw [room_of_le (by omega)]
    split <;> omega

namespace ReadableController

variable {controller : ReadableController}

/-- A source may add more exactly if its stream has neither ended nor failed and holds less than the
mark says, by less than 2 ^ 63. -/
theorem desiredSize_pos_iff :
    0 < controller.desiredSize.getD 0 ↔ controller.state = .readable ∧
      controller.queuedBytes < controller.highWaterMark.toNat ∧
        controller.highWaterMark.toNat < controller.queuedBytes + 2 ^ 63 := by
  cases hstate : controller.state with
  | readable => simp [desiredSize, hstate, room_pos_iff]
  | closed | errored => simp [desiredSize, hstate]

/-- A mark that exceeds what is queued by 2 ^ 63 or more counts as negative and leaves no room. -/
theorem not_desiredSize_pos_of_negative
    (h : controller.queuedBytes + 2 ^ 63 ≤ controller.highWaterMark.toNat) :
    ¬ 0 < controller.desiredSize.getD 0 := fun hpos =>
  absurd (desiredSize_pos_iff.mp hpos).2.2 (by omega)

end ReadableController

/-- Nobody but a reader who waits makes a stream pull whose mark counts as negative. -/
theorem Source.wantsPull_of_negative {source : Source E}
    (h : source.controller.queuedBytes + 2 ^ 63 ≤ source.controller.highWaterMark.toNat) :
    source.wantsPull false = false := by
  simp [wantsPull, ReadableController.not_desiredSize_pos_of_negative h]

namespace Registry

variable {streams : Registry E} {id : BridgeId} {bridge : Bridge E} {source : Source E}

/-- Writes to a transform stream should wait unless its readable half has been asked for a chunk,
has failed, or may hold more. -/
theorem backpressure_eq_true_iff (hb : streams.bridge? id = some bridge)
    (hs : streams.source? bridge.readable = some source) :
    streams.backpressure id = true ↔ bridge.pullRequested = false ∧
      (∀ error, source.controller.state ≠ .errored error) ∧
        ¬ 0 < source.controller.desiredSize.getD 0 := by
  cases hstate : source.controller.state <;>
    simp [backpressure, hb, hs, ReadableController.desiredSize, hstate]

/-- A higher mark, below 2 ^ 63, turns no backpressure on over the same queue. -/
theorem backpressure_of_higher (hb : streams.bridge? id = some bridge)
    (hs : streams.source? bridge.readable = some source)
    (hle : source.controller.highWaterMark.toNat ≤ mark.toNat) (hmark : mark.toNat < 2 ^ 63)
    (h : (streams.setSource bridge.readable { source with
      controller := { source.controller with highWaterMark := mark } }).backpressure id = true) :
    streams.backpressure id = true := by
  have hbridge : (streams.setSource bridge.readable { source with
      controller := { source.controller with highWaterMark := mark } }).bridge? id =
        some bridge := hb
  have hsource : (streams.setSource bridge.readable { source with
      controller := { source.controller with highWaterMark := mark } }).source? bridge.readable =
        some { source with controller := { source.controller with highWaterMark := mark } } := by
    simp [source?_setSource, hs]
  obtain ⟨hasked, hfine, hfull⟩ := (backpressure_eq_true_iff hbridge hsource).mp h
  refine (backpressure_eq_true_iff hb hs).mpr ⟨hasked, hfine, fun hpos => hfull ?_⟩
  obtain ⟨hstate, hroom, -⟩ := ReadableController.desiredSize_pos_iff.mp hpos
  exact ReadableController.desiredSize_pos_iff.mpr
    ⟨hstate, Nat.lt_of_lt_of_le hroom hle, Nat.lt_add_left _ hmark⟩

/-- A transform stream whose mark exceeds what is queued by 2 ^ 63 or more lets nothing through but
what its readable half has been asked for, even if that is empty. -/
theorem backpressure_of_negative (hb : streams.bridge? id = some bridge)
    (hs : streams.source? bridge.readable = some source)
    (hmark : source.controller.queuedBytes + 2 ^ 63 ≤ source.controller.highWaterMark.toNat)
    (hfine : ∀ error, source.controller.state ≠ .errored error) :
    streams.backpressure id = !bridge.pullRequested := by
  have hiff := backpressure_eq_true_iff hb hs
  have hfull := ReadableController.not_desiredSize_pos_of_negative hmark
  rw [Bool.eq_iff_iff, hiff, Bool.not_eq_true']
  exact ⟨And.left, fun hasked => ⟨hasked, hfine, hfull⟩⟩

end Registry

end EdgeStreams
