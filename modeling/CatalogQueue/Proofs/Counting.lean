import Mathlib
import CatalogQueue.Proofs.Decision

/-!
What admission has counted: the totals of the persistent counter and the open scope, which
opening and closing a scope leave alone and counting a video moves by one, in 32 bits.
-/

namespace CatalogQueue

namespace Span

theorem satAdd_zero (a : Span) : a.satAdd zero = a := by
  apply ext_toNanos
  simp only [toNanos_satAdd, toNanos_zero, Nat.add_zero]
  exact Nat.min_eq_left a.le_max

theorem zero_satAdd (a : Span) : zero.satAdd a = a := by
  apply ext_toNanos
  simp only [toNanos_satAdd, toNanos_zero, Nat.zero_add]
  exact Nat.min_eq_left a.le_max

theorem le_iff (a b : Span) : a ≤ b ↔ a.toNanos ≤ b.toNanos := Iff.rfl

theorem lt_iff (a b : Span) : a < b ↔ a.toNanos < b.toNanos := Iff.rfl

/-- Saturating addition does not depend on the grouping: both sides are the exact sum cut at
the longest span. -/
theorem satAdd_assoc (a b c : Span) : (a.satAdd b).satAdd c = a.satAdd (b.satAdd c) := by
  apply ext_toNanos
  simp only [toNanos_satAdd]
  omega

end Span

def addRuntime (d : Span) (m : MediaInfo) : Span := d.satAdd m.runtime

/-- Runtimes added onto a span are the span plus their own sum: the saturating sum does not
depend on where it starts. -/
theorem foldl_addRuntime (a : Span) (ms : List MediaInfo) :
    ms.foldl addRuntime a = a.satAdd (ms.foldl addRuntime .zero) := by
  induction ms generalizing a with
  | nil => exact (Span.satAdd_zero a).symm
  | cons m ms ih =>
    simp only [List.foldl_cons]
    rw [ih, ih (addRuntime .zero m), addRuntime, addRuntime, Span.zero_satAdd, Span.satAdd_assoc]

def Event.counted? : Event → Option MediaInfo
  | .count m => some m
  | .record m (.ok ()) => some m
  | _ => none

namespace Admission

/-- The count of the videos counted so far, as the counters keep it: the persistent count and
the open scope's, added in 32 bits as the fold-back adds them. -/
def totalCount (a : Admission) : UInt32 :=
  a.persistent.queuedCount + (a.temporary.map (·.queuedCount)).getD 0

def countSum (a : Admission) : Nat :=
  a.persistent.queuedCount.toNat + (a.temporary.map (·.queuedCount.toNat)).getD 0

/-- The runtime counted so far: the persistent total and the open scope's, added as the
fold-back adds them. -/
def totalDuration (a : Admission) : Span :=
  match a.temporary with
  | some t => a.persistent.queuedDuration.satAdd t.queuedDuration
  | none => a.persistent.queuedDuration

variable (a : Admission) (m : MediaInfo)

@[simp] theorem records_count : (a.count m).records = a.records := by
  unfold count modifyActive
  split <;> rfl

@[simp] theorem hasScope_count : (a.count m).hasScope = a.hasScope := by
  cases h : a.temporary <;> simp [count, modifyActive, hasScope, h]

theorem totalCount_count : (a.count m).totalCount = a.totalCount + 1 := by
  -- the count goes to the open scope's counter, or to the persistent one
  cases h : a.temporary with
  | none => simp [count, modifyActive, h, totalCount, Counter.add]
  | some t => simp [count, modifyActive, h, totalCount, Counter.add, UInt32.add_assoc]

/-- Counting adds at most one to the counts as numbers: exactly one, unless the count wraps. -/
theorem countSum_count : (a.count m).countSum ≤ a.countSum + 1 := by
  have hwrap : ∀ x : UInt32, (x + 1).toNat ≤ x.toNat + 1 := fun x => by
    rw [UInt32.toNat_add, UInt32.toNat_one]
    omega
  cases h : a.temporary with
  | none => simpa [count, modifyActive, h, countSum, Counter.add] using hwrap a.persistent.queuedCount
  | some t =>
    have := hwrap t.queuedCount
    simp only [count, modifyActive, h, countSum, Counter.add, Option.map_some, Option.getD_some]
    omega

/-- The counters' count is the counts as numbers, wrapped to 32 bits. -/
theorem toNat_totalCount : a.totalCount.toNat = a.countSum % 2 ^ 32 := by
  cases h : a.temporary <;> simp [totalCount, countSum, h, UInt32.toNat_add]

theorem totalDuration_count : (a.count m).totalDuration = addRuntime a.totalDuration m := by
  cases h : a.temporary <;>
    simp [count, modifyActive, h, totalDuration, Counter.add, addRuntime, Span.satAdd_assoc]

theorem record_ok {a' : Admission} (h : a.record m = .ok a') :
    ∃ records, a.records.add m = .ok records ∧ a' = { a with records }.count m := by
  unfold record at h
  cases hadd : a.records.add m with
  | error e =>
    rw [hadd] at h
    cases h
  | ok records =>
    simp only [hadd] at h
    exact ⟨records, rfl, (Except.ok.inj h).symm⟩

theorem totalCount_record {a' : Admission} (h : a.record m = .ok a') :
    a'.totalCount = a.totalCount + 1 := by
  obtain ⟨records, -, rfl⟩ := record_ok a m h
  exact totalCount_count _ m

theorem countSum_record {a' : Admission} (h : a.record m = .ok a') :
    a'.countSum ≤ a.countSum + 1 := by
  obtain ⟨records, -, rfl⟩ := record_ok a m h
  exact countSum_count _ m

theorem totalDuration_record {a' : Admission} (h : a.record m = .ok a') :
    a'.totalDuration = addRuntime a.totalDuration m := by
  obtain ⟨records, -, rfl⟩ := record_ok a m h
  exact totalDuration_count _ m

theorem hasScope_record {a' : Admission} (h : a.record m = .ok a') :
    a'.hasScope = a.hasScope := by
  obtain ⟨records, -, rfl⟩ := record_ok a m h
  exact hasScope_count _ m

variable (countLimit : Nat) (durationLimit : Span) (g : ScopeGuard)

/-- Entering limits moves no count: a new scope starts empty, a re-entered one keeps its
counts. -/
theorem totalCount_enterScope :
    (a.enterScope countLimit durationLimit).1.totalCount = a.totalCount := by
  unfold enterScope
  split
  · rfl
  · split <;> simp_all [totalCount]

theorem countSum_enterScope :
    (a.enterScope countLimit durationLimit).1.countSum = a.countSum := by
  unfold enterScope
  split
  · rfl
  · split <;> simp_all [countSum]

theorem totalDuration_enterScope :
    (a.enterScope countLimit durationLimit).1.totalDuration = a.totalDuration := by
  unfold enterScope
  split
  · rfl
  · split <;> simp_all [totalDuration, Span.satAdd_zero]

/-- Letting a guard go moves the scope's counts into the persistent counter, if the guard
closes the scope, and so keeps the totals. -/
theorem totalCount_release : (a.release g).totalCount = a.totalCount := by
  unfold release closeScope
  split
  · split <;> simp_all [totalCount, Counter.absorb]
  · rfl

/-- Folding a scope back adds its count to the persistent one in 32 bits: as numbers the counts
can only shrink, when the sum wraps. -/
theorem countSum_release : (a.release g).countSum ≤ a.countSum := by
  unfold release closeScope
  split
  · split
    · rename_i t ht
      simp only [countSum, Counter.absorb, ht, Option.map_none, Option.getD_none, Option.map_some,
        Option.getD_some, UInt32.toNat_add, Nat.add_zero]
      omega
    · exact Nat.le_refl _
  · exact Nat.le_refl _

theorem totalDuration_release : (a.release g).totalDuration = a.totalDuration := by
  unfold release closeScope
  split
  · split <;> simp_all [totalDuration, Counter.absorb]
  · rfl

/-- The guard of a scope closes what entering opened: if the step in between left a scope open
exactly when entering did, letting the guard go leaves one open exactly when one was before. -/
theorem hasScope_release_enterScope {b : Admission}
    (hb : b.hasScope = (a.enterScope countLimit durationLimit).1.hasScope) :
    (b.release (a.enterScope countLimit durationLimit).2).hasScope = a.hasScope := by
  unfold enterScope at hb ⊢
  by_cases hz : countLimit = 0 ∧ durationLimit.isZero = true
  · -- no limits: nothing was opened and the guard closes nothing
    rw [if_pos hz] at hb ⊢
    simpa [release] using hb
  · rw [if_neg hz] at hb ⊢
    cases h : a.temporary with
    | some t =>
      -- an open scope gets the new limits; its guard does not close it
      simp only [h] at hb ⊢
      simpa [hasScope, release, h] using hb
    | none =>
      -- the guard that opened the scope closes it
      cases hc : b.temporary <;> simp [release, closeScope, hasScope, hc, h]

@[simp] theorem records_enterScope :
    (a.enterScope countLimit durationLimit).1.records = a.records := by
  unfold enterScope
  split
  · rfl
  · split <;> rfl

@[simp] theorem records_release : (a.release g).records = a.records := by
  unfold release closeScope
  split
  · split <;> rfl
  · rfl

end Admission

end CatalogQueue
