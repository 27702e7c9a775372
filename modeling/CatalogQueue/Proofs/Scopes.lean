import Mathlib
import CatalogQueue.Proofs.Isolation

/-!
Admission under any sequence of calls, with guards let go in any order (`Admission.Session`).
The invariant `Session.Consistent` ties the scope to the one live guard that opened it and the
totals to the videos counted so far; the count is kept in 32 bits, so the two counts, added as
numbers, are the number of videos counted only until that number reaches `2 ^ 32`.
-/

namespace CatalogQueue

theorem List.countP_eraseIdx_add {α : Type} (p : α → Bool) {l : List α} {i : Nat} {x : α}
    (h : l[i]? = some x) :
    (l.eraseIdx i).countP p + (if p x then 1 else 0) = l.countP p := by
  obtain ⟨hi, rfl⟩ := List.getElem?_eq_some_iff.1 h
  conv => rhs; rw [← List.take_append_drop i l, List.drop_eq_getElem_cons hi]
  rw [List.eraseIdx_eq_take_drop_succ, List.countP_append, List.countP_append, List.countP_cons]
  omega

theorem toNanos_foldl_addRuntime (a : Span) (ms : List MediaInfo) :
    (ms.foldl addRuntime a).toNanos =
      min (a.toNanos + (ms.map fun m => m.runtime.toNanos).sum) maxSpanNanos := by
  induction ms generalizing a with
  | nil => simp [Nat.min_eq_left a.le_max]
  | cons m ms ih =>
    rw [List.foldl_cons, ih, addRuntime, Span.toNanos_satAdd, List.map_cons, List.sum_cons]
    omega

namespace Admission

variable (a : Admission) (countLimit : Nat) (durationLimit : Span)

/-! ### Guards -/

theorem hasScope_enterScope :
    (a.enterScope countLimit durationLimit).1.hasScope =
      (a.hasScope || (a.enterScope countLimit durationLimit).2.opened) := by
  unfold enterScope
  split
  · simp
  · cases h : a.temporary <;> simp [hasScope, h]

/-- A guard that opens a scope is handed out only while no scope is open. -/
theorem not_hasScope_of_opened (h : (a.enterScope countLimit durationLimit).2.opened = true) :
    a.hasScope = false := by
  unfold enterScope at h
  split at h
  · cases h
  · cases ht : a.temporary with
    | none => simp [hasScope, ht]
    | some t => simp [ht] at h

theorem hasScope_release_of_opened {g : ScopeGuard} (h : g.opened = true) :
    (a.release g).hasScope = false := by
  cases ht : a.temporary <;> simp [release, closeScope, h, ht, hasScope]

theorem release_of_not_opened {g : ScopeGuard} (h : g.opened = false) : a.release g = a := by
  simp [release, h]

/-! ### Sessions -/

/-- A call of a client of admission. `release i` lets go of the `i`-th guard the client holds,
oldest first; it does nothing when the client holds fewer guards. -/
inductive Call where
  | setCountLimit (n : Nat)
  | setDurationLimit (d : Span)
  | check (m : MediaInfo)
  | count (m : MediaInfo)
  | record (m : MediaInfo)
  | enterScope (countLimit : Nat) (durationLimit : Span)
  | release (i : Nat)

/-- A client of admission: the state, the guards it holds, oldest first, and the events of its
calls, oldest first. -/
structure Session where
  admission : Admission
  guards : List ScopeGuard := []
  events : List Event := []

namespace Session

def start (records : RecordList) : Session := { admission := ofRecords records }

def step (s : Session) : Call → Session
  | .setCountLimit n => { s with admission := s.admission.setCountLimit n }
  | .setDurationLimit d => { s with admission := s.admission.setDurationLimit d }
  | .check m => { s with events := s.events ++ [.check m (s.admission.check m)] }
  | .count m => { s with admission := s.admission.count m, events := s.events ++ [.count m] }
  | .record m =>
    match s.admission.record m with
    | .ok a => { s with admission := a, events := s.events ++ [.record m (.ok ())] }
    | .error e => { s with events := s.events ++ [.record m (.error e)] }
  | .enterScope countLimit durationLimit =>
    { s with admission := (s.admission.enterScope countLimit durationLimit).1,
             guards := s.guards ++ [(s.admission.enterScope countLimit durationLimit).2],
             events := s.events ++ [.enterLimits countLimit durationLimit] }
  | .release i =>
    match s.guards[i]? with
    | some g => { s with admission := s.admission.release g, guards := s.guards.eraseIdx i,
                         events := s.events ++ [.releaseLimits g] }
    | none => s

def run (s : Session) (calls : List Call) : Session := calls.foldl step s

def counted (s : Session) : List MediaInfo := s.events.filterMap Event.counted?

def openers (s : Session) : Nat := s.guards.countP (·.opened)

/-- What every session from a fresh state keeps: one live guard opened the scope exactly when
one is open, and the totals are what the calls counted. -/
structure Consistent (s : Session) : Prop where
  openers : s.openers = if s.admission.hasScope then 1 else 0
  count : s.admission.totalCount = UInt32.ofNat s.counted.length
  countSum : s.admission.countSum ≤ s.counted.length
  duration : s.admission.totalDuration = s.counted.foldl addRuntime .zero

theorem consistent_start (records : RecordList) : (start records).Consistent :=
  ⟨rfl, rfl, Nat.le_refl 0, rfl⟩

namespace Consistent

variable {s t : Session}

/-- A call keeps the totals consistent when admission counted exactly the videos its events
count. -/
theorem of_counted (h : s.Consistent) {new : List MediaInfo}
    (hcounted : t.counted = s.counted ++ new) (htotals : s.admission.Counted new t.admission)
    (hopeners : t.openers = if t.admission.hasScope then 1 else 0) : t.Consistent where
  openers := hopeners
  count := by rw [htotals.count, h.count, hcounted, List.length_append, UInt32.ofNat_add]
  countSum := by
    have := htotals.countSum
    have := h.countSum
    rw [hcounted, List.length_append]
    omega
  duration := by rw [htotals.duration, h.duration, hcounted, List.foldl_append]

/-- A call that only adds events counting nothing, and leaves the totals, the scope and the
guards alone. -/
theorem of_uncounted (h : s.Consistent) (es : List Event) (hes : es.filterMap Event.counted? = [])
    (hcount : t.admission.totalCount = s.admission.totalCount)
    (hsum : t.admission.countSum ≤ s.admission.countSum)
    (hduration : t.admission.totalDuration = s.admission.totalDuration)
    (hscope : t.admission.hasScope = s.admission.hasScope) (hguards : t.guards = s.guards)
    (hevents : t.events = s.events ++ es) : t.Consistent := by
  have hcounted : t.counted = s.counted ++ [] := by
    rw [counted, hevents, List.filterMap_append, hes]
    rfl
  refine h.of_counted hcounted (Admission.Counted.of_totals hcount hsum hduration) ?_
  rw [Session.openers, hguards, hscope]
  exact h.openers

theorem of_single (h : s.Consistent) {m : MediaInfo} {a' : Admission}
    (hcount : a'.totalCount = s.admission.totalCount + 1)
    (hsum : a'.countSum ≤ s.admission.countSum + 1)
    (hduration : a'.totalDuration = addRuntime s.admission.totalDuration m)
    (hscope : a'.hasScope = s.admission.hasScope) (e : Event) (he : e.counted? = some m) :
    ({ s with admission := a', events := s.events ++ [e] } : Session).Consistent := by
  refine h.of_counted (by simp [counted, he])
    (Admission.Counted.single hcount hsum hduration) ?_
  rw [hscope]
  exact h.openers

/-- Entering limits: a guard that opens the scope joins the live guards exactly when the scope
opens. -/
theorem enterScope (h : s.Consistent) (countLimit : Nat) (durationLimit : Span) :
    (s.step (.enterScope countLimit durationLimit)).Consistent := by
  refine h.of_counted (by simp [step, counted, Event.counted?])
    (Admission.Counted.of_totals (totalCount_enterScope _ _ _)
      (Nat.le_of_eq (countSum_enterScope _ _ _)) (totalDuration_enterScope _ _ _)) ?_
  have hopeners := h.openers
  have hopened := not_hasScope_of_opened s.admission countLimit durationLimit
  simp only [step, Session.openers, List.countP_append, List.countP_singleton,
    hasScope_enterScope] at hopeners ⊢
  cases hg : (s.admission.enterScope countLimit durationLimit).2.opened <;>
    cases hs : s.admission.hasScope <;> simp_all

theorem release (h : s.Consistent) (i : Nat) : (s.step (.release i)).Consistent := by
  cases hi : s.guards[i]? with
  | none =>
    have hstep : s.step (.release i) = s := by simp [step, hi]
    rw [hstep]
    exact h
  | some g =>
    have hstep : s.step (.release i) =
        ⟨s.admission.release g, s.guards.eraseIdx i, s.events ++ [.releaseLimits g]⟩ := by
      simp [step, hi]
    have herase := List.countP_eraseIdx_add (·.opened) hi
    rw [hstep]
    refine h.of_counted (by simp [counted, Event.counted?])
      (Admission.Counted.of_totals (totalCount_release _ _) (countSum_release _ _)
        (totalDuration_release _ _)) ?_
    have hopeners := h.openers
    simp only [Session.openers] at hopeners herase ⊢
    cases hg : g.opened with
    | true =>
      -- the guard was the one live opener, so the scope was open; now it is closed
      rw [hasScope_release_of_opened _ hg]
      cases hs : s.admission.hasScope <;> simp_all
    | false =>
      rw [release_of_not_opened _ hg]
      simp_all

theorem step (h : s.Consistent) : ∀ c, (s.step c).Consistent
  | .setCountLimit _ =>
    h.of_uncounted [] rfl rfl (Nat.le_refl _) rfl rfl rfl (List.append_nil _).symm
  | .setDurationLimit _ =>
    h.of_uncounted [] rfl rfl (Nat.le_refl _) rfl rfl rfl (List.append_nil _).symm
  | .check _ => h.of_uncounted _ rfl rfl (Nat.le_refl _) rfl rfl rfl rfl
  | .count m =>
    h.of_single (totalCount_count _ m) (countSum_count _ m) (totalDuration_count _ m)
      (hasScope_count _ m) _ rfl
  | .record m => by
    cases hrec : s.admission.record m with
    | ok a' =>
      have hstep : s.step (.record m) =
          { s with admission := a', events := s.events ++ [.record m (.ok ())] } := by
        simp [Session.step, hrec]
      rw [hstep]
      exact h.of_single (totalCount_record _ _ hrec) (countSum_record _ _ hrec)
        (totalDuration_record _ _ hrec) (hasScope_record _ _ hrec) _ rfl
    | error e =>
      have hstep : s.step (.record m) = { s with events := s.events ++ [.record m (.error e)] } := by
        simp [Session.step, hrec]
      rw [hstep]
      exact h.of_uncounted [.record m (.error e)] rfl rfl (Nat.le_refl _) rfl rfl rfl rfl
  | .enterScope countLimit durationLimit => h.enterScope countLimit durationLimit
  | .release i => h.release i

theorem run (h : s.Consistent) (calls : List Call) : (s.run calls).Consistent := by
  induction calls generalizing s with
  | nil => exact h
  | cons c calls ih => exact ih (h.step c)

end Consistent

theorem release_admission_of_not_opened (s : Session) {i : Nat} {g : ScopeGuard}
    (hi : s.guards[i]? = some g) (hg : g.opened = false) :
    (s.step (.release i)).admission = s.admission := by
  simp [step, hi, release_of_not_opened _ hg]

theorem record_admission_of_error (s : Session) {m : MediaInfo} {e : RecordError}
    (h : s.admission.record m = .error e) : (s.step (.record m)).admission = s.admission := by
  simp [step, h]

/-- The two counts, added as numbers, are the number of videos counted when that number is
below `2 ^ 32`: they never exceed it and agree with it in 32 bits. -/
theorem Consistent.countSum_eq {s : Session} (h : s.Consistent) (hshort : s.counted.length < 2 ^ 32) :
    s.admission.countSum = s.counted.length := by
  have hmod : s.admission.countSum % 2 ^ 32 = s.counted.length % 2 ^ 32 := by
    rw [← toNat_totalCount, h.count, UInt32.toNat_ofNat']
  have := h.countSum
  omega

/-- After any calls from a fresh state, in any order of letting guards go: a scope is open
exactly when one live guard opened it, and never more than one did; a guard that did not open
it changes nothing when let go; the persistent count plus the open scope's, added in 32 bits,
is the number of videos counted by `count` or by a `record` that the list took, and added as
numbers never exceeds it and equals it while it is below `2 ^ 32`; the runtimes are summed and
cut at the longest span; and a refused record leaves admission as it was. -/
theorem scope_and_totals_after_any_calls (records : RecordList) (calls : List Call) :
    let s := (start records).run calls
    (s.admission.hasScope = true ↔ s.guards.countP (·.opened) = 1) ∧
      s.guards.countP (·.opened) ≤ 1 ∧
      (∀ i g, s.guards[i]? = some g → g.opened = false →
        (s.step (.release i)).admission = s.admission) ∧
      s.admission.totalCount = UInt32.ofNat s.counted.length ∧
      s.admission.countSum ≤ s.counted.length ∧
      (s.counted.length < 2 ^ 32 → s.admission.countSum = s.counted.length) ∧
      s.admission.totalDuration =
        Span.ofNanosClamped (s.counted.map fun m => m.runtime.toNanos).sum ∧
      (∀ m e, s.admission.record m = .error e → (s.step (.record m)).admission = s.admission) := by
  intro s
  have h : s.Consistent := (consistent_start records).run calls
  have hopeners : s.guards.countP (·.opened) = if s.admission.hasScope then 1 else 0 := h.openers
  refine ⟨?_, ?_, fun i g hi hg => release_admission_of_not_opened s hi hg, h.count, h.countSum,
    h.countSum_eq, ?_, fun m e hrec => record_admission_of_error s hrec⟩
  · rw [hopeners]
    cases s.admission.hasScope <;> simp
  · rw [hopeners]
    cases s.admission.hasScope <;> simp
  · rw [h.duration]
    apply Span.ext_toNanos
    simp [toNanos_foldl_addRuntime, Span.ofNanosClamped]

theorem run_counts (s : Session) (m : MediaInfo) (n : Nat) :
    (s.run (List.replicate n (.count m))).guards = s.guards ∧
      (s.run (List.replicate n (.count m))).counted = s.counted ++ List.replicate n m := by
  induction n generalizing s with
  | zero => simp [run]
  | succ n ih =>
    obtain ⟨hguards, hcounted⟩ := ih (s.step (.count m))
    rw [List.replicate_succ, run, List.foldl_cons, ← run]
    refine ⟨hguards, ?_⟩
    rw [hcounted]
    simp [step, counted, Event.counted?, List.replicate_succ]

/-- `n` counts from a fresh state open no scope and leave the persistent count at `n` modulo
`2 ^ 32`. -/
theorem countSum_run_counts (records : RecordList) (m : MediaInfo) (n : Nat) :
    let s := (start records).run (List.replicate n (.count m))
    s.counted.length = n ∧ s.admission.countSum = n % 2 ^ 32 := by
  intro s
  obtain ⟨hguards, hcounted⟩ := run_counts (start records) m n
  have h : s.Consistent := (consistent_start records).run _
  have hlength : s.counted.length = n := by
    have hs : s.counted = (start records).counted ++ List.replicate n m := hcounted
    rw [hs]
    simp [start, counted]
  -- no guard is held, so no scope is open and the persistent counter holds the count
  have hscope : s.admission.hasScope = false := by
    have hopeners : s.guards.countP (·.opened) = if s.admission.hasScope then 1 else 0 :=
      h.openers
    have hg : s.guards = [] := hguards
    rw [hg] at hopeners
    cases hs : s.admission.hasScope
    · rfl
    · simp [hs] at hopeners
  have hnone : s.admission.temporary = none := by simpa [hasScope] using hscope
  have hbelow : s.admission.countSum < 2 ^ 32 := by
    simpa [countSum, hnone] using UInt32.toNat_lt s.admission.persistent.queuedCount
  refine ⟨hlength, ?_⟩
  rw [← Nat.mod_eq_of_lt hbelow, ← toNat_totalCount, h.count, UInt32.toNat_ofNat', hlength]

/-- `2 ^ 32` counts from a fresh state leave the persistent count at zero. -/
theorem count_wraps_to_zero :
    let s := (start (.empty .memory)).run (List.replicate (2 ^ 32) (.count {}))
    s.counted.length = 2 ^ 32 ∧ s.admission.countSum = 0 :=
  countSum_run_counts _ _ _

/-- The outer guard is let go first: the scope closes although the inner guard is still held,
and letting the inner guard go afterwards changes nothing. -/
example :
    let s := (start (.empty .memory)).run [.enterScope 1 .zero, .count {}, .enterScope 3 .zero,
      .release 0, .count {}, .release 0]
    s.admission.hasScope = false ∧ s.admission.persistent.queuedCount = 2 ∧ s.guards = [] := by
  decide

end Session

end Admission

end CatalogQueue
