import CatalogQueue.Proofs.Scopes

/-!
What admission answers about a video, and how long a refusal lasts. Counting and recording only
add to the active counter under the same limits (`Admission.Grows`), so a refusal outlives them,
as long as the 32-bit count does not wrap: past `2 ^ 32` counts a used-up count reads as unused.
-/

namespace CatalogQueue

namespace Span

@[simp] theorem isZero_eq_false_iff (d : Span) : d.isZero = false ↔ d.toNanos ≠ 0 := by
  simp [isZero]

theorem satAdd_le_satAdd_left {a b : Span} (h : a ≤ b) (c : Span) : a.satAdd c ≤ b.satAdd c := by
  rw [le_iff] at h ⊢
  simp only [toNanos_satAdd]
  omega

theorem le_satAdd (a c : Span) : a ≤ a.satAdd c := by
  have hmax := a.le_max
  rw [le_iff, toNanos_satAdd]
  omega

end Span

namespace Counter

variable {c c' : Counter} {runtime : Span}

theorem check_ne_alreadyRecorded : c.check runtime ≠ .error .alreadyRecorded := by
  unfold check
  split
  · simp
  · split <;> simp

/-- The count rule comes first: a used-up count refuses whatever the runtime. -/
theorem check_eq_countReached_iff :
    c.check runtime = .error .countReached ↔
      0 < c.countLimit ∧ c.countLimit ≤ c.queuedCount.toNat := by
  unfold check
  split
  · simp_all
  · split <;> simp_all

/-- The duration rule refuses when the count rule does not and the runtime would take the total
past a set duration limit; a total that reaches the limit exactly still fits. -/
theorem check_eq_durationReached_iff :
    c.check runtime = .error .durationReached ↔
      ¬(0 < c.countLimit ∧ c.countLimit ≤ c.queuedCount.toNat) ∧
        c.durationLimit.toNanos ≠ 0 ∧ c.durationLimit < c.queuedDuration.satAdd runtime := by
  unfold check
  split
  · simp_all
  · split <;> simp_all

theorem check_eq_ok_iff :
    c.check runtime = .ok () ↔
      ¬(0 < c.countLimit ∧ c.countLimit ≤ c.queuedCount.toNat) ∧
        ¬(c.durationLimit.toNanos ≠ 0 ∧ c.durationLimit < c.queuedDuration.satAdd runtime) := by
  unfold check
  split
  · simp_all
  · split <;> simp_all

/-- `c'` is `c` with at least as much queued against the same limits. -/
structure Grows (c c' : Counter) : Prop where
  countLimit : c'.countLimit = c.countLimit
  durationLimit : c'.durationLimit = c.durationLimit
  queuedCount : c.queuedCount.toNat ≤ c'.queuedCount.toNat
  queuedDuration : c.queuedDuration ≤ c'.queuedDuration

theorem Grows.refl (c : Counter) : c.Grows c :=
  ⟨rfl, rfl, Nat.le_refl _, Nat.le_refl _⟩

theorem Grows.trans {c'' : Counter} (h : c.Grows c') (h' : c'.Grows c'') : c.Grows c'' :=
  ⟨h'.countLimit.trans h.countLimit, h'.durationLimit.trans h.durationLimit,
    Nat.le_trans h.queuedCount h'.queuedCount, Nat.le_trans h.queuedDuration h'.queuedDuration⟩

theorem toNat_add_queuedCount (c : Counter) (runtime : Span) :
    (c.add runtime).queuedCount.toNat = (c.queuedCount.toNat + 1) % 2 ^ 32 := by
  simp [add, UInt32.toNat_add]

theorem grows_add (c : Counter) (runtime : Span) (hroom : c.queuedCount.toNat + 1 < 2 ^ 32) :
    c.Grows (c.add runtime) := by
  refine ⟨rfl, rfl, ?_, Span.le_satAdd _ _⟩
  rw [toNat_add_queuedCount, Nat.mod_eq_of_lt hroom]
  exact Nat.le_succ _

/-- A refusal survives growth: a used-up count stays used up under the same limit, and a total
that the runtime takes past the duration limit only gets longer. -/
theorem Grows.check_ne_ok (h : c.Grows c') (hr : c.check runtime ≠ .ok ()) :
    c'.check runtime ≠ .ok () := by
  intro hok
  obtain ⟨hcount, hduration⟩ := check_eq_ok_iff.1 hok
  apply hr
  refine check_eq_ok_iff.2 ⟨fun ⟨hset, hspent⟩ => hcount ?_, fun ⟨hset, hpast⟩ => hduration ?_⟩
  · rw [h.countLimit]
    exact ⟨hset, Nat.le_trans hspent h.queuedCount⟩
  · have hlonger := Span.satAdd_le_satAdd_left h.queuedDuration runtime
    rw [Span.le_iff] at hlonger
    rw [Span.lt_iff] at hpast ⊢
    rw [h.durationLimit]
    exact ⟨hset, Nat.lt_of_lt_of_le hpast hlonger⟩

end Counter

namespace Admission

variable {a a' : Admission} {m : MediaInfo}

theorem check_eq_alreadyRecorded_iff :
    a.check m = .error .alreadyRecorded ↔ a.records.containsKey m.queueKey = true := by
  unfold check RecordList.contains
  cases a.records.containsKey m.queueKey with
  | true => simp
  | false => simpa using Counter.check_ne_alreadyRecorded

theorem check_of_not_recorded (h : a.records.containsKey m.queueKey = false) :
    a.check m = a.active.check m.runtime := by
  simp [check, RecordList.contains, h]

theorem active_count (a : Admission) (m : MediaInfo) :
    (a.count m).active = a.active.add m.runtime := by
  cases h : a.temporary <;> simp [count, modifyActive, active, h]

/-- `a'` holds every key `a` holds, and its active counter is `a`'s with at least as much
queued against the same limits. -/
structure Grows (a a' : Admission) : Prop where
  records : ∀ k, a.records.containsKey k = true → a'.records.containsKey k = true
  active : a.active.Grows a'.active

theorem Grows.refl (a : Admission) : a.Grows a :=
  ⟨fun _ hk => hk, .refl _⟩

theorem Grows.trans {a'' : Admission} (h : a.Grows a') (h' : a'.Grows a'') : a.Grows a'' :=
  ⟨fun k hk => h'.records k (h.records k hk), h.active.trans h'.active⟩

theorem grows_count (a : Admission) (m : MediaInfo)
    (hroom : a.active.queuedCount.toNat + 1 < 2 ^ 32) : a.Grows (a.count m) := by
  refine ⟨fun k hk => ?_, ?_⟩
  · rw [records_count]
    exact hk
  · rw [active_count]
    exact Counter.grows_add _ _ hroom

theorem grows_record (h : a.record m = .ok a')
    (hroom : a.active.queuedCount.toNat + 1 < 2 ^ 32) : a.Grows a' := by
  obtain ⟨records, hadd, rfl⟩ := record_ok a m h
  refine ⟨fun k hk => ?_, ?_⟩
  · rw [records_count, RecordList.containsKey_addKey hadd k, hk, Bool.true_or]
  · rw [active_count]
    exact Counter.grows_add _ _ hroom

/-- A refusal survives growth: the key stays recorded, or the active counter still refuses. -/
theorem Grows.check_ne_ok (h : a.Grows a') (hr : a.check m ≠ .ok ()) : a'.check m ≠ .ok () := by
  cases hk' : a'.records.containsKey m.queueKey with
  | true =>
    rw [check_eq_alreadyRecorded_iff.2 hk']
    simp
  | false =>
    -- the key is not recorded after, so it was not before: both answers are the counters'
    have hk : a.records.containsKey m.queueKey = false := by
      cases hk : a.records.containsKey m.queueKey with
      | false => rfl
      | true => simpa [hk'] using h.records _ hk
    rw [check_of_not_recorded hk] at hr
    rw [check_of_not_recorded hk']
    exact h.active.check_ne_ok hr

/-- Asking, counting and recording: the calls that set no limit and neither enter limits nor
let a guard go. -/
def Call.keepsLimits : Call → Bool
  | .check _ | .count _ | .record _ => true
  | _ => false

namespace Session

theorem check_admission (s : Session) (m : MediaInfo) :
    (s.step (.check m)).admission = s.admission := rfl

theorem active_count_step (s : Session) : ∀ c : Call, c.keepsLimits = true →
    (s.step c).admission.active.queuedCount.toNat ≤ s.admission.active.queuedCount.toNat + 1
  | .check m, _ => Nat.le_succ _
  | .count m, _ => by
    show (s.admission.count m).active.queuedCount.toNat ≤ _
    rw [active_count, Counter.toNat_add_queuedCount]
    exact Nat.mod_le _ _
  | .record m, _ => by
    cases hrec : s.admission.record m with
    | ok a' =>
      have hstep : (s.step (.record m)).admission = a' := by simp [step, hrec]
      obtain ⟨records, -, rfl⟩ := record_ok _ m hrec
      rw [hstep, active_count, Counter.toNat_add_queuedCount]
      exact Nat.mod_le _ _
    | error e =>
      rw [record_admission_of_error s hrec]
      exact Nat.le_succ _

/-- Asking, counting and recording only grow admission, while the active count has room for
one more. -/
theorem grows_step (s : Session) (hroom : s.admission.active.queuedCount.toNat + 1 < 2 ^ 32) :
    ∀ c : Call, c.keepsLimits = true → s.admission.Grows (s.step c).admission
  | .check m, _ => by
    rw [check_admission]
    exact .refl _
  | .count m, _ => grows_count s.admission m hroom
  | .record m, _ => by
    cases hrec : s.admission.record m with
    | ok a' =>
      have hstep : (s.step (.record m)).admission = a' := by simp [step, hrec]
      rw [hstep]
      exact grows_record hrec hroom
    | error e =>
      rw [record_admission_of_error s hrec]
      exact .refl _

/-- Calls that keep the limits grow admission while the active count has room for one more
after each of them. -/
theorem grows_run (s : Session) {calls : List Call} (h : ∀ c ∈ calls, c.keepsLimits = true)
    (hroom : s.admission.active.queuedCount.toNat + calls.length < 2 ^ 32) :
    s.admission.Grows (s.run calls).admission := by
  induction calls generalizing s with
  | nil => exact .refl _
  | cons c calls ih =>
    have hc : c.keepsLimits = true := h c List.mem_cons_self
    have hnext := active_count_step s c hc
    rw [List.length_cons] at hroom
    exact (grows_step s (by omega) c hc).trans
      (ih (s.step c) (fun c' hc' => h c' (List.mem_cons_of_mem _ hc')) (by omega))

/-- Admission's answer about a video, from any state: asking changes nothing; the answer is
that the video is recorded exactly when the record list holds its key; otherwise the active
counter answers, a used-up count first, then a runtime (five hours when its text is not a span)
that would take the total past a set duration limit, and else the video may be queued. And once
the answer is a refusal, asking, counting and recording, in any number and order, keep it a
refusal as long as the active count does not wrap past the largest 32-bit number. -/
theorem check_answers_and_refusals_last (s : Session) (m : MediaInfo) :
    let a := s.admission
    let A := a.active
    let runtime := (Span.parse? m.runTime).getD (Span.ofSecs (5 * 60 * 60))
    (s.step (.check m)).admission = a ∧
      (a.check m = .error .alreadyRecorded ↔ a.records.containsKey m.queueKey = true) ∧
      (a.records.containsKey m.queueKey = false →
        (a.check m = .error .countReached ↔
          0 < A.countLimit ∧ A.countLimit ≤ A.queuedCount.toNat) ∧
        (a.check m = .error .durationReached ↔
          ¬(0 < A.countLimit ∧ A.countLimit ≤ A.queuedCount.toNat) ∧
            A.durationLimit.toNanos ≠ 0 ∧ A.durationLimit < A.queuedDuration.satAdd runtime) ∧
        (a.check m = .ok () ↔
          ¬(0 < A.countLimit ∧ A.countLimit ≤ A.queuedCount.toNat) ∧
            ¬(A.durationLimit.toNanos ≠ 0 ∧ A.durationLimit < A.queuedDuration.satAdd runtime))) ∧
      ∀ calls : List Call, (∀ c ∈ calls, c.keepsLimits = true) →
        A.queuedCount.toNat + calls.length < 2 ^ 32 →
        a.check m ≠ .ok () → (s.run calls).admission.check m ≠ .ok () := by
  intro a A runtime
  refine ⟨check_admission s m, check_eq_alreadyRecorded_iff, fun hk => ?_,
    fun calls hcalls hroom hr => (grows_run s hcalls hroom).check_ne_ok hr⟩
  rw [check_of_not_recorded hk]
  exact ⟨Counter.check_eq_countReached_iff, Counter.check_eq_durationReached_iff,
    Counter.check_eq_ok_iff⟩

/-- Under a count limit of one, counting one video turns the answer for another from an
admission into a refusal, and recording and counting that other one keeps it refused. -/
theorem count_turns_admission_into_lasting_refusal :
    let s := (start (.empty .memory)).run [.setCountLimit 1]
    let m : MediaInfo := { title := "b" }
    s.admission.check m = .ok () ∧
      (s.step (.count { title := "a" })).admission.check m = .error .countReached ∧
      ((s.step (.count { title := "a" })).run [.record m, .count m, .check m]).admission.check m ≠
        .ok () := by
  intro s m
  have hrefused : (s.step (.count { title := "a" })).admission.check m = .error .countReached :=
    rfl
  refine ⟨rfl, hrefused,
    (check_answers_and_refusals_last _ m).2.2.2 [.record m, .count m, .check m] (by decide)
      (by decide) ?_⟩
  rw [hrefused]
  simp

/-- Counting keeps the record list and the active counter's limits, and adds to its count in
32 bits. -/
theorem run_counts_active (s : Session) (m : MediaInfo) (n : Nat) :
    let a := (s.run (List.replicate n (.count m))).admission
    a.records = s.admission.records ∧ a.active.countLimit = s.admission.active.countLimit ∧
      a.active.durationLimit = s.admission.active.durationLimit ∧
      a.active.queuedCount = s.admission.active.queuedCount + UInt32.ofNat n := by
  induction n generalizing s with
  | zero => simp [run]
  | succ n ih =>
    obtain ⟨hrecords, hcount, hduration, hqueued⟩ := ih (s.step (.count m))
    rw [List.replicate_succ, run, List.foldl_cons, ← run]
    have hactive : (s.step (.count m)).admission.active = s.admission.active.add m.runtime :=
      active_count _ _
    refine ⟨hrecords.trans (records_count _ _), ?_, ?_, ?_⟩
    · rw [hcount, hactive]
      rfl
    · rw [hduration, hactive]
      rfl
    · rw [hqueued, hactive, Counter.add, UInt32.ofNat_add, UInt32.add_assoc, UInt32.add_comm 1]
      rfl

/-- Under a count limit of one, a refusal for a used-up count turns back into an admission
once `2 ^ 32 - 1` more videos are counted: the count wraps to zero. -/
theorem refusal_ends_when_count_wraps :
    let s := (start (.empty .memory)).run [.setCountLimit 1, .count {}]
    let m : MediaInfo := { title := "b" }
    s.admission.check m = .error .countReached ∧
      (s.run (List.replicate (2 ^ 32 - 1) (.count {}))).admission.check m = .ok () := by
  intro s m
  obtain ⟨hrecords, hcount, hduration, hqueued⟩ := run_counts_active s {} (2 ^ 32 - 1)
  refine ⟨rfl, ?_⟩
  have hk : (s.run (List.replicate (2 ^ 32 - 1) (.count {}))).admission.records.containsKey
      m.queueKey = false := by
    rw [hrecords]
    rfl
  rw [check_of_not_recorded hk, Counter.check_eq_ok_iff, hcount, hduration, hqueued]
  decide

end Session

end Admission

end CatalogQueue
