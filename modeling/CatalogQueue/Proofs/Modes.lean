import CatalogQueue.Proofs.Limits

/-!
What each mode lets a run call: skip mode only records, a preview neither submits nor records,
and queue mode submits an admitted video and records it once the server accepted it.
-/

namespace CatalogQueue

/-- A property of admission and the events that requests, limits and every decision keep holds
after any run of passes. -/
theorem Run.passes_keep {P : RunState → Prop} (srv : Server) (mode : RunMode)
    (hframe : ∀ s t, t.admission = s.admission → t.events = s.events → P s → P t)
    (hrequest : ∀ s r, P s → P { s with events := s.events ++ [.request r] })
    (henter : ∀ s c d, P s → P (s.enterLimits c d))
    (hrelease : ∀ s g, P s → P (s.releaseLimits g))
    (hdecide : ∀ s v d r t, Resolved srv mode v d s r t → P s → P (Run.written d r t))
    (ps : List Pass) {s : RunState} (hs : P s) : P ((Run.passes srv mode ps).run s).2 := by
  have hR : Walkable fun s t => P s → P t :=
    Walkable.invariant (fun s _ hs => hframe s _ rfl rfl hs) hrequest
  have hwalk : ∀ p, Keeps (fun s t => P s → P t) (Run.walk srv mode p) := fun p =>
    (Layout.LaysOut.walk hR srv mode
      (Layout.LaysOut.queue_of hR srv mode hdecide henter hrelease) p).keeps
  induction ps generalizing s with
  | nil => exact hs
  | cons p ps ih => exact ih (Run.pass_keeps srv mode p hframe (hwalk p) hs)

/-! ### The calls a decision makes -/

def Event.isSubmit : Event → Bool
  | .submit .. => true
  | _ => false

def Event.isCheck : Event → Bool
  | .check .. => true
  | _ => false

def Event.isRecord : Event → Bool
  | .record .. => true
  | _ => false

theorem Run.written_events (d : MediaInfo) (r : Except Failure Outcome) (t : RunState) :
    (Run.written d r t).events = t.events ∨
      ∃ o, (Run.written d r t).events = t.events ++ [.outcome d o] := by
  cases r with
  | ok o => exact .inr ⟨o, rfl⟩
  | error _ => exact .inl rfl

section

variable {srv : Server} {mode : RunMode} {v : Video} {d : MediaInfo} {s t : RunState}
  {r : Except Failure Outcome}

theorem Resolved.events_of_skip (hskip : mode.skip = true) (h : Resolved srv mode v d s r t) :
    ∃ result, t.events = s.events ++ [.record d result] := by
  cases h with
  | skipped => exact ⟨_, rfl⟩
  | skipRefused => exact ⟨_, rfl⟩
  | rejected _ hskip' => exact nomatch hskip.symm.trans hskip'
  | previewed hskip' => exact nomatch hskip.symm.trans hskip'
  | queued _ hskip' => exact nomatch hskip.symm.trans hskip'
  | unrecorded _ hskip' => exact nomatch hskip.symm.trans hskip'
  | alreadyQueued hskip' => exact nomatch hskip.symm.trans hskip'
  | noQueueLink hskip' => exact nomatch hskip.symm.trans hskip'
  | refused hskip' => exact nomatch hskip.symm.trans hskip'
  | failed _ hskip' => exact nomatch hskip.symm.trans hskip'

theorem Resolved.events_of_preview (hskip : mode.skip = false) (hqueue : mode.queue = false)
    (h : Resolved srv mode v d s r t) :
    ((∃ verdict, t.events = s.events ++ [.check d verdict]) ∨
      t.events = s.events ++ [.check d (.ok ()), .count d]) ∧
    t.admission.records = s.admission.records := by
  cases h with
  | skipped _ hskip' => exact nomatch hskip.symm.trans hskip'
  | skipRefused _ hskip' => exact nomatch hskip.symm.trans hskip'
  | rejected => exact ⟨.inl ⟨_, rfl⟩, rfl⟩
  | previewed => exact ⟨.inr rfl, Admission.records_count _ _⟩
  | queued _ _ hqueue' => exact nomatch hqueue.symm.trans hqueue'
  | unrecorded _ _ hqueue' => exact nomatch hqueue.symm.trans hqueue'
  | alreadyQueued _ hqueue' => exact nomatch hqueue.symm.trans hqueue'
  | noQueueLink _ hqueue' => exact nomatch hqueue.symm.trans hqueue'
  | refused _ hqueue' => exact nomatch hqueue.symm.trans hqueue'
  | failed _ _ hqueue' => exact nomatch hqueue.symm.trans hqueue'

/-- In queue mode a decision asks admission, submits an admitted video, and hands it to the
record list only when the server accepted it. -/
theorem Resolved.events_of_queue (hskip : mode.skip = false) (hqueue : mode.queue = true)
    (h : Resolved srv mode v d s r t) :
    (∃ rejection, t.events = s.events ++ [.check d (.error rejection)]) ∨
    (∃ answer, t.events = s.events ++ [.check d (.ok ()), .submit v.url d answer]) ∨
    ∃ result, t.events = s.events ++
      [.check d (.ok ()), .submit v.url d (.ok .accepted), .record d result] := by
  cases h with
  | skipped _ hskip' => exact nomatch hskip.symm.trans hskip'
  | skipRefused _ hskip' => exact nomatch hskip.symm.trans hskip'
  | rejected => exact .inl ⟨_, rfl⟩
  | previewed _ hqueue' => exact nomatch hqueue.symm.trans hqueue'
  | queued => exact .inr (.inr ⟨_, rfl⟩)
  | unrecorded => exact .inr (.inr ⟨_, rfl⟩)
  | alreadyQueued => exact .inr (.inl ⟨_, rfl⟩)
  | noQueueLink => exact .inr (.inl ⟨_, rfl⟩)
  | refused => exact .inr (.inl ⟨_, rfl⟩)
  | failed => exact .inr (.inl ⟨_, rfl⟩)

end

/-! ### Skip mode and previews -/

theorem runPasses_skip_asks_nothing (srv : Server) (mode : RunMode) (hskip : mode.skip = true)
    (a : Admission) (ps : List Pass) :
    ∀ e ∈ (runPasses srv mode a ps).events, e.isSubmit = false ∧ e.isCheck = false := by
  refine Run.passes_keep (P := fun s => ∀ e ∈ s.events, e.isSubmit = false ∧ e.isCheck = false)
    srv mode (fun s t _ he hs => he ▸ hs) (fun s r hs => ?_) (fun s c d hs => ?_)
    (fun s g hs => ?_) (fun s v d r t h hs => ?_) ps (by simp)
  · exact List.forall_mem_append.2 ⟨hs, by simp [Event.isSubmit, Event.isCheck]⟩
  · exact List.forall_mem_append.2 ⟨hs, by simp [Event.isSubmit, Event.isCheck]⟩
  · exact List.forall_mem_append.2 ⟨hs, by simp [Event.isSubmit, Event.isCheck]⟩
  · -- the record, and the outcome if the record list took the video
    obtain ⟨result, ht⟩ := h.events_of_skip hskip
    have hdecided : ∀ e ∈ t.events, e.isSubmit = false ∧ e.isCheck = false := by
      rw [ht]
      exact List.forall_mem_append.2 ⟨hs, by simp [Event.isSubmit, Event.isCheck]⟩
    rcases Run.written_events d r t with hw | ⟨o, hw⟩ <;> rw [hw]
    · exact hdecided
    · exact List.forall_mem_append.2 ⟨hdecided, by simp [Event.isSubmit, Event.isCheck]⟩

/-- In skip mode every video whose details load goes to the record list first, whatever
admission would say of it. -/
theorem settle_records_of_skip (srv : Server) (mode : RunMode) (hskip : mode.skip = true)
    {v v' : Video} {s t : RunState} {d : MediaInfo}
    (hdetails : (Run.detailsOf srv v).exec s = (.ok (v', d), t)) :
    ∃ result rest, ((Run.settle srv mode v).exec s).2.events = t.events ++ .record d result :: rest := by
  rw [Run.exec_settle, hdetails]
  obtain ⟨result, hresolve⟩ := (resolve_resolved srv mode v' d t).events_of_skip hskip
  refine ⟨result, ?_⟩
  rcases Run.written_events d ((Run.resolve srv mode v' d).exec t).1
    ((Run.resolve srv mode v' d).exec t).2 with hw | ⟨o, hw⟩
  · exact ⟨[], by simp [hw, hresolve]⟩
  · exact ⟨[.outcome d o], by simp [hw, hresolve]⟩

/-- A preview neither submits a video nor writes to the record list, which ends the run as it
began. -/
theorem runPasses_preview_writes_nothing (srv : Server) (mode : RunMode)
    (hskip : mode.skip = false) (hqueue : mode.queue = false) (a : Admission) (ps : List Pass) :
    (∀ e ∈ (runPasses srv mode a ps).events, e.isSubmit = false ∧ e.isRecord = false) ∧
      (runPasses srv mode a ps).admission.records = a.records := by
  refine Run.passes_keep (P := fun s => (∀ e ∈ s.events, e.isSubmit = false ∧ e.isRecord = false) ∧
      s.admission.records = a.records)
    srv mode (fun s t ha he hs => ha ▸ he ▸ hs) (fun s r hs => ?_) (fun s c d hs => ?_)
    (fun s g hs => ?_) (fun s v d r t h hs => ?_) ps ⟨by simp, rfl⟩
  · exact ⟨List.forall_mem_append.2 ⟨hs.1, by simp [Event.isSubmit, Event.isRecord]⟩, hs.2⟩
  · exact ⟨List.forall_mem_append.2 ⟨hs.1, by simp [Event.isSubmit, Event.isRecord]⟩,
      by simpa using hs.2⟩
  · exact ⟨List.forall_mem_append.2 ⟨hs.1, by simp [Event.isSubmit, Event.isRecord]⟩,
      by simpa using hs.2⟩
  · -- the question to admission, and the count of an admitted video
    obtain ⟨hevents, hrecords⟩ := h.events_of_preview hskip hqueue
    have hdecided : ∀ e ∈ t.events, e.isSubmit = false ∧ e.isRecord = false := by
      rcases hevents with ⟨verdict, ht⟩ | ht <;> rw [ht] <;>
        exact List.forall_mem_append.2 ⟨hs.1, by simp [Event.isSubmit, Event.isRecord]⟩
    refine ⟨?_, by rw [Run.written_admission, hrecords]; exact hs.2⟩
    rcases Run.written_events d r t with hw | ⟨o, hw⟩ <;> rw [hw]
    · exact hdecided
    · exact List.forall_mem_append.2 ⟨hdecided, by simp [Event.isSubmit, Event.isRecord]⟩

/-! ### Queue mode -/

/-- What an event needs right before it: a submission comes right after admission admitted the
same video, and a record right after the server accepted the same video. Other events need
nothing. -/
def Event.allowedAfter (prev : Option Event) : Event → Prop
  | .submit _ m _ => prev = some (.check m (.ok ()))
  | .record m _ => ∃ url, prev = some (.submit url m (.ok .accepted))
  | _ => True

/-- Every event of a trace has right before it what it needs. -/
def AllowedInOrder (es : List Event) : Prop :=
  ∀ pre e post, es = pre ++ e :: post → e.allowedAfter pre.getLast?

namespace AllowedInOrder

theorem nil : AllowedInOrder [] := by
  intro pre e post h
  simp at h

theorem snoc {es : List Event} {e : Event} (h : AllowedInOrder es)
    (he : e.allowedAfter es.getLast?) : AllowedInOrder (es ++ [e]) := by
  intro pre x post hsplit
  rcases append_singleton_eq_append_cons hsplit with ⟨rfl, rfl, -⟩ | ⟨post', -, hes⟩
  · exact he
  · exact h pre x post' hes

end AllowedInOrder

/-- In queue mode a run submits a video only right after admission admitted it, and hands a
video to the record list only right after the server accepted it. -/
theorem runPasses_queue_in_order (srv : Server) (mode : RunMode) (hskip : mode.skip = false)
    (hqueue : mode.queue = true) (a : Admission) (ps : List Pass) :
    AllowedInOrder (runPasses srv mode a ps).events := by
  refine Run.passes_keep (P := fun s => AllowedInOrder s.events) srv mode
    (fun s t _ he hs => he ▸ hs) (fun s r hs => hs.snoc trivial) (fun s c d hs => hs.snoc trivial)
    (fun s g hs => hs.snoc trivial) (fun s v d r t h hs => ?_) ps AllowedInOrder.nil
  -- each event of the decision has its cause right before it
  have hdecided : AllowedInOrder t.events := by
    rcases h.events_of_queue hskip hqueue with ⟨rejection, ht⟩ | ⟨answer, ht⟩ | ⟨result, ht⟩ <;>
      rw [ht]
    · exact hs.snoc trivial
    · have hchecked := hs.snoc (e := .check d (.ok ())) trivial
      simpa using hchecked.snoc (e := .submit v.url d answer) (by simp [Event.allowedAfter])
    · have hchecked := hs.snoc (e := .check d (.ok ())) trivial
      have hsubmitted := hchecked.snoc (e := .submit v.url d (.ok .accepted))
        (by simp [Event.allowedAfter])
      simpa using hsubmitted.snoc (e := .record d result) (by simp [Event.allowedAfter])
  rcases Run.written_events d r t with hw | ⟨o, hw⟩ <;> rw [hw]
  · exact hdecided
  · exact hdecided.snoc trivial

/-- What each mode lets a run call, for every server, admission state and list of passes.
(a) Skip mode, which is looked at first, never submits and never asks admission, and hands
every video whose details load to the record list before anything else. (b) A preview never
submits and never writes to the record list, which ends the run as it began. (c) Queue mode
submits a video only right after admission admitted it, and hands it to the record list only
right after the server accepted that submission. -/
theorem runPasses_separates_modes (srv : Server) (a : Admission) (ps : List Pass) :
    (∀ mode : RunMode, mode.skip = true →
      (∀ e ∈ (runPasses srv mode a ps).events, e.isSubmit = false ∧ e.isCheck = false) ∧
      ∀ v v' s t d, (Run.detailsOf srv v).exec s = (.ok (v', d), t) →
        ∃ result rest,
          ((Run.settle srv mode v).exec s).2.events = t.events ++ .record d result :: rest) ∧
    (∀ mode : RunMode, mode.skip = false → mode.queue = false →
      (∀ e ∈ (runPasses srv mode a ps).events, e.isSubmit = false ∧ e.isRecord = false) ∧
      (runPasses srv mode a ps).admission.records = a.records) ∧
    (∀ mode : RunMode, mode.skip = false → mode.queue = true →
      (∀ pre url m answer post,
        (runPasses srv mode a ps).events = pre ++ .submit url m answer :: post →
          pre.getLast? = some (.check m (.ok ()))) ∧
      ∀ pre m result post, (runPasses srv mode a ps).events = pre ++ .record m result :: post →
        ∃ url, pre.getLast? = some (.submit url m (.ok .accepted))) := by
  refine ⟨fun mode hskip => ⟨runPasses_skip_asks_nothing srv mode hskip a ps,
      fun v v' s t d hdetails => settle_records_of_skip srv mode hskip hdetails⟩,
    fun mode hskip hqueue => runPasses_preview_writes_nothing srv mode hskip hqueue a ps,
    fun mode hskip hqueue => ?_⟩
  have hordered := runPasses_queue_in_order srv mode hskip hqueue a ps
  exact ⟨fun pre url m answer post hsplit => hordered pre _ post hsplit,
    fun pre m result post hsplit => hordered pre _ post hsplit⟩

end CatalogQueue
