import CatalogQueue.Proofs.Isolation

/-!
Admission keeps a run within its limits, while the run queues fewer than `2 ^ 32` videos (past
that the 32-bit count wraps). `LimitsHold` states both bounds at every point of the events; the
invariants `Unscoped` and `Scoped` keep the counters as the events describe them, between queue
actions with limits and inside one.
-/

namespace CatalogQueue

/-! ### Queued videos and open scopes in a trace -/

def Event.queued? : Event → Option MediaInfo
  | .outcome m (.queued _) => some m
  | _ => none

def Event.isLimit : Event → Bool
  | .enterLimits _ _ | .releaseLimits _ => true
  | _ => false

def queuedIn (es : List Event) : List MediaInfo := es.filterMap Event.queued?

@[simp] theorem queuedIn_nil : queuedIn [] = [] := rfl

@[simp] theorem queuedIn_append (es es' : List Event) :
    queuedIn (es ++ es') = queuedIn es ++ queuedIn es' :=
  List.filterMap_append

@[simp] theorem queuedIn_cons (e : Event) (es : List Event) :
    queuedIn (e :: es) = e.queued?.toList ++ queuedIn es := by
  cases h : e.queued? <;> simp [queuedIn, h]

/-- The videos `ms` fit the limits `c` and `d`: at most `c` of them when `c` is not zero, and a
saturating sum of runtimes of at most `d` when `d` is not zero. -/
def WithinLimits (c : Nat) (d : Span) (ms : List MediaInfo) : Prop :=
  (0 < c → ms.length ≤ c) ∧ (d.isZero = false → ms.foldl addRuntime .zero ≤ d)

theorem WithinLimits.nil (c : Nat) (d : Span) : WithinLimits c d [] :=
  ⟨fun _ => Nat.zero_le c, fun _ => Nat.zero_le _⟩

/-- A scope is open at the end of a trace: a queue action has entered limits that are not both
zero and has not let their guard go. -/
def InScope (es : List Event) : Prop :=
  ∃ before c d mid, es = before ++ .enterLimits c d :: mid ∧ ¬(c = 0 ∧ d.isZero = true) ∧
    ∀ g, .releaseLimits g ∉ mid

/-- Both bounds, at every point of a trace. While a queue action with limits runs, the videos
queued since it entered them fit them (`inside`). A video queued while no such scope is open
brings the videos queued so far in the run, itself included, within the run's limits
(`outside`). -/
structure LimitsHold (C : Nat) (D : Span) (es : List Event) : Prop where
  inside : ∀ before c d mid post, es = before ++ .enterLimits c d :: (mid ++ post) →
    ¬(c = 0 ∧ d.isZero = true) → (∀ g, .releaseLimits g ∉ mid) → WithinLimits c d (queuedIn mid)
  outside : ∀ pre m note post, es = pre ++ .outcome m (.queued note) :: post → ¬InScope pre →
    WithinLimits C D (queuedIn pre ++ [m])

/-- A trace that ends in `e`, split at some event: the split is at `e` itself, or in the trace
before it. -/
theorem append_singleton_eq_append_cons {es pre post : List Event} {e x : Event}
    (h : es ++ [e] = pre ++ x :: post) :
    (pre = es ∧ x = e ∧ post = []) ∨ ∃ post', post = post' ++ [e] ∧ es = pre ++ x :: post' := by
  rcases List.eq_nil_or_concat post with rfl | ⟨post', y, rfl⟩
  · obtain ⟨hpre, hx⟩ := List.append_inj' h rfl
    exact Or.inl ⟨hpre.symm, (List.singleton_inj.1 hx).symm, rfl⟩
  · have h' : es ++ [e] = (pre ++ x :: post') ++ [y] := by simpa using h
    obtain ⟨hes, hy⟩ := List.append_inj' h' rfl
    obtain rfl := List.singleton_inj.1 hy
    exact Or.inr ⟨post', by simp, hes⟩

/-! ### Open scopes -/

theorem not_inScope_nil : ¬InScope [] := by
  rintro ⟨before, c, d, mid, h, -⟩
  simp at h

theorem not_inScope_release (es : List Event) (g : ScopeGuard) :
    ¬InScope (es ++ [.releaseLimits g]) := by
  rintro ⟨before, c, d, mid, h, -, hrelease⟩
  rcases append_singleton_eq_append_cons h with ⟨-, hx, -⟩ | ⟨mid', rfl, -⟩
  · cases hx
  · exact hrelease g (by simp)

theorem not_inScope_snoc {es : List Event} {e : Event} (hes : ¬InScope es)
    (he : ∀ c d, e = .enterLimits c d → c = 0 ∧ d.isZero = true) : ¬InScope (es ++ [e]) := by
  rintro ⟨before, c, d, mid, h, hlimits, hrelease⟩
  rcases append_singleton_eq_append_cons h with ⟨-, hx, -⟩ | ⟨mid', rfl, hmid⟩
  · exact hlimits (he c d hx.symm)
  · exact hes ⟨before, c, d, mid', hmid, hlimits, fun g hg => hrelease g (by simp [hg])⟩

theorem not_inScope_append {es : List Event} (new : List Event) (hes : ¬InScope es)
    (hnew : ∀ e ∈ new, e.isLimit = false) : ¬InScope (es ++ new) := by
  induction new generalizing es with
  | nil => simpa using hes
  | cons e new ih =>
    have he : ∀ c d, e = .enterLimits c d → c = 0 ∧ d.isZero = true := by
      rintro c d rfl
      simp [Event.isLimit] at hnew
    rw [← List.singleton_append, ← List.append_assoc]
    exact ih (not_inScope_snoc hes he) fun e' he' => hnew e' (List.mem_cons_of_mem e he')

/-- The scope open at the end of a trace is the last one entered: any other entry of limits in
the trace either lies in a closed part of it or is followed by a limit event. -/
theorem inScope_unique {before mid b m : List Event} {c d c' d'}
    (hbefore : ¬InScope before) (hmid : ∀ e ∈ mid, e.isLimit = false)
    (h : before ++ .enterLimits c d :: mid = b ++ .enterLimits c' d' :: m)
    (hlimits : ¬(c' = 0 ∧ d'.isZero = true)) (hrelease : ∀ g, .releaseLimits g ∉ m) :
    b = before ∧ c' = c ∧ d' = d ∧ m = mid := by
  rcases List.append_eq_append_iff.1 h with ⟨a, rfl, ha⟩ | ⟨a, rfl, ha⟩
  · cases a with
    | nil =>
      simp only [List.nil_append, List.cons.injEq, Event.enterLimits.injEq] at ha
      obtain ⟨⟨rfl, rfl⟩, rfl⟩ := ha
      simp
    | cons x a =>
      -- the later entry would lie in `mid`, which holds no limit event
      simp only [List.cons_append, List.cons.injEq] at ha
      obtain ⟨-, rfl⟩ := ha
      simpa [Event.isLimit] using hmid (.enterLimits c' d') (by simp)
  · cases a with
    | nil =>
      simp only [List.nil_append, List.cons.injEq, Event.enterLimits.injEq] at ha
      obtain ⟨⟨rfl, rfl⟩, rfl⟩ := ha
      simp
    | cons x a =>
      -- the earlier entry would still be open in `before`
      simp only [List.cons_append, List.cons.injEq] at ha
      obtain ⟨rfl, rfl⟩ := ha
      exact absurd ⟨b, c', d', a, rfl, hlimits, fun g hg => hrelease g (by simp [hg])⟩ hbefore

theorem Event.queued?_eq_some {e : Event} {m : MediaInfo} :
    e.queued? = some m ↔ ∃ note, e = .outcome m (.queued note) := by
  constructor
  · intro h
    cases e with
    | outcome m' o =>
      cases o with
      | queued note =>
        obtain rfl : m' = m := Option.some.inj h
        exact ⟨note, rfl⟩
      | skipped note => cases h
    | request | submit | check | count | record | enterLimits | releaseLimits => cases h
  · rintro ⟨note, rfl⟩
    rfl

/-! ### The bounds, event by event -/

/-- What queuing `m` at the end of the trace `es` asks: the videos queued in the open scope, or
in the whole run when no scope is open, fit their limits with `m` among them. -/
structure Admits (C : Nat) (D : Span) (es : List Event) (m : MediaInfo) : Prop where
  inside : ∀ before c d mid, es = before ++ .enterLimits c d :: mid →
    ¬(c = 0 ∧ d.isZero = true) → (∀ g, .releaseLimits g ∉ mid) →
    WithinLimits c d (queuedIn mid ++ [m])
  outside : ¬InScope es → WithinLimits C D (queuedIn es ++ [m])

namespace LimitsHold

variable {C : Nat} {D : Span} {es : List Event}

theorem nil : LimitsHold C D [] where
  inside before c d mid post h := by simp at h
  outside pre m note post h := by simp at h

theorem of_append {es' : List Event} (h : LimitsHold C D (es ++ es')) : LimitsHold C D es where
  inside before c d mid post hsplit :=
    h.inside before c d mid (post ++ es') (by simp [hsplit])
  outside pre m note post hsplit :=
    h.outside pre m note (post ++ es') (by simp [hsplit])

theorem snoc (h : LimitsHold C D es) {e : Event}
    (he : ∀ m note, e = .outcome m (.queued note) → Admits C D es m) :
    LimitsHold C D (es ++ [e]) := by
  constructor
  · intro before c d mid post hsplit hlimits hrelease
    rcases List.eq_nil_or_concat post with rfl | ⟨post', y, rfl⟩
    · -- the scope runs to the end of the trace: `e` is its entry or its last event
      rw [List.append_nil] at hsplit
      rcases append_singleton_eq_append_cons hsplit with ⟨-, -, rfl⟩ | ⟨mid', rfl, hes⟩
      · exact WithinLimits.nil c d
      have hrelease' : ∀ g, .releaseLimits g ∉ mid' := fun g hg => hrelease g (by simp [hg])
      cases hq : e.queued? with
      | none =>
        simpa [hq] using h.inside before c d mid' [] (by simpa using hes) hlimits hrelease'
      | some m =>
        obtain ⟨note, rfl⟩ := Event.queued?_eq_some.1 hq
        simpa [Event.queued?] using (he m note rfl).inside before c d mid' hes hlimits hrelease'
    · have hsplit' : es ++ [e] = (before ++ .enterLimits c d :: (mid ++ post')) ++ [y] := by
        simpa using hsplit
      exact h.inside before c d mid post' (List.append_inj' hsplit' rfl).1 hlimits hrelease
  · intro pre m note post hsplit hscope
    rcases append_singleton_eq_append_cons hsplit with ⟨rfl, hx, -⟩ | ⟨post', -, hes⟩
    · exact (he m note hx.symm).outside hscope
    · exact h.outside pre m note post' hes hscope

theorem append (h : LimitsHold C D es) (new : List Event) (hnew : queuedIn new = []) :
    LimitsHold C D (es ++ new) := by
  induction new generalizing es with
  | nil => simpa using h
  | cons e new ih =>
    simp only [queuedIn_cons, List.append_eq_nil_iff, Option.toList_eq_nil_iff] at hnew
    rw [← List.singleton_append, ← List.append_assoc]
    refine ih (h.snoc fun m note he => ?_) hnew.2
    subst he
    simp [Event.queued?] at hnew

/-- Bounds that hold of a trace while it queues fewer than `2 ^ 32` videos hold so of the trace
followed by events that queue nothing. -/
theorem append_of_short (h : (queuedIn es).length < 2 ^ 32 → LimitsHold C D es)
    (new : List Event) (hnew : queuedIn new = []) :
    (queuedIn (es ++ new)).length < 2 ^ 32 → LimitsHold C D (es ++ new) := fun hshort =>
  (h (by simpa [hnew] using hshort)).append new hnew

end LimitsHold

/-! ### Counters as the trace describes them -/

def Counter.ofQueued (c : Nat) (d : Span) (ms : List MediaInfo) : Counter :=
  { countLimit := c, durationLimit := d, queuedCount := UInt32.ofNat ms.length,
    queuedDuration := ms.foldl addRuntime .zero }

namespace Counter

variable (c : Nat) (d : Span) (ms : List MediaInfo)

theorem add_ofQueued (m : MediaInfo) : (ofQueued c d ms).add m.runtime = ofQueued c d (ms ++ [m]) := by
  simp only [add, ofQueued, List.length_append, List.length_singleton, UInt32.ofNat_add,
    List.foldl_append, List.foldl_cons, List.foldl_nil, addRuntime]
  rfl

theorem absorb_ofQueued (c' : Nat) (d' : Span) (ms' : List MediaInfo) :
    (ofQueued c d ms).absorb (ofQueued c' d' ms') = ofQueued c d (ms ++ ms') := by
  simp only [absorb, ofQueued, List.length_append, UInt32.ofNat_add, List.foldl_append]
  rw [foldl_addRuntime (ms.foldl addRuntime .zero) ms']

/-- A counter that admits one more video keeps the videos it counted, with that one, within
its limits, as long as its count has not wrapped: the check looks at the count and at the
runtime the video would bring. -/
theorem withinLimits_of_check {m : MediaInfo} (hshort : ms.length < 2 ^ 32)
    (h : (ofQueued c d ms).check m.runtime = .ok ()) : WithinLimits c d (ms ++ [m]) := by
  unfold check at h
  split at h
  · cases h
  rename_i hcount
  split at h
  · cases h
  rename_i hduration
  refine ⟨fun hc => ?_, fun hd => ?_⟩
  · simp only [ofQueued, UInt32.toNat_ofNat', Nat.mod_eq_of_lt hshort] at hcount
    simp only [List.length_append, List.length_singleton]
    omega
  · simp only [ofQueued, hd, Bool.not_false, true_and] at hduration
    rw [List.foldl_append, List.foldl_cons, List.foldl_nil, addRuntime, Span.le_iff]
    rw [Span.lt_iff] at hduration
    omega

end Counter

namespace Admission

variable {a : Admission} {m : MediaInfo}

theorem check_active (h : a.check m = .ok ()) : a.active.check m.runtime = .ok () := by
  unfold check at h
  split at h
  · cases h
  · exact h

theorem count_of_none (h : a.temporary = none) :
    a.count m = { a with persistent := a.persistent.add m.runtime } := by
  simp [count, modifyActive, h]

theorem count_of_some {t : Counter} (h : a.temporary = some t) :
    a.count m = { a with temporary := some (t.add m.runtime) } := by
  simp [count, modifyActive, h]

end Admission

/-- Outside skip mode a decision, written down, enters and releases no limits, and does one of
two things. It queues nothing and leaves the counters alone; or admission admitted the video at
its start, and it counts the video against the counter that admitted it and queues it with its
last event. -/
theorem Resolved.effect {srv : Server} {mode : RunMode} {v : Video} {d : MediaInfo}
    {s t : RunState} {r : Except Failure Outcome} (hskip : mode.skip = false)
    (h : Resolved srv mode v d s r t) :
    ∃ new, (Run.written d r t).events = s.events ++ new ∧ (∀ e ∈ new, e.isLimit = false) ∧
      ((queuedIn new = [] ∧ (Run.written d r t).admission.persistent = s.admission.persistent ∧
          (Run.written d r t).admission.temporary = s.admission.temporary) ∨
        (s.admission.check d = .ok () ∧
          ∃ before note, new = before ++ [.outcome d (.queued note)] ∧ queuedIn before = [] ∧
            ∃ records, (Run.written d r t).admission = { s.admission with records }.count d)) := by
  cases h with
  | skipped _ hskip' => exact nomatch hskip.symm.trans hskip'
  | skipRefused _ hskip' => exact nomatch hskip.symm.trans hskip'
  | rejected rejection =>
    refine ⟨[.check d (.error rejection), .outcome d (.skipped rejection.message)],
      by simp [Run.written], by simp [Event.isLimit], Or.inl ⟨by simp [Event.queued?], rfl, rfl⟩⟩
  | previewed _ _ hcheck =>
    refine ⟨[.check d (.ok ()), .count d, .outcome d (.queued "Pending queue mode.")],
      by simp [Run.written], by simp [Event.isLimit], Or.inr ⟨hcheck, ?_⟩⟩
    exact ⟨[.check d (.ok ()), .count d], _, rfl, by simp [Event.queued?], s.admission.records, rfl⟩
  | queued a _ _ hcheck _ hrec =>
    refine ⟨[.check d (.ok ()), .submit v.url d (.ok .accepted), .record d (.ok ()),
      .outcome d (.queued "")], by simp [Run.written], by simp [Event.isLimit], Or.inr ⟨hcheck, ?_⟩⟩
    obtain ⟨records, -, ha⟩ := Admission.record_ok _ _ hrec
    exact ⟨[.check d (.ok ()), .submit v.url d (.ok .accepted), .record d (.ok ())], _, rfl,
      by simp [Event.queued?], records, ha⟩
  | unrecorded e =>
    refine ⟨[.check d (.ok ()), .submit v.url d (.ok .accepted), .record d (.error e)],
      by simp [Run.written], by simp [Event.isLimit], Or.inl ⟨by simp [Event.queued?], rfl, rfl⟩⟩
  | alreadyQueued =>
    refine ⟨[.check d (.ok ()), .submit v.url d (.ok .alreadyQueued),
      .outcome d (.skipped "Already queued.")],
      by simp [Run.written], by simp [Event.isLimit], Or.inl ⟨by simp [Event.queued?], rfl, rfl⟩⟩
  | noQueueLink =>
    refine ⟨[.check d (.ok ()), .submit v.url d (.ok .noQueueLink),
      .outcome d (.skipped "PlayLater queue link not found. PlayLater may not be running.")],
      by simp [Run.written], by simp [Event.isLimit], Or.inl ⟨by simp [Event.queued?], rfl, rfl⟩⟩
  | refused =>
    refine ⟨[.check d (.ok ()), .submit v.url d (.ok .refused),
      .outcome d (.skipped "Queue request was rejected.")],
      by simp [Run.written], by simp [Event.isLimit], Or.inl ⟨by simp [Event.queued?], rfl, rfl⟩⟩
  | failed e =>
    refine ⟨[.check d (.ok ()), .submit v.url d (.error e), .outcome d (.skipped e.message)],
      by simp [Run.written], by simp [Event.isLimit], Or.inl ⟨by simp [Event.queued?], rfl, rfl⟩⟩

/-! ### The counters between scopes -/

/-- Between queue actions with limits, as the trace describes the counters: no scope is open,
the persistent counter has counted every video queued in the run, and the bounds have held. -/
structure Unscoped (C : Nat) (D : Span) (s : RunState) : Prop where
  noScope : s.admission.temporary = none
  persistent : s.admission.persistent = Counter.ofQueued C D (queuedIn s.events)
  closed : ¬InScope s.events
  bounds : (queuedIn s.events).length < 2 ^ 32 → LimitsHold C D s.events

namespace Unscoped

variable {C : Nat} {D : Span} {s : RunState}

theorem frame (hs : Unscoped C D s) {t : RunState} (ha : t.admission = s.admission)
    (he : t.events = s.events) : Unscoped C D t :=
  ⟨by rw [ha]; exact hs.noScope, by rw [ha, he]; exact hs.persistent, by rw [he]; exact hs.closed,
    by rw [he]; exact hs.bounds⟩

theorem append (hs : Unscoped C D s) {t : RunState} (new : List Event)
    (hp : t.admission.persistent = s.admission.persistent)
    (ht : t.admission.temporary = s.admission.temporary) (he : t.events = s.events ++ new)
    (hlimit : ∀ e ∈ new, e.isLimit = false) (hq : queuedIn new = []) : Unscoped C D t := by
  refine ⟨ht.trans hs.noScope, ?_, he ▸ not_inScope_append new hs.closed hlimit,
    he ▸ LimitsHold.append_of_short hs.bounds new hq⟩
  rw [hp, hs.persistent, he, queuedIn_append, hq, List.append_nil]

theorem walkable : Walkable fun s t => Unscoped C D s → Unscoped C D t :=
  Walkable.invariant (fun _ _ hs => hs.frame rfl rfl) fun _ r hs =>
    hs.append [.request r] rfl rfl rfl (by simp [Event.isLimit]) (by simp [Event.queued?])

/-- A decision outside skip mode keeps the counters as the trace describes them: a video it
queues was admitted by the persistent counter, which counts it. -/
theorem written {srv : Server} {mode : RunMode} {v : Video} {d : MediaInfo} {t : RunState}
    {r : Except Failure Outcome} (hskip : mode.skip = false) (hs : Unscoped C D s)
    (h : Resolved srv mode v d s r t) : Unscoped C D (Run.written d r t) := by
  obtain ⟨new, hevents, hlimit, hcase⟩ := h.effect hskip
  rcases hcase with ⟨hq, hpersistent, htemporary⟩ | ⟨hcheck, before, note, rfl, hq, records, ha⟩
  · -- nothing queued and nothing counted
    exact hs.append new hpersistent htemporary hevents hlimit hq
  · -- the persistent counter admitted the video, and counts it
    have hadmit : (Counter.ofQueued C D (queuedIn s.events)).check d.runtime = .ok () := by
      simpa [Admission.active, hs.noScope, hs.persistent] using Admission.check_active hcheck
    have hbefore : ∀ e ∈ before, e.isLimit = false := fun e he => hlimit e (by simp [he])
    rw [Admission.count_of_none (by exact hs.noScope)] at ha
    refine ⟨by rw [ha]; exact hs.noScope, ?_, hevents ▸ not_inScope_append _ hs.closed hlimit, ?_⟩
    · rw [ha, hevents]
      simp [hs.persistent, Counter.add_ofQueued, hq, Event.queued?]
    · rw [hevents, ← List.append_assoc]
      intro hshort
      have hshort' : (queuedIn s.events).length < 2 ^ 32 := by
        simp only [queuedIn_append, hq, List.append_nil, List.length_append] at hshort
        omega
      refine ((hs.bounds hshort').append before hq).snoc fun m note' he => ?_
      cases he
      refine ⟨fun b c d' mid hsplit hlimits hrelease => ?_, fun _ => ?_⟩
      · exact absurd ⟨b, c, d', mid, hsplit, hlimits, hrelease⟩
          (not_inScope_append before hs.closed hbefore)
      · simpa [hq] using Counter.withinLimits_of_check _ _ _ hshort' hadmit

end Unscoped

/-! ### The counters inside a scope -/

/-- Inside the queue action that entered the limits `c` and `d`, not both zero, after the events
`before`: the persistent counter has counted the videos queued before the action, the scope's
counter those queued since it entered its limits, and the bounds have held. -/
structure Scoped (C : Nat) (D : Span) (before : List Event) (c : Nat) (d : Span)
    (s : RunState) : Prop where
  limits : ¬(c = 0 ∧ d.isZero = true)
  closedBefore : ¬InScope before
  persistent : s.admission.persistent = Counter.ofQueued C D (queuedIn before)
  scope : ∃ mid, s.events = before ++ .enterLimits c d :: mid ∧ (∀ e ∈ mid, e.isLimit = false) ∧
    s.admission.temporary = some (Counter.ofQueued c d (queuedIn mid))
  bounds : (queuedIn s.events).length < 2 ^ 32 → LimitsHold C D s.events

namespace Scoped

variable {C : Nat} {D : Span} {before : List Event} {c : Nat} {d : Span} {s : RunState}

theorem frame (hs : Scoped C D before c d s) {t : RunState} (ha : t.admission = s.admission)
    (he : t.events = s.events) : Scoped C D before c d t :=
  ⟨hs.limits, hs.closedBefore, by rw [ha]; exact hs.persistent,
    by rw [ha, he]; exact hs.scope, by rw [he]; exact hs.bounds⟩

theorem append (hs : Scoped C D before c d s) {t : RunState} (new : List Event)
    (hp : t.admission.persistent = s.admission.persistent)
    (ht : t.admission.temporary = s.admission.temporary) (he : t.events = s.events ++ new)
    (hlimit : ∀ e ∈ new, e.isLimit = false) (hq : queuedIn new = []) : Scoped C D before c d t := by
  obtain ⟨mid, hmid, hmidLimit, htemp⟩ := hs.scope
  refine ⟨hs.limits, hs.closedBefore, hp.trans hs.persistent, ⟨mid ++ new, ?_, ?_, ?_⟩,
    he ▸ LimitsHold.append_of_short hs.bounds new hq⟩
  · rw [he, hmid]
    simp
  · exact fun e he => (List.mem_append.1 he).elim (hmidLimit e) (hlimit e)
  · rw [ht, htemp]
    simp [hq]

theorem walkable : Walkable fun s t => Scoped C D before c d s → Scoped C D before c d t :=
  Walkable.invariant (fun _ _ hs => hs.frame rfl rfl) fun _ r hs =>
    hs.append [.request r] rfl rfl rfl (by simp [Event.isLimit]) (by simp [Event.queued?])

/-- A decision outside skip mode keeps the counters as the trace describes them: a video it
queues was admitted by the scope's counter, which counts it. -/
theorem written {srv : Server} {mode : RunMode} {v : Video} {m : MediaInfo} {t : RunState}
    {r : Except Failure Outcome} (hskip : mode.skip = false) (hs : Scoped C D before c d s)
    (h : Resolved srv mode v m s r t) : Scoped C D before c d (Run.written m r t) := by
  obtain ⟨new, hevents, hlimit, hcase⟩ := h.effect hskip
  rcases hcase with ⟨hq, hpersistent, htemporary⟩ | ⟨hcheck, pre, note, rfl, hq, records, ha⟩
  · -- nothing queued and nothing counted
    exact hs.append new hpersistent htemporary hevents hlimit hq
  · -- the scope's counter admitted the video, and counts it
    obtain ⟨mid, hmid, hmidLimit, htemp⟩ := hs.scope
    have hadmit : (Counter.ofQueued c d (queuedIn mid)).check m.runtime = .ok () := by
      simpa [Admission.active, htemp] using Admission.check_active hcheck
    have hmidPre : ∀ e ∈ mid ++ pre, e.isLimit = false := fun e he =>
      (List.mem_append.1 he).elim (hmidLimit e) fun he => hlimit e (by simp [he])
    have hopen : s.events ++ pre = before ++ .enterLimits c d :: (mid ++ pre) := by
      rw [hmid]
      simp
    rw [Admission.count_of_some (by exact htemp)] at ha
    refine ⟨hs.limits, hs.closedBefore, by rw [ha]; exact hs.persistent,
      ⟨mid ++ pre ++ [.outcome m (.queued note)], ?_, ?_, ?_⟩, ?_⟩
    · rw [hevents, ← List.append_assoc, hopen]
      simp
    · intro e he
      rcases List.mem_append.1 he with he | he
      · exact hmidPre e he
      · rw [List.mem_singleton.1 he]
        rfl
    · rw [ha]
      simp [Counter.add_ofQueued, hq, Event.queued?]
    · rw [hevents, ← List.append_assoc]
      intro hshort
      have hshort' : (queuedIn s.events).length < 2 ^ 32 := by
        simp only [queuedIn_append, hq, List.append_nil, List.length_append] at hshort
        omega
      -- the scope's videos are among the run's
      have hmidShort : (queuedIn mid).length < 2 ^ 32 := by
        rw [hmid] at hshort'
        simp only [queuedIn_append, queuedIn_cons, List.length_append] at hshort'
        omega
      refine ((hs.bounds hshort').append pre hq).snoc fun m' note' he => ?_
      cases he
      refine ⟨fun b c' d' mid' hsplit hlimits hrelease => ?_, fun hclosed => ?_⟩
      · -- the open scope is the one this action entered
        obtain ⟨rfl, rfl, rfl, rfl⟩ :=
          inScope_unique hs.closedBefore hmidPre (hopen.symm.trans hsplit) hlimits hrelease
        simpa [hq] using Counter.withinLimits_of_check _ _ _ hmidShort hadmit
      · exact absurd ⟨before, c, d, mid ++ pre, hopen, hs.limits,
          fun g hg => by simpa [Event.isLimit] using hmidPre _ hg⟩ hclosed

end Scoped

/-! ### Entering and releasing limits -/

namespace Unscoped

variable {C : Nat} {D : Span} {s : RunState} {c : Nat} {d : Span}

theorem enterLimits_unlimited (hs : Unscoped C D s) (hz : c = 0 ∧ d.isZero = true) :
    Unscoped C D (s.enterLimits c d) := by
  have ha : (s.admission.enterScope c d).1 = s.admission := by simp [Admission.enterScope, hz]
  refine ⟨by simp [ha, hs.noScope], by simp [ha, hs.persistent, Event.queued?],
    not_inScope_snoc hs.closed fun c' d' he => ?_, ?_⟩
  · cases he
    exact hz
  · exact LimitsHold.append_of_short hs.bounds [.enterLimits c d] (by simp [Event.queued?])

theorem enterLimits (hs : Unscoped C D s) (hz : ¬(c = 0 ∧ d.isZero = true)) :
    Scoped C D s.events c d (s.enterLimits c d) := by
  have ha : (s.admission.enterScope c d).1 =
      { s.admission with temporary := some (Counter.ofQueued c d []) } := by
    rw [Admission.enterScope, if_neg hz]
    simp [hs.noScope, Counter.ofQueued]
  refine ⟨hz, hs.closed, by simp [ha, hs.persistent], ⟨[], by simp, by simp, by simp [ha]⟩, ?_⟩
  exact LimitsHold.append_of_short hs.bounds [.enterLimits c d] (by simp [Event.queued?])

theorem releaseLimits_unopened (hs : Unscoped C D s) : Unscoped C D (s.releaseLimits ⟨false⟩) := by
  refine ⟨by simp [Admission.release, hs.noScope], ?_, not_inScope_release _ _, ?_⟩
  · simp [Admission.release, hs.persistent, Event.queued?]
  · exact LimitsHold.append_of_short hs.bounds [.releaseLimits ⟨false⟩] (by simp [Event.queued?])

end Unscoped

/-- The guard that opened a scope closes it, and the scope's counts are folded into the
persistent counter after those of the run before it. -/
theorem Scoped.releaseLimits {C : Nat} {D : Span} {before : List Event} {c : Nat} {d : Span}
    {s : RunState} (hs : Scoped C D before c d s) : Unscoped C D (s.releaseLimits ⟨true⟩) := by
  obtain ⟨mid, hmid, -, htemp⟩ := hs.scope
  have ha : s.admission.release ⟨true⟩ = { s.admission with
      persistent := s.admission.persistent.absorb (Counter.ofQueued c d (queuedIn mid)),
      temporary := none } := by
    simp [Admission.release, Admission.closeScope, htemp]
  refine ⟨by simp [ha], ?_, not_inScope_release _ _, ?_⟩
  · simp [ha, hs.persistent, Counter.absorb_ofQueued, hmid, Event.queued?]
  · exact LimitsHold.append_of_short hs.bounds [.releaseLimits ⟨true⟩] (by simp [Event.queued?])

/-! ### Runs -/

section

variable {C : Nat} {D : Span} {mode : RunMode} (hskip : mode.skip = false) (srv : Server)
include hskip

/-- A queue action keeps the counters as the trace describes them. Limits that are both zero
leave the persistent counter deciding; other limits hand the decisions to a scope, whose counts
are folded back when its guard is let go. -/
theorem Keeps.queue_unscoped (k s : Nat) (f : Folder) (sel : Selection) (c : Nat) (d : Span) :
    Layout.LaysOut (fun s t => Unscoped C D s → Unscoped C D t) k (k + 1 + s)
      (Action.layout k s (.queue sel c d)) (Run.actionOn srv mode f (.queue sel c d)) := by
  by_cases hz : c = 0 ∧ d.isZero = true
  · -- limits that are both zero leave the persistent counter deciding
    have hR' : ∀ _ : RunState, Walkable fun u t => Unscoped C D u → Unscoped C D t :=
      fun _ => Unscoped.walkable
    refine Layout.LaysOut.queue srv mode hR' (fun _ _ _ _ _ _ h hu => hu.written hskip h) k s f sel
      c d fun s t inside hs => ?_
    have hguard : (s.admission.enterScope c d).2 = ⟨false⟩ := by simp [Admission.enterScope, hz]
    rw [hguard]
    exact (inside (hs.enterLimits_unlimited hz)).releaseLimits_unopened
  · -- inside the limits a scope decides, counting from the events before the action
    have hR' : ∀ s₀ : RunState,
        Walkable fun u t => Scoped C D s₀.events c d u → Scoped C D s₀.events c d t :=
      fun _ => Scoped.walkable
    refine Layout.LaysOut.queue srv mode hR' (fun _ _ _ _ _ _ h hu => hu.written hskip h) k s f sel
      c d fun s t inside hs => ?_
    have hguard : (s.admission.enterScope c d).2 = ⟨true⟩ := by
      rw [Admission.enterScope, if_neg hz]
      simp [hs.noScope]
    rw [hguard]
    exact (inside (hs.enterLimits hz)).releaseLimits

theorem Unscoped.pass (p : Pass) {s : RunState} (hs : Unscoped C D s) :
    Unscoped C D ((Run.pass srv mode p).run s).2 :=
  Run.pass_keeps srv mode p (fun _ _ ha he hs => hs.frame ha he)
    (Layout.LaysOut.walk Unscoped.walkable srv mode (Keeps.queue_unscoped hskip srv) p).keeps hs

theorem Unscoped.passes (ps : List Pass) {s : RunState} (hs : Unscoped C D s) :
    Unscoped C D ((Run.passes srv mode ps).run s).2 := by
  induction ps generalizing s with
  | nil => exact hs
  | cons p ps ih => exact ih (Unscoped.pass hskip srv p hs)

end

/-- With no limits entered anywhere, the bound at the last queued video covers the whole run. -/
theorem LimitsHold.whole {C : Nat} {D : Span} {es : List Event} (h : LimitsHold C D es)
    (hunlimited : ∀ c d, .enterLimits c d ∈ es → c = 0 ∧ d.isZero = true) :
    WithinLimits C D (queuedIn es) := by
  induction es using List.reverseRecOn with
  | nil => exact WithinLimits.nil C D
  | append_singleton es e ih =>
    cases hq : e.queued? with
    | none =>
      simpa [hq] using ih h.of_append fun c d he => hunlimited c d (by simp [he])
    | some m =>
      obtain ⟨note, rfl⟩ := Event.queued?_eq_some.1 hq
      have hclosed : ¬InScope es := by
        rintro ⟨before, c, d, mid, rfl, hlimits, -⟩
        exact hlimits (hunlimited c d (by simp))
      simpa [Event.queued?] using h.outside es m note [] rfl hclosed

/-- Outside skip mode, a run from an admission state with the run limits `C` and `D` and nothing
counted yet, that queues fewer than `2 ^ 32` videos, keeps both bounds at every point of its
events; when no queue action has limits, the whole run queues at most `C` videos with at most
`D` of runtime. -/
theorem runPasses_within_limits (srv : Server) (mode : RunMode) (hskip : mode.skip = false)
    (records : RecordList) (C : Nat) (D : Span) (ps : List Pass) :
    let es := (runPasses srv mode
      { records, persistent := { countLimit := C, durationLimit := D } } ps).events
    (queuedIn es).length < 2 ^ 32 →
      LimitsHold C D es ∧
        ((∀ c d, .enterLimits c d ∈ es → c = 0 ∧ d.isZero = true) →
          WithinLimits C D (queuedIn es)) := by
  intro es hshort
  have hstart : Unscoped C D
      { admission := { records, persistent := { countLimit := C, durationLimit := D } } } :=
    ⟨rfl, rfl, not_inScope_nil, fun _ => LimitsHold.nil⟩
  have hbounds := (Unscoped.passes hskip srv ps hstart).bounds hshort
  exact ⟨hbounds, hbounds.whole⟩

/-- A preview within one video and an hour on a server whose root lists two videos of an hour
each, under a queue action of its own limit of one video. -/
theorem runPasses_within_limits_preview :
    let srv : Server :=
      { catalog := fun _ => .ok (.folder (.mk "Root" "/root" false
          (some [.video ⟨"A", "/a", none⟩, .video ⟨"B", "/b", none⟩])))
        items := fun _ _ => .ok [], search := fun _ _ _ => .ok []
        details := fun _ url => .ok { title := url, runTime := "01:00:00" }
        submit := fun _ _ => .ok .accepted, received := fun _ => [] }
    let es := (runPasses srv {}
      { records := .empty .memory, persistent := { countLimit := 1, durationLimit := .ofSecs 3600 } }
      [⟨"Weekly", true, [.queue ⟨"*", "", false⟩ 1 .zero]⟩]).events
    ({} : RunMode).skip = false ∧ (queuedIn es).length < 2 ^ 32 ∧
      LimitsHold 1 (.ofSecs 3600) es ∧
        ((∀ c d, .enterLimits c d ∈ es → c = 0 ∧ d.isZero = true) →
          WithinLimits 1 (.ofSecs 3600) (queuedIn es)) :=
  ⟨rfl, by decide +kernel, runPasses_within_limits _ _ rfl _ _ _ _ (by decide +kernel)⟩

end CatalogQueue
