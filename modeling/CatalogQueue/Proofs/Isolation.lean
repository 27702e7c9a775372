import CatalogQueue.Proofs.Counting
import CatalogQueue.Proofs.Walk

/-!
Passes are isolated from each other: however a pass ends, it leaves both log depths where they
were, no temporary limits open, and the persistent counter grown by the videos it counted.
-/

namespace CatalogQueue

/-! ### The journal -/

/-- `j'` continues `j`: the same depths, and both logs only grew. -/
structure Journal.Extends (j j' : Journal) : Prop where
  depth : j'.depth = j.depth
  verboseDepth : j'.verboseDepth = j.verboseDepth
  quiet : j.quiet.toList <+: j'.quiet.toList
  verbose : j.verbose.toList <+: j'.verbose.toList

namespace Journal.Extends

variable {j j' j'' : Journal}

theorem refl (j : Journal) : j.Extends j :=
  ⟨rfl, rfl, List.prefix_refl _, List.prefix_refl _⟩

theorem trans (h : j.Extends j') (h' : j'.Extends j'') : j.Extends j'' :=
  ⟨h'.depth.trans h.depth, h'.verboseDepth.trans h.verboseDepth, h.quiet.trans h'.quiet,
    h.verbose.trans h'.verbose⟩

theorem log (j : Journal) (m : String) : j.Extends (j.log m) :=
  ⟨rfl, rfl, by simp, by simp⟩

theorem logVerbose (j : Journal) (m : String) : j.Extends (j.logVerbose m) :=
  ⟨rfl, rfl, by simp, by simp⟩

theorem leave_of_enter (n : Nesting) (h : (j.enter n).Extends j') : j.Extends (j'.leave n) := by
  obtain ⟨hdepth, hverbose, hquiet, hverboseLines⟩ := h
  refine ⟨?_, ?_, by simpa using hquiet, by simpa using hverboseLines⟩
  · cases n <;> simp_all [Journal.enter, Journal.leave]
  · cases n <;> simp_all [Journal.enter, Journal.leave]

end Journal.Extends

theorem Journal.extends_walkable : Walkable fun s t => s.journal.Extends t.journal where
  refl s := Journal.Extends.refl s.journal
  trans h h' := h.trans h'
  log s m := Journal.Extends.log s.journal m
  logVerbose s m := Journal.Extends.logVerbose s.journal m
  request s _ := Journal.Extends.refl s.journal
  nested n h := Journal.Extends.leave_of_enter n h

theorem Resolved.journal_eq {srv : Server} {mode : RunMode} {v : Video} {d : MediaInfo}
    {s t : RunState} {r : Except Failure Outcome} (h : Resolved srv mode v d s r t) :
    t.journal = s.journal := by
  cases h <;> rfl

theorem Run.written_journal (d : MediaInfo) (r : Except Failure Outcome) (t : RunState) :
    t.journal.Extends (Run.written d r t).journal := by
  cases r with
  | ok o => exact Journal.Extends.log t.journal o.text
  | error _ => exact Journal.Extends.refl t.journal

theorem Keeps.walk_journal (srv : Server) (mode : RunMode) (p : Pass) :
    Keeps (fun s t => s.journal.Extends t.journal) (Run.walk srv mode p) := by
  have hR := Journal.extends_walkable
  refine (Layout.LaysOut.walk hR srv mode (Layout.LaysOut.queue_of hR srv mode ?_
    (fun s _ _ => Journal.Extends.refl s.journal) (fun s _ => Journal.Extends.refl s.journal)) p).keeps
  intro s v d r t h
  rw [← h.journal_eq]
  exact Run.written_journal d r t

/-! ### Temporary limits -/

/-- A temporary scope is open after exactly when one was open before. -/
def ScopeKept (s t : RunState) : Prop := t.admission.hasScope = s.admission.hasScope

theorem ScopeKept.walkable : Walkable ScopeKept where
  refl _ := rfl
  trans h h' := h'.trans h
  log _ _ := rfl
  logVerbose _ _ := rfl
  request _ _ := rfl
  nested _ h := h

theorem Resolved.hasScope_eq {srv : Server} {mode : RunMode} {v : Video} {d : MediaInfo}
    {s t : RunState} {r : Except Failure Outcome} (h : Resolved srv mode v d s r t) :
    t.admission.hasScope = s.admission.hasScope := by
  cases h with
  | skipped a _ hrec => exact Admission.hasScope_record _ _ hrec
  | previewed => exact Admission.hasScope_count _ _
  | queued a _ _ _ _ hrec => exact Admission.hasScope_record _ _ hrec
  | skipRefused | rejected | unrecorded | alreadyQueued | noQueueLink | refused | failed => rfl

theorem Run.written_admission (d : MediaInfo) (r : Except Failure Outcome) (t : RunState) :
    (Run.written d r t).admission = t.admission := by
  cases r <;> rfl

/-- A queue action closes the scope it opened, on both of its exits: the limits are the one
place where the scope changes, and the guard they return undoes exactly that change. -/
theorem Keeps.queue_scope (srv : Server) (mode : RunMode) (k s : Nat) (f : Folder)
    (sel : Selection) (countLimit : Nat) (durationLimit : Span) :
    Layout.LaysOut ScopeKept k (k + 1 + s) (Action.layout k s (.queue sel countLimit durationLimit))
      (Run.actionOn srv mode f (.queue sel countLimit durationLimit)) := by
  refine Layout.LaysOut.queue srv mode (fun _ => ScopeKept.walkable) (fun _ s v d r t h => ?_) k s f
    sel countLimit durationLimit fun s t inside => Admission.hasScope_release_enterScope _ _ _ inside
  -- the matched videos, settled inside the limits, keep the scope the limits set up
  show (Run.written d r t).admission.hasScope = s.admission.hasScope
  rw [Run.written_admission]
  exact h.hasScope_eq

theorem Keeps.walk_scope (srv : Server) (mode : RunMode) (p : Pass) :
    Keeps ScopeKept (Run.walk srv mode p) :=
  (Layout.LaysOut.walk ScopeKept.walkable srv mode (Keeps.queue_scope srv mode) p).keeps

/-! ### What a walk counts -/

/-- From `a` to `a'`, admission counted the videos `ms`: the counters' count grew by their
number, in 32 bits, the counts as numbers by at most that, and the runtime by their runtimes,
added in order. -/
structure Admission.Counted (a : Admission) (ms : List MediaInfo) (a' : Admission) : Prop where
  count : a'.totalCount = a.totalCount + UInt32.ofNat ms.length
  countSum : a'.countSum ≤ a.countSum + ms.length
  duration : a'.totalDuration = ms.foldl addRuntime a.totalDuration

namespace Admission.Counted

variable {a a' a'' : Admission} {ms ms' : List MediaInfo}

theorem nil (a : Admission) : a.Counted [] a :=
  ⟨by simp, Nat.le_refl _, rfl⟩

theorem of_totals (hcount : a'.totalCount = a.totalCount) (hsum : a'.countSum ≤ a.countSum)
    (hduration : a'.totalDuration = a.totalDuration) : a.Counted [] a' :=
  ⟨by simpa using hcount, hsum, hduration⟩

theorem single {m : MediaInfo} (hcount : a'.totalCount = a.totalCount + 1)
    (hsum : a'.countSum ≤ a.countSum + 1)
    (hduration : a'.totalDuration = addRuntime a.totalDuration m) : a.Counted [m] a' :=
  ⟨hcount, hsum, hduration⟩

theorem trans (h : a.Counted ms a') (h' : a'.Counted ms' a'') : a.Counted (ms ++ ms') a'' where
  count := by rw [h'.count, h.count, List.length_append, UInt32.ofNat_add, UInt32.add_assoc]
  countSum := by
    have := h.countSum
    have := h'.countSum
    rw [List.length_append]
    omega
  duration := by rw [h'.duration, h.duration, List.foldl_append]

end Admission.Counted

/-- From `s` to `t` the events only grew, and admission counted exactly the videos that the
new events counted. -/
def CountedBy (s t : RunState) : Prop :=
  ∃ new, t.events = s.events ++ new ∧
    s.admission.Counted (new.filterMap Event.counted?) t.admission

namespace CountedBy

theorem of_events {s t : RunState} (new : List Event) (hevents : t.events = s.events ++ new)
    (hcounted : s.admission.Counted (new.filterMap Event.counted?) t.admission) :
    CountedBy s t :=
  ⟨new, hevents, hcounted⟩

theorem of_uncounted {s t : RunState} (new : List Event) (hevents : t.events = s.events ++ new)
    (hnone : new.filterMap Event.counted? = []) (hadmission : t.admission = s.admission) :
    CountedBy s t :=
  ⟨new, hevents, hnone ▸ hadmission ▸ Admission.Counted.nil s.admission⟩

theorem walkable : Walkable CountedBy where
  refl s := of_uncounted [] (List.append_nil _).symm rfl rfl
  trans := by
    rintro s t u ⟨new, hnew, hcounted⟩ ⟨new', hnew', hcounted'⟩
    refine ⟨new ++ new', by rw [hnew', hnew, List.append_assoc], ?_⟩
    rw [List.filterMap_append]
    exact hcounted.trans hcounted'
  log s _ := of_uncounted [] (List.append_nil _).symm rfl rfl
  logVerbose s _ := of_uncounted [] (List.append_nil _).symm rfl rfl
  request s r := of_uncounted [.request r] rfl rfl rfl
  nested _ h := h

end CountedBy

theorem Resolved.countedBy {srv : Server} {mode : RunMode} {v : Video} {d : MediaInfo}
    {s t : RunState} {r : Except Failure Outcome} (h : Resolved srv mode v d s r t) :
    CountedBy s t := by
  cases h with
  | skipped a _ hrec =>
    exact CountedBy.of_events _ rfl (Admission.Counted.single (Admission.totalCount_record _ _ hrec)
      (Admission.countSum_record _ _ hrec) (Admission.totalDuration_record _ _ hrec))
  | previewed =>
    exact CountedBy.of_events _ rfl (Admission.Counted.single (Admission.totalCount_count _ d)
      (Admission.countSum_count _ d) (Admission.totalDuration_count _ d))
  | queued a _ _ _ _ hrec =>
    exact CountedBy.of_events _ rfl (Admission.Counted.single (Admission.totalCount_record _ _ hrec)
      (Admission.countSum_record _ _ hrec) (Admission.totalDuration_record _ _ hrec))
  | skipRefused | rejected | unrecorded | alreadyQueued | noQueueLink | refused | failed =>
    exact CountedBy.of_uncounted _ rfl rfl rfl

theorem Run.written_countedBy (d : MediaInfo) (r : Except Failure Outcome) (t : RunState) :
    CountedBy t (Run.written d r t) := by
  cases r with
  | ok o => exact CountedBy.of_uncounted [.outcome d o] rfl rfl rfl
  | error _ => exact CountedBy.walkable.refl t

theorem RunState.countedBy_enterLimits (s : RunState) (countLimit : Nat) (durationLimit : Span) :
    CountedBy s (s.enterLimits countLimit durationLimit) :=
  CountedBy.of_events [.enterLimits countLimit durationLimit] rfl
    (Admission.Counted.of_totals (Admission.totalCount_enterScope _ _ _)
      (Nat.le_of_eq (Admission.countSum_enterScope _ _ _)) (Admission.totalDuration_enterScope _ _ _))

theorem RunState.countedBy_releaseLimits (s : RunState) (g : ScopeGuard) :
    CountedBy s (s.releaseLimits g) :=
  CountedBy.of_events [.releaseLimits g] rfl
    (Admission.Counted.of_totals (Admission.totalCount_release _ _)
      (Admission.countSum_release _ _) (Admission.totalDuration_release _ _))

theorem Keeps.walk_countedBy (srv : Server) (mode : RunMode) (p : Pass) :
    Keeps CountedBy (Run.walk srv mode p) := by
  have hR := CountedBy.walkable
  refine (Layout.LaysOut.walk hR srv mode (Layout.LaysOut.queue_of hR srv mode ?_
    RunState.countedBy_enterLimits RunState.countedBy_releaseLimits) p).keeps
  intro s v d r t h
  exact hR.trans h.countedBy (Run.written_countedBy d r t)

/-! ### One pass -/

/-- A pass, from the state it starts in: an enabled pass writes its header, walks, writes the
failure that ended the walk, if one did, and writes its footer. -/
theorem Run.run_pass (srv : Server) (mode : RunMode) (p : Pass) (s : RunState) :
    ((Run.pass srv mode p).run s).2 =
      if p.enabled then
        let walked := (Run.walk srv mode p).exec
          { s with journal := s.journal.log ("Processing pass " ++ Run.quote p.description ++ "...") }
        let ended := match walked.1 with
          | .ok () => { walked.2 with tally := walked.2.tally.passProcessed }
          | .error chain => { walked.2 with journal := walked.2.journal.logError chain,
                                            tally := walked.2.tally.passFailed }
        { ended with journal :=
            ended.journal.log ("Finished processing pass " ++ Run.quote p.description ++ "...") }
      else
        { s with journal := s.journal.log ("Skipping pass " ++ Run.quote p.description ++ "."),
                 tally := s.tally.passSkipped } := by
  cases hp : p.enabled
  · simp [Run.pass, hp]
    rfl
  · -- the walk's exit decides which lines follow it
    have hwalk : ∀ t, StateT.run (ExceptT.run (Run.walk srv mode p)) t = (Run.walk srv mode p).exec t :=
      fun _ => rfl
    rcases h : (Run.walk srv mode p).exec
      { s with journal := s.journal.log ("Processing pass " ++ Run.quote p.description ++ "...") }
      with ⟨_ | ⟨⟩, t⟩ <;> simp [Run.pass, hp, hwalk, h] <;> rfl

/-- A pass keeps every property of the run state that only admission and the events decide and
that its walk keeps: the rest of the pass writes lines and counts passes. -/
theorem Run.pass_keeps {P : RunState → Prop} (srv : Server) (mode : RunMode) (p : Pass)
    (hframe : ∀ s t, t.admission = s.admission → t.events = s.events → P s → P t)
    (hwalk : Keeps (fun s t => P s → P t) (Run.walk srv mode p)) {s : RunState} (hs : P s) :
    P ((Run.pass srv mode p).run s).2 := by
  rw [Run.run_pass]
  cases hp : p.enabled with
  | false => exact hframe s _ rfl rfl hs
  | true =>
    simp only [if_true]
    obtain ⟨started, hstarted⟩ : ∃ started : RunState, started =
        { s with journal := s.journal.log ("Processing pass " ++ Run.quote p.description ++ "...") } :=
      ⟨_, rfl⟩
    rw [← hstarted]
    have hwalked := (hwalk started).1 (hframe s started (by rw [hstarted]) (by rw [hstarted]) hs)
    rcases h : (Run.walk srv mode p).exec started with ⟨_ | ⟨⟩, t⟩ <;> rw [h] at hwalked <;>
      exact hframe t _ rfl rfl hwalked

/-- A state between two passes: both log depths at zero and no temporary limits open. -/
structure RunState.Between (s : RunState) : Prop where
  depth : s.journal.depth = 0
  verboseDepth : s.journal.verboseDepth = 0
  noScope : s.admission.hasScope = false

/-- What one pass, started between passes in `s`, does to the run by the state `t` it leaves,
whether its walk ended normally or failed at any depth. -/
structure PassIsolated (p : Pass) (s t : RunState) : Prop where
  /-- The depths are back at zero and no temporary limits are left open. -/
  between : t.Between
  /-- The persistent counter grew by exactly the videos that the pass's events counted, its
  count wrapping in 32 bits. -/
  counted : ∃ new, t.events = s.events ++ new ∧
    t.admission.persistent.queuedCount.toNat =
      (s.admission.persistent.queuedCount.toNat + (new.filterMap Event.counted?).length) % 2 ^ 32 ∧
    t.admission.persistent.queuedDuration =
      (new.filterMap Event.counted?).foldl addRuntime s.admission.persistent.queuedDuration
  /-- A disabled pass writes one line to each log and does nothing else. -/
  skipped : p.enabled = false →
    t.journal.quiet.toList =
      s.journal.quiet.toList ++ ["Skipping pass " ++ Run.quote p.description ++ "."] ∧
    t.journal.verbose.toList =
      s.journal.verbose.toList ++ ["Skipping pass " ++ Run.quote p.description ++ "."] ∧
    t.events = s.events ∧ t.admission = s.admission
  /-- An enabled pass writes its header first and its footer last on each log, unindented,
  with at most one error line, the same on both logs, just before the footer. -/
  processed : p.enabled = true → ∃ (body verboseBody : List String) (failure : Option Failure),
    t.journal.quiet.toList = s.journal.quiet.toList ++
      ("Processing pass " ++ Run.quote p.description ++ "...") :: body ++
      failure.toList.map (fun chain =>
        "The following exception has occurred: " ++ Journal.errorText chain) ++
      ["Finished processing pass " ++ Run.quote p.description ++ "..."] ∧
    t.journal.verbose.toList = s.journal.verbose.toList ++
      ("Processing pass " ++ Run.quote p.description ++ "...") :: verboseBody ++
      failure.toList.map (fun chain =>
        "The following exception has occurred: " ++ Journal.errorText chain) ++
      ["Finished processing pass " ++ Run.quote p.description ++ "..."]

namespace Admission

variable {a : Admission}

theorem totalCount_of_not_hasScope (h : a.hasScope = false) :
    a.totalCount = a.persistent.queuedCount := by
  have hnone : a.temporary = none := by simpa [hasScope] using h
  simp [totalCount, hnone]

theorem totalDuration_of_not_hasScope (h : a.hasScope = false) :
    a.totalDuration = a.persistent.queuedDuration := by
  have hnone : a.temporary = none := by simpa [hasScope] using h
  simp [totalDuration, hnone]

/-- With no scope open at either end, the persistent counter counted the videos alone: its count
grew by their number, wrapping in 32 bits. -/
theorem Counted.persistent {a' : Admission} {ms : List MediaInfo} (h : a.Counted ms a')
    (ha : a.hasScope = false) (ha' : a'.hasScope = false) :
    a'.persistent.queuedCount.toNat = (a.persistent.queuedCount.toNat + ms.length) % 2 ^ 32 ∧
      a'.persistent.queuedDuration = ms.foldl addRuntime a.persistent.queuedDuration := by
  have hcount := h.count
  rw [totalCount_of_not_hasScope ha, totalCount_of_not_hasScope ha'] at hcount
  rw [← totalDuration_of_not_hasScope ha, ← totalDuration_of_not_hasScope ha']
  refine ⟨?_, h.duration⟩
  rw [hcount, UInt32.toNat_add, UInt32.toNat_ofNat', Nat.add_mod_mod]

end Admission

/-- A pass started between passes is isolated, whichever way its walk ends: the walk keeps the
journal going, its scope closed and its counts in its events, and the pass only adds its header,
its footer and the failure, if there is one. -/
theorem pass_isolated (srv : Server) (mode : RunMode) (p : Pass) {s : RunState}
    (hs : s.Between) : PassIsolated p s ((Run.pass srv mode p).run s).2 := by
  rw [Run.run_pass]
  cases hp : p.enabled with
  | false =>
    refine ⟨⟨?_, ?_, ?_⟩, ⟨[], ?_⟩, fun _ => ?_, (fun h => nomatch hp.symm.trans h)⟩ <;>
      simp [hs.depth, hs.verboseDepth, hs.noScope]
  | true =>
    simp only [if_true]
    obtain ⟨started, hstarted⟩ : ∃ started : RunState, started =
        { s with journal := s.journal.log ("Processing pass " ++ Run.quote p.description ++ "...") } :=
      ⟨_, rfl⟩
    rw [← hstarted]
    obtain ⟨r, t, hwalk⟩ : ∃ r t, (Run.walk srv mode p).exec started = (r, t) := ⟨_, _, rfl⟩
    have hjournal : started.journal.Extends t.journal := (Keeps.walk_journal srv mode p).of_exec hwalk
    have hscope : ScopeKept started t := (Keeps.walk_scope srv mode p).of_exec hwalk
    have hcounted : CountedBy started t := (Keeps.walk_countedBy srv mode p).of_exec hwalk
    rw [hwalk]
    subst hstarted
    obtain ⟨new, hnew, hcount⟩ := hcounted
    obtain ⟨body, hbody⟩ := hjournal.quiet
    obtain ⟨verboseBody, hverboseBody⟩ := hjournal.verbose
    have hdepth : t.journal.depth = 0 := hjournal.depth.trans hs.depth
    have hverboseDepth : t.journal.verboseDepth = 0 := hjournal.verboseDepth.trans hs.verboseDepth
    have hnoScope : t.admission.hasScope = false := hscope.trans hs.noScope
    -- the two exits differ only in the error line before the footer
    cases r with
    | error chain =>
      refine ⟨⟨?_, ?_, ?_⟩, ⟨new, hnew, hcount.persistent hs.noScope hnoScope⟩,
        (fun h => nomatch hp.symm.trans h), fun _ => ⟨body, verboseBody, some chain, ?_, ?_⟩⟩
      all_goals simp [Journal.logError, hdepth, hverboseDepth, hnoScope, ← hbody, ← hverboseBody,
        hs.depth, hs.verboseDepth]
    | ok u =>
      refine ⟨⟨?_, ?_, ?_⟩, ⟨new, hnew, hcount.persistent hs.noScope hnoScope⟩,
        (fun h => nomatch hp.symm.trans h), fun _ => ⟨body, verboseBody, none, ?_, ?_⟩⟩
      all_goals simp [hdepth, hverboseDepth, hnoScope, ← hbody, ← hverboseBody, hs.depth,
        hs.verboseDepth]

/-! ### A run -/

theorem Run.passes_append (srv : Server) (mode : RunMode) (ps qs : List Pass) (s : RunState) :
    ((Run.passes srv mode (ps ++ qs)).run s).2 =
      ((Run.passes srv mode qs).run ((Run.passes srv mode ps).run s).2).2 := by
  induction ps generalizing s with
  | nil => rfl
  | cons p ps ih => exact ih ((Run.pass srv mode p).run s).2

theorem RunState.Between.passes (srv : Server) (mode : RunMode) (ps : List Pass) {s : RunState}
    (hs : s.Between) : ((Run.passes srv mode ps).run s).2.Between := by
  induction ps generalizing s with
  | nil => exact hs
  | cons p ps ih => exact ih (pass_isolated srv mode p hs).between

/-- In a run from admission with no temporary limits open, every pass starts between passes,
however the passes before it ended, and is isolated; the run then goes on with the passes after
it from the state it left. -/
theorem runPasses_isolates_each_pass (srv : Server) (mode : RunMode) (a : Admission)
    (ha : a.hasScope = false) (before : List Pass) (p : Pass) (after : List Pass) :
    let s := runPasses srv mode a before
    let t := ((Run.pass srv mode p).run s).2
    s.Between ∧ PassIsolated p s t ∧
      runPasses srv mode a (before ++ p :: after) = ((Run.passes srv mode after).run t).2 := by
  intro s t
  have hs : s.Between := RunState.Between.passes srv mode before ⟨rfl, rfl, ha⟩
  refine ⟨hs, pass_isolated srv mode p hs, ?_⟩
  exact Run.passes_append srv mode before (p :: after) { admission := a }

/-- A preview on a server whose root lists two videos: a disabled pass, then a pass that queues
both under a count limit of one, so that its scope admits one and refuses the other. -/
theorem runPasses_isolates_scoped_preview :
    let srv : Server :=
      { catalog := fun _ => .ok (.folder (.mk "Root" "/root" false
          (some [.video ⟨"A", "/a", none⟩, .video ⟨"B", "/b", none⟩])))
        items := fun _ _ => .ok [], search := fun _ _ _ => .ok []
        details := fun _ url => .ok { title := url }, submit := fun _ _ => .ok .accepted
        received := fun _ => [] }
    let a := Admission.ofRecords (.empty .memory)
    let p : Pass := ⟨"Weekly", true, [.queue ⟨"*", "", false⟩ 1 .zero]⟩
    a.hasScope = false ∧
      let s := runPasses srv {} a [⟨"Old", false, []⟩]
      let t := ((Run.pass srv {} p).run s).2
      s.Between ∧ PassIsolated p s t ∧
        runPasses srv {} a ([⟨"Old", false, []⟩] ++ [p]) = ((Run.passes srv {} []).run t).2 := by
  intro srv a p
  exact ⟨rfl, runPasses_isolates_each_pass srv {} a rfl [⟨"Old", false, []⟩] p []⟩

end CatalogQueue
