import CatalogQueue.Proofs.Isolation

/-!
The counters of a run, accounted for by the outcome lines it wrote: every decision that returns
writes one outcome line and moves one video counter, and admission counts exactly the videos
whose line is `Queued`, `Queued: Pending queue mode.` or `Skipped: Manually skipped.`.
-/

namespace CatalogQueue

/-! ### Outcome lines -/

def Event.outcome? : Event → Option (MediaInfo × Outcome)
  | .outcome m o => some (m, o)
  | _ => none

/-- Whether an event is a submission that the server did not take: the video has no queue
link, or the server refused it, or the call failed. -/
def Event.isFailedSubmission : Event → Bool
  | .submit _ _ (.ok .noQueueLink) => true
  | .submit _ _ (.ok .refused) => true
  | .submit _ _ (.error _) => true
  | _ => false

def outcomeLines (es : List Event) : List String := (es.filterMap Event.outcome?).map (·.2.text)

def isSkippedLine (line : String) : Bool := "Skipped: ".toList.isPrefixOf line.toList

def countedLines : List String :=
  ["Queued", "Queued: Pending queue mode.", "Skipped: Manually skipped."]

def countedVideos (es : List Event) : List MediaInfo :=
  ((es.filterMap Event.outcome?).filter (fun x => countedLines.contains x.2.text)).map (·.1)

@[simp] theorem outcomeLines_nil : outcomeLines [] = [] := rfl

@[simp] theorem outcomeLines_append (es es' : List Event) :
    outcomeLines (es ++ es') = outcomeLines es ++ outcomeLines es' := by
  simp [outcomeLines]

@[simp] theorem countedVideos_nil : countedVideos [] = [] := rfl

@[simp] theorem countedVideos_append (es es' : List Event) :
    countedVideos (es ++ es') = countedVideos es ++ countedVideos es' := by
  simp [countedVideos]

/-! ### The texts of outcome lines -/

theorem Outcome.text_skipped {note : String} (h : note ≠ "") :
    (Outcome.skipped note).text = "Skipped: " ++ note := by
  simp [Outcome.text, h]

theorem skipped_ne_queued (note : String) :
    "Skipped: " ++ note ≠ "Queued" ∧ "Skipped: " ++ note ≠ "Queued: Pending queue mode." := by
  constructor <;> intro h <;> simpa using congrArg (·.toList.head?) h

/-- The message of a server error is no reason that a video was skipped by hand, nor empty:
it starts with its own words. -/
theorem ServerError.message_ne (e : ServerError) :
    e.message ≠ "" ∧ e.message ≠ "Manually skipped." := by
  -- the messages are read off by `show`: unfolding `message` by its equations is slow
  have hhead : ∃ c, e.message.toList.head? = some c ∧ c ≠ 'M' := by
    cases e with
    | unavailable causes =>
      refine ⟨'P', ?_, by decide⟩
      show ("PlayOn server unavailable: " ++ causes.headD "").toList.head? = _
      simp
    | status code url =>
      refine ⟨'P', ?_, by decide⟩
      show ("PlayOn server returned HTTP " ++ toString code ++ " for " ++ url).toList.head? = _
      simp only [String.append_assoc, String.toList_append]
      simp
    | invalidResponse detail =>
      refine ⟨'I', ?_, by decide⟩
      show ("Invalid PlayOn response: " ++ detail).toList.head? = _
      simp
    | unhandledNode kind =>
      refine ⟨'U', ?_, by decide⟩
      show ("Unhandled node type: " ++ kind).toList.head? = _
      simp
  obtain ⟨c, hc, hM⟩ := hhead
  constructor <;> intro h <;> rw [h] at hc
  · simp at hc
  · exact hM (by simpa using hc.symm)

theorem isSkippedLine_skipped (note : String) : isSkippedLine ("Skipped: " ++ note) = true := by
  simp [isSkippedLine]

theorem countedLines_skipped (note : String) :
    countedLines.contains ("Skipped: " ++ note) = true ↔ note = "Manually skipped." := by
  obtain ⟨hqueued, hpreviewed⟩ := skipped_ne_queued note
  rw [← String.append_right_inj "Skipped: "]
  simp [countedLines, hqueued, hpreviewed]

/-! ### Counters accounted for by events -/

/-- From `before` to `after` the video counters grew by what the events `new` account for: each
outcome line moves the counter of its kind and the videos seen; each submission the server did
not take counts as a failure, never more of them than skipped lines; and admission counted
exactly the videos whose lines are counted lines, in order. -/
structure Accounts (new : List Event) (before after : Tally) : Prop where
  queued : after.videosQueued = before.videosQueued + (outcomeLines new).count "Queued"
  previewed : after.videosPreviewed =
    before.videosPreviewed + (outcomeLines new).count "Queued: Pending queue mode."
  skipped : after.videosSkipped = before.videosSkipped + (outcomeLines new).countP isSkippedLine
  seen : after.videosSeen = before.videosSeen + (outcomeLines new).length
  failures : after.queueFailures = before.queueFailures + new.countP Event.isFailedSubmission
  failures_le : new.countP Event.isFailedSubmission ≤ (outcomeLines new).countP isSkippedLine
  counted : new.filterMap Event.counted? = countedVideos new

namespace Accounts

theorem nil (t : Tally) : Accounts [] t t where
  queued := rfl
  previewed := rfl
  skipped := rfl
  seen := rfl
  failures := rfl
  failures_le := Nat.le_refl _
  counted := rfl

theorem trans {new new' : List Event} {a b c : Tally} (h : Accounts new a b)
    (h' : Accounts new' b c) : Accounts (new ++ new') a c where
  queued := by rw [h'.queued, h.queued, outcomeLines_append, List.count_append, Nat.add_assoc]
  previewed := by
    rw [h'.previewed, h.previewed, outcomeLines_append, List.count_append, Nat.add_assoc]
  skipped := by rw [h'.skipped, h.skipped, outcomeLines_append, List.countP_append, Nat.add_assoc]
  seen := by rw [h'.seen, h.seen, outcomeLines_append, List.length_append, Nat.add_assoc]
  failures := by rw [h'.failures, h.failures, List.countP_append, Nat.add_assoc]
  failures_le := by
    rw [outcomeLines_append, List.countP_append, List.countP_append]
    exact Nat.add_le_add h.failures_le h'.failures_le
  counted := by rw [List.filterMap_append, h.counted, h'.counted, countedVideos_append]

/-- Events that write no outcome line, make no failed submission and count no video account for
unchanged counters. -/
theorem of_quiet {new : List Event} {t : Tally} (hout : new.filterMap Event.outcome? = [])
    (hfail : new.countP Event.isFailedSubmission = 0) (hcount : new.filterMap Event.counted? = []) :
    Accounts new t t := by
  have hlines : outcomeLines new = [] := by simp [outcomeLines, hout]
  have hvideos : countedVideos new = [] := by simp [countedVideos, hout]
  exact ⟨by simp [hlines], by simp [hlines], by simp [hlines], by simp [hlines],
    by simp [hfail], by simp [hfail], by rw [hcount, hvideos]⟩

theorem of_videos {new : List Event} {a b b' : Tally} (h : Accounts new a b)
    (hqueued : b'.videosQueued = b.videosQueued) (hpreviewed : b'.videosPreviewed = b.videosPreviewed)
    (hskipped : b'.videosSkipped = b.videosSkipped) (hfailures : b'.queueFailures = b.queueFailures) :
    Accounts new a b' where
  queued := hqueued.trans h.queued
  previewed := hpreviewed.trans h.previewed
  skipped := hskipped.trans h.skipped
  seen := by rw [← h.seen]; simp only [Tally.videosSeen, hqueued, hpreviewed, hskipped]
  failures := hfailures.trans h.failures
  failures_le := h.failures_le
  counted := h.counted

end Accounts

/-- From `s` to `t` the events only grew, the new events account for the video counters, and no
pass was counted. -/
structure Accounted (s t : RunState) : Prop where
  events : ∃ new, t.events = s.events ++ new ∧ Accounts new s.tally t.tally
  passesProcessed : t.tally.passesProcessed = s.tally.passesProcessed
  passesSkipped : t.tally.passesSkipped = s.tally.passesSkipped
  passesFailed : t.tally.passesFailed = s.tally.passesFailed

theorem Accounted.of_quiet {s t : RunState} (new : List Event) (hevents : t.events = s.events ++ new)
    (htally : t.tally = s.tally) (hout : new.filterMap Event.outcome? = [])
    (hfail : new.countP Event.isFailedSubmission = 0) (hcount : new.filterMap Event.counted? = []) :
    Accounted s t :=
  ⟨⟨new, hevents, htally ▸ Accounts.of_quiet hout hfail hcount⟩, by rw [htally], by rw [htally],
    by rw [htally]⟩

theorem Accounted.walkable : Walkable Accounted where
  refl s := Accounted.of_quiet [] (List.append_nil _).symm rfl rfl rfl rfl
  trans := by
    rintro s t u ⟨⟨new, hnew, h⟩, hp, hs, hf⟩ ⟨⟨new', hnew', h'⟩, hp', hs', hf'⟩
    exact ⟨⟨new ++ new', by rw [hnew', hnew, List.append_assoc], h.trans h'⟩, hp'.trans hp,
      hs'.trans hs, hf'.trans hf⟩
  log s _ := Accounted.of_quiet [] (List.append_nil _).symm rfl rfl rfl rfl
  logVerbose s _ := Accounted.of_quiet [] (List.append_nil _).symm rfl rfl rfl rfl
  request s r := Accounted.of_quiet [.request r] rfl rfl rfl rfl rfl
  -- the journal is all that entering and leaving change
  nested _ h := ⟨h.events, h.passesProcessed, h.passesSkipped, h.passesFailed⟩

/-! ### What each decision accounts for -/

theorem outcomeLines_single {new : List Event} {d : MediaInfo} {o : Outcome}
    (h : new.filterMap Event.outcome? = [(d, o)]) : outcomeLines new = [o.text] := by
  simp [outcomeLines, h]

theorem countedVideos_single {new : List Event} {d : MediaInfo} {o : Outcome}
    (h : new.filterMap Event.outcome? = [(d, o)]) :
    countedVideos new = [d].filter (fun _ => countedLines.contains o.text) := by
  simp only [countedVideos, h, List.filter_cons, List.filter_nil]
  split <;> rfl

theorem countedLines_skipped_false {note : String} (hhand : note ≠ "Manually skipped.") :
    countedLines.contains ("Skipped: " ++ note) = false := by
  cases h : countedLines.contains _
  · rfl
  · exact absurd ((countedLines_skipped note).1 h) hhand

namespace Accounts

variable (d : MediaInfo) (t : Tally)

theorem skippedLine {note : String} (hnote : note ≠ "") (hhand : note ≠ "Manually skipped.") :
    Accounts [.outcome d (.skipped note)] t t.videoSkipped := by
  have hout : [Event.outcome d (.skipped note)].filterMap Event.outcome? = [(d, .skipped note)] :=
    rfl
  have hlines : outcomeLines [.outcome d (.skipped note)] = ["Skipped: " ++ note] := by
    rw [outcomeLines_single hout, Outcome.text_skipped hnote]
  have hvideos : countedVideos [.outcome d (.skipped note)] = [] := by
    rw [countedVideos_single hout, Outcome.text_skipped hnote, countedLines_skipped_false hhand]
    rfl
  obtain ⟨hqueued, hpreviewed⟩ := skipped_ne_queued note
  refine ⟨?_, ?_, ?_, ?_, ?_, ?_, ?_⟩ <;>
    simp [hlines, hvideos, Tally.videoSkipped, Tally.videosSeen, hqueued, hpreviewed,
      isSkippedLine_skipped, Event.isFailedSubmission, Event.counted?]
  omega

theorem failedSubmission {note : String} (hnote : note ≠ "") (hhand : note ≠ "Manually skipped.")
    {url : String} {answer : Except ServerError Submission}
    (hfailed : (Event.submit url d answer).isFailedSubmission = true) :
    Accounts [.submit url d answer, .outcome d (.skipped note)] t t.queueFailed := by
  have hout : [Event.submit url d answer, .outcome d (.skipped note)].filterMap Event.outcome? =
      [(d, .skipped note)] := rfl
  have hlines : outcomeLines [.submit url d answer, .outcome d (.skipped note)] =
      ["Skipped: " ++ note] := by
    rw [outcomeLines_single hout, Outcome.text_skipped hnote]
  have hvideos : countedVideos [.submit url d answer, .outcome d (.skipped note)] = [] := by
    rw [countedVideos_single hout, Outcome.text_skipped hnote, countedLines_skipped_false hhand]
    rfl
  have hcount : [Event.submit url d answer, .outcome d (.skipped note)].filterMap
      Event.counted? = [] := rfl
  have hfailures : [Event.submit url d answer, .outcome d (.skipped note)].countP
      Event.isFailedSubmission = 1 := by
    rw [List.countP_cons_of_pos hfailed]
    rfl
  obtain ⟨hqueued, hpreviewed⟩ := skipped_ne_queued note
  refine ⟨?_, ?_, ?_, ?_, ?_, ?_, ?_⟩ <;>
    simp [hlines, hvideos, hcount, hfailures, Tally.queueFailed, Tally.videosSeen, hqueued,
      hpreviewed, isSkippedLine_skipped]
  omega

theorem skippedByHand :
    Accounts [.record d (.ok ()), .outcome d (.skipped "Manually skipped.")] t t.videoSkipped := by
  have hlines : outcomeLines [.record d (.ok ()), .outcome d (.skipped "Manually skipped.")] =
      ["Skipped: Manually skipped."] := rfl
  have hvideos : countedVideos [.record d (.ok ()), .outcome d (.skipped "Manually skipped.")] =
      [d] := by
    rw [countedVideos_single rfl]
    rfl
  refine ⟨?_, ?_, ?_, ?_, ?_, ?_, ?_⟩ <;>
    simp [hlines, hvideos, Tally.videoSkipped, Tally.videosSeen, isSkippedLine, Event.isFailedSubmission,
      Event.counted?]
  omega

theorem previewedLine :
    Accounts [.count d, .outcome d (.queued "Pending queue mode.")] t t.videoPreviewed := by
  have hlines : outcomeLines [.count d, .outcome d (.queued "Pending queue mode.")] =
      ["Queued: Pending queue mode."] := rfl
  have hvideos : countedVideos [.count d, .outcome d (.queued "Pending queue mode.")] = [d] := by
    rw [countedVideos_single rfl]
    rfl
  refine ⟨?_, ?_, ?_, ?_, ?_, ?_, ?_⟩ <;>
    simp [hlines, hvideos, Tally.videoPreviewed, Tally.videosSeen, isSkippedLine, Event.isFailedSubmission,
      Event.counted?]
  omega

theorem queuedLine : Accounts [.record d (.ok ()), .outcome d (.queued "")] t t.videoQueued := by
  have hlines : outcomeLines [.record d (.ok ()), .outcome d (.queued "")] = ["Queued"] := rfl
  have hvideos : countedVideos [.record d (.ok ()), .outcome d (.queued "")] = [d] := by
    rw [countedVideos_single rfl]
    rfl
  refine ⟨?_, ?_, ?_, ?_, ?_, ?_, ?_⟩ <;>
    simp [hlines, hvideos, Tally.videoQueued, Tally.videosSeen, isSkippedLine, Event.isFailedSubmission,
      Event.counted?]
  omega

end Accounts

theorem Rejection.message_ne (r : Rejection) :
    r.message ≠ "" ∧ r.message ≠ "Manually skipped." := by
  cases r <;> decide

theorem Accounted.written {s t : RunState} {d : MediaInfo} {o : Outcome} (pre : List Event)
    (hevents : t.events = s.events ++ pre) (h : Accounts (pre ++ [.outcome d o]) s.tally t.tally)
    (hprocessed : t.tally.passesProcessed = s.tally.passesProcessed)
    (hskipped : t.tally.passesSkipped = s.tally.passesSkipped)
    (hfailed : t.tally.passesFailed = s.tally.passesFailed) :
    Accounted s (Run.written d (.ok o) t) :=
  ⟨⟨pre ++ [.outcome d o], by simp [Run.written, hevents], h⟩, hprocessed, hskipped, hfailed⟩

/-- Every decision about a video accounts for the counters it moves by the outcome it writes:
each of its ways adds one line and moves one counter, or ends the pass with neither. -/
theorem Resolved.accounted {srv : Server} {mode : RunMode} {v : Video} {d : MediaInfo}
    {s t : RunState} {r : Except Failure Outcome} (h : Resolved srv mode v d s r t) :
    Accounted s (Run.written d r t) := by
  -- a check that admits the video writes no outcome, and neither does an accepted submission
  have admitted : Accounts [.check d (.ok ())] s.tally s.tally := Accounts.of_quiet rfl rfl rfl
  have accepted : Accounts [.check d (.ok ()), .submit v.url d (.ok .accepted)] s.tally s.tally :=
    Accounts.of_quiet rfl rfl rfl
  cases h with
  | skipped => exact Accounted.written _ rfl (Accounts.skippedByHand d s.tally) rfl rfl rfl
  | skipRefused => exact Accounted.of_quiet _ rfl rfl rfl rfl rfl
  | rejected r =>
    obtain ⟨hnote, hhand⟩ := r.message_ne
    have rejecting : Accounts [.check d (.error r)] s.tally s.tally := Accounts.of_quiet rfl rfl rfl
    exact Accounted.written _ rfl (rejecting.trans (Accounts.skippedLine d s.tally hnote hhand))
      rfl rfl rfl
  | previewed =>
    exact Accounted.written _ rfl (admitted.trans (Accounts.previewedLine d s.tally)) rfl rfl rfl
  | queued => exact Accounted.written _ rfl (accepted.trans (Accounts.queuedLine d s.tally)) rfl rfl rfl
  | unrecorded => exact Accounted.of_quiet _ rfl rfl rfl rfl rfl
  | alreadyQueued =>
    have answered : Accounts [.check d (.ok ()), .submit v.url d (.ok .alreadyQueued)] s.tally
        s.tally := Accounts.of_quiet rfl rfl rfl
    exact Accounted.written _ rfl
      (answered.trans (Accounts.skippedLine d s.tally (by decide) (by decide))) rfl rfl rfl
  | noQueueLink =>
    exact Accounted.written _ rfl
      (admitted.trans (Accounts.failedSubmission d s.tally (by decide) (by decide) rfl)) rfl rfl rfl
  | refused =>
    exact Accounted.written _ rfl
      (admitted.trans (Accounts.failedSubmission d s.tally (by decide) (by decide) rfl)) rfl rfl rfl
  | failed e =>
    obtain ⟨hnote, hhand⟩ := e.message_ne
    exact Accounted.written _ rfl
      (admitted.trans (Accounts.failedSubmission d s.tally hnote hhand rfl)) rfl rfl rfl

/-- A walk accounts for its counters: its queue actions settle videos, and entering and leaving
limits write no outcome. -/
theorem Keeps.walk_accounted (srv : Server) (mode : RunMode) (p : Pass) :
    Keeps Accounted (Run.walk srv mode p) := by
  have hR := Accounted.walkable
  refine (Layout.LaysOut.walk hR srv mode (Layout.LaysOut.queue_of hR srv mode ?_
    (fun s c l => Accounted.of_quiet [.enterLimits c l] rfl rfl rfl rfl rfl)
    (fun s g => Accounted.of_quiet [.releaseLimits g] rfl rfl rfl rfl rfl)) p).keeps
  intro s v d r t h
  exact h.accounted

/-! ### Passes and runs -/

/-- What the passes `ps` account for from `s` to `t`, through the events `new` they added: the
video counters, one pass counter per pass, with the disabled passes as the skipped ones, and the
persistent totals of admission, grown by the counted videos. -/
structure RunAccounts (ps : List Pass) (new : List Event) (s t : RunState) : Prop where
  events : t.events = s.events ++ new
  videos : Accounts new s.tally t.tally
  passes : t.tally.passesProcessed + t.tally.passesFailed + t.tally.passesSkipped =
    s.tally.passesProcessed + s.tally.passesFailed + s.tally.passesSkipped + ps.length
  passesSkipped : t.tally.passesSkipped = s.tally.passesSkipped + ps.countP (fun p => !p.enabled)
  queuedCount : t.admission.persistent.queuedCount.toNat =
    (s.admission.persistent.queuedCount.toNat + (countedVideos new).length) % 2 ^ 32
  queuedDuration : t.admission.persistent.queuedDuration =
    (countedVideos new).foldl addRuntime s.admission.persistent.queuedDuration

theorem RunAccounts.nil (s : RunState) : RunAccounts [] [] s s where
  events := (List.append_nil _).symm
  videos := Accounts.nil _
  passes := rfl
  passesSkipped := rfl
  queuedCount := (Nat.mod_eq_of_lt (UInt32.toNat_lt _)).symm
  queuedDuration := rfl

theorem RunAccounts.append {ps qs : List Pass} {new new' : List Event} {s t u : RunState}
    (h : RunAccounts ps new s t) (h' : RunAccounts qs new' t u) :
    RunAccounts (ps ++ qs) (new ++ new') s u where
  events := by rw [h'.events, h.events, List.append_assoc]
  videos := h.videos.trans h'.videos
  passes := by rw [h'.passes, h.passes, List.length_append]; omega
  passesSkipped := by rw [h'.passesSkipped, h.passesSkipped, List.countP_append]; omega
  queuedCount := by rw [h'.queuedCount, h.queuedCount, countedVideos_append, List.length_append,
    Nat.mod_add_mod, Nat.add_assoc]
  queuedDuration := by rw [h'.queuedDuration, h.queuedDuration, countedVideos_append, List.foldl_append]

/-- The counters of one pass: its walk accounts for the videos, and the pass itself counts as
processed when the walk ends normally, as failed when it ends with an error, and as skipped when
the pass is disabled. -/
theorem Run.pass_accounted (srv : Server) (mode : RunMode) (p : Pass) (s : RunState) :
    let t := ((Run.pass srv mode p).run s).2
    (∃ new, t.events = s.events ++ new ∧ Accounts new s.tally t.tally) ∧
      t.tally.passesProcessed + t.tally.passesFailed + t.tally.passesSkipped =
        s.tally.passesProcessed + s.tally.passesFailed + s.tally.passesSkipped + 1 ∧
      t.tally.passesSkipped = s.tally.passesSkipped + if p.enabled then 0 else 1 := by
  intro t
  simp only [t, Run.run_pass]
  cases hp : p.enabled with
  | false =>
    simp only [Bool.false_eq_true, if_false]
    refine ⟨⟨[], (List.append_nil _).symm, (Accounts.nil _).of_videos rfl rfl rfl rfl⟩, ?_, rfl⟩
    simp only [Tally.passSkipped]
    omega
  | true =>
    simp only [if_true]
    obtain ⟨started, hstarted⟩ : ∃ started : RunState, started =
        { s with journal := s.journal.log ("Processing pass " ++ Run.quote p.description ++ "...") } :=
      ⟨_, rfl⟩
    rw [← hstarted]
    obtain ⟨r, w, hwalk⟩ : ∃ r w, (Run.walk srv mode p).exec started = (r, w) := ⟨_, _, rfl⟩
    obtain ⟨⟨new, hnew, hvideos⟩, hprocessed, hskipped, hfailed⟩ :=
      (Keeps.walk_accounted srv mode p).of_exec hwalk
    subst hstarted
    rw [hwalk]
    -- the walk's exit decides which pass counter moves
    cases r with
    | error chain =>
      refine ⟨⟨new, hnew, hvideos.of_videos rfl rfl rfl rfl⟩, ?_, ?_⟩ <;>
        simp only [Tally.passFailed, Nat.add_zero] at hprocessed hskipped hfailed ⊢ <;> omega
    | ok u =>
      refine ⟨⟨new, hnew, hvideos.of_videos rfl rfl rfl rfl⟩, ?_, ?_⟩ <;>
        simp only [Tally.passProcessed, Nat.add_zero] at hprocessed hskipped hfailed ⊢ <;> omega

theorem Run.pass_runAccounts (srv : Server) (mode : RunMode) (p : Pass) {s : RunState}
    (hs : s.Between) : ∃ new, RunAccounts [p] new s ((Run.pass srv mode p).run s).2 := by
  obtain ⟨⟨new, hnew, hvideos⟩, hpasses, hskipped⟩ := Run.pass_accounted srv mode p s
  obtain ⟨new', hnew', hcount, hduration⟩ := (pass_isolated srv mode p hs).counted
  -- both accounts speak of the same new events
  obtain rfl : new' = new := List.append_cancel_left (hnew'.symm.trans hnew)
  refine ⟨new', hnew, hvideos, hpasses, ?_, ?_, ?_⟩
  · cases hp : p.enabled <;> simp only [hp] at hskipped <;> simp [hp, hskipped]
  · rw [hcount, hvideos.counted]
  · rw [hduration, hvideos.counted]

theorem Run.passes_runAccounts (srv : Server) (mode : RunMode) (ps : List Pass) {s : RunState}
    (hs : s.Between) : ∃ new, RunAccounts ps new s ((Run.passes srv mode ps).run s).2 := by
  induction ps generalizing s with
  | nil => exact ⟨[], RunAccounts.nil s⟩
  | cons p ps ih =>
    obtain ⟨new, hpass⟩ := Run.pass_runAccounts srv mode p hs
    obtain ⟨new', hrest⟩ := ih (pass_isolated srv mode p hs).between
    exact ⟨new ++ new', hpass.append hrest⟩

theorem countP_countedLines (lines : List String) :
    lines.countP (fun l => countedLines.contains l) =
      lines.count "Queued" + lines.count "Queued: Pending queue mode." +
        lines.count "Skipped: Manually skipped." := by
  induction lines with
  | nil => rfl
  | cons l lines ih =>
    rw [List.countP_cons, List.count_cons, List.count_cons, List.count_cons, ih]
    -- the three counted lines are distinct texts, so a line is at most one of them
    by_cases h₁ : l = "Queued"
    · simp [h₁, countedLines]
      omega
    by_cases h₂ : l = "Queued: Pending queue mode."
    · simp [h₂, countedLines]
      omega
    by_cases h₃ : l = "Skipped: Manually skipped."
    · simp [h₃, countedLines]
      omega
    simp [h₁, h₂, h₃, countedLines]

theorem countedVideos_length (es : List Event) :
    (countedVideos es).length =
      (outcomeLines es).count "Queued" + (outcomeLines es).count "Queued: Pending queue mode." +
        (outcomeLines es).count "Skipped: Manually skipped." := by
  rw [← countP_countedLines]
  unfold countedVideos outcomeLines
  rw [List.countP_map, List.length_map, List.countP_eq_length_filter]
  rfl

/-- A run from admission with no temporary limits open, and fresh counters, ends with counters
that its outcome lines account for: one pass counter per pass, the disabled passes skipped; one
video counter per outcome line, of the line's kind; one failure per submission that the server
did not take, each also a skipped video; and the persistent totals of admission grown by the
videos whose lines are `Queued`, `Queued: Pending queue mode.` and `Skipped: Manually skipped.`,
in number, the count wrapping in 32 bits, and by their runtimes, added in order. -/
theorem runPasses_accounts_for_outcomes (srv : Server) (mode : RunMode) (a : Admission)
    (ps : List Pass) (ha : a.hasScope = false) :
    let t := runPasses srv mode a ps
    let lines := outcomeLines t.events
    t.tally.passesProcessed + t.tally.passesFailed + t.tally.passesSkipped = ps.length ∧
      t.tally.passesSkipped = ps.countP (fun p => !p.enabled) ∧
      t.tally.videosQueued = lines.count "Queued" ∧
      t.tally.videosPreviewed = lines.count "Queued: Pending queue mode." ∧
      t.tally.videosSkipped = lines.countP isSkippedLine ∧
      t.tally.videosSeen = lines.length ∧
      t.tally.queueFailures = t.events.countP Event.isFailedSubmission ∧
      t.tally.queueFailures ≤ t.tally.videosSkipped ∧
      t.admission.persistent.queuedCount.toNat = (a.persistent.queuedCount.toNat +
        (lines.count "Queued" + lines.count "Queued: Pending queue mode." +
          lines.count "Skipped: Manually skipped.")) % 2 ^ 32 ∧
      t.admission.persistent.queuedDuration =
        (countedVideos t.events).foldl addRuntime a.persistent.queuedDuration := by
  intro t lines
  obtain ⟨new, h⟩ : ∃ new, RunAccounts ps new { admission := a } t :=
    Run.passes_runAccounts srv mode ps ⟨rfl, rfl, ha⟩
  -- a run starts with no events and every counter at zero
  have hevents : t.events = new := by simpa using h.events
  have hlines : lines = outcomeLines new := by simp only [lines, hevents]
  have hv := h.videos
  rw [hlines, hevents]
  refine ⟨by simpa using h.passes, by simpa using h.passesSkipped, by simpa using hv.queued,
    by simpa using hv.previewed, by simpa using hv.skipped, by simpa [Tally.videosSeen] using hv.seen,
    by simpa using hv.failures, ?_, by simpa [countedVideos_length] using h.queuedCount,
    by simpa using h.queuedDuration⟩
  have hfailures : t.tally.queueFailures = new.countP Event.isFailedSubmission := by
    simpa using hv.failures
  have hskipped : t.tally.videosSkipped = (outcomeLines new).countP isSkippedLine := by
    simpa using hv.skipped
  rw [hfailures, hskipped]
  exact hv.failures_le

/-- The accounts of a run in queue mode on a server whose root lists two videos, from a fresh
admission: a disabled pass, and a pass that queues both videos. -/
theorem runPasses_accounts_for_queued_videos :
    let srv : Server :=
      { catalog := fun _ => .ok (.folder (.mk "Root" "/root" false
          (some [.video ⟨"A", "/a", none⟩, .video ⟨"B", "/b", none⟩])))
        items := fun _ _ => .ok [], search := fun _ _ _ => .ok []
        details := fun _ url => .ok { title := url, playLaterUrl := url ++ "/q" }
        submit := fun _ _ => .ok .accepted, received := fun _ => [] }
    let ps : List Pass := [⟨"Old", false, []⟩, ⟨"Weekly", true, [.queue ⟨"*", "", false⟩ 0 .zero]⟩]
    let a := Admission.ofRecords (.empty .memory)
    let t := runPasses srv { queue := true } a ps
    let lines := outcomeLines t.events
    a.hasScope = false ∧
      t.tally.passesProcessed + t.tally.passesFailed + t.tally.passesSkipped = ps.length ∧
        t.tally.passesSkipped = ps.countP (fun p => !p.enabled) ∧
        t.tally.videosQueued = lines.count "Queued" ∧
        t.tally.videosPreviewed = lines.count "Queued: Pending queue mode." ∧
        t.tally.videosSkipped = lines.countP isSkippedLine ∧
        t.tally.videosSeen = lines.length ∧
        t.tally.queueFailures = t.events.countP Event.isFailedSubmission ∧
        t.tally.queueFailures ≤ t.tally.videosSkipped ∧
        t.admission.persistent.queuedCount.toNat = (a.persistent.queuedCount.toNat +
          (lines.count "Queued" + lines.count "Queued: Pending queue mode." +
            lines.count "Skipped: Manually skipped.")) % 2 ^ 32 ∧
        t.admission.persistent.queuedDuration =
          (countedVideos t.events).foldl addRuntime a.persistent.queuedDuration :=
  ⟨rfl, runPasses_accounts_for_outcomes _ _ _ _ rfl⟩

end CatalogQueue
