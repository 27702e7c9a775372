import CatalogQueue.Proofs.Reasoning

/-!
The decision about one video, as rules: `Resolved` lists the ten ways deciding can end, and
every property of runs reads the decision through them (`resolve_resolved`).
-/

namespace CatalogQueue

@[simp] theorem RunState.requests_append (s : RunState) (es : List Event) :
    { s with events := s.events ++ es }.requests = s.requests ++ es.filterMap Event.request? := by
  simp [RunState.requests]

/-- The ways in which the decision about the video `v` with details `d` ends from `s`. -/
inductive Resolved (srv : Server) (mode : RunMode) (v : Video) (d : MediaInfo) (s : RunState) :
    Except Failure Outcome → RunState → Prop
  /-- Skip mode: the record list takes the video, whatever admission would say. -/
  | skipped (a : Admission) (hskip : mode.skip = true) (hrec : s.admission.record d = .ok a) :
      Resolved srv mode v d s (.ok (.skipped "Manually skipped."))
        { s with admission := a, events := s.events ++ [.record d (.ok ())],
                 tally := s.tally.videoSkipped }
  /-- Skip mode: the record list refuses the video, which ends the pass. -/
  | skipRefused (e : RecordError) (hskip : mode.skip = true)
      (hrec : s.admission.record d = .error e) :
      Resolved srv mode v d s (.error e.chain) { s with events := s.events ++ [.record d (.error e)] }
  /-- Admission refuses the video. -/
  | rejected (r : Rejection) (hskip : mode.skip = false) (hcheck : s.admission.check d = .error r) :
      Resolved srv mode v d s (.ok (.skipped r.message))
        { s with events := s.events ++ [.check d (.error r)], tally := s.tally.videoSkipped }
  /-- A preview counts an admitted video without recording it. -/
  | previewed (hskip : mode.skip = false) (hqueue : mode.queue = false)
      (hcheck : s.admission.check d = .ok ()) :
      Resolved srv mode v d s (.ok (.queued "Pending queue mode."))
        { s with admission := s.admission.count d, events := s.events ++ [.check d (.ok ()), .count d],
                 tally := s.tally.videoPreviewed }
  /-- Queue mode: the server accepts the submission and the record list takes the video. -/
  | queued (a : Admission) (hskip : mode.skip = false) (hqueue : mode.queue = true)
      (hcheck : s.admission.check d = .ok ()) (hsubmit : srv.submit s.requests d = .ok .accepted)
      (hrec : s.admission.record d = .ok a) :
      Resolved srv mode v d s (.ok (.queued ""))
        { s with admission := a,
                 events := s.events ++ [.check d (.ok ()), .submit v.url d (.ok .accepted),
                                        .record d (.ok ())],
                 tally := s.tally.videoQueued }
  /-- Queue mode: the server accepts the submission but the record list refuses the video,
  which ends the pass. -/
  | unrecorded (e : RecordError) (hskip : mode.skip = false) (hqueue : mode.queue = true)
      (hcheck : s.admission.check d = .ok ()) (hsubmit : srv.submit s.requests d = .ok .accepted)
      (hrec : s.admission.record d = .error e) :
      Resolved srv mode v d s (.error e.chain)
        { s with events := s.events ++ [.check d (.ok ()), .submit v.url d (.ok .accepted),
                                        .record d (.error e)] }
  /-- Queue mode: the server has the video queued already. -/
  | alreadyQueued (hskip : mode.skip = false) (hqueue : mode.queue = true)
      (hcheck : s.admission.check d = .ok ())
      (hsubmit : srv.submit s.requests d = .ok .alreadyQueued) :
      Resolved srv mode v d s (.ok (.skipped "Already queued."))
        { s with events := s.events ++ [.check d (.ok ()), .submit v.url d (.ok .alreadyQueued)],
                 tally := s.tally.videoSkipped }
  /-- Queue mode: the video has no queue link. -/
  | noQueueLink (hskip : mode.skip = false) (hqueue : mode.queue = true)
      (hcheck : s.admission.check d = .ok ())
      (hsubmit : srv.submit s.requests d = .ok .noQueueLink) :
      Resolved srv mode v d s
        (.ok (.skipped "PlayLater queue link not found. PlayLater may not be running."))
        { s with events := s.events ++ [.check d (.ok ()), .submit v.url d (.ok .noQueueLink)],
                 tally := s.tally.queueFailed }
  /-- Queue mode: the server refuses the submission. -/
  | refused (hskip : mode.skip = false) (hqueue : mode.queue = true)
      (hcheck : s.admission.check d = .ok ())
      (hsubmit : srv.submit s.requests d = .ok .refused) :
      Resolved srv mode v d s (.ok (.skipped "Queue request was rejected."))
        { s with events := s.events ++ [.check d (.ok ()), .submit v.url d (.ok .refused)],
                 tally := s.tally.queueFailed }
  /-- Queue mode: the submission fails; the video is skipped and the pass goes on. -/
  | failed (e : ServerError) (hskip : mode.skip = false) (hqueue : mode.queue = true)
      (hcheck : s.admission.check d = .ok ()) (hsubmit : srv.submit s.requests d = .error e) :
      Resolved srv mode v d s (.ok (.skipped e.message))
        { s with events := s.events ++ [.check d (.ok ()), .submit v.url d (.error e)],
                 tally := s.tally.queueFailed }

/-- Deciding about a video follows the rules: every run of `resolve` is one of them. -/
theorem resolve_resolved (srv : Server) (mode : RunMode) (v : Video) (d : MediaInfo)
    (s : RunState) :
    Resolved srv mode v d s ((Run.resolve srv mode v d).exec s).1
      ((Run.resolve srv mode v d).exec s).2 := by
  unfold Run.resolve
  cases hskip : mode.skip with
  | true =>
    cases hrec : s.admission.record d with
    | ok a =>
      simp only [if_true, RunM.exec_bind, Run.exec_record, hrec, Run.exec_tally, RunM.exec_pure]
      exact Resolved.skipped a hskip hrec
    | error e =>
      simp only [if_true, RunM.exec_bind, Run.exec_record, hrec]
      exact Resolved.skipRefused e hskip hrec
  | false =>
    rcases hcheck : s.admission.check d with r | ⟨⟨⟩⟩
    · simp only [Bool.false_eq_true, if_false, RunM.exec_bind, Run.exec_check, hcheck,
        Run.exec_tally, RunM.exec_pure]
      exact Resolved.rejected r hskip hcheck
    cases hqueue : mode.queue with
    | false =>
      simp only [Bool.false_eq_true, if_false, RunM.exec_bind, Run.exec_check, hcheck,
        Bool.not_false, if_true, Run.exec_count, Run.exec_tally, RunM.exec_pure,
        List.append_assoc, List.cons_append, List.nil_append]
      exact Resolved.previewed hskip hqueue hcheck
    | true =>
      -- the submission is answered on the requests sent so far: a check is no request
      have hreq : { s with events := s.events ++ [Event.check d (.ok ())] }.requests = s.requests := by
        simp [Event.request?]
      cases hsubmit : srv.submit s.requests d with
      | error e =>
        simp only [Bool.false_eq_true, if_false, RunM.exec_bind, Run.exec_check, hcheck,
          Bool.not_true, Run.submit, RunM.exec_get, RunM.exec_set, hreq, hsubmit, Run.exec_tally,
          RunM.exec_pure, List.append_assoc, List.cons_append, List.nil_append]
        exact Resolved.failed e hskip hqueue hcheck hsubmit
      | ok answer =>
        cases answer with
        | accepted =>
          cases hrec : s.admission.record d with
          | ok a =>
            simp only [Bool.false_eq_true, if_false, RunM.exec_bind, Run.exec_check, hcheck,
              Bool.not_true, Run.submit, RunM.exec_get, RunM.exec_set, hreq, hsubmit,
              Run.exec_record, hrec, Run.exec_tally, RunM.exec_pure, List.append_assoc,
              List.cons_append, List.nil_append]
            exact Resolved.queued a hskip hqueue hcheck hsubmit hrec
          | error e =>
            simp only [Bool.false_eq_true, if_false, RunM.exec_bind, Run.exec_check, hcheck,
              Bool.not_true, Run.submit, RunM.exec_get, RunM.exec_set, hreq, hsubmit,
              Run.exec_record, hrec, List.append_assoc, List.cons_append, List.nil_append]
            exact Resolved.unrecorded e hskip hqueue hcheck hsubmit hrec
        | alreadyQueued =>
          simp only [Bool.false_eq_true, if_false, RunM.exec_bind, Run.exec_check, hcheck,
            Bool.not_true, Run.submit, RunM.exec_get, RunM.exec_set, hreq, hsubmit,
            Run.exec_tally, RunM.exec_pure, List.append_assoc, List.cons_append, List.nil_append]
          exact Resolved.alreadyQueued hskip hqueue hcheck hsubmit
        | noQueueLink =>
          simp only [Bool.false_eq_true, if_false, RunM.exec_bind, Run.exec_check, hcheck,
            Bool.not_true, Run.submit, RunM.exec_get, RunM.exec_set, hreq, hsubmit,
            Run.exec_tally, RunM.exec_pure, List.append_assoc, List.cons_append, List.nil_append]
          exact Resolved.noQueueLink hskip hqueue hcheck hsubmit
        | refused =>
          simp only [Bool.false_eq_true, if_false, RunM.exec_bind, Run.exec_check, hcheck,
            Bool.not_true, Run.submit, RunM.exec_get, RunM.exec_set, hreq, hsubmit,
            Run.exec_tally, RunM.exec_pure, List.append_assoc, List.cons_append, List.nil_append]
          exact Resolved.refused hskip hqueue hcheck hsubmit

/-- The state after a decision is written down: its outcome line and outcome event when it
returned, nothing more when it ended the pass. -/
def Run.written (d : MediaInfo) : Except Failure Outcome → RunState → RunState
  | .ok o, t => { t with journal := t.journal.log o.text, events := t.events ++ [.outcome d o] }
  | .error _, t => t

/-- Settling a video: its details, fetched if they are not known, then the decision, written
down. -/
theorem Run.exec_settle (srv : Server) (mode : RunMode) (v : Video) (s : RunState) :
    (Run.settle srv mode v).exec s =
      match (Run.detailsOf srv v).exec s with
      | (.error e, t) => (.error e, t)
      | (.ok (v', d), t) =>
        ((Run.resolve srv mode v' d).exec t |>.1.map fun _ => v',
          Run.written d ((Run.resolve srv mode v' d).exec t).1 ((Run.resolve srv mode v' d).exec t).2) := by
  simp only [Run.settle, RunM.exec_bind]
  rcases (Run.detailsOf srv v).exec s with ⟨_ | ⟨v', d⟩, t⟩
  · rfl
  · simp only
    rcases (Run.resolve srv mode v' d).exec t with ⟨_ | o, u⟩ <;> rfl

def Event.isRefusedRecord : Event → Bool
  | .record _ (.error _) => true
  | _ => false

/-- A decision only adds events, a refused record among them when it ends the pass. -/
theorem Resolved.adds {srv : Server} {mode : RunMode} {v : Video} {d : MediaInfo} {s t : RunState}
    {r : Except Failure Outcome} (h : Resolved srv mode v d s r t) :
    ∃ es : List Event, Adds s (es.map Effect.event) t ∧
      ∀ e, r = .error e → es.any Event.isRefusedRecord = true := by
  cases h with
  | skipRefused | unrecorded =>
    exact ⟨_, Adds.of_events _ rfl rfl, fun _ _ => by simp [Event.isRefusedRecord]⟩
  | skipped | rejected | previewed | queued | alreadyQueued | noQueueLink | refused | failed =>
    exact ⟨_, Adds.of_events _ rfl rfl, fun _ h => nomatch h⟩

/-- Writing a decision down adds the line and the event of its outcome, or nothing. -/
theorem Run.written_adds (d : MediaInfo) (r : Except Failure Outcome) (t : RunState) :
    ∃ effs, Adds t effs (Run.written d r t) ∧ match r with
      | .ok o => Effect.lines effs = [⟨0, 0, o.text, false⟩]
      | .error _ => effs = [] := by
  cases r with
  | ok o =>
    have hline := Adds.log t o.text
    exact ⟨_, hline.trans (Adds.of_events [.outcome d o] rfl rfl), by simp⟩
  | error _ => exact ⟨[], Adds.refl t, rfl⟩

/-- What settling the video `v` adds: when it returns the video, under its own name, the line
of its outcome; when it ends the pass, no line, and either fetching the details failed or a
record was refused. -/
def Spec.settles (srv : Server) (v : Video) : Spec Video := fun r effs =>
  match r with
  | .ok v' => v'.name = v.name ∧ ∃ o : Outcome, Effect.lines effs = [⟨0, 0, o.text, false⟩]
  | .error _ => Effect.lines effs = [] ∧
      ((∃ rs e, srv.details rs v.url = .error e) ∨ (Effect.events effs).any Event.isRefusedRecord = true)

/-- Settling a video keeps every walkable relation that every decision, written down, keeps. -/
theorem Meets.settle {R : RunState → RunState → Prop} (hR : Walkable R) (srv : Server)
    (mode : RunMode) (hdecide : ∀ s v d r t, Resolved srv mode v d s r t → R s (Run.written d r t))
    (v : Video) : Meets R (Spec.settles srv v) (Run.settle srv mode v) := by
  intro s
  obtain ⟨hkept, effs, hadds, hlines, hdetails⟩ := Meets.detailsOf hR srv v s
  rw [Run.exec_settle]
  rcases h : (Run.detailsOf srv v).exec s with ⟨e | ⟨v', d⟩, t⟩ <;>
    rw [h] at hkept hadds hdetails
  · -- fetching the details failed
    refine ⟨hkept, effs, hadds, hlines, .inl ?_⟩
    cases hd : v.details with
    | some d => simp [hd] at hdetails
    | none =>
      simp only [hd] at hdetails
      obtain ⟨rs, hrs⟩ := hdetails
      cases hreply : srv.details rs v.url with
      | ok d => rw [hreply] at hrs; cases hrs
      | error e' => exact ⟨rs, e', hreply⟩
  · -- the decision, then its outcome written down
    have hname : v'.name = v.name := by
      cases hd : v.details with
      | some d => simp only [hd] at hdetails; cases hdetails; rfl
      | none =>
        simp only [hd] at hdetails
        obtain ⟨rs, hrs⟩ := hdetails
        cases hreply : srv.details rs v.url with
        | ok d => rw [hreply] at hrs; cases hrs; rfl
        | error e' => rw [hreply] at hrs; cases hrs
    have hres := resolve_resolved srv mode v' d t
    obtain ⟨es, hes, hrefused⟩ := hres.adds
    obtain ⟨effs', hwritten, hout⟩ := Run.written_adds d ((Run.resolve srv mode v' d).exec t).1
      ((Run.resolve srv mode v' d).exec t).2
    refine ⟨hR.trans hkept (hdecide t v' d _ _ hres), effs ++ es.map Effect.event ++ effs',
      (hadds.trans hes).trans hwritten, ?_⟩
    show Spec.settles srv v (((Run.resolve srv mode v' d).exec t).1.map fun _ => v') _
    revert hrefused hout
    cases ((Run.resolve srv mode v' d).exec t).1 with
    | ok o => exact fun _ hout => ⟨hname, o, by simp [hlines, hout]⟩
    | error e =>
      intro hrefused hout
      subst hout
      exact ⟨by simp [hlines], .inr (by simp [hrefused e rfl])⟩

end CatalogQueue
