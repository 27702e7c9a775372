import CatalogQueue.Proofs.LogLayout

/-!
The journal under any sequence of calls of a client that takes and lets go of guards, newest
first: each depth counts the live guards of its kind, and every sink has received the lines of
the calls, each indented by the guards live at its call.
-/

namespace CatalogQueue

/-- The lines that a sink shows of written lines: their verbose log for a verbose sink, their
quiet log for any other. -/
def Layout.sinkLog (verbose : Bool) (ls : List Layout.Line) : List String :=
  if verbose then Layout.verboseLog ls else Layout.quietLog ls

@[simp] theorem Layout.sinkLog_nil (verbose : Bool) : Layout.sinkLog verbose [] = [] := by
  cases verbose <;> rfl

@[simp] theorem Layout.sinkLog_append (verbose : Bool) (ls ls' : List Layout.Line) :
    Layout.sinkLog verbose (ls ++ ls') = Layout.sinkLog verbose ls ++ Layout.sinkLog verbose ls' := by
  cases verbose <;> simp [Layout.sinkLog]

namespace Journal

def received (j : Journal) (verbose : Bool) : Array String :=
  if verbose then j.verbose else j.quiet

/-- A call of a client of the journal. `drop` lets go of the newest guard the client holds; it
does nothing when the client holds none. -/
inductive Call where
  | log (message : String)
  | logVerbose (message : String)
  | logError (chain : List String)
  | next (n : Nesting)
  | drop

namespace Call

def holding (gs : List Nesting) : Call → List Nesting
  | .next n => n :: gs
  | .drop => gs.tail
  | _ => gs

/-- The line a call writes while the guards `gs` are live: one level of depth for each live
depth guard and one level of verbose depth for each live verbose guard. -/
def line? (gs : List Nesting) : Call → Option Layout.Line
  | .log m => some ⟨gs.count .depth, gs.count .verbose, m, false⟩
  | .logVerbose m => some ⟨gs.count .depth, gs.count .verbose, m, true⟩
  | .logError chain =>
    some ⟨gs.count .depth, gs.count .verbose,
      "The following exception has occurred: " ++ errorText chain, false⟩
  | _ => none

end Call

def written : List Nesting → List Call → List Layout.Line
  | _, [] => []
  | gs, c :: cs => (c.line? gs).toList ++ written (c.holding gs) cs

@[simp] theorem written_nil (gs : List Nesting) : written gs [] = [] := rfl

@[simp] theorem written_cons (gs : List Nesting) (c : Call) (cs : List Call) :
    written gs (c :: cs) = (c.line? gs).toList ++ written (c.holding gs) cs := rfl

theorem received_of_logs {j j' : Journal} {ls : List Layout.Line}
    (hquiet : j'.quiet.toList = j.quiet.toList ++ Layout.quietLog ls)
    (hverbose : j'.verbose.toList = j.verbose.toList ++ Layout.verboseLog ls) (verbose : Bool) :
    (j'.received verbose).toList = (j.received verbose).toList ++ Layout.sinkLog verbose ls := by
  cases verbose
  · exact hquiet
  · exact hverbose

/-- A client of the journal: the journal and the guards it holds, newest first. -/
structure Session where
  journal : Journal := {}
  guards : List Nesting := []

namespace Session

def step (s : Session) : Call → Session
  | .log m => { s with journal := s.journal.log m }
  | .logVerbose m => { s with journal := s.journal.logVerbose m }
  | .logError chain => { s with journal := s.journal.logError chain }
  | .next n => { journal := s.journal.enter n, guards := n :: s.guards }
  | .drop =>
    match s.guards with
    | [] => s
    | n :: gs => { journal := s.journal.leave n, guards := gs }

def run (s : Session) (calls : List Call) : Session := calls.foldl step s

@[simp] theorem run_nil (s : Session) : s.run [] = s := rfl

@[simp] theorem run_cons (s : Session) (c : Call) (cs : List Call) :
    s.run (c :: cs) = (s.step c).run cs := rfl

theorem guards_step (s : Session) (c : Call) : (s.step c).guards = c.holding s.guards := by
  cases c with
  | drop => cases h : s.guards <;> simp [step, Call.holding, h]
  | _ => rfl

/-- Each depth of the journal counts the live guards of its kind. -/
structure Tracks (s : Session) : Prop where
  depth : s.journal.depth = s.guards.count .depth
  verboseDepth : s.journal.verboseDepth = s.guards.count .verbose

theorem tracks_fresh : Tracks {} := ⟨rfl, rfl⟩

variable {s : Session}

/-- Every call keeps each depth counting the live guards of its kind. -/
theorem Tracks.step (h : s.Tracks) (c : Call) : (s.step c).Tracks := by
  obtain ⟨hdepth, hverbose⟩ := h
  cases c with
  | log m => exact ⟨hdepth, hverbose⟩
  | logVerbose m => exact ⟨hdepth, hverbose⟩
  | logError chain => exact ⟨hdepth, hverbose⟩
  | next n =>
    constructor <;> cases n <;> simp [Session.step, Journal.enter, hdepth, hverbose]
  | drop =>
    cases hgs : s.guards with
    | nil =>
      have hstays : s.step .drop = s := by simp [Session.step, hgs]
      rw [hstays]
      exact ⟨hdepth, hverbose⟩
    | cons n gs =>
      -- the newest guard is counted in its own depth, so taking one level off is exact
      rw [hgs] at hdepth hverbose
      constructor <;> cases n <;>
        simp_all [Session.step, Journal.leave]

theorem received_step (h : s.Tracks) (c : Call) (verbose : Bool) :
    ((s.step c).journal.received verbose).toList =
      (s.journal.received verbose).toList ++ Layout.sinkLog verbose (c.line? s.guards).toList := by
  -- a line is written at the journal's depths, which count the live guards
  cases c with
  | log m =>
    have hlines := Layout.log_lines s.journal m
    rw [h.depth, h.verboseDepth] at hlines
    exact received_of_logs hlines.1 hlines.2 verbose
  | logVerbose m =>
    have hlines := Layout.logVerbose_lines s.journal m
    rw [h.depth, h.verboseDepth] at hlines
    exact received_of_logs hlines.1 hlines.2 verbose
  | logError chain =>
    have hlines := Layout.log_lines s.journal
      ("The following exception has occurred: " ++ errorText chain)
    rw [h.depth, h.verboseDepth] at hlines
    exact received_of_logs hlines.1 hlines.2 verbose
  | next n =>
    exact received_of_logs (by simp [Session.step, Call.line?])
      (by simp [Session.step, Call.line?]) verbose
  | drop =>
    cases hgs : s.guards <;>
      exact received_of_logs (by simp [Session.step, Call.line?, hgs])
        (by simp [Session.step, Call.line?, hgs]) verbose

theorem Tracks.run (h : s.Tracks) (cs : List Call) : (s.run cs).Tracks := by
  induction cs generalizing s with
  | nil => exact h
  | cons c cs ih => exact ih (h.step c)

theorem received_run (h : s.Tracks) (cs : List Call) (verbose : Bool) :
    ((s.run cs).journal.received verbose).toList =
      (s.journal.received verbose).toList ++ Layout.sinkLog verbose (written s.guards cs) := by
  induction cs generalizing s with
  | nil => simp
  | cons c cs ih =>
    rw [run_cons, ih (h.step c), received_step h c, guards_step, written_cons,
      Layout.sinkLog_append, List.append_assoc]

/-- After any calls from a fresh journal, each depth is the number of live guards of its kind,
and every sink has received exactly the lines of the calls in call order, each indented as the
guards live at its call say: a quiet sink no verbose line, and two blanks for each depth guard;
a verbose sink every line, and two blanks for each guard of either kind. -/
theorem run_follows_guards (calls : List Call) :
    (run {} calls).journal.depth = (run {} calls).guards.count .depth ∧
      (run {} calls).journal.verboseDepth = (run {} calls).guards.count .verbose ∧
      ∀ verbose, ((run {} calls).journal.received verbose).toList =
        Layout.sinkLog verbose (written [] calls) := by
  have htracks := tracks_fresh.run calls
  exact ⟨htracks.depth, htracks.verboseDepth, fun verbose => by
    simpa [received] using received_run tracks_fresh calls verbose⟩

example :
    let s := run {} [.next .depth, .log "one", .next .verbose, .log "two", .logVerbose "deep",
      .drop, .drop, .log "three"]
    s.journal.received false = #["  one", "  two", "three"] ∧
      s.journal.received true = #["  one", "    two", "    deep", "three"] := by
  decide

end Session

end Journal

end CatalogQueue
