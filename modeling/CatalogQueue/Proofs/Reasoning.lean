import CatalogQueue.Proofs.Traversal

/-!
The program logic of a walk. `Meets R A k`: from every run state, the step `k` keeps the
relation `R` and adds effects (lines of the journal, placed from the depths it starts at, and
events) that `A` admits with its result. Each step of a walk has its rule here once; keeping a
relation, tracing lines and laying them out are read off it with `Meets.mono`.
-/

namespace CatalogQueue

/-- What `k` does from `s`: its result, or the failure that ended the pass, and the state it
leaves. -/
def RunM.exec {α : Type} (k : RunM α) (s : RunState) : Except Failure α × RunState :=
  k.run.run s

namespace RunM

variable {α β : Type}

/-! ### Executing the monad -/

@[simp] theorem exec_pure (a : α) (s : RunState) : (pure a : RunM α).exec s = (.ok a, s) := rfl

@[simp] theorem exec_throw (e : Failure) (s : RunState) :
    (throw e : RunM α).exec s = (.error e, s) := rfl

@[simp] theorem exec_get (s : RunState) : (get : RunM RunState).exec s = (.ok s, s) := rfl

@[simp] theorem exec_set (s t : RunState) : (set t : RunM PUnit).exec s = (.ok ⟨⟩, t) := rfl

@[simp] theorem exec_modify (f : RunState → RunState) (s : RunState) :
    (modify f : RunM PUnit).exec s = (.ok ⟨⟩, f s) := rfl

theorem exec_bind (k : RunM α) (f : α → RunM β) (s : RunState) :
    (k >>= f).exec s = match k.exec s with
      | (.ok a, t) => (f a).exec t
      | (.error e, t) => (.error e, t) := by
  simp only [exec, bind, ExceptT.bind, ExceptT.run, ExceptT.mk, StateT.bind, StateT.run]
  rcases k s with ⟨_ | _, _⟩ <;> rfl

theorem exec_map (f : α → β) (k : RunM α) (s : RunState) :
    (f <$> k).exec s = match k.exec s with
      | (.ok a, t) => (.ok (f a), t)
      | (.error e, t) => (.error e, t) := by
  simp only [exec, Functor.map, ExceptT.map, ExceptT.run, ExceptT.mk, StateT.bind, StateT.run,
    bind]
  rcases k s with ⟨_ | _, _⟩ <;> rfl

theorem exec_tryCatch (k : RunM α) (h : Failure → RunM α) (s : RunState) :
    (tryCatch k h).exec s = match k.exec s with
      | (.ok a, t) => (.ok a, t)
      | (.error e, t) => (h e).exec t := by
  simp only [exec, tryCatch, tryCatchThe, MonadExceptOf.tryCatch, ExceptT.tryCatch,
    ExceptT.run, ExceptT.mk, StateT.bind, StateT.run, bind]
  rcases k s with ⟨_ | _, _⟩ <;> rfl

/-- `always k after` runs `after` on the state `k` left, whichever way `k` exited, and then
exits as `k` did (unless `after` fails). -/
theorem exec_always (k : RunM α) (after : RunM Unit) (s : RunState) :
    (Run.always k after).exec s =
      match after.exec (k.exec s).2 with
      | (.ok _, t) => ((k.exec s).1, t)
      | (.error e, t) => (.error e, t) := by
  simp only [Run.always, exec_bind, exec_tryCatch, exec_map]
  rcases k.exec s with ⟨_ | _, t⟩ <;> simp only [exec_pure] <;>
    rcases after.exec t with ⟨_ | _, _⟩ <;> rfl

end RunM
/-! ### Lines and effects -/

theorem Journal.toList_indented (n : Nat) (msg : String) :
    (Journal.indented n msg).toList = List.replicate (2 * n) ' ' ++ msg.toList := by
  have hblanks : ∀ k, (List.replicate k Journal.indentUnit).flatMap String.toList =
      List.replicate (2 * k) ' ' := by
    intro k
    induction k with
    | zero => rfl
    | succ k ih =>
      rw [List.replicate_succ, List.flatMap_cons, ih, Nat.mul_succ, Nat.add_comm,
        List.replicate_add]
      simp [Journal.indentUnit]
  simp [Journal.indented, hblanks]

theorem Journal.indented_eq (n : Nat) (msg : String) :
    Journal.indented n msg = String.ofList (List.replicate (2 * n) ' ') ++ msg := by
  apply String.toList_inj.1
  simp [Journal.toList_indented]

namespace Layout

/-- A line as the journal writes it: the depth and the verbose depth at that moment, the
message, and whether it goes to the verbose log only. -/
structure Line where
  depth : Nat
  verboseDepth : Nat
  message : String
  verboseOnly : Bool

def Line.quietText (l : Line) : List String :=
  if l.verboseOnly then [] else [String.ofList (List.replicate (2 * l.depth) ' ') ++ l.message]

def Line.verboseText (l : Line) : String :=
  String.ofList (List.replicate (2 * (l.depth + l.verboseDepth)) ' ') ++ l.message

def quietLog (ls : List Line) : List String := ls.flatMap Line.quietText

def verboseLog (ls : List Line) : List String := ls.map Line.verboseText

@[simp] theorem quietLog_nil : quietLog [] = [] := rfl

@[simp] theorem verboseLog_nil : verboseLog [] = [] := rfl

@[simp] theorem quietLog_cons (l : Line) (ls : List Line) :
    quietLog (l :: ls) = l.quietText ++ quietLog ls := rfl

@[simp] theorem verboseLog_cons (l : Line) (ls : List Line) :
    verboseLog (l :: ls) = l.verboseText :: verboseLog ls := rfl

@[simp] theorem quietLog_append (ls ls' : List Line) :
    quietLog (ls ++ ls') = quietLog ls ++ quietLog ls' := by
  simp [quietLog]

@[simp] theorem verboseLog_append (ls ls' : List Line) :
    verboseLog (ls ++ ls') = verboseLog ls ++ verboseLog ls' := by
  simp [verboseLog]

theorem log_lines (j : Journal) (msg : String) :
    (j.log msg).quiet.toList = j.quiet.toList ++ quietLog [⟨j.depth, j.verboseDepth, msg, false⟩] ∧
      (j.log msg).verbose.toList =
        j.verbose.toList ++ verboseLog [⟨j.depth, j.verboseDepth, msg, false⟩] := by
  simp [quietLog, verboseLog, Line.quietText, Line.verboseText, Journal.indented_eq]

theorem logVerbose_lines (j : Journal) (msg : String) :
    (j.logVerbose msg).quiet.toList = j.quiet.toList ++ quietLog [⟨j.depth, j.verboseDepth, msg, true⟩] ∧
      (j.logVerbose msg).verbose.toList =
        j.verbose.toList ++ verboseLog [⟨j.depth, j.verboseDepth, msg, true⟩] := by
  simp [quietLog, verboseLog, Line.quietText, Line.verboseText, Journal.indented_eq]

/-- The line written `d` levels of depth and `v` of verbose depth further in. -/
def Line.shift (d v : Nat) (l : Line) : Line :=
  { l with depth := l.depth + d, verboseDepth := l.verboseDepth + v }

def Line.nest : Nesting → Line → Line
  | .depth => shift 1 0
  | .verbose => shift 0 1

@[simp] theorem Line.shift_zero (l : Line) : l.shift 0 0 = l := rfl

@[simp] theorem Line.shift_shift (l : Line) (d v d' v' : Nat) :
    (l.shift d v).shift d' v' = l.shift (d + d') (v + v') := by
  simp [shift, Nat.add_assoc]

/-- A line written one level deeper, placed from a journal, is the line placed from the journal
that level deeper. -/
theorem Line.shift_nest (l : Line) (n : Nesting) (j : Journal) :
    (l.nest n).shift j.depth j.verboseDepth = l.shift (j.enter n).depth (j.enter n).verboseDepth := by
  cases n <;> simp [nest, Journal.enter, Nat.add_comm]

end Layout

/-- What a step adds to the run state, one at a time: a line of the journal, at depths counted
from those the step started at, or an event. -/
inductive Effect where
  | line (l : Layout.Line)
  | event (e : Event)

namespace Effect

def lines : List Effect → List Layout.Line
  | [] => []
  | line l :: effs => l :: lines effs
  | event _ :: effs => lines effs

def events : List Effect → List Event
  | [] => []
  | line _ :: effs => events effs
  | event e :: effs => e :: events effs

def nest (n : Nesting) : Effect → Effect
  | line l => line (l.nest n)
  | event e => event e

@[simp] theorem lines_nil : lines [] = [] := rfl

@[simp] theorem lines_line (l : Layout.Line) (effs : List Effect) :
    lines (line l :: effs) = l :: lines effs := rfl

@[simp] theorem lines_event (e : Event) (effs : List Effect) :
    lines (event e :: effs) = lines effs := rfl

@[simp] theorem events_nil : events [] = [] := rfl

@[simp] theorem events_line (l : Layout.Line) (effs : List Effect) :
    events (line l :: effs) = events effs := rfl

@[simp] theorem events_event (e : Event) (effs : List Effect) :
    events (event e :: effs) = e :: events effs := rfl

@[simp] theorem lines_append (effs effs' : List Effect) :
    lines (effs ++ effs') = lines effs ++ lines effs' := by
  induction effs with
  | nil => rfl
  | cons eff effs ih => cases eff <;> simp [ih]

@[simp] theorem events_append (effs effs' : List Effect) :
    events (effs ++ effs') = events effs ++ events effs' := by
  induction effs with
  | nil => rfl
  | cons eff effs ih => cases eff <;> simp [ih]

@[simp] theorem lines_map_event (es : List Event) : lines (es.map event) = [] := by
  induction es with
  | nil => rfl
  | cons e es ih => simp [ih]

@[simp] theorem events_map_event (es : List Event) : events (es.map event) = es := by
  induction es with
  | nil => rfl
  | cons e es ih => simp [ih]

@[simp] theorem lines_map_line (ls : List Layout.Line) : lines (ls.map line) = ls := by
  induction ls with
  | nil => rfl
  | cons l ls ih => simp [ih]

@[simp] theorem events_map_line (ls : List Layout.Line) : events (ls.map line) = [] := by
  induction ls with
  | nil => rfl
  | cons l ls ih => simp [ih]

@[simp] theorem lines_map_nest (n : Nesting) (effs : List Effect) :
    lines (effs.map (nest n)) = (lines effs).map (·.nest n) := by
  induction effs with
  | nil => rfl
  | cons eff effs ih => cases eff <;> simp [nest, ih]

@[simp] theorem events_map_nest (n : Nesting) (effs : List Effect) :
    events (effs.map (nest n)) = events effs := by
  induction effs with
  | nil => rfl
  | cons eff effs ih => cases eff <;> simp [nest, ih]

end Effect

/-- `t` is `s` with the effects `effs` added: their lines in both logs, placed from the depths
of `s`, and their events; the journal is back at the depths of `s`. -/
structure Adds (s : RunState) (effs : List Effect) (t : RunState) : Prop where
  depth : t.journal.depth = s.journal.depth
  verboseDepth : t.journal.verboseDepth = s.journal.verboseDepth
  quiet : t.journal.quiet.toList = s.journal.quiet.toList ++
    Layout.quietLog ((Effect.lines effs).map (·.shift s.journal.depth s.journal.verboseDepth))
  verbose : t.journal.verbose.toList = s.journal.verbose.toList ++
    Layout.verboseLog ((Effect.lines effs).map (·.shift s.journal.depth s.journal.verboseDepth))
  events : t.events = s.events ++ Effect.events effs

namespace Adds

variable {s t u : RunState} {effs effs' : List Effect}

theorem refl (s : RunState) : Adds s [] s :=
  ⟨rfl, rfl, by simp, by simp, by simp⟩

theorem trans (h : Adds s effs t) (h' : Adds t effs' u) : Adds s (effs ++ effs') u := by
  obtain ⟨hd, hv, hq, hvl, he⟩ := h
  obtain ⟨hd', hv', hq', hvl', he'⟩ := h'
  -- the second step places its lines from the depths the first came back to
  rw [hd, hv] at hq' hvl'
  exact ⟨hd'.trans hd, hv'.trans hv, by simp [hq', hq], by simp [hvl', hvl], by simp [he', he]⟩

/-- Only the journal and the events are seen: a step that also changes admission or the
counters adds the same. -/
theorem frame (h : Adds s effs t) {t' : RunState} (hj : t'.journal = t.journal)
    (he : t'.events = t.events) : Adds s effs t' := by
  obtain ⟨hd, hv, hq, hvl, hev⟩ := h
  exact ⟨hj ▸ hd, hj ▸ hv, hj ▸ hq, hj ▸ hvl, he ▸ hev⟩

theorem of_events (es : List Event) (hj : t.journal = s.journal) (he : t.events = s.events ++ es) :
    Adds s (es.map Effect.event) t :=
  ⟨by rw [hj], by rw [hj], by simp [hj], by simp [hj], by simpa using he⟩

theorem log (s : RunState) (m : String) :
    Adds s [.line ⟨0, 0, m, false⟩] { s with journal := s.journal.log m } := by
  obtain ⟨hq, hv⟩ := Layout.log_lines s.journal m
  exact ⟨rfl, rfl, by simpa [Layout.Line.shift] using hq, by simpa [Layout.Line.shift] using hv,
    by simp⟩

theorem logVerbose (s : RunState) (m : String) :
    Adds s [.line ⟨0, 0, m, true⟩] { s with journal := s.journal.logVerbose m } := by
  obtain ⟨hq, hv⟩ := Layout.logVerbose_lines s.journal m
  exact ⟨rfl, rfl, by simpa [Layout.Line.shift] using hq, by simpa [Layout.Line.shift] using hv,
    by simp⟩

/-- What a step adds one level deeper is, seen from outside, its effects nested. -/
theorem nested (n : Nesting) (h : Adds { s with journal := s.journal.enter n } effs t) :
    Adds s (effs.map (Effect.nest n)) { t with journal := t.journal.leave n } := by
  obtain ⟨hd, hv, hq, hvl, he⟩ := h
  have hshift : ((Effect.lines effs).map (·.nest n)).map
      (·.shift s.journal.depth s.journal.verboseDepth) =
        (Effect.lines effs).map (·.shift (s.journal.enter n).depth (s.journal.enter n).verboseDepth) := by
    simp [Function.comp_def, Layout.Line.shift_nest]
  refine ⟨?_, ?_, ?_, ?_, by simpa using he⟩
  · cases n <;> simp_all [Journal.enter, Journal.leave]
  · cases n <;> simp_all [Journal.enter, Journal.leave]
  · simp only [Journal.quiet_leave, Effect.lines_map_nest, List.map_map]
    rw [hq, ← hshift]
    simp [Function.comp_def]
  · simp only [Journal.verbose_leave, Effect.lines_map_nest, List.map_map]
    rw [hvl, ← hshift]
    simp [Function.comp_def]

end Adds

/-! ### The steps of a walk, executed -/

def RunState.enterLimits (s : RunState) (countLimit : Nat) (durationLimit : Span) : RunState :=
  { s with admission := (s.admission.enterScope countLimit durationLimit).1,
           events := s.events ++ [.enterLimits countLimit durationLimit] }

def RunState.releaseLimits (s : RunState) (guard : ScopeGuard) : RunState :=
  { s with admission := s.admission.release guard, events := s.events ++ [.releaseLimits guard] }

@[simp] theorem RunState.admission_enterLimits (s : RunState) (countLimit : Nat)
    (durationLimit : Span) :
    (s.enterLimits countLimit durationLimit).admission =
      (s.admission.enterScope countLimit durationLimit).1 := rfl

@[simp] theorem RunState.events_enterLimits (s : RunState) (countLimit : Nat)
    (durationLimit : Span) :
    (s.enterLimits countLimit durationLimit).events =
      s.events ++ [.enterLimits countLimit durationLimit] := rfl

@[simp] theorem RunState.admission_releaseLimits (s : RunState) (guard : ScopeGuard) :
    (s.releaseLimits guard).admission = s.admission.release guard := rfl

@[simp] theorem RunState.events_releaseLimits (s : RunState) (guard : ScopeGuard) :
    (s.releaseLimits guard).events = s.events ++ [.releaseLimits guard] := rfl

namespace Run

@[simp] theorem exec_log (m : String) (s : RunState) :
    (log m).exec s = (.ok (), { s with journal := s.journal.log m }) := rfl

@[simp] theorem exec_logVerbose (m : String) (s : RunState) :
    (logVerbose m).exec s = (.ok (), { s with journal := s.journal.logVerbose m }) := rfl

@[simp] theorem exec_tally (f : Tally → Tally) (s : RunState) :
    (tally f).exec s = (.ok (), { s with tally := f s.tally }) := rfl

@[simp] theorem exec_note (e : Event) (s : RunState) :
    (note e).exec s = (.ok (), { s with events := s.events ++ [e] }) := rfl

/-- A request is kept as an event before the server answers it, so a refused request is in
the events of the failed pass too. -/
theorem exec_call {α : Type} (r : Request) (reply : List Request → Except ServerError α)
    (context : String) (s : RunState) :
    (call r reply context).exec s =
      ((reply s.requests).mapError (context :: ·.chain),
        { s with events := s.events ++ [Event.request r] }) := by
  simp only [call, RunM.exec_bind, RunM.exec_get, RunM.exec_set]
  cases reply s.requests <;> rfl

@[simp] theorem exec_check (m : MediaInfo) (s : RunState) :
    (check m).exec s = (.ok (s.admission.check m),
      { s with events := s.events ++ [Event.check m (s.admission.check m)] }) := rfl

@[simp] theorem exec_count (m : MediaInfo) (s : RunState) :
    (count m).exec s = (.ok (), { s with admission := s.admission.count m,
                                         events := s.events ++ [Event.count m] }) := rfl

/-- A refused record leaves admission as it was and ends the pass. -/
theorem exec_record (m : MediaInfo) (s : RunState) :
    (record m).exec s = match s.admission.record m with
      | .ok a => (.ok (), { s with admission := a, events := s.events ++ [Event.record m (.ok ())] })
      | .error e => (.error e.chain, { s with events := s.events ++ [Event.record m (.error e)] }) := by
  simp only [record, RunM.exec_bind, RunM.exec_get]
  cases s.admission.record m <;> rfl

/-- A nesting level is left on both exits of the nested step. -/
theorem exec_nested {α : Type} (n : Nesting) (k : RunM α) (s : RunState) :
    (nested n k).exec s =
      ((k.exec { s with journal := s.journal.enter n }).1,
        let t := (k.exec { s with journal := s.journal.enter n }).2
        { t with journal := t.journal.leave n }) := by
  simp only [nested, RunM.exec_bind, RunM.exec_modify, RunM.exec_always]

theorem exec_withinLimits {α : Type} (countLimit : Nat) (durationLimit : Span) (k : RunM α)
    (s : RunState) :
    (withinLimits countLimit durationLimit k).exec s =
      ((k.exec (s.enterLimits countLimit durationLimit)).1,
        (k.exec (s.enterLimits countLimit durationLimit)).2.releaseLimits
          (s.admission.enterScope countLimit durationLimit).2) := by
  simp only [withinLimits, RunM.exec_bind, RunM.exec_get, RunM.exec_set, RunM.exec_always,
    RunM.exec_modify, RunState.enterLimits, RunState.releaseLimits]

end Run

/-! ### Relations kept by a walk -/

/-- A relation that the bookkeeping of a walk keeps: a preorder that survives writing either
log, a request to the server, and a nesting level entered and left. -/
structure Walkable (R : RunState → RunState → Prop) : Prop where
  refl : ∀ s, R s s
  trans : ∀ {s t u}, R s t → R t u → R s u
  log : ∀ s m, R s { s with journal := s.journal.log m }
  logVerbose : ∀ s m, R s { s with journal := s.journal.logVerbose m }
  request : ∀ s r, R s { s with events := s.events ++ [Event.request r] }
  nested : ∀ {s t} (n : Nesting), R { s with journal := s.journal.enter n } t →
    R s { t with journal := t.journal.leave n }

theorem Walkable.top : Walkable fun _ _ => True :=
  ⟨fun _ => trivial, fun _ _ => trivial, fun _ _ => trivial, fun _ _ => trivial,
    fun _ _ => trivial, fun _ _ => trivial⟩

/-- A property of the run state that the journal does not decide is kept by the bookkeeping of a
walk as soon as a request keeps it. -/
theorem Walkable.invariant {P : RunState → Prop}
    (hframe : ∀ s j, P s → P { s with journal := j })
    (hrequest : ∀ s r, P s → P { s with events := s.events ++ [Event.request r] }) :
    Walkable fun s t => P s → P t where
  refl _ hs := hs
  trans h h' hs := h' (h hs)
  log s _ := hframe s _
  logVerbose s _ := hframe s _
  request := hrequest
  nested _ h hs := hframe _ _ (h (hframe _ _ hs))

/-! ### The judgement -/

/-- What a step may add with each way it ends: with its result, or with the failure that ended
the pass. -/
abbrev Spec (α : Type) := Except Failure α → List Effect → Prop

namespace Spec

variable {α β : Type}

def done (a : α) : Spec α := fun r effs => r = .ok a ∧ effs = []

/-- A step of `A` that returned `a`, then a step of `B a`; or a step of `A` that ended the
pass. -/
def seq (A : Spec α) (B : α → Spec β) : Spec β := fun r effs =>
  (∃ a effs₁ effs₂, A (.ok a) effs₁ ∧ B a r effs₂ ∧ effs = effs₁ ++ effs₂) ∨
    ∃ e, r = .error e ∧ A (.error e) effs

def nested (n : Nesting) (A : Spec α) : Spec α := fun r effs =>
  ∃ effs', A r effs' ∧ effs = effs'.map (Effect.nest n)

def map (f : α → β) (A : Spec α) : Spec β := fun r effs => ∃ r', A r' effs ∧ r = r'.map f

end Spec

/-- The judgement of the logic: from every state, `k` keeps `R` and adds effects that `A` admits
with its result. -/
def Meets (R : RunState → RunState → Prop) {α : Type} (A : Spec α) (k : RunM α) : Prop :=
  ∀ s, R s (k.exec s).2 ∧ ∃ effs, Adds s effs (k.exec s).2 ∧ A (k.exec s).1 effs

/-- `k` keeps `R`, whatever it adds. -/
abbrev Keeps (R : RunState → RunState → Prop) {α : Type} (k : RunM α) : Prop :=
  Meets R (fun _ _ => True) k

namespace Meets

variable {R : RunState → RunState → Prop} {α β : Type} {A A' : Spec α}

theorem of_exec {k : RunM α} (hk : Meets R A k) {s t : RunState} {r : Except Failure α}
    (h : k.exec s = (r, t)) : R s t ∧ ∃ effs, Adds s effs t ∧ A r effs := by
  have kept := hk s
  rw [h] at kept
  exact kept

theorem mono (hA : ∀ r effs, A r effs → A' r effs) {k : RunM α} (hk : Meets R A k) :
    Meets R A' k := by
  intro s
  obtain ⟨hkept, effs, hadds, h⟩ := hk s
  exact ⟨hkept, effs, hadds, hA _ _ h⟩

theorem keeps {k : RunM α} (hk : Meets R A k) : Keeps R k := hk.mono fun _ _ _ => trivial

theorem pure (hR : Walkable R) (a : α) : Meets R (Spec.done a) (Pure.pure a : RunM α) := fun s =>
  ⟨hR.refl s, [], Adds.refl s, rfl, rfl⟩

/-- The bind rule: what the first step adds, then, if it returned, what the second adds. The
second step is needed only at the results that `A` admits. -/
theorem bind_of (hR : Walkable R) {k : RunM α} {f : α → RunM β} {B : α → Spec β} (hk : Meets R A k)
    (hf : ∀ a effs, A (.ok a) effs → Meets R (B a) (f a)) : Meets R (A.seq B) (k >>= f) := by
  intro s
  obtain ⟨hkept, effs, hadds, hA⟩ := hk s
  rw [RunM.exec_bind]
  rcases h : k.exec s with ⟨_ | a, t⟩ <;> rw [h] at hkept hadds hA
  · exact ⟨hkept, effs, hadds, .inr ⟨_, rfl, hA⟩⟩
  · obtain ⟨hkept', effs', hadds', hB⟩ := hf a effs hA t
    exact ⟨hR.trans hkept hkept', effs ++ effs', hadds.trans hadds', .inl ⟨a, effs, effs', hA, hB, rfl⟩⟩

theorem bind (hR : Walkable R) {k : RunM α} {f : α → RunM β} {B : α → Spec β} (hk : Meets R A k)
    (hf : ∀ a, Meets R (B a) (f a)) : Meets R (A.seq B) (k >>= f) :=
  bind_of hR hk fun a _ _ => hf a

theorem map (f : α → β) {k : RunM α} (hk : Meets R A k) : Meets R (A.map f) (f <$> k) := by
  intro s
  obtain ⟨hkept, effs, hadds, hA⟩ := hk s
  rw [RunM.exec_map]
  rcases h : k.exec s with ⟨_ | a, t⟩ <;> rw [h] at hkept hadds hA
  · exact ⟨hkept, effs, hadds, _, hA, rfl⟩
  · exact ⟨hkept, effs, hadds, _, hA, rfl⟩

/-- The loop rule: an invariant `I xs b` for the rest of the loop over `xs` from the accumulator
`b`, which admits the end of the list and every round followed by the rest of the loop, or by
nothing when the round breaks out. -/
theorem forIn (hR : Walkable R) {body : α → β → RunM (ForInStep β)} (B : α → β → Spec (ForInStep β))
    (hbody : ∀ x b, Meets R (B x b) (body x b)) (I : List α → β → Spec β)
    (hnil : ∀ b, I [] b (.ok b) [])
    (hcons : ∀ x xs b r effs, Spec.seq (B x b) (fun step => match step with
        | .done b' => Spec.done b'
        | .yield b' => I xs b') r effs → I (x :: xs) b r effs)
    (xs : List α) (init : β) : Meets R (I xs init) (ForIn.forIn xs init body) := by
  induction xs generalizing init with
  | nil => exact (pure hR init).mono fun r effs ⟨hr, heffs⟩ => hr ▸ heffs ▸ hnil init
  | cons x xs ih =>
    rw [List.forIn_cons]
    have hrest : ∀ step : ForInStep β, Meets R (match step with
        | .done b' => Spec.done b'
        | .yield b' => I xs b')
        (match step with
          | .done b => Pure.pure b
          | .yield b => ForIn.forIn xs b body) := by
      intro step
      cases step with
      | done b => exact pure hR b
      | yield b => exact ih b
    exact (bind hR (hbody x init) hrest).mono (hcons x xs init)

/-- A loop that never breaks out folds its rounds, adding what each adds. -/
theorem forIn_yield (hR : Walkable R) {body : α → β → RunM (ForInStep β)} (g : β → α → β)
    (E : α → List Effect)
    (hbody : ∀ x b, Meets R (fun r effs => r = .ok (.yield (g b x)) ∧ effs = E x) (body x b))
    (xs : List α) (init : β) :
    Meets R (fun r effs => r = .ok (xs.foldl g init) ∧ effs = xs.flatMap E)
      (ForIn.forIn xs init body) := by
  refine forIn hR _ hbody (fun xs b r effs => r = .ok (xs.foldl g b) ∧ effs = xs.flatMap E)
    (fun b => ⟨rfl, rfl⟩) ?_ xs init
  rintro x xs b r effs (⟨step, effs₁, effs₂, ⟨hstep, rfl⟩, hrest, rfl⟩ | ⟨e, rfl, he, _⟩)
  · cases hstep
    obtain ⟨hr, rfl⟩ := hrest
    exact ⟨hr, rfl⟩
  · cases he

theorem log (hR : Walkable R) (m : String) :
    Meets R (fun r effs => r = .ok () ∧ effs = [.line ⟨0, 0, m, false⟩]) (Run.log m) := by
  intro s
  rw [Run.exec_log]
  exact ⟨hR.log s m, _, Adds.log s m, rfl, rfl⟩

theorem logVerbose (hR : Walkable R) (m : String) :
    Meets R (fun r effs => r = .ok () ∧ effs = [.line ⟨0, 0, m, true⟩]) (Run.logVerbose m) := by
  intro s
  rw [Run.exec_logVerbose]
  exact ⟨hR.logVerbose s m, _, Adds.logVerbose s m, rfl, rfl⟩

/-- A request adds its event and returns the server's answer to the requests sent before. -/
theorem call (hR : Walkable R) (req : Request) (reply : List Request → Except ServerError α)
    (context : String) :
    Meets R (fun r effs => (∃ rs, r = (reply rs).mapError (context :: ·.chain)) ∧
      effs = [.event (.request req)]) (Run.call req reply context) := by
  intro s
  rw [Run.exec_call]
  exact ⟨hR.request s req, _, Adds.of_events [_] rfl rfl, ⟨s.requests, rfl⟩, rfl⟩

theorem note {e : Event} (hnote : ∀ s, R s { s with events := s.events ++ [e] }) :
    Meets R (fun r effs => r = .ok () ∧ effs = [.event e]) (Run.note e) := by
  intro s
  rw [Run.exec_note]
  exact ⟨hnote s, _, Adds.of_events [e] rfl rfl, rfl, rfl⟩

theorem nested (hR : Walkable R) (n : Nesting) {k : RunM α} (hk : Meets R A k) :
    Meets R (A.nested n) (Run.nested n k) := by
  intro s
  rw [Run.exec_nested]
  obtain ⟨hkept, effs, hadds, hA⟩ := hk { s with journal := s.journal.enter n }
  exact ⟨hR.nested n hkept, _, hadds.nested n, effs, hA, rfl⟩

/-- The limits rule: the step runs with the limits entered, and keeps there a relation `R' s`
for the state `s` it started from; letting go of the guard turns that into `R`. -/
theorem withinLimits {R' : RunState → RunState → RunState → Prop} (countLimit : Nat)
    (durationLimit : Span) {k : RunM α} (hk : ∀ s, Meets (R' s) A k)
    (hbridge : ∀ s t, R' s (s.enterLimits countLimit durationLimit) t →
      R s (t.releaseLimits (s.admission.enterScope countLimit durationLimit).2)) :
    Meets R (fun r effs => ∃ effs' g, A r effs' ∧
      effs = [.event (.enterLimits countLimit durationLimit)] ++ effs' ++
        [.event (.releaseLimits g)]) (Run.withinLimits countLimit durationLimit k) := by
  intro s
  rw [Run.exec_withinLimits]
  obtain ⟨hkept, effs, hadds, hA⟩ := hk s (s.enterLimits countLimit durationLimit)
  have henter : Adds s [.event (.enterLimits countLimit durationLimit)]
      (s.enterLimits countLimit durationLimit) := Adds.of_events [_] rfl rfl
  have hrelease : ∀ t g, Adds t [.event (.releaseLimits g)] (t.releaseLimits g) :=
    fun t g => Adds.of_events [_] rfl rfl
  exact ⟨hbridge s _ hkept, _, (henter.trans hadds).trans (hrelease _ _), effs, _, hA, rfl⟩

/-- Limits entered and let go of keep a relation that each of the two keeps. -/
theorem withinLimits_of (hR : Walkable R) (countLimit : Nat) (durationLimit : Span) {k : RunM α}
    (henter : ∀ s, R s (s.enterLimits countLimit durationLimit))
    (hrelease : ∀ s g, R s (s.releaseLimits g)) (hk : Meets R A k) :
    Meets R (fun r effs => ∃ effs' g, A r effs' ∧
      effs = [.event (.enterLimits countLimit durationLimit)] ++ effs' ++
        [.event (.releaseLimits g)]) (Run.withinLimits countLimit durationLimit k) :=
  withinLimits countLimit durationLimit (fun _ => hk) fun s _ h =>
    hR.trans (henter s) (hR.trans h (hrelease _ _))

end Meets

theorem Keeps.of_exec {R : RunState → RunState → Prop} {α : Type} {k : RunM α} (hk : Keeps R k)
    {s t : RunState} {r : Except Failure α} (h : k.exec s = (r, t)) : R s t :=
  (Meets.of_exec hk h).1

/-! ### Listing folders, fetching details, matching children -/

def Selection.positions (sel : Selection) (children : List Item) : List Nat :=
  (children.zipIdx.filter fun p => sel.picks p.1).map Prod.snd

theorem Selection.foldl_push (sel : Selection) (xs : List (Item × Nat)) (init : Array Nat) :
    (xs.foldl (fun found p => if sel.picks p.1 then found.push p.2 else found) init).toList =
      init.toList ++ (xs.filter fun p => sel.picks p.1).map Prod.snd := by
  induction xs generalizing init with
  | nil => simp
  | cons x xs ih =>
    rw [List.foldl_cons, ih, List.filter_cons]
    split <;> simp

/-- The lines the matching writes for a child, from its own depths: `Checking`, then
`Excluded match.` when the name matches both the pattern and the exclusion. -/
def Selection.checkLines (sel : Selection) (child : Item) : List Layout.Line :=
  ⟨0, 0, "Checking " ++ Run.quote child.name ++ "...", true⟩ ::
    if matchesPattern child.name sel.name && matchesPattern child.name sel.exclude then
      [⟨0, 0, "Excluded match.", true⟩]
    else []

namespace Meets

variable {R : RunState → RunState → Prop} (hR : Walkable R)
include hR

/-- Listing a folder writes no line and returns its children: those it knows, or the server's
answer to the request for them, with which it comes back. -/
theorem childrenOf (srv : Server) (f : Folder) :
    Meets R (fun r effs => Effect.lines effs = [] ∧ match f.children with
      | some cs => r = .ok (f, cs)
      | none => ∃ rs, r = ((srv.items rs f.url).mapError
          (("Failed to list " ++ Run.quote f.name) :: ·.chain)).map fun cs => (f.withChildren cs, cs))
      (Run.childrenOf srv f) := by
  cases hc : f.children with
  | some cs =>
    simp only [Run.childrenOf, hc]
    exact (pure hR _).mono fun r effs ⟨hr, heffs⟩ => ⟨by simp [heffs], hr⟩
  | none =>
    simp only [Run.childrenOf, hc]
    refine (bind hR (call hR _ _ _) fun cs => pure hR _).mono ?_
    rintro r effs (⟨cs, effs₁, effs₂, ⟨⟨rs, hrs⟩, rfl⟩, ⟨rfl, rfl⟩, rfl⟩ | ⟨e, rfl, ⟨rs, hrs⟩, rfl⟩)
    · exact ⟨rfl, rs, by rw [← hrs]; rfl⟩
    · exact ⟨rfl, rs, by rw [← hrs]; rfl⟩

/-- Fetching the details of a video writes no line and returns them: those it knows, or the
server's answer to the request for them, with which it comes back. -/
theorem detailsOf (srv : Server) (v : Video) :
    Meets R (fun r effs => Effect.lines effs = [] ∧ match v.details with
      | some d => r = .ok (v, d)
      | none => ∃ rs, r = ((srv.details rs v.url).mapError
          (("Failed to load details for " ++ Run.quote v.name) :: ·.chain)).map
            fun d => ({ v with details := some d }, d))
      (Run.detailsOf srv v) := by
  cases hd : v.details with
  | some d =>
    simp only [Run.detailsOf, hd]
    exact (pure hR _).mono fun r effs ⟨hr, heffs⟩ => ⟨by simp [heffs], hr⟩
  | none =>
    simp only [Run.detailsOf, hd]
    refine (bind hR (call hR _ _ _) fun d => pure hR _).mono ?_
    rintro r effs (⟨d, effs₁, effs₂, ⟨⟨rs, hrs⟩, rfl⟩, ⟨rfl, rfl⟩, rfl⟩ | ⟨e, rfl, ⟨rs, hrs⟩, rfl⟩)
    · exact ⟨rfl, rs, by rw [← hrs]; rfl⟩
    · exact ⟨rfl, rs, by rw [← hrs]; rfl⟩

/-- The matching writes the check lines of every child, in order, and returns the positions of
the children the selection picks. -/
theorem matching (sel : Selection) (children : List Item) :
    Meets R (fun r effs => r = .ok (sel.positions children) ∧
      effs = (children.flatMap sel.checkLines).map .line) (Run.matching sel children) := by
  unfold Run.matching
  refine (bind hR (forIn_yield hR (fun found p => if sel.picks p.1 then found.push p.2 else found)
    (fun p => (sel.checkLines p.1).map .line) (fun x found => ?_) children.zipIdx #[])
    fun found => pure hR _).mono ?_
  · obtain ⟨child, i⟩ := x
    refine (bind hR (logVerbose hR _) (fun _ => ?_ : ∀ _ : Unit, Meets R (fun r effs =>
        r = .ok (.yield (if sel.picks child then found.push i else found)) ∧
        effs = ((sel.checkLines child).map .line).tail) _)).mono ?_
    · -- a child is picked when its name matches the pattern and not the exclusion
      by_cases hname : matchesPattern child.name sel.name = true
      · by_cases hexcl : matchesPattern child.name sel.exclude = true
        · rw [if_pos hname, if_pos hexcl]
          refine (bind hR (logVerbose hR _) fun _ => pure hR _).mono ?_
          rintro r effs (⟨_, _, _, ⟨-, rfl⟩, ⟨rfl, rfl⟩, rfl⟩ | ⟨e, rfl, he, -⟩)
          · simp [Selection.picks, Selection.checkLines, hname, hexcl]
          · cases he
        · rw [if_pos hname, if_neg hexcl]
          exact (pure hR _).mono fun r effs h =>
            ⟨by simp [h.1, Selection.picks, hname, hexcl], by simp [h.2, Selection.checkLines, hexcl]⟩
      · rw [if_neg hname]
        exact (pure hR _).mono fun r effs h =>
          ⟨by simp [h.1, Selection.picks, hname], by simp [h.2, Selection.checkLines, hname]⟩
    · rintro r effs (⟨_, effs₁, effs₂, ⟨-, rfl⟩, ⟨hr, rfl⟩, rfl⟩ | ⟨e, rfl, he, -⟩)
      · exact ⟨hr, by simp [Selection.checkLines]⟩
      · cases he
  · rintro r effs (⟨found, effs₁, effs₂, ⟨hfound, rfl⟩, ⟨rfl, rfl⟩, rfl⟩ | ⟨e, rfl, he, _⟩)
    · cases hfound
      refine ⟨by simpa [Selection.positions] using sel.foldl_push children.zipIdx #[], ?_⟩
      -- the loop ran over the children with their positions
      simp only [List.append_nil, List.map_flatMap]
      conv_rhs => rw [← List.zipIdx_map_fst 0 children]
      rw [List.flatMap_map]
    · cases he

end Meets

end CatalogQueue
