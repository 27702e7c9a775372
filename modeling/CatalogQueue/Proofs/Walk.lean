import CatalogQueue.Proofs.Decision

/-!
The walk of a pass in the program logic. `LaysOut R d v A k`: from depths `d` and `v`, `k` writes
lines of shape `A` and keeps `R`. Every walk lays out the lines of its actions, as their place in
the pass tree gives them (`Action.layout`), and keeps each relation its queue actions keep.
-/

namespace CatalogQueue

namespace Layout

/-! ### Shapes of line lists -/

/-- The line lists a step may write, each with whether the step returned (`true`) or ended the
pass (`false`). -/
abbrev Shape := List Line → Bool → Prop

namespace Shape

def done : Shape := fun ls ok => ls = [] ∧ ok = true

def silent : Shape := fun ls _ => ls = []

def one (l : Line) : Shape := fun ls ok => ls = [l] ∧ ok = true

def named (l : String → Line) : Shape := fun ls ok => ∃ name, ls = [l name] ∧ ok = true

def alt (A B : Shape) : Shape := fun ls ok => A ls ok ∨ B ls ok

/-- A step of shape `A` that returns, then one of shape `B`; or a step of shape `A` that ends
the pass. -/
def seq (A B : Shape) : Shape := fun ls ok =>
  (∃ l₁ l₂, ls = l₁ ++ l₂ ∧ A l₁ true ∧ B l₂ ok) ∨ (A ls false ∧ ok = false)

/-- Steps of shape `A`, any number of them, each returning but perhaps the last. -/
inductive star (A : Shape) : Shape
  | nil : star A [] true
  | cons {l₁ l₂ : List Line} {ok : Bool} : A l₁ true → star A l₂ ok → star A (l₁ ++ l₂) ok
  | stop {l : List Line} : A l false → star A l false

variable {A A' B B' : Shape}

theorem seq_mono (hA : ∀ ls ok, A ls ok → A' ls ok) (hB : ∀ ls ok, B ls ok → B' ls ok) :
    ∀ ls ok, seq A B ls ok → seq A' B' ls ok := by
  rintro ls ok (⟨l₁, l₂, rfl, h₁, h₂⟩ | ⟨h, rfl⟩)
  · exact .inl ⟨l₁, l₂, rfl, hA _ _ h₁, hB _ _ h₂⟩
  · exact .inr ⟨hA _ _ h, rfl⟩

theorem star_mono (hA : ∀ ls ok, A ls ok → A' ls ok) : ∀ ls ok, star A ls ok → star A' ls ok := by
  intro ls ok h
  induction h with
  | nil => exact .nil
  | cons h₁ _ ih => exact .cons (hA _ _ h₁) ih
  | stop h => exact .stop (hA _ _ h)

theorem seq_done : ∀ ls ok, seq A done ls ok → A ls ok := by
  rintro ls ok (⟨l₁, l₂, rfl, h₁, rfl, rfl⟩ | ⟨h, rfl⟩)
  · simpa using h₁
  · exact h

theorem silent_seq_silent : ∀ ls ok, seq silent (seq silent A) ls ok → seq silent A ls ok := by
  rintro ls ok (⟨l₁, l₂, rfl, rfl, h⟩ | ⟨rfl, rfl⟩)
  · simpa using h
  · exact .inr ⟨rfl, rfl⟩

theorem seq_silent : ∀ ls ok, A ls ok → seq silent A ls ok :=
  fun ls _ h => .inl ⟨[], ls, rfl, rfl, h⟩

end Shape

@[simp] theorem Line.nest_depth_shift (l : Line) (d v : Nat) :
    (l.nest .depth).shift d v = l.shift (d + 1) v := by
  simp [Line.nest, Nat.add_comm]

@[simp] theorem Line.nest_verbose_shift (l : Line) (d v : Nat) :
    (l.nest .verbose).shift d v = l.shift d (v + 1) := by
  simp [Line.nest, Nat.add_comm]

/-- Writing lines of shape `A` from the depths `d` and `v`. -/
def Shape.spec {α : Type} (A : Shape) (d v : Nat) : Spec α := fun r effs =>
  A ((Effect.lines effs).map (·.shift d v)) r.toBool

@[simp] theorem Shape.spec_ok {α : Type} (A : Shape) (d v : Nat) (a : α) (effs : List Effect) :
    A.spec d v (.ok a) effs ↔ A ((Effect.lines effs).map (·.shift d v)) true := Iff.rfl

@[simp] theorem Shape.spec_error {α : Type} (A : Shape) (d v : Nat) (e : Failure)
    (effs : List Effect) :
    (A.spec d v (.error e : Except Failure α) effs) ↔
      A ((Effect.lines effs).map (·.shift d v)) false := Iff.rfl

/-- `k` writes lines of shape `A` from the depths `d` and `v`, and keeps `R`. -/
abbrev LaysOut (R : RunState → RunState → Prop) {α : Type} (d v : Nat) (A : Shape) (k : RunM α) :
    Prop :=
  Meets R (A.spec d v) k

namespace LaysOut

variable {R : RunState → RunState → Prop} {α β : Type} {d v : Nat} {A B : Shape}

/-- A step laid out in a shape is laid out in every larger one. The larger shape comes first,
so that `LaysOut.mono hA (bind ...)` reads the step against the goal. -/
theorem mono {A' : Shape} (hA : ∀ ls ok, A ls ok → A' ls ok) {k : RunM α} (h : LaysOut R d v A k) :
    LaysOut R d v A' k :=
  Meets.mono (fun _ _ h => hA _ _ h) h

theorem silent {A₀ : Spec α} {k : RunM α} (hk : Meets R A₀ k)
    (hlines : ∀ r effs, A₀ r effs → Effect.lines effs = []) : LaysOut R d v .silent k :=
  hk.mono fun r effs h => by simp [Shape.spec, Shape.silent, hlines r effs h]

theorem map (f : α → β) {k : RunM α} (hk : LaysOut R d v A k) : LaysOut R d v A (f <$> k) :=
  (Meets.map f hk).mono fun _ _ ⟨r', h, hr⟩ => by subst hr; cases r' <;> exact h

variable (hR : Walkable R)
include hR

theorem pure (a : α) : LaysOut R d v .done (Pure.pure a : RunM α) :=
  (Meets.pure hR a).mono fun _ _ ⟨hr, heffs⟩ => by subst hr heffs; exact ⟨rfl, rfl⟩

/-- The bind rule: the lines of the first step, then, if it returned, those of the second. -/
theorem bind {k : RunM α} {f : α → RunM β} (hk : LaysOut R d v A k) (hf : ∀ a, LaysOut R d v B (f a)) :
    LaysOut R d v (A.seq B) (k >>= f) := by
  refine (Meets.bind hR hk hf).mono ?_
  rintro r effs (⟨a, effs₁, effs₂, h₁, h₂, rfl⟩ | ⟨e, rfl, h⟩)
  · exact .inl ⟨_, _, by simp, h₁, h₂⟩
  · exact .inr ⟨h, rfl⟩

theorem log (msg : String) : LaysOut R d v (.one ⟨d, v, msg, false⟩) (Run.log msg) :=
  (Meets.log hR msg).mono fun _ _ ⟨hr, heffs⟩ => by
    subst hr heffs
    exact ⟨by simp [Line.shift], rfl⟩

theorem logVerbose (msg : String) : LaysOut R d v (.one ⟨d, v, msg, true⟩) (Run.logVerbose msg) :=
  (Meets.logVerbose hR msg).mono fun _ _ ⟨hr, heffs⟩ => by
    subst hr heffs
    exact ⟨by simp [Line.shift], rfl⟩

theorem nested_depth {k : RunM α} (hk : LaysOut R (d + 1) v A k) :
    LaysOut R d v A (Run.nested .depth k) :=
  (Meets.nested hR .depth hk).mono fun _ _ ⟨effs', h, heffs⟩ => by
    subst heffs
    simpa [Shape.spec, Function.comp_def] using h

theorem nested_verbose {k : RunM α} (hk : LaysOut R d (v + 1) A k) :
    LaysOut R d v A (Run.nested .verbose k) :=
  (Meets.nested hR .verbose hk).mono fun _ _ ⟨effs', h, heffs⟩ => by
    subst heffs
    simpa [Shape.spec, Function.comp_def] using h

/-- The loop rule: a loop writes the lines of its rounds, each round returning but perhaps the
last; a round that stops the loop early writes its lines and nothing follows. -/
theorem forIn {body : α → β → RunM (ForInStep β)} (hbody : ∀ x b, LaysOut R d v A (body x b))
    (xs : List α) (init : β) : LaysOut R d v (.star A) (ForIn.forIn xs init body) := by
  refine Meets.forIn hR (fun _ _ => A.spec d v) hbody (fun _ _ => (Shape.star A).spec d v)
    (fun _ => .nil) ?_ xs init
  rintro x xs b r effs (⟨step, effs₁, effs₂, h₁, hrest, rfl⟩ | ⟨e, rfl, h⟩)
  · cases step with
    | done b' =>
      obtain ⟨rfl, rfl⟩ := hrest
      simpa using Shape.star.cons h₁ .nil
    | yield b' => simpa [Shape.spec] using Shape.star.cons h₁ hrest
  · exact .stop h

end LaysOut

/-! ### The lines of the actions of a pass -/

/-- A line that an action with `k` actions above it, `s` of them scans, writes at its own
level. -/
def actionLine (k s : Nat) (msg : String) : Line := ⟨k, k + 1 + s, msg, false⟩

def bodyLine (k s : Nat) (msg : String) (verboseOnly : Bool) : Line :=
  ⟨k + 1, k + 1 + s, msg, verboseOnly⟩

def outcomeLine (k s : Nat) (msg : String) : Line := ⟨k + 2, k + 1 + s, msg, false⟩

/-- A line around a folder that such an action, a scan, enters: one verbose level deeper than
its matching. -/
def folderLine (k s : Nat) (msg : String) : Line := ⟨k + 1, k + 2 + s, msg, true⟩

def passLine (msg : String) : Line := ⟨0, 0, msg, false⟩

namespace Shape

def checks (k s : Nat) : Shape :=
  star (seq (named fun name => bodyLine k s ("Checking " ++ Run.quote name ++ "...") true)
    (alt done (one (bodyLine k s "Excluded match." true))))

def noMatches (k s : Nat) (sel : Selection) : Shape :=
  one (bodyLine k s ("No matches for " ++ Run.quote sel.name ++ ".") false)

/-- A matching action: `Matching`, then, one level deeper, the listing of the folder, which may
end the pass, the checks, and `No matches` or the visits of the matching children. -/
def matchIn (k s : Nat) (sel : Selection) (visit : Shape) : Shape :=
  seq (one (actionLine k s ("Matching " ++ Run.quote sel.name ++ "...")))
    (seq silent (seq (checks k s) (alt (noMatches k s sel) (star visit))))

def decision (k s : Nat) : Shape :=
  seq silent fun ls ok => ∃ o : Outcome, ls = [outcomeLine k s o.text] ∧ ok = true

/-- A queue action's visit: `Queuing` and the decision about a video; any other item is not a
video. -/
def queueVisit (k s : Nat) : Shape :=
  alt (seq (named fun name => bodyLine k s ("Queuing " ++ Run.quote name ++ "...") false)
      (decision k s))
    (named fun name => bodyLine k s (Run.quote name ++ " is not a video.") true)

/-- A scan's visit: `Entering` a folder, the nested actions, `Leaving` it; any other item is not
a folder. -/
def scanVisit (k s : Nat) (nested : Shape) : Shape :=
  alt (seq (named fun name => folderLine k s ("Entering " ++ Run.quote name))
      (seq nested (named fun name => folderLine k s ("Leaving " ++ Run.quote name))))
    (named fun name => bodyLine k s (Run.quote name ++ " is not a folder.") true)

/-- A search: a folder that is not searchable says so; otherwise `Searching`, then, one level
deeper, the search, which may end the pass, and `No matches` or the nested actions on the
results. -/
def search (k s : Nat) (sel : Selection) (nested : Shape) : Shape :=
  alt (named fun name => actionLine k s (Run.quote name ++ " is not searchable."))
    (seq (one (actionLine k s ("Searching for " ++ Run.quote sel.name ++ "...")))
      (seq silent (alt (noMatches k s sel) nested)))

end Shape

end Layout

open Layout

mutual

/-- The lines of an action with `k` actions above it, `s` of them scans. The nested actions of
a scan have one more action and one more scan above them; those of a search one more action. -/
def Action.layout (k s : Nat) : Action → Shape
  | .scan sel acts =>
    Shape.matchIn k s sel (Shape.scanVisit k s (Action.layoutAll (k + 1) (s + 1) acts))
  | .search sel acts => Shape.search k s sel (Action.layoutAll (k + 1) s acts)
  | .queue sel _ _ => Shape.matchIn k s sel (Shape.queueVisit k s)

def Action.layoutAll (k s : Nat) : List Action → Shape
  | [] => Shape.done
  | a :: acts => Shape.seq (a.layout k s) (Action.layoutAll k s acts)

end

/-! ### The steps of a walk -/

theorem Layout.checks_checkLines (k s : Nat) (sel : Selection) (children : List Item) :
    Layout.Shape.checks k s
      ((children.flatMap sel.checkLines).map (·.shift (k + 1) (k + 1 + s))) true := by
  induction children with
  | nil => exact .nil
  | cons c cs ih =>
    rw [List.flatMap_cons, List.map_append]
    refine .cons ?_ ih
    -- `Checking`, and `Excluded match.` after a name that matches both patterns
    unfold Selection.checkLines
    split
    · exact .inl ⟨[_], [_], rfl, ⟨c.name, by simp [Layout.Line.shift, Layout.bodyLine], rfl⟩,
        .inr ⟨by simp [Layout.Line.shift, Layout.bodyLine], rfl⟩⟩
    · exact .inl ⟨[_], [], rfl, ⟨c.name, by simp [Layout.Line.shift, Layout.bodyLine], rfl⟩,
        .inl ⟨rfl, rfl⟩⟩

namespace Layout.LaysOut

variable {R : RunState → RunState → Prop} (hR : Walkable R) (srv : Server) (mode : RunMode) {d v : Nat}
include hR

theorem childrenOf (f : Folder) : LaysOut R d v .silent (Run.childrenOf srv f) :=
  silent (Meets.childrenOf hR srv f) fun _ _ h => h.1

/-- Settling a video writes its outcome line, unless fetching its details or recording it ends
the pass first. -/
theorem settle (hdecide : ∀ s v d r t, Resolved srv mode v d s r t → R s (Run.written d r t))
    (k s : Nat) (vid : Video) :
    LaysOut R (k + 2) (k + 1 + s) (Shape.decision k s) (Run.settle srv mode vid) := by
  refine (Meets.settle hR srv mode hdecide vid).mono fun r effs h => ?_
  cases r with
  | ok v' =>
    obtain ⟨-, o, hlines⟩ := h
    exact .inl ⟨[], _, rfl, rfl, o, by simp [hlines, Line.shift, outcomeLine], rfl⟩
  | error e =>
    obtain ⟨hlines, -⟩ := h
    exact .inr ⟨by simp [Shape.silent, hlines], rfl⟩

/-- A queue action's visit: `Queuing` and the decision about a video, or the line that another
item is not a video. -/
theorem queueItem (hdecide : ∀ s v d r t, Resolved srv mode v d s r t → R s (Run.written d r t))
    (k s : Nat) (x : Item) :
    LaysOut R (k + 1) (k + 1 + s) (Shape.queueVisit k s) (Run.queueItem srv mode x) := by
  cases x with
  | video vid =>
    refine (bind hR (log hR _) fun _ => bind hR (nested_depth hR (settle hR srv mode hdecide k s vid))
      fun _ => pure hR _).mono fun ls ok h => .inl ?_
    exact Shape.seq_mono (fun _ _ h => ⟨vid.name, h⟩) Shape.seq_done ls ok h
  | folder g =>
    refine (bind hR (logVerbose hR _) fun _ => pure hR _).mono fun ls ok h => .inr ?_
    exact ⟨g.name, Shape.seq_done ls ok h⟩

/-- The matching writes a `Checking` line for each child, and `Excluded match.` after a child
whose name matches the exclusion too. -/
theorem matching (k s : Nat) (sel : Selection) (children : List Item) :
    LaysOut R (k + 1) (k + 1 + s) (Shape.checks k s) (Run.matching sel children) :=
  (Meets.matching hR sel children).mono fun _ _ ⟨hr, heffs⟩ => by
    subst hr heffs
    simpa using checks_checkLines k s sel children

theorem visitAll {visit : Item → RunM (Option Item)} {V : Shape}
    (hvisit : ∀ x, LaysOut R d v V (visit x)) (children : List Item) (positions : List Nat) :
    LaysOut R d v (.star V) (Run.visitAll visit children positions) := by
  unfold Run.visitAll
  refine (bind hR (forIn hR (fun i cs => ?_) _ _ : LaysOut R d v (.star (.seq V .done)) _)
    fun _ => pure hR _).mono fun ls ok h =>
      Shape.star_mono Shape.seq_done ls ok (Shape.seq_done ls ok h)
  refine bind hR (hvisit _) fun r => ?_
  cases r <;> exact pure hR _

/-- A matching action: `Matching`, then one level deeper the checks and `No matches` or the
visits. -/
theorem matchIn (k s : Nat) (f : Folder) (sel : Selection) {visit : Item → RunM (Option Item)}
    {V : Shape} (hvisit : ∀ x, LaysOut R (k + 1) (k + 1 + s) V (visit x)) :
    LaysOut R k (k + 1 + s) (Shape.matchIn k s sel V) (Run.matchIn srv f sel visit) := by
  unfold Run.matchIn
  refine bind hR (log hR _) fun _ => nested_depth hR ?_
  refine bind hR (childrenOf hR srv f) fun ⟨f', children⟩ =>
    bind hR (matching hR k s sel children) fun found => ?_
  split
  · exact (bind hR (log hR _) fun _ => pure hR _).mono fun ls ok h => .inl (Shape.seq_done ls ok h)
  · exact (bind hR (visitAll hR hvisit _ _) fun _ => pure hR _).mono fun ls ok h =>
      .inr (Shape.seq_done ls ok h)

omit hR in
/-- A queue action: its limits, entered and let go of, frame the matching of videos. Inside
them the action keeps a relation `R' s` for the state `s` it started from, which letting go of
the guard turns into `R`. -/
theorem queue {R' : RunState → RunState → RunState → Prop} (hR' : ∀ s, Walkable (R' s))
    (hdecide : ∀ s₀ s v d r t, Resolved srv mode v d s r t → R' s₀ s (Run.written d r t))
    (k s : Nat) (f : Folder) (sel : Selection) (c : Nat) (dl : Span)
    (hbridge : ∀ s t, R' s (s.enterLimits c dl) t →
      R s (t.releaseLimits (s.admission.enterScope c dl).2)) :
    LaysOut R k (k + 1 + s) (Action.layout k s (.queue sel c dl))
      (Run.actionOn srv mode f (.queue sel c dl)) := by
  rw [Run.actionOn.eq_3, Action.layout]
  refine (Meets.withinLimits c dl (fun s₀ => matchIn (hR' s₀) srv k s f sel
    (queueItem (hR' s₀) srv mode (hdecide s₀) k s)) hbridge).mono ?_
  rintro r effs ⟨effs', g, h, rfl⟩
  simpa [Shape.spec] using h

/-- A queue action whose limits, entered and let go of, each keep `R`. -/
theorem queue_of (hdecide : ∀ s v d r t, Resolved srv mode v d s r t → R s (Run.written d r t))
    (henter : ∀ s c dl, R s (s.enterLimits c dl)) (hrelease : ∀ s g, R s (s.releaseLimits g))
    (k s : Nat) (f : Folder) (sel : Selection) (c : Nat) (dl : Span) :
    LaysOut R k (k + 1 + s) (Action.layout k s (.queue sel c dl))
      (Run.actionOn srv mode f (.queue sel c dl)) :=
  queue srv mode (fun _ => hR) (fun _ => hdecide) k s f sel c dl
    fun s _ h => hR.trans (henter s c dl) (hR.trans h (hrelease _ _))

variable (hqueue : ∀ k s f sel c dl, LaysOut R k (k + 1 + s) (Action.layout k s (.queue sel c dl))
  (Run.actionOn srv mode f (.queue sel c dl)))
include hqueue

/-- The walk of a folder under actions writes the lines of their layout, from a journal at the
depths of actions with `k` actions above them, `s` of them scans, and keeps every relation that
its queue actions keep. -/
theorem actionsOn (f : Folder) (acts : List Action) (k s : Nat) :
    LaysOut R k (k + s) (Action.layoutAll k s acts) (Run.actionsOn srv mode f acts) := by
  -- along the mutual recursion of `actionsOn` and `actionOn`: a scan enters each matched folder
  -- one verbose level deeper, a search runs on its results one level deeper, and each action
  -- of a list runs one verbose level deeper than the list
  have hind := Run.actionsOn.induct
    (fun f acts => ∀ k s, LaysOut R k (k + s) (Action.layoutAll k s acts) (Run.actionsOn srv mode f acts))
    (fun f a => ∀ k s, LaysOut R k (k + 1 + s) (a.layout k s) (Run.actionOn srv mode f a))
  refine hind ?scan ?unsearchable ?search ?queue ?nil ?cons f acts k s
  case scan =>
    intro f sel acts ih k s
    rw [Run.actionOn.eq_1, Action.layout]
    refine matchIn hR srv k s f sel fun x => ?_
    cases x with
    | folder sub =>
      -- the nested actions run with one more action and one more scan above them
      have hnested := ih sub (k + 1) (s + 1)
      rw [show k + 1 + (s + 1) = k + 2 + s by omega] at hnested
      refine LaysOut.mono (fun ls ok h => .inl (Shape.seq_done ls ok h))
        (bind hR (nested_verbose hR ?_) fun _ => pure hR _)
      rw [show k + 1 + s + 1 = k + 2 + s by omega]
      refine bind hR (LaysOut.mono (fun _ _ h => ⟨sub.name, h⟩) (logVerbose hR _)) fun _ => ?_
      refine bind hR hnested fun sub' => ?_
      exact LaysOut.mono (fun ls ok h => ⟨sub'.name, Shape.seq_done ls ok h⟩)
        (bind hR (logVerbose hR _) fun _ => pure hR _)
    | video vid =>
      refine (bind hR (logVerbose hR _) fun _ => pure hR _).mono fun ls ok h => .inr ?_
      exact ⟨vid.name, Shape.seq_done ls ok h⟩
  case unsearchable =>
    intro f sel acts hsearch k s
    rw [Run.actionOn.eq_2, if_pos hsearch, Action.layout]
    exact (bind hR (log hR _) fun _ => pure hR _).mono fun ls ok h =>
      .inl ⟨f.name, Shape.seq_done ls ok h⟩
  case search =>
    intro f sel acts hsearch ih k s
    rw [Run.actionOn.eq_2, if_neg hsearch, Action.layout]
    refine (bind hR (log hR _) fun _ => nested_depth hR ?_).mono fun ls ok h => .inr h
    refine (bind hR (silent (Meets.call hR _ _ _) fun _ _ h => by simp [h.2]) fun cs => ?_).mono
      Shape.silent_seq_silent
    dsimp only
    split
    · exact (bind hR (log hR _) fun _ => pure hR _).mono fun ls ok h =>
        Shape.seq_silent ls ok (.inl (Shape.seq_done ls ok h))
    · exact (bind hR (map _ (ih cs (k + 1) s)) fun _ => pure hR _).mono fun ls ok h =>
        Shape.seq_silent ls ok (.inr (Shape.seq_done ls ok h))
  case queue =>
    intro f sel countLimit durationLimit k s
    exact hqueue k s f sel countLimit durationLimit
  case nil =>
    intro f k s
    rw [Run.actionsOn.eq_1, Action.layoutAll]
    exact pure hR f
  case cons =>
    intro f a rest ha ih k s
    rw [Run.actionsOn.eq_2, Action.layoutAll]
    have haction := ha k s
    rw [show k + 1 + s = k + s + 1 by omega] at haction
    exact bind hR (nested_verbose hR haction) fun f' => ih f' k s

/-- The walk of a pass: the catalog request, which may end the pass, then the actions on the
root when the root is a folder, at the depths of actions with nothing above them. -/
theorem walk (p : Pass) :
    LaysOut R 0 0 (.seq .silent (.alt .done (Action.layoutAll 0 0 p.actions))) (Run.walk srv mode p) := by
  unfold Run.walk
  refine bind hR (silent (Meets.call hR _ _ _) fun _ _ h => by simp [h.2]) fun root => ?_
  cases root with
  | folder r =>
    exact LaysOut.mono (fun _ _ h => .inr h) (map _ (actionsOn hR srv mode hqueue r p.actions 0 0))
  | video _ => exact LaysOut.mono (fun _ _ h => .inl h) (pure hR _)

end Layout.LaysOut

end CatalogQueue
