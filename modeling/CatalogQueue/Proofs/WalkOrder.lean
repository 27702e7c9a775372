import CatalogQueue.Proofs.Isolation

/-!
The order in which a pass decides about videos: against a server that serves a fixed catalog,
the `Queuing` lines of a pass name the videos of the reference walk, in order. The steps of the
walk are read in the judgement `Meets`, against a spec that keeps only that order.
-/

namespace CatalogQueue

/-! ### Serving a catalog -/

/-- A server serves a catalog when it answers every request for the root, for the children at an
address, for a search and for the details at an address with the catalog's answer, whatever it
was sent before. Its answers to submissions are free. -/
structure Server.Serves (srv : Server) (cat : Catalog) : Prop where
  catalog : ∀ rs, srv.catalog rs = .ok cat.root
  items : ∀ rs url, srv.items rs url = .ok (cat.items url)
  search : ∀ rs url term, srv.search rs url term = .ok (cat.search url term)
  details : ∀ rs url, srv.details rs url = .ok (cat.details url)

def Catalog.server (cat : Catalog) : Server where
  catalog _ := .ok cat.root
  items _ url := .ok (cat.items url)
  search _ url term := .ok (cat.search url term)
  details _ url := .ok (cat.details url)
  submit _ _ := .ok .accepted
  received _ := []

theorem Catalog.server_serves (cat : Catalog) : cat.server.Serves cat :=
  ⟨fun _ => rfl, fun _ _ => rfl, fun _ _ _ => rfl, fun _ _ => rfl⟩

/-! ### `Queuing` lines -/

def unindent (line : String) : String := String.ofList (line.toList.dropWhile (· == ' '))

def isQueuing (line : String) : Bool := "Queuing \"".toList.isPrefixOf line.toList

def queuingText (name : String) : String := "Queuing " ++ Run.quote name ++ "..."

def queuingLines (lines : List String) : List String := (lines.map unindent).filter isQueuing

@[simp] theorem queuingLines_nil : queuingLines [] = [] := rfl

@[simp] theorem queuingLines_append (l l' : List String) :
    queuingLines (l ++ l') = queuingLines l ++ queuingLines l' := by
  simp [queuingLines]

theorem isQueuing_queuingText (name : String) : isQueuing (queuingText name) = true := by
  simp [isQueuing, queuingText, Run.quote, List.isPrefixOf]

/-- Blanks in front of a line are gone once its indentation is off. -/
theorem unindent_blanks (k : Nat) (msg : String) :
    unindent (String.ofList (List.replicate k ' ') ++ msg) = unindent msg := by
  simp [unindent]

theorem unindent_of_head {msg : String} (hhead : msg.toList.head? ≠ some ' ') :
    unindent msg = msg := by
  apply String.toList_inj.1
  cases h : msg.toList with
  | nil => simp [unindent, h]
  | cons c rest =>
    rw [h] at hhead
    have hc : (c == ' ') = false := by simpa using hhead
    simp [unindent, h, hc]

theorem queuingLines_indented (n : Nat) {msg : String} (hhead : msg.toList.head? ≠ some ' ') :
    queuingLines [Journal.indented n msg] = if isQueuing msg then [msg] else [] := by
  simp [queuingLines, Journal.indented_eq, unindent_blanks, unindent_of_head hhead, List.filter_cons]

/-- The `Queuing` lines of written lines do not depend on the depths they are placed at. -/
theorem queuingLines_quietLog_shift (ls : List Layout.Line) (d v : Nat) :
    queuingLines (Layout.quietLog (ls.map (·.shift d v))) = queuingLines (Layout.quietLog ls) := by
  induction ls with
  | nil => rfl
  | cons l ls ih =>
    simp only [List.map_cons, Layout.quietLog_cons, queuingLines_append, ih]
    -- placing a line only changes its indentation, which `unindent` takes off
    cases hv : l.verboseOnly <;>
      simp [Layout.Line.quietText, Layout.Line.shift, hv, queuingLines, unindent_blanks]

theorem queuingLines_quietLog_nest (ls : List Layout.Line) (n : Nesting) :
    queuingLines (Layout.quietLog (ls.map (·.nest n))) = queuingLines (Layout.quietLog ls) := by
  cases n <;> exact queuingLines_quietLog_shift ls _ _

theorem queuingLines_quietLog_line (d v : Nat) {msg : String} (hhead : msg.toList.head? ≠ some ' ') :
    queuingLines (Layout.quietLog [⟨d, v, msg, false⟩]) = if isQueuing msg then [msg] else [] := by
  simp [Layout.Line.quietText, queuingLines, unindent_blanks, unindent_of_head hhead,
    List.filter_cons]

/-- The matching writes to the verbose log only. -/
theorem Selection.quietLog_checkLines (sel : Selection) (children : List Item) :
    Layout.quietLog (children.flatMap sel.checkLines) = [] := by
  induction children with
  | nil => rfl
  | cons c cs ih =>
    rw [List.flatMap_cons, Layout.quietLog_append, ih, Selection.checkLines]
    split <;> rfl

/-! ### The order a step shows -/

variable {α β : Type}

/-- What a step adds, as far as the order of a pass goes: a refused record among its events
when it ends the pass; when it returns a result, which satisfies `post`, quiet lines whose
`Queuing` lines are `lines`. -/
def Spec.traces (post : α → Prop) (lines : List String) : Spec α := fun r effs =>
  (∀ e, r = .error e → (Effect.events effs).any Event.isRefusedRecord = true) ∧
    ∀ a, r = .ok a → post a ∧ queuingLines (Layout.quietLog (Effect.lines effs)) = lines

/-- `k` adds, from every state, what `Spec.traces post lines` admits. -/
abbrev Tracks (post : α → Prop) (lines : List String) (k : RunM α) : Prop :=
  Meets (fun _ _ => True) (Spec.traces post lines) k

namespace Spec.traces

variable {P : α → Prop} {Q : β → Prop} {L L' : List String} {effs : List Effect}

theorem of_ok {r : Except Failure α} {a : α} (hr : r = .ok a) (hpost : P a)
    (hlines : queuingLines (Layout.quietLog (Effect.lines effs)) = L) : Spec.traces P L r effs := by
  subst hr
  exact ⟨fun _ he => (nomatch he), fun _ ha => by cases ha; exact ⟨hpost, hlines⟩⟩

/-- A step that returned, then another: the `Queuing` lines of the two, in order. -/
theorem seq {r : Except Failure β} (h : (Spec.traces P L).seq (fun _ => Spec.traces Q L') r effs) :
    Spec.traces Q (L ++ L') r effs := by
  rcases h with ⟨a, effs₁, effs₂, h₁, h₂, rfl⟩ | ⟨e, rfl, h₁⟩
  · refine ⟨fun e he => by simp [h₂.1 e he], fun b hb => ?_⟩
    obtain ⟨hQ, hlines₂⟩ := h₂.2 b hb
    exact ⟨hQ, by simp [(h₁.2 a rfl).2, hlines₂]⟩
  · exact ⟨fun _ he => by cases he; exact h₁.1 e rfl, fun _ hb => nomatch hb⟩

end Spec.traces

namespace Tracks

variable {P : α → Prop} {Q : β → Prop} {L L' : List String}

theorem pure {a : α} (h : P a) : Tracks P [] (Pure.pure a : RunM α) :=
  (Meets.pure Walkable.top a).mono fun _ _ ⟨hr, heffs⟩ => .of_ok hr h (by simp [heffs])

/-- The bind rule: the lines of the two steps, in order; the second is needed only after a
result that satisfies the first's `post`. -/
theorem bind {k : RunM α} {f : α → RunM β} (hk : Tracks P L k) (hf : ∀ a, P a → Tracks Q L' (f a)) :
    Tracks Q (L ++ L') (k >>= f) :=
  (Meets.bind_of Walkable.top hk fun a _ h => hf a (h.2 a rfl).1).mono fun _ _ => Spec.traces.seq

theorem mono_post {P' : α → Prop} {k : RunM α} (h : Tracks P L k) (hP : ∀ a, P a → P' a) :
    Tracks P' L k :=
  h.mono fun _ _ ⟨hfail, hok⟩ => ⟨hfail, fun a ha => ⟨hP a (hok a ha).1, (hok a ha).2⟩⟩

theorem bind_of_nil {k : RunM α} {f : α → RunM β} (hk : Tracks P [] k)
    (hf : ∀ a, P a → Tracks Q L' (f a)) : Tracks Q L' (k >>= f) := by
  simpa using bind hk hf

theorem bind_nil {k : RunM α} {f : α → RunM β} (hk : Tracks P L k)
    (hf : ∀ a, P a → Tracks Q [] (f a)) : Tracks Q L (k >>= f) := by
  simpa using bind hk hf

theorem map {k : RunM α} (f : α → β) (hk : Tracks P L k) (hf : ∀ a, P a → Q (f a)) :
    Tracks Q L (f <$> k) := by
  refine (Meets.map f hk).mono ?_
  rintro r effs ⟨r', ⟨hfail, hok⟩, rfl⟩
  cases r' with
  | error e => exact ⟨fun _ he => by cases he; exact hfail e rfl, fun _ h => nomatch h⟩
  | ok a => exact .of_ok rfl (hf a (hok a rfl).1) (hok a rfl).2

theorem log {msg : String} (hhead : msg.toList.head? ≠ some ' ') :
    Tracks (fun _ => True) (if isQueuing msg then [msg] else []) (Run.log msg) :=
  (Meets.log Walkable.top msg).mono fun _ _ ⟨hr, heffs⟩ =>
    .of_ok hr trivial (by simpa [heffs] using queuingLines_quietLog_line 0 0 hhead)

theorem log_other {msg : String} (hhead : msg.toList.head? ≠ some ' ')
    (hline : isQueuing msg = false) : Tracks (fun _ => True) [] (Run.log msg) := by
  simpa [hline] using log hhead

theorem log_queuing (name : String) :
    Tracks (fun _ => True) [queuingText name] (Run.log (queuingText name)) := by
  have hhead : (queuingText name).toList.head? ≠ some ' ' := by simp [queuingText]
  simpa [isQueuing_queuingText] using log hhead

theorem logVerbose (msg : String) : Tracks (fun _ => True) [] (Run.logVerbose msg) :=
  (Meets.logVerbose Walkable.top msg).mono fun _ _ ⟨hr, heffs⟩ =>
    .of_ok hr trivial (by simp [heffs, Layout.Line.quietText])

theorem note (e : Event) : Tracks (fun _ => True) [] (Run.note e) :=
  (Meets.note fun _ => trivial).mono fun _ _ ⟨hr, heffs⟩ => .of_ok hr trivial (by simp [heffs])

theorem call {req : Request} {reply : List Request → Except ServerError α} {x : α}
    (hreply : ∀ rs, reply rs = .ok x) (context : String) :
    Tracks (· = x) [] (Run.call req reply context) :=
  (Meets.call Walkable.top req reply context).mono fun _ _ ⟨⟨rs, hr⟩, heffs⟩ =>
    .of_ok (by rw [hr, hreply]; rfl) rfl (by simp [heffs])

theorem nested (n : Nesting) {k : RunM α} (hk : Tracks P L k) : Tracks P L (Run.nested n k) :=
  (Meets.nested Walkable.top n hk).mono fun _ _ ⟨effs', ⟨hfail, hok⟩, heffs⟩ => by
    subst heffs
    exact ⟨by simpa using hfail, by simpa [queuingLines_quietLog_nest] using hok⟩

theorem withinLimits (countLimit : Nat) (durationLimit : Span) {k : RunM α} (hk : Tracks P L k) :
    Tracks P L (Run.withinLimits countLimit durationLimit k) :=
  (Meets.withinLimits_of Walkable.top countLimit durationLimit (fun _ => trivial)
    (fun _ _ => trivial) hk).mono fun _ _ ⟨effs', g, ⟨hfail, hok⟩, heffs⟩ => by
      subst heffs
      exact ⟨fun e he => by simp [hfail e he], by simpa using hok⟩

theorem matching (sel : Selection) (children : List Item) :
    Tracks (· = sel.positions children) [] (Run.matching sel children) :=
  (Meets.matching Walkable.top sel children).mono fun _ _ ⟨hr, heffs⟩ =>
    .of_ok hr rfl (by simp [heffs, sel.quietLog_checkLines])

end Tracks

/-! ### Matching children -/

theorem Selection.positions_getD (sel : Selection) (children : List Item) :
    (sel.positions children).map (children.getD · default) = children.filter sel.picks := by
  have hat : ∀ p ∈ children.zipIdx.filter (fun p => sel.picks p.1),
      ((children.getD · default) ∘ Prod.snd) p = Prod.fst p := by
    intro p hp
    have hmem := List.mem_zipIdx_iff_getElem?.1 (List.mem_filter.1 hp).1
    simp [List.getD_eq_getElem?_getD, hmem]
  rw [Selection.positions, List.map_map, List.map_congr_left hat]
  show (children.zipIdx.filter (sel.picks ∘ Prod.fst)).map Prod.fst = _
  rw [← List.filter_map, List.zipIdx_map_fst]

theorem Selection.order_getD (sel : Selection) (children : List Item) :
    (if sel.reverse then (sel.positions children).reverse else sel.positions children).map
      (children.getD · default) = sel.candidates children := by
  unfold Selection.candidates
  split
  · rw [List.map_reverse, sel.positions_getD]
  · exact sel.positions_getD children

theorem Selection.candidates_eq_nil (sel : Selection) (children : List Item)
    (h : (sel.positions children).isEmpty = true) : sel.candidates children = [] := by
  rw [← sel.order_getD]
  simp_all

def Item.isVideo : Item → Bool
  | .video _ => true
  | .folder _ => false

def Item.isFolder : Item → Bool
  | .folder _ => true
  | .video _ => false

def queueLines : Item → List String
  | .video v => [queuingText v.name]
  | .folder _ => []

/-- The `Queuing` lines of a child of a scan action: those of the walk of a folder under the
scan's nested actions. -/
def scanLines (cat : Catalog) (acts : List Action) : Item → List String
  | .folder g => (cat.visitActions g acts).map fun v => queuingText v.name
  | .video _ => []

/-- What a matching action does with each child it visits: a child it takes comes back alike,
after the `Queuing` lines `linesOf` it; any other child ends the action, adding none. -/
def Visits (cat : Catalog) (takes : Item → Bool) (linesOf : Item → List String)
    (visit : Item → RunM (Option Item)) : Prop :=
  ∀ x, Tracks (fun r => if takes x then ∃ x', r = some x' ∧ Item.WalksAs cat x' x else r = none)
    (if takes x then linesOf x else []) (visit x)

/-- A round of the visits at position `i` of `cs`: a child the action takes comes back alike in
its place and the visits go on; any other child ends them. -/
def VisitRound (cat : Catalog) (takes : Item → Bool) (cs : List Item) (i : Nat) :
    ForInStep (List Item) → Prop
  | .yield cs' => takes (cs.getD i default) = true ∧
      ∃ x', cs' = cs.set i x' ∧ Item.WalksAs cat x' (cs.getD i default)
  | .done cs' => takes (cs.getD i default) = false ∧ cs' = cs

section Kinds

variable {cat : Catalog}

theorem Folder.WalksAs.lines_eq {f' f : Folder} (h : Folder.WalksAs cat f' f) (acts : List Action) :
    (cat.visitActions f' acts).map (fun v => queuingText v.name) =
      (cat.visitActions f acts).map fun v => queuingText v.name := by
  have hnames := congrArg (List.map queuingText) (h.2 acts)
  simpa [List.map_map, Function.comp_def] using hnames

theorem Item.WalksAs.queue_kind : ∀ {x' x : Item}, Item.WalksAs cat x' x →
    x'.isVideo = x.isVideo ∧ queueLines x' = queueLines x
  | .video _, .video _, h => ⟨rfl, congrArg (fun n => [queuingText n]) h⟩
  | .folder _, .folder _, _ => ⟨rfl, rfl⟩

theorem Item.WalksAs.scan_kind (acts : List Action) : ∀ {x' x : Item}, Item.WalksAs cat x' x →
    x'.isFolder = x.isFolder ∧ scanLines cat acts x' = scanLines cat acts x
  | .video _, .video _, _ => ⟨rfl, rfl⟩
  | .folder _, .folder _, h => ⟨rfl, Folder.WalksAs.lines_eq h acts⟩

theorem leadingVideos_lines (l : List Item) :
    (l.takeWhile Item.isVideo).flatMap queueLines =
      (leadingVideos l).map fun v => queuingText v.name := by
  induction l with
  | nil => rfl
  | cons x l ih => cases x <;> simp [List.takeWhile_cons, Item.isVideo, queueLines, leadingVideos, ih]

theorem leadingFolders_lines (acts : List Action) (l : List Item) :
    (l.takeWhile Item.isFolder).flatMap (scanLines cat acts) =
      ((leadingFolders l).flatMap fun g => cat.visitActions g acts).map
        fun v => queuingText v.name := by
  induction l with
  | nil => rfl
  | cons x l ih => cases x <;> simp [List.takeWhile_cons, Item.isFolder, scanLines, leadingFolders, ih]

end Kinds

theorem forall₂_getD {γ δ : Type} {R : γ → δ → Prop} {l₁ : List γ} {l₂ : List δ}
    (h : List.Forall₂ R l₁ l₂) {d₁ : γ} {d₂ : δ} (hd : R d₁ d₂) (i : Nat) :
    R (l₁.getD i d₁) (l₂.getD i d₂) := by
  induction h generalizing i with
  | nil => simpa using hd
  | cons hx _ ih =>
    cases i with
    | zero => simpa using hx
    | succ i => simpa using ih i

theorem forall₂_set {γ δ : Type} {R : γ → δ → Prop} {l₁ : List γ} {l₂ : List δ}
    (h : List.Forall₂ R l₁ l₂) {d : δ} {x : γ} (i : Nat) (hx : R x (l₂.getD i d)) :
    List.Forall₂ R (l₁.set i x) l₂ := by
  induction h generalizing i with
  | nil => simp
  | cons hy hrest ih =>
    cases i with
    | zero => exact List.Forall₂.cons (by simpa using hx) hrest
    | succ i => exact List.Forall₂.cons hy (ih i (by simpa using hx))

theorem Folder.withChildren_of_children {f : Folder} {cs : List Item} (h : f.children = some cs) :
    f.withChildren cs = f := by
  cases f
  simp_all [Folder.withChildren, Folder.children, Folder.name, Folder.url, Folder.searchable]

theorem Outcome.text_head (o : Outcome) : o.text.toList.head? ≠ some ' ' := by
  cases o <;> simp only [Outcome.text] <;> split <;> simp

theorem Outcome.isQueuing_text (o : Outcome) : isQueuing o.text = false := by
  cases o <;> simp only [Outcome.text] <;> split <;> simp [isQueuing, List.isPrefixOf]

namespace Tracks

/-! ### The steps of a walk against a served catalog -/

variable {cat : Catalog} {srv : Server} (hsrv : srv.Serves cat) (mode : RunMode)
include hsrv

theorem childrenOf (f : Folder) :
    Tracks (· = (f.withChildren (cat.childrenOf f), cat.childrenOf f)) [] (Run.childrenOf srv f) := by
  refine (Meets.childrenOf Walkable.top srv f).mono fun r effs ⟨hlines, hr⟩ =>
    .of_ok ?_ rfl (by simp [hlines])
  cases hc : f.children with
  | some cs =>
    -- a folder that knows its children keeps them
    simp only [hc] at hr
    have hkept : cat.childrenOf f = cs := by simp [Catalog.childrenOf, hc]
    rw [hr, hkept, Folder.withChildren_of_children hc]
  | none =>
    -- the server lists the others' from the catalog
    simp only [hc] at hr
    obtain ⟨rs, rfl⟩ := hr
    simp [Catalog.childrenOf, hc, hsrv.items, Except.mapError, Except.map]

theorem settle (v : Video) : Tracks (fun v' => v'.name = v.name) [] (Run.settle srv mode v) := by
  refine (Meets.settle Walkable.top srv mode (fun _ _ _ _ _ _ => trivial) v).mono
    fun r effs h => ?_
  cases r with
  | ok v' =>
    -- the outcome line is no `Queuing` line
    obtain ⟨hname, o, hlines⟩ := h
    exact .of_ok rfl hname (by rw [hlines, queuingLines_quietLog_line 0 0 o.text_head,
      o.isQueuing_text, if_neg Bool.false_ne_true])
  | error e =>
    obtain ⟨-, hdetails | hrefused⟩ := h
    · -- the server has the catalog's details for every video
      obtain ⟨rs, e', hreply⟩ := hdetails
      rw [hsrv.details] at hreply
      cases hreply
    · exact ⟨fun _ _ => hrefused, fun _ h => nomatch h⟩

omit hsrv in
theorem visitAll {takes : Item → Bool} {linesOf : Item → List String}
    {visit : Item → RunM (Option Item)} (hvisit : Visits cat takes linesOf visit)
    (hkind : ∀ {x' x}, Item.WalksAs cat x' x → takes x' = takes x ∧ linesOf x' = linesOf x)
    (children : List Item) (positions : List Nat) :
    Tracks (List.Forall₂ (Item.WalksAs cat) · children)
      (((positions.map (children.getD · default)).takeWhile takes).flatMap linesOf)
      (Run.visitAll visit children positions) := by
  unfold Run.visitAll
  -- the loop's invariant: each child so far walks as the child first listed in its place
  refine bind_nil ((Meets.forIn Walkable.top
    (fun i cs => Spec.traces (VisitRound cat takes cs i)
      (if takes (cs.getD i default) then linesOf (cs.getD i default) else []))
    (fun i cs => ?round)
    (fun ps cs r effs => List.Forall₂ (Item.WalksAs cat) cs children →
      Spec.traces (List.Forall₂ (Item.WalksAs cat) · children)
        (((ps.map (children.getD · default)).takeWhile takes).flatMap linesOf) r effs)
    (fun cs hcs => .of_ok rfl hcs rfl) ?next positions children).mono
      fun r effs h => h (List.forall₂_same.2 fun x _ => Item.WalksAs.refl x)) fun cs hcs => pure hcs
  case round =>
    refine bind_nil (hvisit (cs.getD i default)) fun r hr => ?_
    cases htake : takes (cs.getD i default)
    · -- a child the action does not take ends the visits
      simp only [htake, Bool.false_eq_true, if_false] at hr
      subst hr
      exact pure ⟨htake, rfl⟩
    · simp only [htake, if_true] at hr
      obtain ⟨x', rfl, hx'⟩ := hr
      exact pure ⟨htake, x', rfl, hx'⟩
  case next =>
    rintro i ps cs r effs (⟨step, effs₁, effs₂, ⟨-, hround⟩, hrest, rfl⟩ | ⟨e, rfl, hfail, -⟩) hcs
    · have hat := forall₂_getD hcs (Item.WalksAs.refl default) i
      obtain ⟨htakes, hlinesOf⟩ := hkind hat
      obtain ⟨hstep, hlines₁⟩ := hround step rfl
      rw [htakes, hlinesOf] at hlines₁
      cases step with
      | done cs' =>
        obtain ⟨hstop, rfl⟩ := hstep
        obtain ⟨rfl, rfl⟩ := hrest
        rw [htakes] at hstop
        exact .of_ok rfl hcs (by simp only [List.append_nil, hlines₁, List.map_cons,
          List.takeWhile_cons, hstop, Bool.false_eq_true, if_false, List.flatMap_nil])
      | yield cs' =>
        -- the child that came back walks as the one first listed in its place
        obtain ⟨hgo, x', rfl, hx'⟩ := hstep
        rw [htakes] at hgo
        obtain ⟨hfail, hok⟩ := hrest (forall₂_set hcs i (hx'.trans hat))
        refine ⟨fun e he => by simp [hfail e he], fun b hb => ⟨(hok b hb).1, ?_⟩⟩
        simp only [Effect.lines_append, Layout.quietLog_append, queuingLines_append, hlines₁,
          (hok b hb).2, List.map_cons, List.takeWhile_cons, hgo, if_true, List.flatMap_cons]
    · exact ⟨fun _ he => by cases he; exact hfail e rfl, fun _ h => nomatch h⟩

theorem matchIn (f : Folder) (sel : Selection) {takes : Item → Bool}
    {linesOf : Item → List String} {visit : Item → RunM (Option Item)}
    (hvisit : Visits cat takes linesOf visit)
    (hkind : ∀ {x' x}, Item.WalksAs cat x' x → takes x' = takes x ∧ linesOf x' = linesOf x) :
    Tracks (Folder.WalksAs cat · f)
      (((sel.candidates (cat.childrenOf f)).takeWhile takes).flatMap linesOf)
      (Run.matchIn srv f sel visit) := by
  unfold Run.matchIn
  refine bind_of_nil (log_other (by simp) (by simp [isQueuing, List.isPrefixOf])) fun _ _ =>
    nested _ ?_
  refine bind_of_nil (childrenOf hsrv f) fun r hr => ?_
  subst hr
  refine bind_of_nil (matching sel _) fun found hfound => ?_
  subst hfound
  split
  · rename_i hnone
    rw [sel.candidates_eq_nil _ hnone]
    exact bind_of_nil (log_other (by simp) (by simp [isQueuing, List.isPrefixOf])) fun _ _ =>
      pure (Folder.walksAs_withChildren (List.forall₂_same.2 fun x _ => Item.WalksAs.refl x))
  · rw [← sel.order_getD]
    refine bind_nil (visitAll hvisit hkind _ _) fun cs hcs => pure ?_
    simpa using Folder.walksAs_withChildren hcs

theorem queueItem_visits : Visits cat Item.isVideo queueLines (Run.queueItem srv mode) := by
  intro x
  cases x with
  | video v =>
    simp only [Item.isVideo, if_true, queueLines, Run.queueItem]
    refine bind_nil (log_queuing v.name) fun _ _ => ?_
    exact bind_of_nil (nested _ (settle hsrv mode v)) fun v' hv' => pure ⟨_, rfl, hv'⟩
  | folder g =>
    simp only [Item.isVideo, Bool.false_eq_true, if_false, Run.queueItem]
    exact bind_of_nil (logVerbose _) fun _ _ => pure rfl

/-- The walk of a folder under actions adds, in order, the `Queuing` lines of the reference
walk, and gives back a folder that walks alike. -/
theorem actionsOn (f : Folder) (acts : List Action) :
    Tracks (Folder.WalksAs cat · f) ((cat.visitActions f acts).map fun v => queuingText v.name)
      (Run.actionsOn srv mode f acts) := by
  -- along the mutual recursion of `actionsOn` and `actionOn`: a scan and a search use the
  -- hypothesis on their nested actions, for each subfolder and for the folder of results
  have hind := Run.actionsOn.induct
    (fun f acts => Tracks (Folder.WalksAs cat · f)
      ((cat.visitActions f acts).map fun v => queuingText v.name) (Run.actionsOn srv mode f acts))
    (fun f a => Tracks (Folder.WalksAs cat · f)
      ((cat.visitAction f a).map fun v => queuingText v.name) (Run.actionOn srv mode f a))
  refine hind ?scan ?unsearchable ?search ?queue ?nil ?cons f acts
  case scan =>
    intro f sel acts ih
    rw [Run.actionOn.eq_1, Catalog.visitAction, ← leadingFolders_lines]
    refine matchIn hsrv f sel (fun x => ?_) (fun h => h.scan_kind acts)
    cases x with
    | folder sub =>
      simp only [Item.isFolder, if_true, scanLines]
      refine bind_nil (nested _ ?_) fun sub' hsub' => pure ⟨_, rfl, hsub'⟩
      refine bind_of_nil (logVerbose _) fun _ _ => bind_nil (ih sub) fun sub' hsub' => ?_
      exact bind_of_nil (logVerbose _) fun _ _ => pure hsub'
    | video v =>
      simp only [Item.isFolder, Bool.false_eq_true, if_false]
      exact bind_of_nil (logVerbose _) fun _ _ => pure rfl
  case unsearchable =>
    intro f sel acts hsearch
    have hflag : f.searchable = false := by simpa using hsearch
    rw [Run.actionOn.eq_2, if_pos hsearch, Catalog.visitAction, hflag]
    exact bind_of_nil (log_other (by simp [Run.quote]) (by simp [isQueuing, Run.quote, List.isPrefixOf]))
      fun _ _ => pure (Folder.WalksAs.refl f)
  case search =>
    intro f sel acts hsearch ih
    have hflag : f.searchable = true := by simpa using hsearch
    rw [Run.actionOn.eq_2, if_neg hsearch, Catalog.visitAction, hflag, if_pos rfl]
    refine bind_of_nil (log_other (by simp) (by simp [isQueuing, List.isPrefixOf])) fun _ _ =>
      nested _ ?_
    refine bind_of_nil (call (fun rs => hsrv.search rs f.url sel.name) _) fun cs hcs => ?_
    subst hcs
    dsimp only
    split
    · -- no results: the results folder walks to nothing
      rename_i hempty
      have hnone : cat.visitActions (cat.resultsOf f.url sel.name) acts = [] :=
        Catalog.visitActions_of_empty (by simpa [Catalog.resultsOf, Run.resultsFolder,
          Folder.children] using hempty) rfl acts
      rw [hnone]
      exact bind_of_nil (log_other (by simp) (by simp [isQueuing, List.isPrefixOf])) fun _ _ =>
        pure (Folder.WalksAs.refl f)
    · exact bind_nil (map _ (ih _) fun _ _ => trivial : Tracks (fun _ => True) _ _) fun _ _ =>
        pure (Folder.WalksAs.refl f)
  case queue =>
    intro f sel countLimit durationLimit
    rw [Run.actionOn.eq_3, Catalog.visitAction, ← leadingVideos_lines]
    exact withinLimits _ _ (matchIn hsrv f sel (queueItem_visits hsrv mode) fun h => h.queue_kind)
  case nil =>
    intro f
    rw [Run.actionsOn.eq_1, Catalog.visitActions_nil]
    exact pure (Folder.WalksAs.refl f)
  case cons =>
    intro f a rest ha ih
    rw [Run.actionsOn.eq_2, Catalog.visitActions_cons, List.map_append]
    refine bind (nested _ ha) fun f' hf' => ?_
    rw [← hf'.lines_eq rest]
    exact (ih f').mono_post fun f'' h => h.trans hf'

theorem walk (p : Pass) :
    Tracks (fun _ => True) ((cat.visitRoot p.actions).map fun v => queuingText v.name)
      (Run.walk srv mode p) := by
  unfold Run.walk Catalog.visitRoot
  refine bind_of_nil (call hsrv.catalog _) fun root hroot => ?_
  rw [← hroot]
  cases root with
  | folder r => exact map _ (actionsOn hsrv mode r p.actions) fun _ _ => trivial
  | video _ => exact pure trivial

end Tracks

/-- An enabled pass, against a server that serves a catalog, writes its `Queuing` lines for the
videos of the reference walk from the root, in order, as long as the record list refuses no
video during the pass. -/
theorem pass_queues_in_walk_order {cat : Catalog} {srv : Server} (hsrv : srv.Serves cat)
    (mode : RunMode) (p : Pass) (hp : p.enabled = true) (s : RunState)
    (hkept : (((Run.pass srv mode p).run s).2.events.drop s.events.length).any
      Event.isRefusedRecord = false) :
    queuingLines (((Run.pass srv mode p).run s).2.journal.quiet.toList.drop s.journal.quiet.size) =
      (cat.visitRoot p.actions).map fun v => queuingText v.name := by
  rw [Run.run_pass, if_pos hp] at hkept ⊢
  obtain ⟨started, hstarted⟩ : ∃ started : RunState, started =
      { s with journal := s.journal.log ("Processing pass " ++ Run.quote p.description ++ "...") } :=
    ⟨_, rfl⟩
  rw [← hstarted] at hkept ⊢
  rcases h : (Run.walk srv mode p).exec started with ⟨r, t⟩
  obtain ⟨-, effs, hadds, hfail, hok⟩ := Meets.of_exec (Tracks.walk hsrv mode p) h
  rw [h] at hkept
  have hevents : t.events = s.events ++ Effect.events effs := by simpa [hstarted] using hadds.events
  cases r with
  | error e =>
    -- a failed walk has a refused record among its events
    dsimp only at hkept
    simp [hevents, hfail e rfl] at hkept
  | ok u =>
    have hquiet : t.journal.quiet.toList = s.journal.quiet.toList ++
        (Journal.indented s.journal.depth ("Processing pass " ++ Run.quote p.description ++ "...") ::
          Layout.quietLog ((Effect.lines effs).map (·.shift s.journal.depth s.journal.verboseDepth))) := by
      simpa [hstarted] using hadds.quiet
    dsimp only
    simp only [Journal.quiet_log, Array.toList_push, hquiet, List.append_assoc, List.cons_append,
      Array.length_toList, List.drop_left']
    rw [← List.singleton_append, queuingLines_append, queuingLines_append,
      queuingLines_indented _ (by simp), queuingLines_indented _ (by simp),
      queuingLines_quietLog_shift, (hok () rfl).2]
    simp [isQueuing, List.isPrefixOf]

/-- A reversed queue action inside a scan, on a catalog served as it is: the videos after a
folder come out in reverse order, and the folder, now first, ends the action only after them. -/
theorem pass_queues_reversed_videos :
    let cat : Catalog :=
      { root := .folder (.mk "Root" "/root" false (some
          [.folder (.mk "Shows" "/shows" false (some
            [.folder (.mk "Extras" "/extras" false none), .video ⟨"B", "/b", none⟩,
             .video ⟨"A", "/a", none⟩])),
           .video ⟨"Trailer", "/t", none⟩]))
        items := fun _ => [], search := fun _ _ => [], details := fun _ => {} }
    let p : Pass := ⟨"Weekly", true, [.scan ⟨"S*", "", false⟩ [.queue ⟨"*", "", true⟩ 0 .zero]]⟩
    let s : RunState := { admission := .ofRecords (.empty .memory) }
    queuingLines (((Run.pass cat.server {} p).run s).2.journal.quiet.toList.drop
      s.journal.quiet.size) = ["Queuing \"A\"...", "Queuing \"B\"..."] := by
  intro cat p s
  exact (pass_queues_in_walk_order cat.server_serves {} p rfl s (by decide +kernel)).trans
    (by decide +kernel)

end CatalogQueue
