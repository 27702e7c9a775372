import CatalogQueue.Pattern

/-!
The position sets of `Glob.accepts` agree with the rule `Glob.Matches` on every name: the live
positions stay closed under `*`s and accept exactly the rests of names that the alternative still
matches (`Glob.LiveMatch`). Splitting at `|` is the library's `List.splitOn`.
-/

namespace CatalogQueue

namespace Glob

/-! ### Arrays of flags -/

theorem getElem!_set!_true {a : Array Bool} {i : Nat} (hi : i < a.size) (j : Nat) :
    (a.set! i true)[j]! = (a[j]! || j == i) := by
  rw [Array.set!_eq_setIfInBounds, getElem!_def, getElem!_def, Array.getElem?_setIfInBounds]
  by_cases hij : i = j
  · subst hij
    simp [hi]
  · simp [hij, Ne.symm hij]

theorem getElem!_replicate_false (m j : Nat) : (Array.replicate m false)[j]! = false := by
  rw [getElem!_def, Array.getElem?_replicate]
  split <;> simp_all

theorem toArray_getElem! {g : Glob} {i : Nat} (hi : i < g.length) : g.toArray[i]! = g[i] := by
  rw [getElem!_def, List.getElem?_toArray, List.getElem?_eq_getElem hi]

/-- A fold over the first `n` positions whose step at `i` only sets the positions that `hit i`
names: a position ends set exactly when some step hit it. -/
theorem foldl_range_sets {f : Array Bool → Nat → Array Bool} {n : Nat} (hit : Nat → Nat → Bool)
    (hsize : ∀ acc i, i < n → (f acc i).size = acc.size)
    (hstep : ∀ acc i j, i < n → acc.size = n + 1 → (f acc i)[j]! = (acc[j]! || hit i j)) :
    ((List.range n).foldl f (Array.replicate (n + 1) false)).size = n + 1 ∧
      ∀ j ≤ n, ((List.range n).foldl f (Array.replicate (n + 1) false))[j]! =
        (List.range n).any fun i => hit i j := by
  -- the first `k` steps, by induction on `k`
  suffices h : ∀ k ≤ n, ((List.range k).foldl f (Array.replicate (n + 1) false)).size = n + 1 ∧
      ∀ j, ((List.range k).foldl f (Array.replicate (n + 1) false))[j]! =
        (List.range k).any fun i => hit i j by
    obtain ⟨hs, hv⟩ := h n (Nat.le_refl n)
    exact ⟨hs, fun j _ => hv j⟩
  intro k hk
  induction k with
  | zero => exact ⟨Array.size_replicate, fun j => getElem!_replicate_false _ j⟩
  | succ k ih =>
    obtain ⟨hs, hv⟩ := ih (by omega)
    rw [List.range_succ, List.foldl_append, List.foldl_cons, List.foldl_nil]
    refine ⟨by rw [hsize _ _ (by omega), hs], fun j => ?_⟩
    rw [hstep _ _ _ (by omega) hs, hv, List.any_append]
    simp

/-- The positions reached from `live` through `*`s that match nothing, where `star i` says
that a `*` stands at position `i`. -/
def closure (star live : Nat → Bool) : Nat → Bool
  | 0 => live 0
  | j + 1 => live (j + 1) || (star j && closure star live j)

theorem le_closure {star live : Nat → Bool} {j : Nat} (h : live j = true) :
    closure star live j = true := by
  cases j <;> simp [closure, h]

theorem closure_congr {star live live' : Nat → Bool} {j : Nat}
    (h : ∀ i ≤ j, live i = live' i) : closure star live j = closure star live' j := by
  induction j with
  | zero => exact h 0 (Nat.le_refl 0)
  | succ j ih => simp only [closure, h (j + 1) (Nat.le_refl _), ih fun i hi => h i (by omega)]

/-- A fold over the first `n` positions whose step at `i` sets position `i + 1` when a `*`
stands at `i` and `i` is set: the positions up to `i` are final when step `i` reads `i`, so the
fold computes the closure. -/
theorem foldl_range_closure {f : Array Bool → Nat → Array Bool} {n : Nat} {star : Nat → Bool}
    (hsize : ∀ acc i, i < n → (f acc i).size = acc.size)
    (hstep : ∀ acc i j, i < n → acc.size = n + 1 →
      (f acc i)[j]! = (acc[j]! || (j == i + 1 && star i && acc[i]!)))
    {live : Array Bool} (hlive : live.size = n + 1) :
    ((List.range n).foldl f live).size = n + 1 ∧
      ∀ j ≤ n, ((List.range n).foldl f live)[j]! = closure star (live[·]!) j := by
  -- after `k` steps the positions up to `k` are final and the others as they started
  suffices h : ∀ k ≤ n, ((List.range k).foldl f live).size = n + 1 ∧
      ∀ j, ((List.range k).foldl f live)[j]! =
        if j ≤ k then closure star (live[·]!) j else live[j]! by
    obtain ⟨hs, hv⟩ := h n (Nat.le_refl n)
    exact ⟨hs, fun j hj => by rw [hv, if_pos hj]⟩
  intro k hk
  induction k with
  | zero =>
    refine ⟨hlive, fun j => ?_⟩
    cases j with
    | zero => rfl
    | succ j => rfl
  | succ k ih =>
    obtain ⟨hs, hv⟩ := ih (by omega)
    rw [List.range_succ, List.foldl_append, List.foldl_cons, List.foldl_nil]
    refine ⟨by rw [hsize _ _ (by omega), hs], fun j => ?_⟩
    rw [hstep _ _ _ (by omega) hs, hv, hv k, if_pos (Nat.le_refl k)]
    by_cases hjk : j ≤ k
    · have hne : (j == k + 1) = false := by simp only [beq_eq_false_iff_ne]; omega
      simp [hjk, Nat.le_succ_of_le hjk, hne]
    · by_cases hj : j = k + 1
      · subst hj
        rw [if_neg (Nat.not_succ_le_self k)]
        simp [closure]
      · have hne : (j == k + 1) = false := by simp [hj]
        simp [hjk, hne, show ¬j ≤ k + 1 by omega]

/-! ### What `close` and `advance` compute -/

def isStar (g : Glob) (i : Nat) : Bool := g[i]? == some .anyRun

/-- Whether a live position `i` leads to position `j` on reading `d`: a `*` stays where it is,
a `?` and a literal of `d`'s case move one on. -/
def moves (g : Glob) (live : Nat → Bool) (d : Char) (i j : Nat) : Bool :=
  live i && match g[i]? with
    | some .anyRun => j == i
    | some .anyOne => j == i + 1
    | some (.literal c) => j == i + 1 && Text.sameFold c d
    | none => false

def stepSet (g : Glob) (live : Nat → Bool) (d : Char) (j : Nat) : Bool :=
  (List.range g.length).any fun i => g.moves live d i j

theorem close_spec (g : Glob) {live : Array Bool} (hlive : live.size = g.length + 1) :
    (close g.toArray live).size = g.length + 1 ∧
      ∀ j ≤ g.length, (close g.toArray live)[j]! = closure g.isStar (live[·]!) j := by
  unfold close
  rw [List.size_toArray]
  refine foldl_range_closure (fun acc i _ => ?_) (fun acc i j hi hacc => ?_) hlive
  · split <;> simp
  · have hstar : g.isStar i = (g[i] == .anyRun) := by
      simp [isStar, List.getElem?_eq_getElem hi]
    rw [toArray_getElem! hi, hstar]
    by_cases hc : (acc[i]! && g[i] == .anyRun) = true
    · rw [if_pos hc, getElem!_set!_true (by omega)]
      simp only [Bool.and_eq_true] at hc
      simp [hc.1, hc.2]
    · rw [if_neg hc]
      simp only [Bool.and_eq_true, not_and] at hc
      cases hi' : acc[i]! <;> simp_all

theorem close_spec_of {g : Glob} {next : Array Bool} {live : Nat → Bool}
    (hnext : next.size = g.length + 1 ∧ ∀ j ≤ g.length, next[j]! = live j) :
    (close g.toArray next).size = g.length + 1 ∧
      ∀ j ≤ g.length, (close g.toArray next)[j]! = closure g.isStar live j := by
  obtain ⟨hsize, hget⟩ := close_spec g hnext.1
  exact ⟨hsize, fun j hj => (hget j hj).trans (closure_congr fun i hi => hnext.2 i (by omega))⟩

theorem advance_spec (g : Glob) (live : Array Bool) (d : Char) :
    (advance g.toArray live d).size = g.length + 1 ∧
      ∀ j ≤ g.length,
        (advance g.toArray live d)[j]! = closure g.isStar (g.stepSet (live[·]!) d) j := by
  unfold advance
  rw [List.size_toArray]
  refine close_spec_of (foldl_range_sets (g.moves (live[·]!) d) (fun acc i _ => ?_)
    (fun acc i j hi hacc => ?_))
  · split
    · rfl
    · split
      · simp
      · simp
      · split <;> simp
  · rw [toArray_getElem! hi]
    have hget : g[i]? = some g[i] := List.getElem?_eq_getElem hi
    cases hl : live[i]! with
    | false => simp [moves, hl]
    | true =>
      simp only [moves, hl, hget, Bool.not_true, Bool.false_eq_true, if_false, Bool.true_and]
      cases g[i] with
      | anyRun => rw [getElem!_set!_true (by omega)]
      | anyOne => rw [getElem!_set!_true (by omega)]
      | literal c =>
        simp only
        cases Text.sameFold c d with
        | false => simp
        | true =>
          rw [if_pos rfl, getElem!_set!_true (by omega)]
          simp

/-! ### The rule from one position on -/

theorem matches_anyRun_cons (g : Glob) (d : Char) (v : List Char) :
    Matches (.anyRun :: g) (d :: v) = (Matches g (d :: v) || Matches (.anyRun :: g) v) := by
  simp [Matches, suffixes]

theorem matches_anyRun_nil (g : Glob) : Matches (.anyRun :: g) [] = Matches g [] := by
  simp [Matches, suffixes]

theorem matches_anyRun_of {g : Glob} {v : List Char} (h : Matches g v = true) :
    Matches (.anyRun :: g) v = true := by
  cases v with
  | nil => rwa [matches_anyRun_nil]
  | cons d v => rw [matches_anyRun_cons, h, Bool.true_or]

theorem isStar_iff {g : Glob} {i : Nat} (hi : i < g.length) :
    g.isStar i = true ↔ g[i] = .anyRun := by
  simp [isStar, List.getElem?_eq_getElem hi]

theorem mem_suffixes {v w : List Char} : w ∈ suffixes v ↔ ∃ u, v = u ++ w := by
  induction v with
  | nil =>
    simp only [suffixes, List.mem_singleton]
    constructor
    · rintro rfl
      exact ⟨[], rfl⟩
    · rintro ⟨u, hu⟩
      exact (List.append_eq_nil_iff.1 hu.symm).2
  | cons d v ih =>
    simp only [suffixes, List.mem_cons, ih]
    constructor
    · rintro (rfl | ⟨u, rfl⟩)
      · exact ⟨[], rfl⟩
      · exact ⟨d :: u, rfl⟩
    · rintro ⟨u, hu⟩
      cases u with
      | nil => exact .inl (by simpa using hu.symm)
      | cons e u =>
        simp only [List.cons_append, List.cons.injEq] at hu
        exact .inr ⟨u, hu.2⟩

/-- A `*` matches any run of characters, the empty one included. -/
theorem matches_anyRun_iff (g : Glob) (v : List Char) :
    Matches (.anyRun :: g) v = true ↔ ∃ u w, v = u ++ w ∧ Matches g w = true := by
  simp only [Matches, List.any_eq_true, mem_suffixes]
  constructor
  · rintro ⟨w, ⟨u, rfl⟩, hw⟩
    exact ⟨u, w, rfl, hw⟩
  · rintro ⟨u, w, rfl, hw⟩
    exact ⟨w, ⟨u, rfl⟩, hw⟩

/-- Every character of an alternative but `*` reads one character of the name: `?` any one,
and every other, backslashes and regex metacharacters included, the characters of its case. -/
theorem matches_ofChars_cons (c d : Char) (a w : List Char) (hc : c ≠ '*') :
    Matches (ofChars (c :: a)) (d :: w) =
      ((c == '?' || Text.sameFold c d) && Matches (ofChars a) w) := by
  by_cases hq : c = '?'
  · subst hq
    simp [ofChars, Matches]
  · have hq' : (c == '?') = false := by simpa using hq
    simp [ofChars, Matches, hc, hq, hq']

theorem matches_ofChars_nil (c : Char) (a : List Char) (hc : c ≠ '*') :
    Matches (ofChars (c :: a)) [] = false := by
  by_cases hq : c = '?'
  · simp [ofChars, Matches, hq]
  · simp [ofChars, Matches, hc, hq]

/-- What the live positions still accept: the rests of names that the pieces from some live
position on match. -/
def LiveMatch (g : Glob) (live : Nat → Bool) (v : List Char) : Prop :=
  ∃ i ≤ g.length, live i = true ∧ Matches (g.drop i) v = true

def StarClosed (g : Glob) (live : Nat → Bool) : Prop :=
  ∀ i < g.length, live i = true → g.isStar i = true → live (i + 1) = true

variable {g : Glob} {live live' : Nat → Bool}

theorem liveMatch_congr (h : ∀ j ≤ g.length, live j = live' j) (v : List Char) :
    g.LiveMatch live v ↔ g.LiveMatch live' v := by
  constructor
  · rintro ⟨i, hi, hlive, hmatch⟩
    exact ⟨i, hi, (h i hi).symm.trans hlive, hmatch⟩
  · rintro ⟨i, hi, hlive, hmatch⟩
    exact ⟨i, hi, (h i hi).trans hlive, hmatch⟩

theorem starClosed_congr (h : ∀ j ≤ g.length, live j = live' j) (hclosed : g.StarClosed live') :
    g.StarClosed live := by
  intro i hi hlive hstar
  rw [h (i + 1) hi]
  exact hclosed i hi ((h i (Nat.le_of_lt hi)).symm.trans hlive) hstar

theorem closure_starClosed (g : Glob) (live : Nat → Bool) :
    g.StarClosed (closure g.isStar live) := by
  intro i _ hlive hstar
  simp [closure, hlive, hstar]

/-- Positions reached through `*`s accept nothing that the position they were reached from does
not: each of those `*`s may match nothing. -/
theorem liveMatch_closure (g : Glob) (live : Nat → Bool) (v : List Char) :
    g.LiveMatch (closure g.isStar live) v ↔ g.LiveMatch live v := by
  constructor
  · rintro ⟨j, hj, hlive, hmatch⟩
    induction j with
    | zero => exact ⟨0, hj, hlive, hmatch⟩
    | succ j ih =>
      simp only [closure, Bool.or_eq_true, Bool.and_eq_true] at hlive
      rcases hlive with hlive | ⟨hstar, hlive⟩
      · exact ⟨j + 1, hj, hlive, hmatch⟩
      · have hj' : j < g.length := by omega
        refine ih (by omega) hlive ?_
        rw [List.drop_eq_getElem_cons hj', (isStar_iff hj').1 hstar]
        exact matches_anyRun_of hmatch
  · rintro ⟨j, hj, hlive, hmatch⟩
    exact ⟨j, hj, le_closure hlive, hmatch⟩

theorem stepSet_of_moves {d : Char} {i j : Nat} (hi : i < g.length)
    (h : g.moves live d i j = true) : g.stepSet live d j = true :=
  List.any_eq_true.2 ⟨i, List.mem_range.2 hi, h⟩

/-- One character is one step of the invariant: what the positions it leads to accept is what
the live positions accepted after that character. -/
theorem liveMatch_stepSet (hclosed : g.StarClosed live) (d : Char) (v : List Char) :
    g.LiveMatch (g.stepSet live d) v ↔ g.LiveMatch live (d :: v) := by
  constructor
  · rintro ⟨j, hj, hstep, hmatch⟩
    obtain ⟨i, hi, hmoves⟩ := List.any_eq_true.1 hstep
    have hi : i < g.length := List.mem_range.1 hi
    simp only [moves, List.getElem?_eq_getElem hi, Bool.and_eq_true] at hmoves
    obtain ⟨hlive, hmove⟩ := hmoves
    refine ⟨i, Nat.le_of_lt hi, hlive, ?_⟩
    rw [List.drop_eq_getElem_cons hi]
    -- a `*` stays and takes `d`; a `?` or a literal of `d`'s case takes `d` and moves on
    cases hp : g[i] with
    | anyRun =>
      simp only [hp, beq_iff_eq] at hmove
      subst hmove
      rw [List.drop_eq_getElem_cons hi, hp] at hmatch
      rw [matches_anyRun_cons, hmatch, Bool.or_true]
    | anyOne =>
      simp only [hp, beq_iff_eq] at hmove
      subst hmove
      simpa [Matches] using hmatch
    | literal c =>
      simp only [hp, Bool.and_eq_true, beq_iff_eq] at hmove
      obtain ⟨rfl, hfold⟩ := hmove
      simp [Matches, hfold, hmatch]
  · rintro ⟨i, hi, hlive, hmatch⟩
    -- from `i`, a `*` that matches nothing hands `d` on to the next position
    obtain ⟨k, hk⟩ : ∃ k, g.length - i = k := ⟨_, rfl⟩
    induction k generalizing i with
    | zero =>
      have hlen : i = g.length := by omega
      subst hlen
      simp [Matches] at hmatch
    | succ k ih =>
      have hi' : i < g.length := by omega
      rw [List.drop_eq_getElem_cons hi'] at hmatch
      cases hp : g[i] with
      | anyRun =>
        rw [hp, matches_anyRun_cons, Bool.or_eq_true] at hmatch
        rcases hmatch with hnext | hstay
        · exact ih (i + 1) hi' (hclosed i hi' hlive ((isStar_iff hi').2 hp)) hnext (by omega)
        · refine ⟨i, hi, stepSet_of_moves hi' ?_, ?_⟩
          · simp [moves, List.getElem?_eq_getElem hi', hp, hlive]
          · rw [List.drop_eq_getElem_cons hi', hp]
            exact hstay
      | anyOne =>
        rw [hp] at hmatch
        refine ⟨i + 1, hi', stepSet_of_moves hi' ?_, by simpa [Matches] using hmatch⟩
        simp [moves, List.getElem?_eq_getElem hi', hp, hlive]
      | literal c =>
        rw [hp] at hmatch
        simp only [Matches, Bool.and_eq_true] at hmatch
        refine ⟨i + 1, hi', stepSet_of_moves hi' ?_, hmatch.2⟩
        simp [moves, List.getElem?_eq_getElem hi', hp, hlive, hmatch.1]

/-- Under closure the last position is live exactly when the empty rest is matched: from a
live position, only `*`s may be left, and they lead to the end. -/
theorem live_length_iff (hclosed : g.StarClosed live) :
    live g.length = true ↔ g.LiveMatch live [] := by
  constructor
  · intro h
    exact ⟨g.length, Nat.le_refl _, h, by simp [Matches]⟩
  · rintro ⟨i, hi, hlive, hmatch⟩
    obtain ⟨k, hk⟩ : ∃ k, g.length - i = k := ⟨_, rfl⟩
    induction k generalizing i with
    | zero =>
      have hlen : i = g.length := by omega
      rwa [← hlen]
    | succ k ih =>
      have hi' : i < g.length := by omega
      rw [List.drop_eq_getElem_cons hi'] at hmatch
      cases hp : g[i] with
      | anyRun =>
        rw [hp, matches_anyRun_nil] at hmatch
        exact ih (i + 1) hi' (hclosed i hi' hlive ((isStar_iff hi').2 hp)) hmatch (by omega)
      | anyOne => simp [hp, Matches] at hmatch
      | literal c => simp [hp, Matches] at hmatch

/-! ### Whole names -/

/-- Reading a name keeps the invariant: the live positions stay closed under `*`s, and what
they accept is what the positions at the start accepted after the name. -/
theorem foldl_advance (g : Glob) (name : List Char) {live : Array Bool}
    (hlive : live.size = g.length + 1) (hclosed : g.StarClosed (live[·]!)) :
    (name.foldl (advance g.toArray) live).size = g.length + 1 ∧
      g.StarClosed ((name.foldl (advance g.toArray) live)[·]!) ∧
      ∀ v, g.LiveMatch ((name.foldl (advance g.toArray) live)[·]!) v ↔
        g.LiveMatch (live[·]!) (name ++ v) := by
  induction name generalizing live with
  | nil => exact ⟨hlive, hclosed, fun v => Iff.rfl⟩
  | cons d name ih =>
    obtain ⟨hsize, hget⟩ := advance_spec g live d
    have hclosed' : g.StarClosed ((advance g.toArray live d)[·]!) :=
      starClosed_congr hget (closure_starClosed g _)
    have hstep : ∀ v, g.LiveMatch ((advance g.toArray live d)[·]!) v ↔
        g.LiveMatch (live[·]!) (d :: v) := fun v =>
      (liveMatch_congr hget v).trans
        ((liveMatch_closure g _ v).trans (liveMatch_stepSet hclosed d v))
    obtain ⟨hsize', hclosed'', hrest⟩ := ih hsize hclosed'
    exact ⟨hsize', hclosed'', fun v => (hrest v).trans (hstep (name ++ v))⟩

theorem start_spec (g : Glob) :
    let start := close g.toArray ((Array.replicate (g.length + 1) false).set! 0 true)
    start.size = g.length + 1 ∧ ∀ j ≤ g.length, start[j]! = closure g.isStar (· == 0) j := by
  refine close_spec_of ⟨by simp, fun j _ => ?_⟩
  rw [getElem!_set!_true (by simp), getElem!_replicate_false, Bool.false_or]

/-- The position sets agree with the rule: an alternative accepts a name exactly when it
matches it. -/
theorem accepts_eq_matches (g : Glob) (name : List Char) : g.accepts name = Matches g name := by
  obtain ⟨hsize, hstart⟩ := start_spec g
  have hclosed := starClosed_congr hstart (closure_starClosed g _)
  obtain ⟨-, hend, hlang⟩ := foldl_advance g name hsize hclosed
  have hfirst : g.LiveMatch (· == 0) name ↔ Matches g name = true := by
    constructor
    · rintro ⟨i, -, hi, hmatch⟩
      rw [beq_iff_eq] at hi
      subst hi
      simpa using hmatch
    · intro h
      exact ⟨0, Nat.zero_le _, rfl, by simpa using h⟩
  unfold accepts
  simp only [List.size_toArray]
  rw [Bool.eq_iff_iff, live_length_iff hend, hlang, List.append_nil, liveMatch_congr hstart,
    liveMatch_closure, hfirst]

end Glob

namespace Pattern

theorem splitBars_eq_splitOn (cs : List Char) : splitBars cs = cs.splitOn '|' := by
  induction cs with
  | nil => rfl
  | cons c rest ih =>
    rw [List.splitOn_cons_eq_if_modifyHead]
    by_cases hc : c = '|'
    · subst hc
      simp [splitBars, ih]
    · rw [if_neg (by simpa using hc)]
      -- the character joins the first alternative of the rest, of which there is always one
      have hne := List.splitOn_ne_nil '|' rest
      cases hsplit : rest.splitOn '|' with
      | nil => exact absurd hsplit hne
      | cons first others => simp [splitBars, ih, hsplit]

theorem splitOn_of_bars {cs : List Char} (h : ∀ c ∈ cs, c = '|') :
    ∀ a ∈ cs.splitOn '|', a = [] := by
  induction cs with
  | nil => simp
  | cons c rest ih =>
    obtain rfl := h c List.mem_cons_self
    rw [List.splitOn_cons_eq_if_modifyHead, if_pos (beq_self_eq_true _)]
    intro a ha
    rcases List.mem_cons.1 ha with rfl | ha
    · rfl
    · exact ih (fun c hc => h c (List.mem_cons_of_mem _ hc)) a ha

end Pattern

end CatalogQueue
