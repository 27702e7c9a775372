import Mathlib
import CatalogQueue.Proofs.Wildcards

/-!
A pattern compiled to a regular expression matches by its wildcard alternatives, with every
library that escapes and matches as documented (`matchesPatternWith_by_alternatives`). The two
rewrites act on an escaped alternative character by character, because each backslash of it
escapes the character after it (`Regex.rewrite_escaped`).
-/

namespace CatalogQueue

namespace Text

variable {a b : Char} {rep : List Char}

theorem replacePair_pair (t : List Char) :
    replacePair a b rep (a :: b :: t) = rep ++ replacePair a b rep t := by
  simp [replacePair]

theorem replacePair_cons (c : Char) (t : List Char) (h : c = a → t.head? ≠ some b) :
    replacePair a b rep (c :: t) = c :: replacePair a b rep t := by
  cases t with
  | nil => rfl
  | cons d t =>
    have hpair : ¬(c = a ∧ d = b) := fun ⟨hc, hd⟩ => h hc (by simp [hd])
    simp [replacePair, hpair]

theorem head?_append_ne {l t : List Char} (hl : l.head? ≠ some b) (ht : t.head? ≠ some b) :
    (l ++ t).head? ≠ some b := by
  cases l with
  | nil => exact ht
  | cons c l => exact hl

theorem head?_flatMap_ne {α : Type} {f : α → List Char} (hhead : ∀ x, (f x).head? ≠ some b)
    (xs : List α) : (xs.flatMap f).head? ≠ some b := by
  induction xs with
  | nil => simp
  | cons x xs ih =>
    rw [List.flatMap_cons]
    exact head?_append_ne (hhead x) ih

/-- Text made of pieces none of which starts with `b` is rewritten piece by piece, when each
piece is rewritten on its own before any text that does not start with `b`. -/
theorem replacePair_flatMap {α : Type} (f g : α → List Char)
    (hstep : ∀ x t, t.head? ≠ some b →
      replacePair a b rep (f x ++ t) = g x ++ replacePair a b rep t)
    (hhead : ∀ x, (f x).head? ≠ some b) (xs : List α) :
    replacePair a b rep (xs.flatMap f) = xs.flatMap g := by
  induction xs with
  | nil => rfl
  | cons x xs ih =>
    rw [List.flatMap_cons, hstep x _ (head?_flatMap_ne hhead xs), ih, List.flatMap_cons]

end Text

namespace Regex

theorem ne_of_isMeta {c d : Char} (hc : isMeta c = false) (hd : isMeta d = true) : c ≠ d := by
  rintro rfl
  rw [hc] at hd
  exact Bool.false_ne_true hd

/-- An escaped character starts with a backslash or with a character that is no meta
character. -/
theorem head_quote_ne {c d : Char} (hd : isMeta d = true) (hslash : d ≠ '\\') :
    (quote c).head? ≠ some d := by
  unfold quote
  split
  · simpa using hslash.symm
  · rename_i hc
    simpa using ne_of_isMeta (by simpa using hc) hd

/-- An escaped character other than `b` is kept by the rewrite of backslash-`b`, before any
text that does not start with `b`. -/
theorem replacePair_quote {b c : Char} {rep t : List Char} (hc : c ≠ b) (ht : t.head? ≠ some b) :
    Text.replacePair '\\' b rep (quote c ++ t) = quote c ++ Text.replacePair '\\' b rep t := by
  unfold quote
  split
  · -- the backslash escapes `c`, and `c` is itself a backslash only before `t`
    rw [List.cons_append, List.cons_append, List.nil_append,
      Text.replacePair_cons _ _ (fun _ => by simpa using hc), Text.replacePair_cons _ _ fun _ => ht]
    rfl
  · rename_i hm
    rw [List.cons_append, List.nil_append,
      Text.replacePair_cons _ _ fun h => absurd h (ne_of_isMeta (by simpa using hm) rfl)]
    rfl

def starRewritten (c : Char) : List Char := if c = '*' then ['.', '*'] else quote c

def Item.ofChar (c : Char) : Item :=
  if c = '*' then .dotStar else if c = '?' then .dot else .lit c

theorem rewriteStar_quote (c : Char) (t : List Char) (ht : t.head? ≠ some '*') :
    Text.replacePair '\\' '*' ['.', '*'] (quote c ++ t) =
      starRewritten c ++ Text.replacePair '\\' '*' ['.', '*'] t := by
  by_cases hstar : c = '*'
  · subst hstar
    exact Text.replacePair_pair t
  · rw [starRewritten, if_neg hstar, replacePair_quote hstar ht]

theorem rewriteAny_starRewritten (c : Char) (t : List Char) (ht : t.head? ≠ some '?') :
    Text.replacePair '\\' '?' ['.'] (starRewritten c ++ t) =
      (Item.ofChar c).source ++ Text.replacePair '\\' '?' ['.'] t := by
  by_cases hstar : c = '*'
  · subst hstar
    rw [starRewritten, if_pos rfl, List.cons_append, List.cons_append, List.nil_append,
      Text.replacePair_cons _ _ (by simp), Text.replacePair_cons _ _ (by simp)]
    rfl
  · by_cases hany : c = '?'
    · subst hany
      exact Text.replacePair_pair t
    · rw [starRewritten, if_neg hstar, replacePair_quote hany ht, Item.ofChar, if_neg hstar,
        if_neg hany]
      rfl

/-- The two rewrites of an escaped alternative write the items its characters stand for. -/
theorem rewrite_escaped (cs : List Char) :
    Text.replacePair '\\' '?' ['.'] (Text.replacePair '\\' '*' ['.', '*'] (cs.flatMap quote)) =
      (cs.map Item.ofChar).flatMap Item.source := by
  have hstarred : ∀ c, (starRewritten c).head? ≠ some '?' := fun c => by
    unfold starRewritten
    split
    · simp
    · exact head_quote_ne rfl (by decide)
  rw [Text.replacePair_flatMap quote starRewritten rewriteStar_quote
      (fun _ => head_quote_ne rfl (by decide)),
    Text.replacePair_flatMap starRewritten _ rewriteAny_starRewritten hstarred, List.flatMap_map]

def Anchored.ofPattern (pattern : String) : Anchored :=
  ⟨(Pattern.alternatives pattern).map (·.map Item.ofChar)⟩

/-- With a library that escapes as documented, a pattern compiles to the expression it stands
for. -/
theorem regexSource_eq {lib : Library} (hlib : lib.Lawful) (pattern : String) :
    regexSource lib.escape pattern = String.ofList (Anchored.ofPattern pattern).source := by
  simp only [regexSource, Anchored.source, Anchored.ofPattern, List.map_map, Function.comp_def,
    hlib.escape_toList, String.toList_ofList, rewrite_escaped]

theorem length_source_le (it : Item) : it.source.length ≤ 2 := by
  cases it with
  | lit c =>
    rw [Item.source, quote]
    split <;> simp
  | dot => decide
  | dotStar => decide

theorem length_intercalate_bar (ls : List (List Char)) :
    (['|'].intercalate ls).length = (ls.map (·.length + 1)).sum - 1 := by
  induction ls with
  | nil => rfl
  | cons l ls ih =>
    cases ls with
    | nil => simp
    | cons l' ls =>
      rw [List.intercalate_cons_cons, List.length_append, List.length_append, ih]
      simp only [List.map_cons, List.sum_cons, List.length_singleton]
      omega

theorem length_items_le (a : List Char) :
    ((a.map Item.ofChar).flatMap Item.source).length ≤ 2 * a.length := by
  rw [List.length_flatMap, List.map_map]
  calc ((a.map ((·.source.length) ∘ Item.ofChar)).sum)
      ≤ (a.map fun _ => 2).sum := List.sum_le_sum fun c _ => length_source_le (Item.ofChar c)
    _ = 2 * a.length := by simp [Nat.mul_comm]

/-- A pattern of `n` characters compiles to at most `2 n + 6`: an escaped character takes at
most two, and each `|` between kept alternatives stands for one of the pattern. -/
theorem length_source_ofPattern (pattern : String) :
    (Anchored.ofPattern pattern).source.length ≤ 2 * pattern.length + 6 := by
  have hsplit := length_intercalate_bar (pattern.toList.splitOn '|')
  rw [List.intercalate_splitOn, String.length_toList] at hsplit
  have hone : 1 ≤ (pattern.toList.splitOn '|').length :=
    List.length_pos_iff.2 (List.splitOn_ne_nil '|' pattern.toList)
  -- each kept alternative takes at most twice its length and one `|`
  have hbody : ((Pattern.alternatives pattern).map fun a =>
      ((a.map Item.ofChar).flatMap Item.source).length + 1).sum ≤
      ((pattern.toList.splitOn '|').map fun a => 2 * a.length + 1).sum :=
    calc ((Pattern.alternatives pattern).map fun a =>
          ((a.map Item.ofChar).flatMap Item.source).length + 1).sum
        ≤ ((Pattern.alternatives pattern).map fun a => 2 * a.length + 1).sum :=
          List.sum_le_sum fun a _ => Nat.add_le_add_right (length_items_le a) 1
      _ ≤ ((pattern.toList.splitOn '|').map fun a => 2 * a.length + 1).sum := by
          rw [Pattern.alternatives, Pattern.splitBars_eq_splitOn]
          exact (List.filter_sublist.map _).sum_le_sum fun _ _ => Nat.zero_le _
  have htwice : ((pattern.toList.splitOn '|').map fun a => 2 * a.length + 1).sum +
      (pattern.toList.splitOn '|').length = 2 * ((pattern.toList.splitOn '|').map (·.length + 1)).sum := by
    simp [List.sum_map_add, List.sum_map_mul_left]
    ring
  have hfixed : "^(?:".toList.length + ")$".toList.length = 6 := by decide
  simp only [Anchored.source, Anchored.ofPattern, List.length_append, length_intercalate_bar,
    List.map_map, Function.comp_def]
  omega

theorem exists_drop_iff {v : List Char} {i : Nat} (hi : i ≤ v.length) {P : List Char → Prop} :
    (∃ u w, v.drop i = u ++ w ∧ P w) ↔ ∃ k, (i ≤ k ∧ k ≤ v.length) ∧ P (v.drop k) := by
  constructor
  · rintro ⟨u, w, hsplit, hw⟩
    have hlen := congrArg List.length hsplit
    rw [List.length_drop, List.length_append] at hlen
    refine ⟨i + u.length, ⟨by omega, by omega⟩, ?_⟩
    rwa [← List.drop_drop, hsplit, List.drop_left]
  · rintro ⟨k, ⟨hik, _⟩, hk⟩
    refine ⟨(v.drop i).take (k - i), v.drop k, ?_, hk⟩
    calc v.drop i = (v.drop i).take (k - i) ++ (v.drop i).drop (k - i) :=
          (List.take_append_drop _ _).symm
      _ = (v.drop i).take (k - i) ++ v.drop k := by rw [List.drop_drop, Nat.add_sub_cancel' hik]

/-- Items match from position `i` to the end of a text exactly when their pieces match the
rest of it. -/
theorem matches_pieces_iff (v : List Char) (b : List Item) {i : Nat} (hi : i ≤ v.length) :
    Glob.Matches (b.map Item.piece) (v.drop i) = true ↔ Spans v b i v.length := by
  induction b generalizing i with
  | nil =>
    simp only [List.map_nil, Glob.Matches, List.isEmpty_iff, List.drop_eq_nil_iff, Spans]
    omega
  | cons it b ih =>
    cases it with
    | lit c =>
      by_cases hlt : i < v.length
      · rw [List.drop_eq_getElem_cons hlt]
        simp only [List.map_cons, Item.piece, Glob.Matches, Bool.and_eq_true, ih hlt, Spans,
          Item.Spans]
        constructor
        · rintro ⟨hfold, hrest⟩
          exact ⟨i + 1, ⟨hlt, hfold, rfl⟩, hrest⟩
        · rintro ⟨k, ⟨_, hfold, rfl⟩, hrest⟩
          exact ⟨hfold, hrest⟩
      · rw [show i = v.length by omega, List.drop_length]
        simp [Item.piece, Glob.Matches, Spans, Item.Spans]
    | dot =>
      by_cases hlt : i < v.length
      · rw [List.drop_eq_getElem_cons hlt]
        simp only [List.map_cons, Item.piece, Glob.Matches, ih hlt, Spans, Item.Spans]
        constructor
        · intro hrest
          exact ⟨i + 1, ⟨hlt, rfl⟩, hrest⟩
        · rintro ⟨k, ⟨_, rfl⟩, hrest⟩
          exact hrest
      · rw [show i = v.length by omega, List.drop_length]
        simp [Item.piece, Glob.Matches, Spans, Item.Spans]
    | dotStar =>
      -- a `.*` ends at any later position, as a `*` leaves any rest of the name
      simp only [List.map_cons, Item.piece]
      rw [Glob.matches_anyRun_iff, exists_drop_iff hi]
      simp only [Spans, Item.Spans]
      exact exists_congr fun k => and_congr_right fun hk => ih hk.2

theorem piece_ofChar (cs : List Char) :
    (cs.map Item.ofChar).map Item.piece = Glob.ofChars cs := by
  rw [List.map_map, Glob.ofChars]
  congr 1
  funext c
  simp only [Function.comp_apply, Item.ofChar]
  split_ifs <;> rfl

theorem spans_ofChar_iff (v a : List Char) :
    Spans v (a.map Item.ofChar) 0 v.length ↔ Glob.Matches (Glob.ofChars a) v = true := by
  rw [← matches_pieces_iff v _ (Nat.zero_le _), List.drop_zero, piece_ofChar]

theorem anchored_spans_iff (r : Anchored) (v : List Char) :
    (∃ i j, r.Spans v i j) ↔ ∃ b ∈ r.branches, Spans v b 0 v.length := by
  constructor
  · rintro ⟨i, j, rfl, hb, rfl⟩
    exact hb
  · intro hb
    exact ⟨0, v.length, rfl, hb, rfl⟩

theorem alternatives_eq (pattern : String) :
    Pattern.alternatives pattern = (pattern.toList.splitOn '|').filter (!·.isEmpty) := by
  rw [Pattern.alternatives, Pattern.splitBars_eq_splitOn]

/-- The branches of the expression a pattern stands for match where its non-empty
alternatives do. -/
theorem exists_branch_ofPattern_iff (pattern : String) (v : List Char) :
    (∃ b ∈ (Anchored.ofPattern pattern).branches, Spans v b 0 v.length) ↔
      ∃ a ∈ pattern.toList.splitOn '|', a ≠ [] ∧ Glob.Matches (Glob.ofChars a) v = true := by
  simp only [Anchored.ofPattern, alternatives_eq, List.mem_map, List.mem_filter,
    Bool.not_eq_true', List.isEmpty_eq_false_iff]
  constructor
  · rintro ⟨_, ⟨a, ⟨ha, hne⟩, rfl⟩, hspan⟩
    exact ⟨a, ha, hne, (spans_ofChar_iff v a).1 hspan⟩
  · rintro ⟨a, ha, hne, hmatch⟩
    exact ⟨_, ⟨a, ⟨ha, hne⟩, rfl⟩, (spans_ofChar_iff v a).2 hmatch⟩

/-! ### Reading a source back -/

theorem parseBranches_bar (rest : List Char) :
    parseBranches ('|' :: rest) = (parseBranches rest).map ([] :: ·) := rfl

theorem parseBranches_escaped (c : Char) (rest : List Char) (hc : isMeta c = true) :
    parseBranches ('\\' :: c :: rest) = (parseBranches rest).map (pushItem (.lit c)) := by
  simp [parseBranches, hc]

theorem parseBranches_lit (c : Char) (rest : List Char) (hc : isMeta c = false) :
    parseBranches (c :: rest) = (parseBranches rest).map (pushItem (.lit c)) := by
  have hclose := ne_of_isMeta hc (d := ')') rfl
  have hslash := ne_of_isMeta hc (d := '\\') rfl
  have hdot := ne_of_isMeta hc (d := '.') rfl
  have hbar := ne_of_isMeta hc (d := '|') rfl
  rw [parseBranches.eq_def]
  split <;> simp_all

theorem parseBranches_dot (rest : List Char) (h : rest.head? ≠ some '*') :
    parseBranches ('.' :: rest) = (parseBranches rest).map (pushItem .dot) := by
  match rest, h with
  | [], _ => rfl
  | d :: rest, h =>
    have hd : d ≠ '*' := by simpa using h
    simp [parseBranches, hd]

theorem head_source_ne (it : Item) : it.source.head? ≠ some '*' := by
  cases it with
  | lit c => exact head_quote_ne rfl (by decide)
  | dot => decide
  | dotStar => decide

/-- A branch is read back in front of what follows it, unless that starts with `*`. -/
theorem parseBranches_items (b : List Item) {rest : List Char} {bs : List (List Item)}
    (hrest : parseBranches rest = some ([] :: bs)) (hhead : rest.head? ≠ some '*') :
    parseBranches (b.flatMap Item.source ++ rest) = some (b :: bs) := by
  induction b with
  | nil => exact hrest
  | cons it b ih =>
    have hnext : (b.flatMap Item.source ++ rest).head? ≠ some '*' :=
      Text.head?_append_ne (Text.head?_flatMap_ne head_source_ne b) hhead
    rw [List.flatMap_cons, List.append_assoc]
    cases it with
    | lit c =>
      cases hm : isMeta c with
      | true =>
        simp only [Item.source, quote, hm, if_true, List.cons_append, List.nil_append]
        rw [parseBranches_escaped c _ hm, ih]
        rfl
      | false =>
        simp only [Item.source, quote, hm, Bool.false_eq_true, if_false, List.cons_append,
          List.nil_append]
        rw [parseBranches_lit c _ hm, ih]
        rfl
    | dot =>
      simp only [Item.source, List.cons_append, List.nil_append]
      rw [parseBranches_dot _ hnext, ih]
      rfl
    | dotStar =>
      simp only [Item.source, List.cons_append, List.nil_append]
      show ((parseBranches _).map (pushItem .dotStar)) = _
      rw [ih]
      rfl

theorem parseBranches_branches (bs : List (List Item)) (hbs : bs ≠ []) :
    parseBranches (['|'].intercalate (bs.map (·.flatMap Item.source)) ++ ")$".toList) =
      some bs := by
  induction bs with
  | nil => exact absurd rfl hbs
  | cons b bs ih =>
    cases bs with
    | nil =>
      rw [List.map_cons, List.map_nil, List.intercalate_singleton]
      exact parseBranches_items b (by decide) (by decide)
    | cons b' bs =>
      rw [List.map_cons, List.map_cons, List.intercalate_cons_cons, List.append_assoc,
        List.append_assoc]
      refine parseBranches_items b ?_ (by simp)
      rw [List.singleton_append, parseBranches_bar, ← List.map_cons, ih (List.cons_ne_nil _ _)]
      rfl

theorem parse_source (r : Anchored) (hr : r.branches ≠ []) : parse r.source = some r := by
  have hopen : "^(?:".toList = ['^', '(', '?', ':'] := by decide
  rw [Anchored.source, hopen, List.append_assoc]
  simp only [List.cons_append, List.nil_append, parse]
  rw [parseBranches_branches _ hr]
  rfl

/-- The library that patterns are matched with behaves as documented. -/
theorem library_lawful : library.Lawful where
  escape_toList _ := String.toList_ofList
  build_anchored r hr _ := by
    refine ⟨fun name => r.branches.any fun b => Glob.accepts (b.map Item.piece) name.toList,
      by simp only [library, String.toList_ofList, parse_source r hr, Option.map_some],
      fun v => ?_⟩
    rw [List.any_eq_true, anchored_spans_iff]
    refine exists_congr fun b => and_congr_right fun _ => ?_
    rw [Glob.accepts_eq_matches, ← matches_pieces_iff v.toList b (Nat.zero_le _), List.drop_zero]

end Regex

open Regex

variable {lib : Library}

/-- With a library that escapes and matches as documented, a name matches a pattern of at most
1000 characters exactly when it matches, by the rule, some non-empty alternative. -/
theorem matchesPatternWith_iff_alternative (hlib : lib.Lawful) (name pattern : String)
    (hshort : pattern.length ≤ 1000) :
    matchesPatternWith lib name pattern = true ↔
      ∃ a ∈ pattern.toList.splitOn '|', a ≠ [] ∧
        Glob.Matches (Glob.ofChars a) name.toList = true := by
  rw [← exists_branch_ofPattern_iff]
  unfold matchesPatternWith
  split
  · -- no alternative is kept, so the expression has no branch
    rename_i hall
    have hnone : Pattern.alternatives pattern = [] := by
      rw [Pattern.alternatives, List.filter_eq_nil_iff]
      simpa using List.all_eq_true.1 hall
    simp [Anchored.ofPattern, hnone]
  · rename_i hsome
    have hne : (Anchored.ofPattern pattern).branches ≠ [] := by
      simp only [Anchored.ofPattern, ne_eq, List.map_eq_nil_iff, Pattern.alternatives,
        List.filter_eq_nil_iff, not_forall]
      simpa using hsome
    obtain ⟨m, hbuild, hm⟩ := hlib.build_anchored _ hne
      (by have := length_source_ofPattern pattern; omega)
    rw [regexSource_eq hlib, hbuild, hm, anchored_spans_iff]

theorem matchesPatternWith_append_bar (hlib : lib.Lawful) (name p q : String)
    (hshort : (p ++ "|" ++ q).length ≤ 1000) :
    matchesPatternWith lib name (p ++ "|" ++ q) =
      (matchesPatternWith lib name p || matchesPatternWith lib name q) := by
  have hlen : (p ++ "|" ++ q).length = p.length + 1 + q.length := by
    rw [String.length_append, String.length_append, show "|".length = 1 by decide]
  have hsplit : (p ++ "|" ++ q).toList.splitOn '|' =
      p.toList.splitOn '|' ++ q.toList.splitOn '|' := by
    rw [String.toList_append, String.toList_append, List.append_assoc]
    exact List.splitOn_append_cons_self _ _
  rw [Bool.eq_iff_iff, Bool.or_eq_true, matchesPatternWith_iff_alternative hlib _ _ hshort,
    matchesPatternWith_iff_alternative hlib _ _ (by omega),
    matchesPatternWith_iff_alternative hlib _ _ (by omega), hsplit]
  simp only [List.mem_append, or_and_right, exists_or]

/-- A pattern of `|` alone, the empty pattern included, matches nothing, whatever the library. -/
theorem matchesPatternWith_of_bars (lib : Library) (name p : String)
    (h : ∀ c ∈ p.toList, c = '|') : matchesPatternWith lib name p = false := by
  have hall : (Pattern.splitBars p.toList).all (·.isEmpty) = true := by
    rw [Pattern.splitBars_eq_splitOn, List.all_eq_true]
    intro a ha
    simp [Pattern.splitOn_of_bars h a ha]
  simp [matchesPatternWith, hall]

/-- Wildcard patterns compiled to regular expressions match by their alternatives, with every
library that escapes and matches as documented. A name matches a pattern of at most 1000
characters exactly when some non-empty alternative of it, split at every `|`, matches the whole
name by the rule: `*` matches any run of characters, the empty one included; `?` any one
character; every other character, backslashes and meta characters included, the characters of
its case. So a pattern joined from two by `|` matches what either matches, and a pattern of `|`
alone matches nothing. -/
theorem matchesPatternWith_by_alternatives (lib : Library) (hlib : lib.Lawful) :
    (∀ name pattern : String, pattern.length ≤ 1000 →
      (matchesPatternWith lib name pattern = true ↔
        ∃ a ∈ pattern.toList.splitOn '|', a ≠ [] ∧
          Glob.Matches (Glob.ofChars a) name.toList = true)) ∧
    (∀ a v : List Char, Glob.Matches (Glob.ofChars ('*' :: a)) v = true ↔
      ∃ u w, v = u ++ w ∧ Glob.Matches (Glob.ofChars a) w = true) ∧
    (∀ (c d : Char) (a w : List Char), c ≠ '*' →
      Glob.Matches (Glob.ofChars (c :: a)) (d :: w) =
        ((c == '?' || Text.sameFold c d) && Glob.Matches (Glob.ofChars a) w)) ∧
    (∀ (c : Char) (a : List Char), c ≠ '*' → Glob.Matches (Glob.ofChars (c :: a)) [] = false) ∧
    (∀ name p q : String, (p ++ "|" ++ q).length ≤ 1000 →
      matchesPatternWith lib name (p ++ "|" ++ q) =
        (matchesPatternWith lib name p || matchesPatternWith lib name q)) ∧
    (∀ name p : String, (∀ c ∈ p.toList, c = '|') → matchesPatternWith lib name p = false) :=
  ⟨matchesPatternWith_iff_alternative hlib, fun a v => Glob.matches_anyRun_iff (Glob.ofChars a) v,
    Glob.matches_ofChars_cons, Glob.matches_ofChars_nil, matchesPatternWith_append_bar hlib,
    matchesPatternWith_of_bars lib⟩

/-- A backslash before `*` stands for itself, and the `*` after it for any run. -/
theorem matchesPattern_backslash_before_star :
    library.Lawful ∧ "a\\*|b".length ≤ 1000 ∧
      (matchesPatternWith library "A\\xyz" "a\\*|b" = true ↔
        ∃ a ∈ "a\\*|b".toList.splitOn '|', a ≠ [] ∧
          Glob.Matches (Glob.ofChars a) "A\\xyz".toList = true) :=
  ⟨library_lawful, by decide,
    (matchesPatternWith_by_alternatives library library_lawful).1 _ _ (by decide)⟩

end CatalogQueue
