import CatalogQueue.Proofs.SpanText
import CatalogQueue.Rules.Encode
import CatalogQueue.Rules.Decode

/-!
Saving a rule file after loading it: with a YAML layer that reads back what it writes, saving
again writes the same value exactly when no limit duration is a non-zero span shorter than one
second.
-/

namespace CatalogQueue

open Yaml

mutual

/-- The content that reading the YAML text of a written value gives, when the YAML layer reads
back what it writes. -/
def Written.content : Written → Content
  | .text s => .string s
  | .flag b => .bool b
  | .count n => .unsigned n
  | .list items => .seq (Written.contents items)
  | .record fields => .map (Written.contentEntries fields)

def Written.contents : List Written → List Content
  | [] => []
  | w :: ws => w.content :: Written.contents ws

def Written.contentEntries : List (String × Written) → List (Content × Content)
  | [] => []
  | (k, w) :: rest => (.string k, w.content) :: Written.contentEntries rest

end

namespace ActionRule

mutual

def truncated : ActionRule → ActionRule
  | ⟨kind, name, exclude, reverse, limitCount, limitDuration, actions⟩ =>
    ⟨kind, name, exclude, reverse, limitCount, limitDuration.truncSecs, truncatedAll actions⟩

def truncatedAll : List ActionRule → List ActionRule
  | [] => []
  | a :: rest => a.truncated :: truncatedAll rest

end

mutual

def tree : ActionRule → List ActionRule
  | ⟨kind, name, exclude, reverse, limitCount, limitDuration, actions⟩ =>
    ⟨kind, name, exclude, reverse, limitCount, limitDuration, actions⟩ :: treeAll actions

def treeAll : List ActionRule → List ActionRule
  | [] => []
  | a :: rest => a.tree ++ treeAll rest

end

/-- Limits that a rule file can hold: a count of 32 bits and a duration of at most
`maxDays` days. -/
def limitsReadable (a : ActionRule) : Bool :=
  a.limitCount ≤ Rules.max32 && a.limitDuration.secs < (maxDays + 1) * 86400

def limitWhole (a : ActionRule) : Bool := a.limitDuration.isZero || a.limitDuration.secs != 0

def inRange (a : ActionRule) : Bool := a.tree.all limitsReadable

/-- Whether no limit duration of a tree is a non-zero span shorter than one second. -/
def wholeLimits (a : ActionRule) : Bool := a.tree.all limitWhole

end ActionRule

def PassRule.truncated (p : PassRule) : PassRule :=
  { p with actions := p.actions.map ActionRule.truncated }

def RuleFile.truncated (f : RuleFile) : RuleFile :=
  { settings := { f.settings with limits := { f.settings.limits with
      queueDuration := f.settings.limits.queueDuration.truncSecs } },
    passes := f.passes.map PassRule.truncated }

/-! ### Durations cut to whole seconds -/

namespace Span

theorem truncSecs_eq_ofSecs (d : Span) : d.truncSecs = ofSecs d.secs := rfl

@[simp] theorem format_truncSecs (d : Span) : d.truncSecs.format = d.format :=
  format_eq_of_secs_eq (secs_ofSecs (secs_lt_secsBound d))

@[simp] theorem isZero_truncSecs (d : Span) : d.truncSecs.isZero = (d.secs == 0) := by
  have hsecs := secs_ofSecs (secs_lt_secsBound d)
  rw [truncSecs_eq_ofSecs]
  cases h : d.secs == 0
  · -- whole seconds left: the cut span is not empty
    have hne : d.secs ≠ 0 := by simpa using h
    rw [Bool.eq_false_iff]
    intro hz
    have hzero : (ofSecs d.secs).toNanos = 0 := by simpa using hz
    have hcut : (ofSecs d.secs).secs = 0 := by
      show (ofSecs d.secs).toNanos / nanosPerSec = 0
      rw [hzero, Nat.zero_div]
    omega
  · have hz : d.secs = 0 := by simpa using h
    simp [hz, ofSecs, ofNanosClamped, isZero]

theorem truncSecs_of_isZero {d : Span} (h : d.isZero = true) : d.truncSecs = zero := by
  have hz : d.toNanos = 0 := by simpa using h
  apply ext_toNanos
  simp [truncSecs, ofNanosClamped, secs, hz]

end Span

/-! ### Writing again what was read back -/

namespace ActionRule

theorem truncatedAll_isEmpty (as : List ActionRule) : (truncatedAll as).isEmpty = as.isEmpty := by
  cases as <;> rfl

mutual

/-- Writing an action cut to whole seconds gives its written form again exactly when no limit
duration of its tree is a non-zero span shorter than one second. -/
theorem written_truncated_iff :
    ∀ a : ActionRule, a.truncated.written = a.written ↔ a.wholeLimits = true
  | ⟨kind, name, exclude, reverse, limitCount, d, actions⟩ => by
    have hrest := writtenAll_truncatedAll_iff actions
    simp only [truncated, written, wholeLimits, tree, List.all_cons, limitWhole,
      Written.record.injEq, List.append_assoc, List.append_cancel_left_eq, Span.isZero_truncSecs,
      Written.span, Span.format_truncSecs, truncatedAll_isEmpty, Bool.and_eq_true]
    rw [← hrest]
    by_cases hz : d.isZero = true
    · have hs : d.secs = 0 := by simp [Span.secs, (Span.isZero_iff d).1 hz]
      cases actions <;> simp [hz, hs, truncatedAll, writtenAll]
    · by_cases hs : d.secs = 0
      · -- a non-zero span below a second: written once, then left out
        cases actions <;> simp [hz, hs]
      · cases actions <;> simp [hz, hs, truncatedAll, writtenAll]

theorem writtenAll_truncatedAll_iff : ∀ as : List ActionRule,
    writtenAll (truncatedAll as) = writtenAll as ↔ (treeAll as).all limitWhole = true
  | [] => by simp [truncatedAll, writtenAll, treeAll]
  | a :: rest => by
    have ha := written_truncated_iff a
    have hrest := writtenAll_truncatedAll_iff rest
    simp only [truncatedAll, writtenAll, treeAll, List.cons.injEq, List.all_append,
      Bool.and_eq_true, ha, hrest, wholeLimits]

end

end ActionRule

/-! ### Reading an action back -/

namespace Written

theorem contentEntries_not_tag {l : List (String × Written)} (h : ∀ e ∈ l, e.1 ≠ "type") :
    ∀ e ∈ contentEntries l, Rules.isTagKey e.1 = false := by
  induction l with
  | nil => simp [contentEntries]
  | cons e l ih =>
    obtain ⟨k, w⟩ := e
    have hk : k ≠ "type" := h (k, w) (by simp)
    simp only [contentEntries, List.mem_cons, forall_eq_or_imp]
    refine ⟨by simpa [Rules.isTagKey] using hk, ih fun e he => h e (by simp [he])⟩

end Written

namespace Rules

@[simp] theorem ok_bind {ε α β : Type} (x : α) (f : α → Except ε β) : (Except.ok x >>= f) = f x :=
  rfl

@[simp] theorem map_ok {ε α β : Type} (f : α → β) (x : α) :
    (f <$> (Except.ok x : Except ε α)) = .ok (f x) :=
  rfl

theorem forIn_pure_of_yield_self {m : Type → Type} [Monad m] [LawfulMonad m] {α β : Type}
    {l : List α} {f : α → β → m (ForInStep β)} (init : β)
    (h : ∀ x ∈ l, ∀ b, f x b = pure (.yield b)) : forIn l init f = pure init := by
  induction l with
  | nil => rfl
  | cons x l ih =>
    rw [List.forIn_cons, h x (by simp), pure_bind]
    exact ih fun y hy => h y (by simp [hy])

theorem tagOf_type (v : Content) (rest : List (Content × Content))
    (hrest : ∀ e ∈ rest, isTagKey e.1 = false) : tagOf ((.string "type", v) :: rest) = kindOf v := by
  unfold tagOf
  simp only [List.forIn_cons]
  cases hk : kindOf v with
  | error e => simp [isTagKey]; rfl
  | ok k =>
    have htype : isTagKey (.string "type") = true := rfl
    simp only [htype, ite_true, Option.isSome_none, Bool.false_eq_true, ite_false]
    simp only [ok_bind, pure_bind]
    -- no later entry is a tag: the loop keeps the kind read from the first
    rw [forIn_pure_of_yield_self (some k)]
    · rfl
    · intro x hx b
      simp [hrest x hx]

theorem kindOf_name (kind : ActionKind) : kindOf (.string kind.name) = .ok kind := by
  cases kind <;> rfl

theorem spanOf_format {d : Span} (hd : d.secs < (maxDays + 1) * 86400) :
    spanOf d.format = .ok d.truncSecs := by
  have hparse : Span.parse? d.format = some d.truncSecs := by
    rw [Span.parse_format, if_pos hd]
    rfl
  have hne : d.format.toList ≠ [] := by
    intro hnil
    rw [String.toList_eq_nil_iff.mp hnil] at hparse
    cases hparse
  have htrim : (Text.trimBlanks d.format.toList).isEmpty = false := by
    rw [Text.trimBlanks_eq_self (SpanText.format_not_blank d)]
    exact List.isEmpty_eq_false_iff.mpr hne
  simp [spanOf, Span.parseSetting?, htrim, hparse]

theorem settingsOfEntries_tag (v : Content) (rest : List (Content × Content)) (r : ActionRule)
    (seen : List Nat) :
    settingsOfEntries ((.string "type", v) :: rest) r seen = settingsOfEntries rest r seen := rfl

theorem settingsOfEntries_field {k : String} {i : Nat} (hk : Decode.indexOf? actionFields k = some i)
    {v : Content} {r r' : ActionRule} (hset : setField r i v = .ok r') {seen : List Nat}
    (hseen : i ∉ seen) (rest : List (Content × Content)) :
    settingsOfEntries ((.string k, v) :: rest) r seen = settingsOfEntries rest r' (i :: seen) := by
  have htag : isTagKey (.string k) = false := by
    -- the tag names no field of an action
    simp only [isTagKey, beq_eq_false_iff_ne, ne_eq]
    rintro rfl
    cases hk
  simp [settingsOfEntries, htag, fieldOf, hk, hseen, hset]

/-- An entry that is written only when its value is not the default: left out, the settings
stay as they are; written, its field is set. Fields come in order, so the field is not one seen
before. -/
theorem settingsOfEntries_unless {k : String} {i : Nat}
    (hk : Decode.indexOf? actionFields k = some i) (skip : Bool) (w : Written) (r r' : ActionRule)
    (seen : List Nat) (hseen : ∀ j ∈ seen, j < i) (hskip : skip = true → r' = r)
    (hset : skip = false → setField r i w.content = .ok r') (rest : List (String × Written)) :
    ∃ seen', (∀ j ∈ seen', j < i + 1) ∧
      settingsOfEntries (Written.contentEntries ((if skip then [] else [(k, w)]) ++ rest)) r seen =
        settingsOfEntries (Written.contentEntries rest) r' seen' := by
  cases skip
  · refine ⟨i :: seen, ?_, ?_⟩
    · intro j hj
      cases hj with
      | head => omega
      | tail _ hj => exact Nat.lt_succ_of_lt (hseen j hj)
    · have hfresh : i ∉ seen := fun h => Nat.lt_irrefl i (hseen i h)
      exact settingsOfEntries_field hk (hset rfl) hfresh _
  · refine ⟨seen, fun j hj => Nat.lt_succ_of_lt (hseen j hj), ?_⟩
    simp [hskip rfl]

end Rules

namespace ActionRule

open Rules

/-- An action written with its kind under the tag and settings that name no tag reads back, as
content, to what its settings read back to. -/
theorem actionOf_of_settings {a r : ActionRule}
    (h : ∃ fields, a.written = .record (("type", .text a.kind.name) :: fields) ∧
      (∀ e ∈ fields, e.1 ≠ "type") ∧
        settingsOfEntries (Written.contentEntries fields) { kind := a.kind } [] = .ok r) :
    actionOf a.written.content = .ok r := by
  obtain ⟨fields, hw, hkeys, hset⟩ := h
  rw [hw]
  simp only [Written.content, Written.contentEntries, actionOf]
  rw [tagOf_type _ _ (Written.contentEntries_not_tag hkeys), kindOf_name, ok_bind,
    settingsOfEntries_tag, hset]

mutual

/-- An action whose limits a rule file can hold is written as its kind under the tag and then
its settings, which read back to the action with its limit durations cut to whole seconds, at
every depth of its tree. -/
theorem settings_written :
    ∀ a : ActionRule, a.inRange = true → ∃ fields,
      a.written = .record (("type", .text a.kind.name) :: fields) ∧ (∀ e ∈ fields, e.1 ≠ "type") ∧
        settingsOfEntries (Written.contentEntries fields) { kind := a.kind } [] = .ok a.truncated
  | ⟨kind, name, exclude, reverse, limitCount, d, actions⟩, hrange => by
    simp only [inRange, tree, List.all_cons, Bool.and_eq_true, limitsReadable,
      decide_eq_true_eq] at hrange
    obtain ⟨⟨hcount, hd⟩, hnested⟩ := hrange
    have hacts := actionsOf_writtenAll actions hnested
    have hrev : (if reverse then [("reverse", Written.flag true)] else []) =
        if !reverse then [] else [("reverse", Written.flag true)] := by
      cases reverse <;> rfl
    refine ⟨_, rfl, ?keys, ?_⟩
    case keys =>
      -- every entry after the tag is named for a field
      intro e he
      simp only [List.append_eq, List.append_assoc, hrev, List.mem_append, List.mem_ite_nil_left,
        List.mem_singleton] at he
      rcases he with rfl | ⟨_, rfl⟩ | ⟨_, rfl⟩ | ⟨_, rfl⟩ | ⟨_, rfl⟩ | ⟨_, rfl⟩ <;> simp
    simp only [List.append_eq, List.append_assoc, List.cons_append, List.nil_append,
      Written.contentEntries, hrev]
    rw [settingsOfEntries_field (k := "name") (i := 0) rfl rfl List.not_mem_nil]
    -- the entries after the name, each read into its field or left out at its default
    obtain ⟨s₁, h₁, e₁⟩ := settingsOfEntries_unless (k := "exclude") (i := 1) rfl exclude.isEmpty
      (.text exclude) { kind, name } { kind, name, exclude } [0] (by simp)
      (fun h => by rw [String.isEmpty_iff.mp h]) (fun _ => rfl) _
    obtain ⟨s₂, h₂, e₂⟩ := settingsOfEntries_unless (k := "reverse") (i := 2) rfl (!reverse)
      (.flag true) { kind, name, exclude } { kind, name, exclude, reverse } s₁ h₁
      (fun h => by rw [show reverse = false by simpa using h])
      (fun h => by rw [show reverse = true by simpa using h]; rfl) _
    obtain ⟨s₃, h₃, e₃⟩ := settingsOfEntries_unless (k := "limit_count") (i := 3) rfl
      (limitCount == 0) (.count limitCount) { kind, name, exclude, reverse }
      { kind, name, exclude, reverse, limitCount } s₂ h₂
      (fun h => by rw [beq_iff_eq.mp h]) (fun _ => by simp [setField, Written.content, countOf, hcount]) _
    obtain ⟨s₄, h₄, e₄⟩ := settingsOfEntries_unless (k := "limit_duration") (i := 4) rfl d.isZero
      (Written.span d) { kind, name, exclude, reverse, limitCount }
      { kind, name, exclude, reverse, limitCount, limitDuration := d.truncSecs } s₃ h₃
      (fun h => by rw [Span.truncSecs_of_isZero h])
      (fun _ => by simp [setField, Written.content, Written.span, textOf, spanOf_format hd]) _
    obtain ⟨s₅, -, e₅⟩ := settingsOfEntries_unless (k := "actions") (i := 5) rfl actions.isEmpty
      (.list (writtenAll actions)) { kind, name, exclude, reverse, limitCount, limitDuration := d.truncSecs }
      { kind, name, exclude, reverse, limitCount, limitDuration := d.truncSecs,
        actions := truncatedAll actions } s₄ h₄
      (fun h => by rw [List.isEmpty_iff.mp h]; rfl) (fun _ => by simp [setField, Written.content, hacts]) []
    rw [List.append_nil] at e₅
    rw [e₁, e₂, e₃, e₄, e₅]
    rfl

theorem actionsOf_writtenAll : ∀ as : List ActionRule, (treeAll as).all limitsReadable = true →
    actionsOf (Written.contents (writtenAll as)) = .ok (truncatedAll as)
  | [], _ => rfl
  | a :: rest, hrange => by
    simp only [treeAll, List.all_append, Bool.and_eq_true] at hrange
    have ha := actionOf_of_settings (settings_written a hrange.1)
    have hrest := actionsOf_writtenAll rest hrange.2
    simp only [writtenAll, Written.contents, actionsOf, truncatedAll, ha, hrest, ok_bind]
    rfl

end

/-- An action whose limits a rule file can hold, written and read back as content, is the action
with its limit durations cut to whole seconds, at every depth of its tree. -/
theorem actionOf_written (a : ActionRule) (h : a.inRange = true) :
    actionOf a.written.content = .ok a.truncated :=
  actionOf_of_settings (settings_written a h)

end ActionRule

/-! ### Saving again what was read back -/

/-- A pass is written the same with its limit durations cut to whole seconds exactly when none
of them is a non-zero span shorter than a second. -/
theorem PassRule.truncated_written_iff (p : PassRule) :
    p.truncated.written = p.written ↔ ∀ a ∈ p.actions, a.wholeLimits = true := by
  simp only [PassRule.truncated, PassRule.written, List.map_map, Written.record.injEq,
    List.cons.injEq, Prod.mk.injEq, Written.list.injEq, true_and, and_true, List.map_inj_left,
    Function.comp_apply, ActionRule.written_truncated_iff]

theorem Settings.written_of_format_eq (s : Settings) {d : Span}
    (h : d.format = s.limits.queueDuration.format) :
    ({ s with limits := { s.limits with queueDuration := d } } : Settings).written = s.written := by
  unfold Settings.written Written.span
  rw [h]

/-- A rule file is written the same with its durations cut to whole seconds exactly when no
limit duration of its passes is a non-zero span shorter than a second; the run limit is always
written, as text that keeps whole seconds only. -/
theorem RuleFile.truncated_written_iff (f : RuleFile) :
    f.truncated.written = f.written ↔ ∀ p ∈ f.passes, ∀ a ∈ p.actions, a.wholeLimits = true := by
  have hsettings : f.truncated.settings.written = f.settings.written :=
    Settings.written_of_format_eq f.settings (Span.format_truncSecs _)
  simp only [RuleFile.written, hsettings]
  simp only [RuleFile.truncated, List.map_map, Written.record.injEq, List.cons.injEq,
    Prod.mk.injEq, Written.list.injEq, true_and, and_true, List.map_inj_left, Function.comp_apply,
    PassRule.truncated_written_iff]

/-- Saving a rule file whose limits it can hold and reading it back, with a YAML layer that
reads back what it writes, gives every action of every pass, at every depth, with its limit
durations cut to whole seconds. Saving what was read back then writes the same value again
exactly when no limit duration of the passes is a non-zero span shorter than a second. -/
theorem RuleFile.resaved_iff_whole_limits (f : RuleFile)
    (hrange : ∀ p ∈ f.passes, ∀ a ∈ p.actions, a.inRange = true) :
    (∀ p ∈ f.passes, ∀ a ∈ p.actions, Rules.actionOf a.written.content = .ok a.truncated) ∧
      (f.truncated.written = f.written ↔
        ∀ p ∈ f.passes, ∀ a ∈ p.actions, a.wholeLimits = true) :=
  ⟨fun p hp a ha => ActionRule.actionOf_written a (hrange p hp a ha), f.truncated_written_iff⟩

/-- A limit of half a second reads back as no limit, so the entry written for it is left out
when the file is saved again. -/
theorem RuleFile.half_second_limit_not_resaved :
    let a : ActionRule := { kind := .queue, name := "*", limitDuration := ⟨500000000, by decide⟩ }
    let f : RuleFile := { passes := [{ description := "Weekly", actions := [a] }] }
    Rules.actionOf a.written.content = .ok { a with limitDuration := Span.zero } ∧
      f.truncated.written ≠ f.written := by
  intro a f
  have h := RuleFile.resaved_iff_whole_limits f (by decide)
  refine ⟨h.1 _ (List.mem_singleton_self _) a (List.mem_singleton_self _), fun hsame => ?_⟩
  have hwhole := h.2.1 hsame
  revert hwhole
  decide

/-- A limit of half a second read from text is saved as `00:00:00`; that text, read and saved
again, loses the entry, so saving what was read back does not give the saved text. -/
theorem RuleFile.resave_drops_subsecond_limit :
    ∃ saved : String,
      ((RuleFile.parse (String.join ["passes:\n", "- description: Weekly\n", "  actions:\n",
          "  - type: queue\n", "    name: News\n", "    limit_duration: 00:00:00.5\n"])).map
        RuleFile.render).toOption = some saved ∧
      ((RuleFile.parse saved).map RuleFile.render).toOption ≠ some saved :=
  ⟨String.join ["settings:\n", "  playon:\n", "    host: localhost\n", "    port: 54479\n",
      "  limits:\n", "    queue_count: 0\n", "    queue_duration: 00:00:00\n", "  queue_list:\n",
      "    provider: file\n", "  logging:\n", "    log_dir: logs\n", "    log_prefix: playpass\n",
      "    console: true\n", "    debug: false\n", "    verbose: false\n", "passes:\n",
      "- description: Weekly\n", "  enabled: true\n", "  actions:\n", "  - type: queue\n",
      "    name: News\n", "    limit_duration: 00:00:00\n"],
    by decide +kernel, by decide +kernel⟩

end CatalogQueue
