import CatalogQueue.Proofs.WrittenReading

/-!
Loading a saved rule file. When the YAML layer reads back the text of a written value, the
decoder reads the whole rule file back: the settings field by field, with the run limit's
duration cut to whole seconds, and the passes with every action of their trees as
`ActionRule.truncated` gives it. Main statements: `RuleFile.parse_render`, and
`RuleFile.reload_resaves_iff_whole_limits` for saving again what was loaded.
-/

namespace CatalogQueue

open Yaml Yaml.Decode

/-! ### Actions -/

theorem ActionKind.indexOf_name (kind : ActionKind) :
    ∃ i, indexOf? ActionKind.names kind.name = some i ∧ ActionKind.ofIndex i = kind := by
  cases kind <;> exact ⟨_, rfl, rfl⟩

namespace Rules

/-- An action whose limits a rule file can hold is read from the events of its written form as
the action with its limit durations cut to whole seconds, at every depth of its tree. -/
theorem action_reads {a : ActionRule} (hrange : a.inRange = true) {E : List Entry}
    (h : Stands a.written.content E) : Reads a.written.nesting action E a.truncated := by
  obtain ⟨fields, hw, hkeys, hset⟩ := ActionRule.settings_written a hrange
  obtain ⟨i, hi, hkind⟩ := ActionKind.indexOf_name a.kind
  rw [hw] at h ⊢
  -- the kind from the tag, then the settings from the other entries
  refine Reads.bind_done (tagged_reads hi hkeys h) ?_
  simp only [hkind, hset]

/-- A list written item by item is read by a sequence of an item reader as the items that reader
reads, in order. -/
theorem sequence_list_reads {χ ψ : Type} {item : DecodeM ψ} (write : χ → Written) (read : χ → ψ)
    {xs : List χ} (hitem : ∀ x ∈ xs, ∀ E, Stands (write x).content E →
      Reads (write x).nesting item E (read x))
    {E : List Entry} (h : Stands (Written.list (xs.map write)).content E) :
    Reads (Written.list (xs.map write)).nesting
      (do let acc ← sequence "a sequence" #[] fun acc => acc.push <$> item; pure acc.toList) E
      (xs.map read) := by
  obtain ⟨E, rfl, hs⟩ := Stands.of_seq h
  rw [Written.contents_eq_map, List.map_map] at hs
  have hnest : (Written.list (xs.map write)).nesting = Written.nestingAll (xs.map write) + 1 := rfl
  rw [hnest]
  refine Reads.bind_done (sequence_reads (walksItems_of (fun x => (write x).content)
    (fun (acc : Array ψ) x => acc.push (read x)) (fun x hx _ _ hE => ?_) hs) _) ?_
  · -- each item within the depth the deepest item needs
    exact Reads.map _ ((hitem x hx _ hE).mono
      (Written.nesting_le_nestingAll (List.mem_map_of_mem hx)))
  · simp [List.foldl_push_eq_append]

theorem actions_reads {as : List ActionRule} (hrange : ∀ a ∈ as, a.inRange = true) {E : List Entry}
    (h : Stands (Written.list (as.map ActionRule.written)).content E) :
    Reads (Written.list (as.map ActionRule.written)).nesting actions E (as.map ActionRule.truncated) :=
  sequence_list_reads ActionRule.written ActionRule.truncated
    (fun a ha _ hE => action_reads (hrange a ha) hE) h

/-- A pass whose actions a rule file can hold is read from the events of its written form as
the pass with its limit durations cut to whole seconds. -/
theorem pass_reads {p : PassRule} (hrange : ∀ a ∈ p.actions, a.inRange = true) {E : List Entry}
    (h : Stands p.written.content E) : Reads p.written.nesting pass E p.truncated := by
  obtain ⟨E, rfl, hs⟩ := Stands.of_map h
  obtain ⟨K₁, V₁, E, rfl, hK₁, hV₁, hs⟩ := hs.of_cons
  obtain ⟨K₂, V₂, E, rfl, hK₂, hV₂, hs⟩ := hs.of_cons
  obtain ⟨K₃, V₃, E, rfl, hK₃, hV₃, hs⟩ := hs.of_cons
  cases hs.of_nil
  have hnest : p.written.nesting = (Written.list (p.actions.map ActionRule.written)).nesting + 1 := by
    simp [PassRule.written, Written.nesting, Written.nestingFields]
  rw [hnest]
  -- the description, the switch and the actions, each under its own key
  apply record_reads
  apply FieldsRead.cons hK₁ rfl (by simp) (by exact Reads.bind_done (text_reads hV₁ _) rfl)
  apply FieldsRead.cons hK₂ rfl (by simp) (by exact Reads.bind_done (bool_reads hV₂) rfl)
  apply FieldsRead.cons hK₃ rfl (by simp) (by exact Reads.bind_done (actions_reads hrange hV₃) rfl)
  exact .nil _ _

theorem passList_reads {ps : List PassRule} (hrange : ∀ p ∈ ps, ∀ a ∈ p.actions, a.inRange = true)
    {E : List Entry} (h : Stands (Written.list (ps.map PassRule.written)).content E) :
    Reads (Written.list (ps.map PassRule.written)).nesting passList E (ps.map PassRule.truncated) :=
  sequence_list_reads PassRule.written PassRule.truncated
    (fun p hp _ hE => pass_reads (hrange p hp) hE) h

/-! ### Settings -/

theorem span_reads {need : Nat} {d : Span} (hd : d.secs < (maxDays + 1) * 86400) {E : List Entry}
    (h : Stands (.string d.format) E) : Reads need span E d.truncSecs :=
  Reads.bind_done (text_reads h _) (by simp only [spanOf_format hd])

theorem server_reads {srv : ServerSettings} (hport : srv.port ≤ max16) {E : List Entry}
    (h : Stands (Written.record [("host", .text srv.host), ("port", .count srv.port)]).content E) :
    Reads 1 server E srv := by
  obtain ⟨E, rfl, hs⟩ := Stands.of_map h
  obtain ⟨K₁, V₁, E, rfl, hK₁, hV₁, hs⟩ := hs.of_cons
  obtain ⟨K₂, V₂, E, rfl, hK₂, hV₂, hs⟩ := hs.of_cons
  cases hs.of_nil
  apply record_reads
  apply FieldsRead.cons hK₁ rfl (by simp) (by exact Reads.bind_done (text_reads hV₁ _) rfl)
  apply FieldsRead.cons hK₂ rfl (by simp)
    (by exact Reads.bind_done (unsigned_reads hV₂ hport _) rfl)
  exact .nil _ _

/-- The run limits read back with their duration cut to whole seconds. -/
theorem limits_reads {l : LimitSettings} (hcount : l.queueCount ≤ max32)
    (hd : l.queueDuration.secs < (maxDays + 1) * 86400) {E : List Entry}
    (h : Stands (Written.record [("queue_count", .count l.queueCount),
      ("queue_duration", Written.span l.queueDuration)]).content E) :
    Reads 1 limits E { l with queueDuration := l.queueDuration.truncSecs } := by
  obtain ⟨E, rfl, hs⟩ := Stands.of_map h
  obtain ⟨K₁, V₁, E, rfl, hK₁, hV₁, hs⟩ := hs.of_cons
  obtain ⟨K₂, V₂, E, rfl, hK₂, hV₂, hs⟩ := hs.of_cons
  cases hs.of_nil
  apply record_reads
  apply FieldsRead.cons hK₁ rfl (by simp)
    (by exact Reads.bind_done (unsigned_reads hV₁ hcount _) rfl)
  apply FieldsRead.cons hK₂ rfl (by simp) (by exact Reads.bind_done (span_reads hd hV₂) rfl)
  exact .nil _ _

/-- The record list reads back with its provider, and with its data source when it has one;
without one, the entry is left out and the source stays absent. -/
theorem recordList_reads {l : ListSettings} {E : List Entry}
    (h : Stands (Written.record ([("provider", .text l.provider.name)] ++
      match l.dataSource with
      | some d => [("data_source", .text d)]
      | none => [])).content E) :
    Reads 1 recordList E l := by
  obtain ⟨E, rfl, hs⟩ := Stands.of_map h
  obtain ⟨provider, source⟩ := l
  obtain ⟨i, hi, hprovider⟩ : ∃ i, indexOf? ListProvider.names provider.name = some i ∧
      (if i == 0 then ListProvider.file else .memory) = provider := by
    cases provider <;> exact ⟨_, rfl, rfl⟩
  obtain ⟨K₁, V₁, E, rfl, hK₁, hV₁, hs⟩ := hs.of_cons
  apply record_reads
  apply FieldsRead.cons hK₁ rfl (by simp)
    (by exact Reads.bind_done (unitVariant_reads hV₁ hi) rfl)
  cases source with
  | none =>
    cases hs.of_nil
    rw [← hprovider]
    exact .nil _ _
  | some d =>
    obtain ⟨K₂, V₂, E, rfl, hK₂, hV₂, hs⟩ := hs.of_cons
    cases hs.of_nil
    obtain ⟨style, rfl, habsent⟩ := Stands.absence_of_string hV₂
    apply FieldsRead.cons hK₂ rfl (by simp)
      (by exact Reads.bind_done (option_reads (fun _ => nofun) habsent (text_reads hV₂ _)) rfl)
    rw [← hprovider]
    exact .nil _ _

theorem logging_reads {l : LogSettings} {E : List Entry}
    (h : Stands (Written.record [("log_dir", .text l.logDir), ("log_prefix", .text l.logPrefix),
      ("console", .flag l.console), ("debug", .flag l.debug),
      ("verbose", .flag l.verbose)]).content E) :
    Reads 1 logging E l := by
  obtain ⟨E, rfl, hs⟩ := Stands.of_map h
  obtain ⟨K₁, V₁, E, rfl, hK₁, hV₁, hs⟩ := hs.of_cons
  obtain ⟨K₂, V₂, E, rfl, hK₂, hV₂, hs⟩ := hs.of_cons
  obtain ⟨K₃, V₃, E, rfl, hK₃, hV₃, hs⟩ := hs.of_cons
  obtain ⟨K₄, V₄, E, rfl, hK₄, hV₄, hs⟩ := hs.of_cons
  obtain ⟨K₅, V₅, E, rfl, hK₅, hV₅, hs⟩ := hs.of_cons
  cases hs.of_nil
  apply record_reads
  apply FieldsRead.cons hK₁ rfl (by simp) (by exact Reads.bind_done (text_reads hV₁ _) rfl)
  apply FieldsRead.cons hK₂ rfl (by simp) (by exact Reads.bind_done (text_reads hV₂ _) rfl)
  apply FieldsRead.cons hK₃ rfl (by simp) (by exact Reads.bind_done (bool_reads hV₃) rfl)
  apply FieldsRead.cons hK₄ rfl (by simp) (by exact Reads.bind_done (bool_reads hV₄) rfl)
  apply FieldsRead.cons hK₅ rfl (by simp) (by exact Reads.bind_done (bool_reads hV₅) rfl)
  exact .nil _ _

/-- The settings read back from the events of their written form, with the run limit's duration
cut to whole seconds. -/
theorem settings_reads {st : Settings} (hport : st.server.port ≤ max16)
    (hcount : st.limits.queueCount ≤ max32)
    (hd : st.limits.queueDuration.secs < (maxDays + 1) * 86400) {E : List Entry}
    (h : Stands st.written.content E) :
    Reads 2 settings E
      { st with limits := { st.limits with queueDuration := st.limits.queueDuration.truncSecs } } := by
  obtain ⟨E, rfl, hs⟩ := Stands.of_map h
  obtain ⟨K₁, V₁, E, rfl, hK₁, hV₁, hs⟩ := hs.of_cons
  obtain ⟨K₂, V₂, E, rfl, hK₂, hV₂, hs⟩ := hs.of_cons
  obtain ⟨K₃, V₃, E, rfl, hK₃, hV₃, hs⟩ := hs.of_cons
  obtain ⟨K₄, V₄, E, rfl, hK₄, hV₄, hs⟩ := hs.of_cons
  cases hs.of_nil
  apply record_reads
  apply FieldsRead.cons hK₁ rfl (by simp) (by exact Reads.bind_done (server_reads hport hV₁) rfl)
  apply FieldsRead.cons hK₂ rfl (by simp)
    (by exact Reads.bind_done (limits_reads hcount hd hV₂) rfl)
  apply FieldsRead.cons hK₃ rfl (by simp) (by exact Reads.bind_done (recordList_reads hV₃) rfl)
  apply FieldsRead.cons hK₄ rfl (by simp) (by exact Reads.bind_done (logging_reads hV₄) rfl)
  exact .nil _ _

end Rules

/-- The values a rule file can hold: a port of 16 bits, counts of 32 bits, durations of at most
`maxDays` days, and no deeper nesting than decoding may enter. -/
structure RuleFile.Holdable (f : RuleFile) : Prop where
  port : f.settings.server.port ≤ Rules.max16
  queueCount : f.settings.limits.queueCount ≤ Rules.max32
  queueDuration : f.settings.limits.queueDuration.secs < (maxDays + 1) * 86400
  actions : ∀ p ∈ f.passes, ∀ a ∈ p.actions, a.inRange = true
  nesting : f.written.nesting ≤ 128

namespace Rules

/-- A rule file that a rule file can hold is read from the events of its written form as the
file with its durations cut to whole seconds. -/
theorem decoder_reads {f : RuleFile} (hold : f.Holdable) {E : List Entry}
    (h : Stands f.written.content E) : Reads f.written.nesting decoder E f.truncated := by
  obtain ⟨E, rfl, hs⟩ := Stands.of_map h
  obtain ⟨K₁, V₁, E, rfl, hK₁, hV₁, hs⟩ := hs.of_cons
  obtain ⟨K₂, V₂, E, rfl, hK₂, hV₂, hs⟩ := hs.of_cons
  cases hs.of_nil
  have hsettings := settings_reads hold.port hold.queueCount hold.queueDuration hV₁
  have hpasses := passList_reads hold.actions hV₂
  -- each section is read within the depth the whole file leaves it
  have hnest : f.written.nesting =
      max 2 (Written.list (f.passes.map PassRule.written)).nesting + 1 := by
    cases hsource : f.settings.recordList.dataSource <;>
      simp [RuleFile.written, Settings.written, Written.span, Written.nesting,
        Written.nestingFields, hsource]
  rw [hnest]
  apply record_reads
  apply FieldsRead.cons hK₁ rfl (by simp)
    (by exact Reads.bind_done (hsettings.mono (Nat.le_max_left _ _)) rfl)
  apply FieldsRead.cons hK₂ rfl (by simp)
    (by exact Reads.bind_done (hpasses.mono (Nat.le_max_right _ _)) rfl)
  exact .nil _ _

end Rules

/-! ### Loading the saved text -/

/-- Saving a rule file that a rule file can hold, with a YAML layer that reads back what it
writes, and loading the text gives the file with its durations cut to whole seconds. -/
theorem RuleFile.parse_render {f : RuleFile} (hold : f.Holdable) (hback : f.written.ReadsBack) :
    RuleFile.parse f.render = .ok f.truncated := by
  have hrun : Decode.run Rules.decoder f.render = .ok f.truncated :=
    run_of_reads (Rules.decoder_reads hold hback.stands) hold.nesting hback.whole hback.single
  simp only [RuleFile.parse, hrun]

/-- Loading the saved text of a rule file that a rule file can hold gives the file with its
durations cut to whole seconds, and saving that writes the same text again exactly when no limit
duration of the passes is a non-zero span shorter than a second. -/
theorem RuleFile.reload_resaves_iff_whole_limits {f : RuleFile} (hold : f.Holdable)
    (hback : f.written.ReadsBack) (hback' : f.truncated.written.ReadsBack) :
    RuleFile.parse f.render = .ok f.truncated ∧
      ((RuleFile.parse f.render).map RuleFile.render = .ok f.render ↔
        ∀ p ∈ f.passes, ∀ a ∈ p.actions, a.wholeLimits = true) := by
  refine ⟨RuleFile.parse_render hold hback, ?_⟩
  rw [RuleFile.parse_render hold hback, ← f.truncated_written_iff]
  simp only [Except.map, Except.ok.injEq]
  exact ⟨Written.eq_of_render_eq hback' hback, fun h => by simp only [RuleFile.render, h]⟩

/-- The starter file can be held by a rule file and the YAML layer reads back its text, which
has whole-second limits only: loading the text gives the file with its durations cut, and saving
that writes the same text again. -/
theorem RuleFile.starter_reloads :
    RuleFile.starter.Holdable ∧ RuleFile.starter.written.ReadsBack ∧
      RuleFile.starter.truncated.written.ReadsBack ∧
      RuleFile.parse RuleFile.starter.render = .ok RuleFile.starter.truncated ∧
      ((RuleFile.parse RuleFile.starter.render).map RuleFile.render = .ok RuleFile.starter.render ↔
        ∀ p ∈ RuleFile.starter.passes, ∀ a ∈ p.actions, a.wholeLimits = true) := by
  have hold : RuleFile.starter.Holdable := ⟨by decide, by decide, by decide, by decide, by decide⟩
  have hback : RuleFile.starter.written.ReadsBack := Written.readsBack_of_rereads (by decide +kernel)
  have hsame : RuleFile.starter.truncated.written = RuleFile.starter.written :=
    RuleFile.starter.truncated_written_iff.mpr (by decide)
  have hback' : RuleFile.starter.truncated.written.ReadsBack := by
    rw [hsame]
    exact hback
  exact ⟨hold, hback, hback', RuleFile.reload_resaves_iff_whole_limits hold hback hback'⟩

end CatalogQueue
