import CatalogQueue.Proofs.Isolation

/-!
Where a run writes each line of its two logs: the header and the footer of each pass at depths
zero, and between them the lines of its walk, in the shape that its actions give them
(`Action.layout`) from the place of each action in the pass tree.
-/

namespace CatalogQueue

/-! ### Passes and runs -/

namespace Layout

/-- The lines of a pass. A disabled pass says it is skipped; an enabled one writes its header,
the lines of its walk, the failure that ended the walk if one did, and its footer. The lines of
the pass itself are at depths zero. -/
inductive PassLayout (p : Pass) : List Line → Prop
  | skipped : p.enabled = false →
      PassLayout p [passLine ("Skipping pass " ++ Run.quote p.description ++ ".")]
  | processed {body : List Line} : p.enabled = true →
      Shape.seq .silent (.alt .done (Action.layoutAll 0 0 p.actions)) body true →
      PassLayout p (passLine ("Processing pass " ++ Run.quote p.description ++ "...") :: body ++
        [passLine ("Finished processing pass " ++ Run.quote p.description ++ "...")])
  | failed {body : List Line} (chain : Failure) : p.enabled = true →
      Shape.seq .silent (.alt .done (Action.layoutAll 0 0 p.actions)) body false →
      PassLayout p (passLine ("Processing pass " ++ Run.quote p.description ++ "...") :: body ++
        [passLine ("The following exception has occurred: " ++ Journal.errorText chain),
          passLine ("Finished processing pass " ++ Run.quote p.description ++ "...")])

theorem log_passLine {j : Journal} (hd : j.depth = 0) (hv : j.verboseDepth = 0) (msg : String) :
    (j.log msg).depth = 0 ∧ (j.log msg).verboseDepth = 0 ∧
      (j.log msg).quiet.toList = j.quiet.toList ++ quietLog [passLine msg] ∧
      (j.log msg).verbose.toList = j.verbose.toList ++ verboseLog [passLine msg] := by
  obtain ⟨hq, hvl⟩ := log_lines j msg
  rw [hd, hv] at hq hvl
  exact ⟨hd, hv, hq, hvl⟩

theorem pass_laysOut (srv : Server) (mode : RunMode) (p : Pass) {s : RunState}
    (hd : s.journal.depth = 0) (hv : s.journal.verboseDepth = 0) :
    let t := ((Run.pass srv mode p).run s).2
    t.journal.depth = 0 ∧ t.journal.verboseDepth = 0 ∧
      ∃ ls, PassLayout p ls ∧ t.journal.quiet.toList = s.journal.quiet.toList ++ quietLog ls ∧
        t.journal.verbose.toList = s.journal.verbose.toList ++ verboseLog ls := by
  intro t
  simp only [t, Run.run_pass]
  cases hp : p.enabled with
  | false =>
    obtain ⟨hd₁, hv₁, hq₁, hvl₁⟩ :=
      log_passLine hd hv ("Skipping pass " ++ Run.quote p.description ++ ".")
    exact ⟨hd₁, hv₁, _, .skipped hp, hq₁, hvl₁⟩
  | true =>
    simp only [if_true]
    obtain ⟨-, -, hq₀, hvl₀⟩ :=
      log_passLine hd hv ("Processing pass " ++ Run.quote p.description ++ "...")
    -- the walk starts after the header, at depths zero, and comes back to them
    obtain ⟨r, w, hwalk⟩ : ∃ r w, (Run.walk srv mode p).exec
        { s with journal := s.journal.log ("Processing pass " ++ Run.quote p.description ++ "...") } =
          (r, w) := ⟨_, _, rfl⟩
    have hwritten := LaysOut.walk Walkable.top srv mode
      (LaysOut.queue_of Walkable.top srv mode (fun _ _ _ _ _ _ => trivial) (fun _ _ _ => trivial)
        (fun _ _ => trivial)) p
    obtain ⟨-, effs, ⟨hdepth, hverbose, hq, hvl, -⟩, hbody⟩ := Meets.of_exec hwritten hwalk
    simp only [Journal.depth_log, Journal.verboseDepth_log, hd, hv, Shape.spec, Line.shift_zero,
      List.map_id'] at hdepth hverbose hq hvl hbody
    rw [hwalk]
    -- the walk's exit decides whether the failure line comes before the footer
    cases r with
    | ok u =>
      obtain ⟨hd₁, hv₁, hq₁, hvl₁⟩ := log_passLine hdepth hverbose
        ("Finished processing pass " ++ Run.quote p.description ++ "...")
      refine ⟨hd₁, hv₁, _, .processed hp hbody, ?_, ?_⟩
      · rw [hq₁, hq, hq₀]
        simp
      · rw [hvl₁, hvl, hvl₀]
        simp
    | error chain =>
      obtain ⟨hde, hve, hqe, hvle⟩ := log_passLine hdepth hverbose
        ("The following exception has occurred: " ++ Journal.errorText chain)
      obtain ⟨hd₁, hv₁, hq₁, hvl₁⟩ := log_passLine hde hve
        ("Finished processing pass " ++ Run.quote p.description ++ "...")
      dsimp only [Journal.logError]
      refine ⟨hd₁, hv₁, _, .failed chain hp hbody, ?_, ?_⟩
      · rw [hq₁, hqe, hq, hq₀]
        simp
      · rw [hvl₁, hvle, hvl, hvl₀]
        simp

theorem passes_laysOut (srv : Server) (mode : RunMode) (ps : List Pass) {s : RunState}
    (hd : s.journal.depth = 0) (hv : s.journal.verboseDepth = 0) :
    let t := ((Run.passes srv mode ps).run s).2
    ∃ lss : List (List Line), List.Forall₂ PassLayout ps lss ∧
      t.journal.quiet.toList = s.journal.quiet.toList ++ quietLog lss.flatten ∧
      t.journal.verbose.toList = s.journal.verbose.toList ++ verboseLog lss.flatten := by
  induction ps generalizing s with
  | nil => exact ⟨[], .nil, (List.append_nil _).symm, (List.append_nil _).symm⟩
  | cons p ps ih =>
    obtain ⟨hd', hv', ls, hls, hq, hvl⟩ := pass_laysOut srv mode p hd hv
    obtain ⟨lss, hlss, hq', hvl'⟩ := ih hd' hv'
    refine ⟨ls :: lss, .cons hls hlss, ?_, ?_⟩
    · rw [List.flatten_cons, quietLog_append, ← List.append_assoc, ← hq]
      exact hq'
    · rw [List.flatten_cons, verboseLog_append, ← List.append_assoc, ← hvl]
      exact hvl'

end Layout

/-- Every run writes its two logs pass by pass, each pass the lines of its layout: the lines of
an action with `k` actions above it, `s` of them scans, are at the depths `Action.layout` gives
them, the lines of a pass at depths zero; the quiet log indents a line two blanks a level of
depth and leaves out verbose lines, the verbose log indents it two blanks a level of depth and
of verbose depth. This holds for every pass tree, server and mode. -/
theorem runPasses_lays_out_logs (srv : Server) (mode : RunMode) (a : Admission) (ps : List Pass) :
    ∃ lss : List (List Layout.Line), List.Forall₂ Layout.PassLayout ps lss ∧
      (runPasses srv mode a ps).journal.quiet.toList = Layout.quietLog lss.flatten ∧
      (runPasses srv mode a ps).journal.verbose.toList = Layout.verboseLog lss.flatten := by
  -- a run starts with empty logs at depths zero
  obtain ⟨lss, hlss, hq, hv⟩ := Layout.passes_laysOut srv mode ps (s := { admission := a }) rfl rfl
  exact ⟨lss, hlss, hq, hv⟩

end CatalogQueue
