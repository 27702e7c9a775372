import CatalogQueue.Span

/-!
The rule file: the settings of a run and the passes, each a tree of actions that scan folders,
search them, or queue the videos whose names match, within their own limits.
-/

namespace CatalogQueue

/-- Where the record list keeps the videos already handled. -/
inductive ListProvider where
  | file
  | memory
  deriving DecidableEq, Inhabited, Repr

def ListProvider.names : List String := ["file", "memory"]

def ListProvider.name : ListProvider → String
  | .file => "file"
  | .memory => "memory"

structure ServerSettings where
  host : String := "localhost"
  port : Nat := 54479
  deriving Inhabited, Repr

/-- Limits for a whole run; zero means no limit. -/
structure LimitSettings where
  queueCount : Nat := 0
  queueDuration : Span := Span.zero
  deriving Inhabited

/-- The record list: its provider and, for the file provider, where it keeps its data. -/
structure ListSettings where
  provider : ListProvider := .file
  dataSource : Option String := none
  deriving Inhabited

structure LogSettings where
  logDir : String := "logs"
  logPrefix : String := "playpass"
  console : Bool := true
  debug : Bool := false
  verbose : Bool := false
  deriving Inhabited

structure Settings where
  server : ServerSettings := {}
  limits : LimitSettings := {}
  recordList : ListSettings := {}
  logging : LogSettings := {}
  deriving Inhabited

inductive ActionKind where
  | scan
  | search
  | queue
  deriving DecidableEq, Inhabited, Repr

def ActionKind.names : List String := ["scan", "search", "queue"]

def ActionKind.name : ActionKind → String
  | .scan => "scan"
  | .search => "search"
  | .queue => "queue"

def ActionKind.ofIndex : Nat → ActionKind
  | 0 => .scan
  | 1 => .search
  | _ => .queue

/-- An action as the rule file writes it: its kind, the pattern of names it selects and the
pattern of names it leaves out, whether it walks in reverse order, its limits, and the actions
nested under it. -/
structure ActionRule where
  kind : ActionKind
  name : String := ""
  exclude : String := ""
  reverse : Bool := false
  limitCount : Nat := 0
  limitDuration : Span := Span.zero
  actions : List ActionRule := []
  deriving Inhabited

structure PassRule where
  description : String := ""
  enabled : Bool := true
  actions : List ActionRule := []
  deriving Inhabited

structure RuleFile where
  settings : Settings := {}
  passes : List PassRule := []
  deriving Inhabited

/-! ### Passes to run -/

/-- What an action selects: a pattern of names, a pattern of names to leave out, and whether
to walk the candidates in reverse order. -/
structure Selection where
  name : String
  exclude : String
  reverse : Bool
  deriving Inhabited, Repr

/-- An action of a pass: look into matching folders, search for matching titles, or queue
matching videos within limits. -/
inductive Action where
  | scan (sel : Selection) (actions : List Action)
  | search (sel : Selection) (actions : List Action)
  | queue (sel : Selection) (countLimit : Nat) (durationLimit : Span)
  deriving Inhabited

structure Pass where
  description : String
  enabled : Bool
  actions : List Action
  deriving Inhabited

def ActionRule.toAction : ActionRule → Action
  | ⟨kind, name, exclude, reverse, limitCount, limitDuration, actions⟩ =>
    let sel : Selection := { name, exclude, reverse }
    match kind with
    | .scan => .scan sel (actions.map ActionRule.toAction)
    | .search => .search sel (actions.map ActionRule.toAction)
    | .queue => .queue sel limitCount limitDuration

def PassRule.toPass (p : PassRule) : Pass :=
  { description := p.description, enabled := p.enabled,
    actions := p.actions.map ActionRule.toAction }

def RuleFile.passesToRun (f : RuleFile) : List Pass := f.passes.map PassRule.toPass

/-! ### The starter file -/

/-- The rule file written when none exists: limits of ten videos and eight hours, an
in-memory record list, and one pass that scans a network folder, then a watch list in it,
and previews the two newest videos there. -/
def RuleFile.starter : RuleFile :=
  let preview : ActionRule := { kind := .queue, name := "*", reverse := true, limitCount := 2 }
  let watchList : ActionRule := { kind := .scan, name := "My Things To Watch", actions := [preview] }
  let network : ActionRule := { kind := .scan, name := "Random TV Network", actions := [watchList] }
  { settings := { limits := { queueCount := 10, queueDuration := Span.ofSecs (8 * 60 * 60) },
                  recordList := { provider := .memory } },
    passes := [{ description := "Watch list", enabled := true, actions := [network] }] }

end CatalogQueue
