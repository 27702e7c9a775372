import CatalogQueue.Rules.Basic
import CatalogQueue.Yaml.Writer
import CatalogQueue.Span.Text

/-!
Writing a rule file out, first as a `Written` value (texts, flags, counts, lists, named records)
and then as YAML text; an action leaves out the fields that hold their defaults.
-/

namespace CatalogQueue

/-- A value of a rule file as it is written out: a text, a flag, a count, a list, or a record
of named values in order. -/
inductive Written where
  | text (s : String)
  | flag (b : Bool)
  | count (n : Nat)
  | list (items : List Written)
  | record (fields : List (String × Written))
  deriving Inhabited

def Written.span (d : Span) : Written := .text (Span.format d)

mutual

def ActionRule.written : ActionRule → Written
  | ⟨kind, name, exclude, reverse, limitCount, limitDuration, actions⟩ =>
    .record <|
      [("type", .text kind.name), ("name", .text name)] ++
      (if exclude.isEmpty then [] else [("exclude", .text exclude)]) ++
      (if reverse then [("reverse", .flag true)] else []) ++
      (if limitCount == 0 then [] else [("limit_count", .count limitCount)]) ++
      (if limitDuration.isZero then [] else [("limit_duration", Written.span limitDuration)]) ++
      (if actions.isEmpty then [] else [("actions", .list (ActionRule.writtenAll actions))])

def ActionRule.writtenAll : List ActionRule → List Written
  | [] => []
  | a :: rest => a.written :: ActionRule.writtenAll rest

end

def PassRule.written (p : PassRule) : Written :=
  .record [("description", .text p.description), ("enabled", .flag p.enabled),
    ("actions", .list (p.actions.map ActionRule.written))]

/-- The written form of the settings; a record list without a data source leaves it out. -/
def Settings.written (s : Settings) : Written :=
  .record [
    ("playon", .record [("host", .text s.server.host), ("port", .count s.server.port)]),
    ("limits", .record [("queue_count", .count s.limits.queueCount),
      ("queue_duration", Written.span s.limits.queueDuration)]),
    ("queue_list", .record <|
      [("provider", .text s.recordList.provider.name)] ++
      (match s.recordList.dataSource with
       | some d => [("data_source", .text d)]
       | none => [])),
    ("logging", .record [("log_dir", .text s.logging.logDir),
      ("log_prefix", .text s.logging.logPrefix), ("console", .flag s.logging.console),
      ("debug", .flag s.logging.debug), ("verbose", .flag s.logging.verbose)])]

def RuleFile.written (f : RuleFile) : Written :=
  .record [("settings", f.settings.written), ("passes", .list (f.passes.map PassRule.written))]

open Yaml in
mutual

/-- A written value as a YAML node: texts in the style their content asks for, flags and
counts plain. -/
def Written.toNode : Written → Node
  | .text s => Node.text s
  | .flag b => Node.plain (if b then "true" else "false")
  | .count n => Node.plain (toString n)
  | .list items => .sequence (Written.toNodes items)
  | .record fields => .mapping (Written.toEntries fields)

def Written.toNodes : List Written → List Node
  | [] => []
  | w :: ws => w.toNode :: Written.toNodes ws

def Written.toEntries : List (String × Written) → List (Node × Node)
  | [] => []
  | (k, w) :: rest => (Node.text k, w.toNode) :: Written.toEntries rest

end

def RuleFile.render (f : RuleFile) : String := f.written.toNode.render

end CatalogQueue
