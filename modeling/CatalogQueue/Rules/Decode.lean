import CatalogQueue.Rules.Basic
import CatalogQueue.Yaml.Decode
import CatalogQueue.Span.Text

/-!
Reading a rule file from YAML text: settings and passes field by field, every field optional;
an action is a mapping whose `type` field names its kind.
-/

namespace CatalogQueue

open Yaml

namespace Rules

def max16 : Nat := 0xFFFF
def max32 : Nat := 0xFFFFFFFF

def spanOf (raw : String) : Except String Span :=
  match Span.parseSetting? raw with
  | some d => .ok d
  | none => .error ("invalid time span: " ++ Text.quoted raw)

/-! ### Action settings from content -/

def textOf : Content → Except String String
  | .string s => .ok s
  | c => .error (Message.invalidType c.unexpected "a string")

def boolOf : Content → Except String Bool
  | .bool b => .ok b
  | c => .error (Message.invalidType c.unexpected "a boolean")

def countOf : Content → Except String Nat
  | .unsigned n => if n ≤ max32 then .ok n else .error (Message.invalidValue (.unsigned n) "u32")
  | .signed i =>
    if 0 ≤ i && i ≤ max32 then .ok i.toNat else .error (Message.invalidValue (.signed i) "u32")
  | c => .error (Message.invalidType c.unexpected "u32")

def actionFields : List String :=
  ["name", "exclude", "reverse", "limit_count", "limit_duration", "actions"]

/-- The field a key names: by name, or by its position; other names are ignored. -/
def fieldOf (names : List String) : Content → Except String (Option Nat)
  | .string s => .ok (Decode.indexOf? names s)
  | .unsigned n => .ok (if n < names.length then some n else none)
  | c => .error (Message.invalidType c.unexpected "field identifier")

def kindOf : Content → Except String ActionKind
  | .string s =>
    match Decode.indexOf? ActionKind.names s with
    | some i => .ok (ActionKind.ofIndex i)
    | none => .error (Message.unknownVariant s ActionKind.names)
  | .unsigned n =>
    if n < 3 then .ok (ActionKind.ofIndex n)
    else .error (Message.invalidValue (.unsigned n) "variant index 0 <= i < 3")
  | c => .error (Message.invalidType c.unexpected "variant identifier")

def isTagKey : Content → Bool
  | .string s => s == "type"
  | _ => false

/-- The kind named by the `type` entries of an action mapping: exactly one must be present. -/
def tagOf (entries : List (Content × Content)) : Except String ActionKind := do
  let mut kind : Option ActionKind := none
  for (k, v) in entries do
    if isTagKey k then
      if kind.isSome then throw (Message.duplicateField "type")
      kind := some (← kindOf v)
  match kind with
  | some k => pure k
  | none => throw (Message.missingField "type")

mutual

/-- An action from content: a mapping with a `type` entry, or a sequence whose first item is
the kind followed by the settings in field order. -/
def actionOf : Content → Except String ActionRule
  | .map entries => do
    let kind ← tagOf entries
    settingsOfEntries entries { kind } []
  | .seq [] => .error (Message.missingField "type")
  | .seq (first :: rest) => do
    let kind ← kindOf first
    settingsOfItems rest 0 { kind }
  | c => .error (Message.invalidType c.unexpected "internally tagged enum ActionConfig")

def actionsOf : List Content → Except String (List ActionRule)
  | [] => .ok []
  | c :: cs => do
    let a ← actionOf c
    let rest ← actionsOf cs
    pure (a :: rest)

def setField (r : ActionRule) (i : Nat) (v : Content) : Except String ActionRule :=
  match i, v with
  | 0, v => do pure { r with name := ← textOf v }
  | 1, v => do pure { r with exclude := ← textOf v }
  | 2, v => do pure { r with reverse := ← boolOf v }
  | 3, v => do pure { r with limitCount := ← countOf v }
  | 4, v => do pure { r with limitDuration := ← spanOf (← textOf v) }
  | _, .seq items => do pure { r with actions := ← actionsOf items }
  | _, v => .error (Message.invalidType v.unexpected "a sequence")

/-- Settings from mapping entries, the tag entries left out; `seen` holds the fields given so
far, and a field given twice is refused. -/
def settingsOfEntries : List (Content × Content) → ActionRule → List Nat →
    Except String ActionRule
  | [], r, _ => .ok r
  | (k, v) :: rest, r, seen =>
    if isTagKey k then settingsOfEntries rest r seen
    else do
      match ← fieldOf actionFields k with
      | some i =>
        if seen.contains i then
          throw (Message.duplicateField (actionFields.getD i ""))
        let r ← setField r i v
        settingsOfEntries rest r (i :: seen)
      | none => settingsOfEntries rest r seen

/-- Settings from sequence items in field order, starting at field `i`; missing items keep
their defaults, and items beyond the six fields are refused. -/
def settingsOfItems : List Content → Nat → ActionRule → Except String ActionRule
  | [], _, r => .ok r
  | c :: cs, i, r =>
    if i < 6 then do
      let r ← setField r i c
      settingsOfItems cs (i + 1) r
    else .error (Message.invalidLength (6 + (c :: cs).length) "6 elements in sequence")

end

/-! ### The rule file from events -/

def span : DecodeM Span := do
  match spanOf (← Decode.text "a string") with
  | .ok d => pure d
  | .error m => Decode.fail m

def server : DecodeM ServerSettings :=
  Decode.record "struct PlayOnSettings" ["host", "port"] {} fun
    | 0 => do let v ← Decode.text "a string"; pure fun s => { s with host := v }
    | _ => do let v ← Decode.unsigned max16 "u16"; pure fun s => { s with port := v }

def limits : DecodeM LimitSettings :=
  Decode.record "struct LimitSettings" ["queue_count", "queue_duration"] {} fun
    | 0 => do let v ← Decode.unsigned max32 "u32"; pure fun s => { s with queueCount := v }
    | _ => do let v ← span; pure fun s => { s with queueDuration := v }

def recordList : DecodeM ListSettings :=
  Decode.record "struct QueueListConfig" ["provider", "data_source"] {} fun
    | 0 => do
      let i ← Decode.unitVariant ListProvider.names
      pure fun s => { s with provider := if i == 0 then .file else .memory }
    | _ => do
      let v ← Decode.option (Decode.text "a UTF-8 path string")
      pure fun s => { s with dataSource := v }

def logging : DecodeM LogSettings :=
  Decode.record "struct LoggingSettings"
    ["log_dir", "log_prefix", "console", "debug", "verbose"] {} fun
    | 0 => do let v ← Decode.text "a string"; pure fun s => { s with logDir := v }
    | 1 => do let v ← Decode.text "a string"; pure fun s => { s with logPrefix := v }
    | 2 => do let v ← Decode.bool; pure fun s => { s with console := v }
    | 3 => do let v ← Decode.bool; pure fun s => { s with debug := v }
    | _ => do let v ← Decode.bool; pure fun s => { s with verbose := v }

def settings : DecodeM Settings :=
  Decode.record "struct Settings" ["playon", "limits", "queue_list", "logging"] {} fun
    | 0 => do let v ← server; pure fun s => { s with server := v }
    | 1 => do let v ← limits; pure fun s => { s with limits := v }
    | 2 => do let v ← recordList; pure fun s => { s with recordList := v }
    | _ => do let v ← logging; pure fun s => { s with logging := v }

def action : DecodeM ActionRule := do
  let (i, c) ← Decode.tagged "internally tagged enum ActionConfig" "type" ActionKind.names
  let r : Except String ActionRule := match c with
    | .map entries => settingsOfEntries entries { kind := ActionKind.ofIndex i } []
    | .seq items => settingsOfItems items 0 { kind := ActionKind.ofIndex i }
    | c => .error (Message.invalidType c.unexpected "struct ActionSettings")
  match r with
  | .ok a => pure a
  | .error m => Decode.fail m

def actions : DecodeM (List ActionRule) := do
  let acc ← Decode.sequence "a sequence" #[] fun acc => acc.push <$> action
  pure acc.toList

def pass : DecodeM PassRule :=
  Decode.record "struct PassConfig" ["description", "enabled", "actions"] {} fun
    | 0 => do let v ← Decode.text "a string"; pure fun s => { s with description := v }
    | 1 => do let v ← Decode.bool; pure fun s => { s with enabled := v }
    | _ => do let v ← actions; pure fun s => { s with actions := v }

def passList : DecodeM (List PassRule) := do
  let acc ← Decode.sequence "a sequence" #[] fun acc => acc.push <$> pass
  pure acc.toList

def decoder : DecodeM RuleFile :=
  Decode.record "struct PlayPassConfig" ["settings", "passes"] {} fun
    | 0 => do let v ← settings; pure fun s => { s with settings := v }
    | _ => do let v ← passList; pure fun s => { s with passes := v }

end Rules

/-- Read a rule file from YAML text, or say why it cannot be read. -/
def RuleFile.parse (text : String) : Except String RuleFile :=
  match Decode.run Rules.decoder text with
  | .ok f => .ok f
  | .error e => .error e.render

end CatalogQueue
