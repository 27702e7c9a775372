import CatalogQueue.Cli

/-!
The program. It reads the arguments and the rule file, and prints what `CatalogQueue.Cli`
computes. This build has no network transport, so the media server is reached as on a network
that cannot reach it: every pass ends at its first request. Marker files of videos recorded
during the run are written to the record list's directory.
-/

open CatalogQueue

def readText? (path : String) : IO (Option String) := do
  try
    let text ← IO.FS.readFile path
    pure (some text)
  catch _ => pure none

def fail (message : String) : IO UInt32 := do
  IO.eprintln message
  pure 1

def main (args : List String) : IO UInt32 := do
  IO.println banner
  match Options.parse args with
  | .error e => do IO.eprintln e; pure 2
  | .ok o =>
    if o.init then
      match ← readText? o.rules with
      | some _ => fail (rulesPresent o.rules)
      | none => do
        IO.FS.writeFile o.rules RuleFile.starter.render
        IO.println ("Wrote starter config to " ++ o.rules)
        pure 0
    else
      match ← readText? o.rules with
      | none => fail (rulesMissing o.rules)
      | some text =>
        match RuleFile.parse text with
        | .error e => fail (rulesUnreadable o.rules e)
        | .ok f =>
          let srv := Server.unreachable f.settings.server.host f.settings.server.port
          match runText o f srv with
          | .error e => fail e
          | .ok (lines, st) => do
            for line in lines do IO.println line
            if let some dir := f.settings.recordList.dataSource then
              if st.admission.records.store == .markers then
                for key in st.admission.records.keys do
                  IO.FS.writeFile (dir ++ "/" ++ key ++ markerSuffix) ""
            pure 0
