import CatalogQueue.Run
import CatalogQueue.Rules.Decode
import CatalogQueue.Rules.Encode

/-!
The command line: `playpass [RULES] [-q|--queue] [-s|--skip] [-v|--verbose] [--init]`, the
rule file it runs (`PlayPass.yaml` by default) and the texts the program prints.
-/

namespace CatalogQueue

def version : String := "3.0.0"

def defaultRulesPath : String := "PlayPass.yaml"

/-- The options of one invocation. -/
structure Options where
  rules : String := defaultRulesPath
  queue : Bool := false
  skip : Bool := false
  verbose : Bool := false
  init : Bool := false
  deriving Inhabited, DecidableEq, Repr

namespace Options

def short (o : Options) : Char → Except String Options
  | 'q' => .ok { o with queue := true }
  | 's' => .ok { o with skip := true }
  | 'v' => .ok { o with verbose := true }
  | c => .error ("unexpected argument '-" ++ c.toString ++ "' found")

/-- Read one argument into the options; `named` says whether a rule file was named already. -/
def arg (o : Options) (named : Bool) (a : String) : Except String (Options × Bool) :=
  match a with
  | "--queue" => .ok ({ o with queue := true }, named)
  | "--skip" => .ok ({ o with skip := true }, named)
  | "--verbose" => .ok ({ o with verbose := true }, named)
  | "--init" => .ok ({ o with init := true }, named)
  | _ =>
    match a.toList with
    | '-' :: '-' :: _ => .error ("unexpected argument '" ++ a ++ "' found")
    | '-' :: c :: cs => do
      let o ← (c :: cs).foldlM short o
      pure (o, named)
    | _ =>
      if named then .error ("unexpected argument '" ++ a ++ "' found")
      else .ok ({ o with rules := a }, true)

def parse (args : List String) : Except String Options := do
  let (o, _) ← args.foldlM (fun (o, named) a => o.arg named a) (({} : Options), false)
  pure o

end Options

def banner : String := "PlayPass Auto Queueing Engine Version " ++ version

def rulesMissing (path : String) : String := "Config file not found: " ++ path

def rulesPresent (path : String) : String := "Config file already exists: " ++ path

def rulesUnreadable (path message : String) : String :=
  "Failed to parse config: " ++ path ++ ": " ++ message

def Tally.summary (t : Tally) : List String :=
  ["=== Run Summary ===",
   "Passes: " ++ toString t.passesProcessed ++ " processed, " ++ toString t.passesSkipped ++
     " skipped, " ++ toString t.passesFailed ++ " failed",
   "Videos: " ++ toString t.videosQueued ++ " queued, " ++ toString t.videosPreviewed ++
     " pending queue mode, " ++ toString t.videosSkipped ++ " skipped (" ++
     toString t.queueFailures ++ " failed submissions)"]

/-- What a run prints: the pass log (verbose when asked by the options or the settings) and
the summary, or why it could not start. -/
def runText (o : Options) (f : RuleFile) (srv : Server) : Except String (List String × RunState) :=
  match f.run srv { queue := o.queue, skip := o.skip } [] with
  | .error e => .error ("Failed to open the queue list: " ++ e.message)
  | .ok st =>
    let lines := if o.verbose || f.settings.logging.verbose then st.journal.verbose
      else st.journal.quiet
    .ok (if f.settings.logging.console then lines.toList ++ st.tally.summary else [], st)

end CatalogQueue
