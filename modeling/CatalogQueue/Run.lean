import CatalogQueue.Admission
import CatalogQueue.Journal
import CatalogQueue.Tally
import CatalogQueue.Server
import CatalogQueue.Pattern

/-!
Running passes against a media server: each pass walks its actions depth-first over the
catalog, writes its log lines and keeps its events in order; an error ends the pass, closing
every nesting and scope it opened, and the next pass runs.
-/

namespace CatalogQueue

/-- The switches of a run: submit videos (`queue`), or record every matched video as handled
without submitting it (`skip`). Without either the run is a preview. -/
structure RunMode where
  queue : Bool := false
  skip : Bool := false
  deriving DecidableEq, Inhabited, Repr

/-- What became of a video, with a note. -/
inductive Outcome where
  | queued (note : String)
  | skipped (note : String)
  deriving DecidableEq, Inhabited, Repr

def Outcome.text : Outcome → String
  | .queued note => if note.isEmpty then "Queued" else "Queued: " ++ note
  | .skipped note => if note.isEmpty then "Skipped" else "Skipped: " ++ note

/-- Something a run did: a call to the server or to admission, with its answer, or the outcome
it wrote for a video. -/
inductive Event where
  /-- A request for the catalog, the children of a folder, a search or the details of a
  video. -/
  | request (r : Request)
  /-- A submission of the video at `url`, whose details are `m`, and the server's answer. -/
  | submit (url : String) (m : MediaInfo) (answer : Except ServerError Submission)
  /-- Admission was asked whether `m` may be queued, and answered `verdict`. -/
  | check (m : MediaInfo) (verdict : Except Rejection Unit)
  /-- `m` was counted against the active limits without being recorded. -/
  | count (m : MediaInfo)
  /-- `m` was given to the record list, which recorded and counted it or refused it. -/
  | record (m : MediaInfo) (result : Except RecordError Unit)
  /-- A queue action entered its limits. -/
  | enterLimits (countLimit : Nat) (durationLimit : Span)
  /-- A queue action let go of the guard of its limits. -/
  | releaseLimits (guard : ScopeGuard)
  /-- The outcome written for the video whose details are `m`. -/
  | outcome (m : MediaInfo) (o : Outcome)

def Event.request? : Event → Option Request
  | .request r => some r
  | .submit url _ _ => some (.submit url)
  | _ => none

/-- Everything a run changes: admission, the log, the counters and the events, oldest
first. -/
structure RunState where
  admission : Admission
  journal : Journal := {}
  tally : Tally := {}
  events : List Event := []
  deriving Inhabited

def RunState.requests (st : RunState) : List Request := st.events.filterMap Event.request?

abbrev Failure := List String

/-- A step of a run: it changes the run state and may end the pass. -/
abbrev RunM := ExceptT Failure (StateM RunState)

namespace Run

def log (message : String) : RunM Unit :=
  modify fun s => { s with journal := s.journal.log message }

def logVerbose (message : String) : RunM Unit :=
  modify fun s => { s with journal := s.journal.logVerbose message }

def tally (f : Tally → Tally) : RunM Unit :=
  modify fun s => { s with tally := f s.tally }

def note (e : Event) : RunM Unit :=
  modify fun s => { s with events := s.events ++ [e] }

/-- Run `k`, then `after`, also when `k` ends the pass. -/
def always {α : Type} (k : RunM α) (after : RunM Unit) : RunM α := do
  let r ← tryCatch (Except.ok <$> k) (fun e => pure (Except.error e))
  after
  match r with
  | .ok a => pure a
  | .error e => throw e

def nested {α : Type} (n : Nesting) (k : RunM α) : RunM α := do
  modify fun s => { s with journal := s.journal.enter n }
  always k (modify fun s => { s with journal := s.journal.leave n })

def withinLimits {α : Type} (countLimit : Nat) (durationLimit : Span) (k : RunM α) : RunM α := do
  let s ← get
  let (admission, guard) := s.admission.enterScope countLimit durationLimit
  set { s with admission, events := s.events ++ [Event.enterLimits countLimit durationLimit] }
  always k (modify fun s => { s with admission := s.admission.release guard,
                                     events := s.events ++ [Event.releaseLimits guard] })

/-- Make a request to the server, which answers `reply` given the requests sent before; a
refusal ends the pass, under the context `context`. -/
def call {α : Type} (r : Request) (reply : List Request → Except ServerError α)
    (context : String) : RunM α := do
  let s ← get
  set { s with events := s.events ++ [Event.request r] }
  match reply s.requests with
  | .ok a => pure a
  | .error e => throw (context :: e.chain)

def check (m : MediaInfo) : RunM (Except Rejection Unit) := do
  let s ← get
  let verdict := s.admission.check m
  set { s with events := s.events ++ [Event.check m verdict] }
  pure verdict

def count (m : MediaInfo) : RunM Unit :=
  modify fun s => { s with admission := s.admission.count m, events := s.events ++ [Event.count m] }

/-- Record a video as handled and count it; a refused record ends the pass. -/
def record (m : MediaInfo) : RunM Unit := do
  let s ← get
  match s.admission.record m with
  | .ok admission => set { s with admission, events := s.events ++ [Event.record m (.ok ())] }
  | .error e =>
    set { s with events := s.events ++ [Event.record m (.error e)] }
    throw e.chain

def quote (name : String) : String := "\"" ++ name ++ "\""

/-- The children of a folder, fetched if they are not known yet; the folder comes back with
them. -/
def childrenOf (srv : Server) (f : Folder) : RunM (Folder × List Item) :=
  match f.children with
  | some cs => pure (f, cs)
  | none => do
    let cs ← call (.items f.url) (srv.items · f.url) ("Failed to list " ++ quote f.name)
    pure (f.withChildren cs, cs)

/-- The details of a video, fetched if they are not known yet; the video comes back with
them. -/
def detailsOf (srv : Server) (v : Video) : RunM (Video × MediaInfo) :=
  match v.details with
  | some d => pure (v, d)
  | none => do
    let d ← call (.details v.url) (srv.details · v.url)
      ("Failed to load details for " ++ quote v.name)
    pure ({ v with details := some d }, d)

def submit (srv : Server) (v : Video) (d : MediaInfo) : RunM Outcome := do
  let s ← get
  let answer := srv.submit s.requests d
  set { s with events := s.events ++ [Event.submit v.url d answer] }
  match answer with
  | .ok .accepted => record d; tally Tally.videoQueued; pure (.queued "")
  | .ok .alreadyQueued => tally Tally.videoSkipped; pure (.skipped "Already queued.")
  | .ok .noQueueLink =>
    tally Tally.queueFailed
    pure (.skipped "PlayLater queue link not found. PlayLater may not be running.")
  | .ok .refused => tally Tally.queueFailed; pure (.skipped "Queue request was rejected.")
  | .error e => tally Tally.queueFailed; pure (.skipped e.message)

/-- Decide what becomes of a video whose details are known: skip mode records it whatever
admission says; otherwise admission is asked first, and an admitted video is counted in a
preview and submitted in queue mode. -/
def resolve (srv : Server) (mode : RunMode) (v : Video) (d : MediaInfo) : RunM Outcome :=
  if mode.skip then do
    record d
    tally Tally.videoSkipped
    pure (.skipped "Manually skipped.")
  else do
    match ← check d with
    | .error r => tally Tally.videoSkipped; pure (.skipped r.message)
    | .ok () =>
      if !mode.queue then do
        count d
        tally Tally.videoPreviewed
        pure (.queued "Pending queue mode.")
      else submit srv v d

/-- Decide about one matched video and write the outcome; the video comes back with its
details. -/
def settle (srv : Server) (mode : RunMode) (v : Video) : RunM Video := do
  let (v, d) ← detailsOf srv v
  let outcome ← resolve srv mode v d
  log outcome.text
  note (.outcome d outcome)
  pure v

/-- The positions of the children that match a selection, in order, with the `Checking` lines
written on the way. -/
def matching (sel : Selection) (children : List Item) : RunM (List Nat) := do
  let mut found : Array Nat := #[]
  for (child, i) in children.zipIdx do
    logVerbose ("Checking " ++ quote child.name ++ "...")
    if matchesPattern child.name sel.name then
      if matchesPattern child.name sel.exclude then logVerbose "Excluded match."
      else found := found.push i
  pure found.toList

/-- Apply `visit` to the children at `positions` in turn, keeping what it hands back; the
first `none` ends the walk. -/
def visitAll (visit : Item → RunM (Option Item)) (children : List Item) (positions : List Nat) :
    RunM (List Item) := do
  let mut cs := children
  for i in positions do
    match ← visit (cs.getD i default) with
    | some item => cs := cs.set i item
    | none => break
  pure cs

/-- A matching action on a folder: write `Matching`, then, one level deeper, visit the matching
children, in reverse order if the selection asks. -/
def matchIn (srv : Server) (f : Folder) (sel : Selection) (visit : Item → RunM (Option Item)) :
    RunM Folder := do
  log ("Matching " ++ quote sel.name ++ "...")
  nested .depth do
    let (f, children) ← childrenOf srv f
    let found ← matching sel children
    if found.isEmpty then
      log ("No matches for " ++ quote sel.name ++ ".")
      pure f
    else
      let order := if sel.reverse then found.reverse else found
      let cs ← visitAll visit children order
      pure (f.withChildren cs)

/-- What a queue action does with a matching child: decide about a video, one level deeper;
any other item ends the action. -/
def queueItem (srv : Server) (mode : RunMode) : Item → RunM (Option Item)
  | .video v => do
    log ("Queuing " ++ quote v.name ++ "...")
    let v ← nested .depth (settle srv mode v)
    pure (some (.video v))
  | other => do
    logVerbose (quote other.name ++ " is not a video.")
    pure none

def resultsFolder (url term : String) (children : List Item) : Folder :=
  .mk ("Search results for " ++ quote term) (Url.searchUrl url term) false (some children)

mutual

def actionsOn (srv : Server) (mode : RunMode) (f : Folder) : List Action → RunM Folder
  | [] => pure f
  | a :: rest => do
    let f ← nested .verbose (actionOn srv mode f a)
    actionsOn srv mode f rest

def actionOn (srv : Server) (mode : RunMode) (f : Folder) : Action → RunM Folder
  | .scan sel acts =>
    matchIn srv f sel fun
      | .folder sub => do
        let sub ← nested .verbose do
          logVerbose ("Entering " ++ quote sub.name)
          let sub ← actionsOn srv mode sub acts
          logVerbose ("Leaving " ++ quote sub.name)
          pure sub
        pure (some (.folder sub))
      | other => do
        logVerbose (quote other.name ++ " is not a folder.")
        pure none
  | .search sel acts => do
    if !f.searchable then
      log (quote f.name ++ " is not searchable.")
      pure f
    else
      log ("Searching for " ++ quote sel.name ++ "...")
      nested .depth do
        let cs ← call (.search f.url sel.name) (srv.search · f.url sel.name)
          ("Failed to search " ++ quote f.name)
        if cs.isEmpty then log ("No matches for " ++ quote sel.name ++ ".")
        else discard (actionsOn srv mode (resultsFolder f.url sel.name cs) acts)
        pure f
  | .queue sel countLimit durationLimit =>
    withinLimits countLimit durationLimit (matchIn srv f sel (queueItem srv mode))

end

/-- The walk of an enabled pass: fetch the catalog, then run the actions on its root when the
root is a folder. -/
def walk (srv : Server) (mode : RunMode) (p : Pass) : RunM Unit := do
  match ← call .catalog srv.catalog "Failed to load the catalog" with
  | .folder root => discard (actionsOn srv mode root p.actions)
  | .video _ => pure ()

def pass (srv : Server) (mode : RunMode) (p : Pass) : StateM RunState Unit := do
  let write (message : String) : StateM RunState Unit :=
    modify fun s => { s with journal := s.journal.log message }
  if !p.enabled then
    write ("Skipping pass " ++ quote p.description ++ ".")
    modify fun s => { s with tally := s.tally.passSkipped }
  else
    write ("Processing pass " ++ quote p.description ++ "...")
    match ← (walk srv mode p).run with
    | .ok () => modify fun s => { s with tally := s.tally.passProcessed }
    | .error chain =>
      modify fun s => { s with journal := s.journal.logError chain, tally := s.tally.passFailed }
    write ("Finished processing pass " ++ quote p.description ++ "...")

/-- Run passes in order from a state; a failing pass never stops the ones after it. -/
def passes (srv : Server) (mode : RunMode) : List Pass → StateM RunState Unit
  | [] => pure ()
  | p :: ps => do pass srv mode p; passes srv mode ps

end Run

def runPasses (srv : Server) (mode : RunMode) (a : Admission) (ps : List Pass) : RunState :=
  ((Run.passes srv mode ps).run { admission := a }).2

def RunState.received (st : RunState) (srv : Server) : List String :=
  st.requests.flatMap srv.received

/-- A whole run of a rule file: open the record list its settings name, record the videos
`handled` before, and run its passes against the server within its limits. -/
def RuleFile.run (f : RuleFile) (srv : Server) (mode : RunMode) (handled : List MediaInfo) :
    Except RecordError RunState := do
  let records ← RecordList.open? f.settings.recordList
  let records ← handled.foldlM (fun l m => l.add m) records
  pure (runPasses srv mode (Admission.withLimits records f.settings.limits) f.passesToRun)

end CatalogQueue
