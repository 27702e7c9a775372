/-!
The counters of a run: passes processed, skipped and failed, and videos queued, previewed and
skipped, with the submissions that failed. A failed submission also counts as a skipped video,
so the videos seen are the queued, previewed and skipped ones.
-/

namespace CatalogQueue

/-- The counters of a run. -/
structure Tally where
  passesProcessed : Nat := 0
  passesSkipped : Nat := 0
  passesFailed : Nat := 0
  videosQueued : Nat := 0
  videosPreviewed : Nat := 0
  videosSkipped : Nat := 0
  queueFailures : Nat := 0
  deriving Inhabited, DecidableEq, Repr

namespace Tally

def passProcessed (t : Tally) : Tally := { t with passesProcessed := t.passesProcessed + 1 }

def passSkipped (t : Tally) : Tally := { t with passesSkipped := t.passesSkipped + 1 }

def passFailed (t : Tally) : Tally := { t with passesFailed := t.passesFailed + 1 }

def videoQueued (t : Tally) : Tally := { t with videosQueued := t.videosQueued + 1 }

def videoPreviewed (t : Tally) : Tally := { t with videosPreviewed := t.videosPreviewed + 1 }

def videoSkipped (t : Tally) : Tally := { t with videosSkipped := t.videosSkipped + 1 }

/-- Count a failed submission, which is also a skipped video. -/
def queueFailed (t : Tally) : Tally :=
  { t with queueFailures := t.queueFailures + 1, videosSkipped := t.videosSkipped + 1 }

def videosSeen (t : Tally) : Nat := t.videosQueued + t.videosPreviewed + t.videosSkipped

end Tally

end CatalogQueue
