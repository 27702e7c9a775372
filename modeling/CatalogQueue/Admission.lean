import CatalogQueue.RecordList

/-!
Admission: whether a video may be queued, and how much a run has queued so far. A counter pairs
a count limit and a duration limit (zero means no limit) with what was queued against them; the
count is a 32-bit number that wraps, the runtime a span that saturates. A temporary scope puts a
second counter in place of the persistent one until the guard that opened it folds it back.
-/

namespace CatalogQueue

inductive Rejection where
  | alreadyRecorded
  | countReached
  | durationReached
  deriving DecidableEq, Inhabited, Repr

def Rejection.message : Rejection → String
  | .alreadyRecorded => "Already recorded or skipped."
  | .countReached => "Queue limit reached."
  | .durationReached => "Queue duration limit reached."

def Rejection.name : Rejection → String
  | .alreadyRecorded => "AlreadyRecorded"
  | .countReached => "QueueLimitReached"
  | .durationReached => "QueueDurationLimitReached"

/-- Limits, and what has been queued against them; a zero limit means no limit. -/
structure Counter where
  countLimit : Nat := 0
  durationLimit : Span := Span.zero
  queuedCount : UInt32 := 0
  queuedDuration : Span := Span.zero
  deriving Inhabited

namespace Counter

/-- Whether one more video of runtime `runtime` fits: the count limit is looked at first. -/
def check (c : Counter) (runtime : Span) : Except Rejection Unit :=
  if 0 < c.countLimit ∧ c.countLimit ≤ c.queuedCount.toNat then .error .countReached
  else if !c.durationLimit.isZero ∧ c.durationLimit < c.queuedDuration.satAdd runtime then
    .error .durationReached
  else .ok ()

/-- Count one video of runtime `runtime`; the count wraps past the largest 32-bit number. -/
def add (c : Counter) (runtime : Span) : Counter :=
  { c with queuedCount := c.queuedCount + 1, queuedDuration := c.queuedDuration.satAdd runtime }

/-- Add the counts of `inner` to those of `c`, the count wrapping as `add`'s does. -/
def absorb (c inner : Counter) : Counter :=
  { c with queuedCount := c.queuedCount + inner.queuedCount,
           queuedDuration := c.queuedDuration.satAdd inner.queuedDuration }

end Counter

/-- The guard of a temporary scope: `opened` when it opened the scope and so closes it. -/
structure ScopeGuard where
  opened : Bool
  deriving DecidableEq, Inhabited, Repr

/-- The admission state of a run: the record list, the persistent counter and the temporary
scope's counter while one is open. -/
structure Admission where
  records : RecordList
  persistent : Counter := {}
  temporary : Option Counter := none
  deriving Inhabited

namespace Admission

def ofRecords (records : RecordList) : Admission := { records }

def withLimits (records : RecordList) (limits : LimitSettings) : Admission :=
  { records, persistent := { countLimit := limits.queueCount,
                             durationLimit := limits.queueDuration } }

def active (a : Admission) : Counter := a.temporary.getD a.persistent

def modifyActive (a : Admission) (f : Counter → Counter) : Admission :=
  match a.temporary with
  | some t => { a with temporary := some (f t) }
  | none => { a with persistent := f a.persistent }

def setCountLimit (a : Admission) (n : Nat) : Admission :=
  { a with persistent := { a.persistent with countLimit := n } }

def setDurationLimit (a : Admission) (d : Span) : Admission :=
  { a with persistent := { a.persistent with durationLimit := d } }

def check (a : Admission) (m : MediaInfo) : Except Rejection Unit :=
  if a.records.contains m then .error .alreadyRecorded else a.active.check m.runtime

def count (a : Admission) (m : MediaInfo) : Admission :=
  a.modifyActive (·.add m.runtime)

/-- Record the video, then count it; a refused record changes nothing. -/
def record (a : Admission) (m : MediaInfo) : Except RecordError Admission := do
  let records ← a.records.add m
  pure ({ a with records }.count m)

/-- Open a scope with the given limits, or replace the limits of the open one. -/
def enterScope (a : Admission) (countLimit : Nat) (durationLimit : Span) :
    Admission × ScopeGuard :=
  if countLimit = 0 ∧ durationLimit.isZero then (a, ⟨false⟩)
  else match a.temporary with
    | some t => ({ a with temporary := some { t with countLimit, durationLimit } }, ⟨false⟩)
    | none => ({ a with temporary := some { countLimit, durationLimit } }, ⟨true⟩)

def closeScope (a : Admission) : Admission :=
  match a.temporary with
  | some t => { a with persistent := a.persistent.absorb t, temporary := none }
  | none => a

/-- Let go of a guard: the guard that opened the scope closes it. -/
def release (a : Admission) (g : ScopeGuard) : Admission :=
  if g.opened then a.closeScope else a

def hasScope (a : Admission) : Bool := a.temporary.isSome

end Admission

end CatalogQueue
