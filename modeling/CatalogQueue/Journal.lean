/-!
The journal of a run: a quiet and a verbose log. The depth indents both logs, the verbose
depth the verbose log only, two spaces a level; an error is one line joining its causes.
-/

namespace CatalogQueue

/-- Which depth a level of nesting adds to. -/
inductive Nesting where
  | depth
  | verbose
  deriving DecidableEq, Inhabited, Repr

/-- The journal: the two depths and the lines of the two logs. -/
structure Journal where
  depth : Nat := 0
  verboseDepth : Nat := 0
  quiet : Array String := #[]
  verbose : Array String := #[]
  deriving Inhabited

namespace Journal

def indentUnit : String := "  "

def indented (n : Nat) (message : String) : String :=
  String.join (List.replicate n indentUnit) ++ message

def log (j : Journal) (message : String) : Journal :=
  { j with quiet := j.quiet.push (indented j.depth message),
           verbose := j.verbose.push (indented (j.depth + j.verboseDepth) message) }

def logVerbose (j : Journal) (message : String) : Journal :=
  { j with verbose := j.verbose.push (indented (j.depth + j.verboseDepth) message) }

def errorText (chain : List String) : String := ": ".intercalate chain

def logError (j : Journal) (chain : List String) : Journal :=
  j.log ("The following exception has occurred: " ++ errorText chain)

def enter (j : Journal) : Nesting → Journal
  | .depth => { j with depth := j.depth + 1 }
  | .verbose => { j with verboseDepth := j.verboseDepth + 1 }

def leave (j : Journal) : Nesting → Journal
  | .depth => { j with depth := j.depth - 1 }
  | .verbose => { j with verboseDepth := j.verboseDepth - 1 }

@[simp] theorem indented_zero (message : String) : indented 0 message = message := by
  simp [indented]

@[simp] theorem quiet_log (j : Journal) (message : String) :
    (j.log message).quiet = j.quiet.push (indented j.depth message) := rfl

@[simp] theorem verbose_log (j : Journal) (message : String) :
    (j.log message).verbose = j.verbose.push (indented (j.depth + j.verboseDepth) message) := rfl

@[simp] theorem quiet_logVerbose (j : Journal) (message : String) :
    (j.logVerbose message).quiet = j.quiet := rfl

@[simp] theorem verbose_logVerbose (j : Journal) (message : String) :
    (j.logVerbose message).verbose =
      j.verbose.push (indented (j.depth + j.verboseDepth) message) := rfl

@[simp] theorem depth_log (j : Journal) (message : String) : (j.log message).depth = j.depth := rfl

@[simp] theorem verboseDepth_log (j : Journal) (message : String) :
    (j.log message).verboseDepth = j.verboseDepth := rfl

@[simp] theorem depth_logVerbose (j : Journal) (message : String) :
    (j.logVerbose message).depth = j.depth := rfl

@[simp] theorem verboseDepth_logVerbose (j : Journal) (message : String) :
    (j.logVerbose message).verboseDepth = j.verboseDepth := rfl

@[simp] theorem quiet_enter (j : Journal) (n : Nesting) : (j.enter n).quiet = j.quiet := by
  cases n <;> rfl

@[simp] theorem verbose_enter (j : Journal) (n : Nesting) : (j.enter n).verbose = j.verbose := by
  cases n <;> rfl

@[simp] theorem quiet_leave (j : Journal) (n : Nesting) : (j.leave n).quiet = j.quiet := by
  cases n <;> rfl

@[simp] theorem verbose_leave (j : Journal) (n : Nesting) : (j.leave n).verbose = j.verbose := by
  cases n <;> rfl

@[simp] theorem leave_enter (j : Journal) (n : Nesting) : (j.enter n).leave n = j := by
  cases n <;> simp [enter, leave]

end Journal

end CatalogQueue
