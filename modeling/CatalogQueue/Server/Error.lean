/-!
What can go wrong when the run asks the media server for something.

An error has a message and a chain of causes below it. Written in a log, the message and the
causes are joined with `": "`; a failed submission shows the message alone.
-/

namespace CatalogQueue

/-- Why a request to the media server failed. -/
inductive ServerError where
  /-- The server could not be reached; `causes` says why, outermost first. -/
  | unavailable (causes : List String)
  /-- The server answered with a status that is not a success. -/
  | status (code : Nat) (url : String)
  /-- The server's document could not be read. -/
  | invalidResponse (detail : String)
  /-- A catalog node is neither a folder nor a video. -/
  | unhandledNode (kind : String)
  deriving DecidableEq, Inhabited, Repr

namespace ServerError

def message : ServerError → String
  | .unavailable causes => "PlayOn server unavailable: " ++ causes.headD ""
  | .status code url => "PlayOn server returned HTTP " ++ toString code ++ " for " ++ url
  | .invalidResponse detail => "Invalid PlayOn response: " ++ detail
  | .unhandledNode kind => "Unhandled node type: " ++ kind

def causes : ServerError → List String
  | .unavailable causes => causes
  | .invalidResponse detail => [detail]
  | _ => []

def chain (e : ServerError) : List String := e.message :: e.causes

def unreachableCauses (url : String) : List String :=
  ["error sending request for url (" ++ url ++ ")", "client error (Connect)",
   "tcp connect error", "Network is unreachable (os error 101)"]

end ServerError

end CatalogQueue
