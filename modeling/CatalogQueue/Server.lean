import CatalogQueue.Catalog
import CatalogQueue.Url

/-!
The media server as the run sees it: five requests, each answered or refused as a function of
the request and of the requests sent before it.
-/

namespace CatalogQueue

def rootUrl : String := "/data/data.xml"

/-- A call the run makes to the server. -/
inductive Request where
  | catalog
  | items (url : String)
  | search (url term : String)
  | details (url : String)
  | submit (url : String)
  deriving DecidableEq, Inhabited, Repr

/-- The server's answer to a submission. -/
inductive Submission where
  | accepted
  | alreadyQueued
  | noQueueLink
  | refused
  deriving DecidableEq, Inhabited, Repr

/-- A media server: its answers, each given the requests sent before it (oldest first), and
the targets each call delivers to it. -/
structure Server where
  catalog : List Request → Except ServerError Item
  items : List Request → String → Except ServerError (List Item)
  search : List Request → String → String → Except ServerError (List Item)
  details : List Request → String → Except ServerError MediaInfo
  submit : List Request → MediaInfo → Except ServerError Submission
  received : Request → List String

namespace Server

/-- The error of a call to `relative` on a server at `host:port` that the network cannot
reach. -/
def lost (host : String) (port : Nat) (relative : String) : ServerError :=
  .unavailable (ServerError.unreachableCauses (Url.fullUrl host port relative))

/-- A server at `host:port` that the network cannot reach. -/
def unreachable (host : String) (port : Nat) : Server where
  catalog _ := .error (lost host port rootUrl)
  items _ url := .error (lost host port url)
  search _ url term := .error (lost host port (Url.searchUrl url term))
  details _ url := .error (lost host port url)
  submit _ d :=
    if d.playLaterUrl.isEmpty then .ok .noQueueLink else .error (lost host port d.playLaterUrl)
  received _ := []

end Server

end CatalogQueue
