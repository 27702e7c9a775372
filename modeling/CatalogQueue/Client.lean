import CatalogQueue.Server
import CatalogQueue.Text.Blank

/-!
The client of a media server: each request fetches the document at a relative address and
reads it, and a submission reads the server's answer. How documents travel, and which request
targets reach the server, belong to the transport, a parameter here.
-/

namespace CatalogQueue

/-- The answer to a queue request: its status text and its message. -/
structure QueueReply where
  status : String := ""
  msg : String := ""
  deriving Inhabited

/-- What the client needs of the network: the document at each relative address, read as a
node; the answer at each queue link, read; and the request targets each call delivers. -/
structure Transport where
  document : String → Except ServerError Group
  queueReply : String → Except ServerError QueueReply
  received : Request → List String

def occursIn (pattern : List Char) : List Char → Bool
  | [] => pattern.isEmpty
  | c :: rest => pattern.isPrefixOf (c :: rest) || occursIn pattern rest

def QueueReply.submission (r : QueueReply) : Submission :=
  if Text.trimBlanks r.status.toList = "true".toList then .accepted
  else if occursIn "already".toList r.msg.toList then .alreadyQueued
  else .refused

namespace Transport

def server (t : Transport) : Server where
  catalog _ := t.document rootUrl >>= Group.toItem
  items _ url := t.document url >>= Group.toChildren
  search _ url term := t.document (Url.searchUrl url term) >>= Group.toChildren
  details _ url := Group.toDetails <$> t.document url
  submit _ d :=
    if d.playLaterUrl.isEmpty then .ok .noQueueLink
    else QueueReply.submission <$> t.queueReply d.playLaterUrl
  received := t.received

def unreachable (host : String) (port : Nat) : Transport where
  document url := .error (Server.lost host port url)
  queueReply url := .error (Server.lost host port url)
  received _ := []

/-- A server that the network cannot reach is the client over a transport that reaches
nothing. -/
theorem server_unreachable (host : String) (port : Nat) :
    (unreachable host port).server = Server.unreachable host port := by
  simp only [server, unreachable, Server.unreachable]
  congr

end Transport

example : QueueReply.submission { status := " true\n" } = .accepted := by decide

example : QueueReply.submission { status := "false", msg := "Video already in queue" } =
    .alreadyQueued := by decide

end CatalogQueue
