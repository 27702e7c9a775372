import CatalogQueue.Span.Text
/-!
The detail fields of a video and the two values derived from them: its runtime, read from the
runtime text with a five-hour fallback, and its queue key, the name under which record lists
keep it. The key is `series - title` with every character that file names cannot hold turned
into `_`, and leading spaces and dashes dropped.
-/

namespace CatalogQueue

/-- Detail fields of a video as the media server reports them. -/
structure MediaInfo where
  series : String := ""
  title : String := ""
  runTime : String := ""
  description : String := ""
  airDate : String := ""
  artUrl : String := ""
  mediaUrl : String := ""
  playLaterName : String := ""
  playLaterUrl : String := ""
  deriving DecidableEq, Inhabited

namespace MediaInfo

def unsafeKeyChars : List Char := ['<', '>', ':', '"', '/', '\\', '|', '?', '*']

/-- A character of a queue key: unsafe characters become `_`. -/
def keyChar (c : Char) : Char := if unsafeKeyChars.contains c then '_' else c

/-- The runtime of a video, or `unknownRuntime` when its runtime text is not a span. -/
def runtime (m : MediaInfo) : Span := (Span.parse? m.runTime).getD unknownRuntime

def queueKey (m : MediaInfo) : String :=
  let raw := (m.series ++ " - " ++ m.title).toList.map keyChar
  String.ofList (raw.dropWhile fun c => c == ' ' || c == '-')

end MediaInfo

example : ({ series := "a/b", title := "c\\d" } : MediaInfo).queueKey = "a_b - c_d" := by decide

end CatalogQueue
