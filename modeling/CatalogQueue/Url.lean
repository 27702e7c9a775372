/-!
Addresses on the media server: absolute addresses from relative ones, and the address of a
search, whose criteria are percent-encoded by an encoder given as a parameter (`Encodes` is its
documented behaviour; `percentEncode` is the one the program uses).
-/

namespace CatalogQueue.Url

def hexDigit (n : Nat) : Char := Char.ofNat (if n < 10 then 0x30 + n else 0x41 + n - 10)

/-- Whether a byte stands for itself in an encoded text. -/
def isUnreserved (b : UInt8) : Bool :=
  let n := b.toNat
  (0x41 ≤ n && n ≤ 0x5A) || (0x61 ≤ n && n ≤ 0x7A) || (0x30 ≤ n && n ≤ 0x39) ||
    n == 0x2D || n == 0x5F || n == 0x2E || n == 0x7E

def encodeByte (b : UInt8) : List Char :=
  if isUnreserved b then [Char.ofNat b.toNat]
  else ['%', hexDigit (b.toNat / 16), hexDigit (b.toNat % 16)]

/-- What an encoder of search criteria does: it percent-encodes the UTF-8 bytes of a text, every
byte outside `A-Z a-z 0-9 - _ . ~` as `%XX` with upper-case hexadecimal digits. -/
def Encodes (encode : String → String) : Prop :=
  ∀ s, (encode s).toList = s.toUTF8.data.toList.flatMap encodeByte

def percentEncode (s : String) : String :=
  String.ofList (s.toList.flatMap fun c => (String.utf8EncodeChar c).flatMap encodeByte)

def fullUrl (host : String) (port : Nat) (relative : String) : String :=
  "http://" ++ host ++ ":" ++ toString port ++ "/" ++
    String.ofList (relative.toList.dropWhile (· == '/'))

/-- The address of a search for `term` inside the folder at `url`, its criteria encoded by
`encode`. -/
def searchUrlWith (encode : String → String) (url term : String) : String :=
  url ++ "&searchterm=" ++ encode ("dc:description contains " ++ term) ++ ")"

def searchUrl (url term : String) : String := searchUrlWith percentEncode url term

example : searchUrl "/a" "100% café" =
    "/a&searchterm=dc%3Adescription%20contains%20100%25%20caf%C3%A9)" := by decide

end CatalogQueue.Url
