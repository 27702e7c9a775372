import CatalogQueue.Media
import CatalogQueue.Rules.Basic

/-!
The record list: the videos already handled, by queue key. The memory store keeps the keys in
the order they came; the marker store keeps one empty file per key and lists them in byte order.
-/

namespace CatalogQueue

def markerSuffix : String := ".playpass.skip"

/-- The longest file name, in bytes, that a directory takes. -/
def maxNameBytes : Nat := 255

inductive RecordStore where
  | memory
  | markers
  deriving DecidableEq, Inhabited, Repr

inductive MarkerFault where
  | nameTooLong
  | nulByte
  deriving DecidableEq, Inhabited, Repr

def MarkerFault.message : MarkerFault → String
  | .nameTooLong => "File name too long (os error 36)"
  | .nulByte => "file name contained an unexpected NUL byte"

/-- Why a record list cannot be opened, or a video cannot be recorded. -/
inductive RecordError where
  | missingDataSource
  | refused (key : String) (fault : MarkerFault)
  deriving DecidableEq, Inhabited, Repr

def RecordError.message : RecordError → String
  | .missingDataSource => "Queue List data source is not specified"
  | .refused key fault => "Failed to record " ++ key ++ ": " ++ fault.message

/-- The text of a record list error followed by its cause: a refused name is caused by what
the file system says. -/
def RecordError.chain : RecordError → List String
  | .missingDataSource => [RecordError.missingDataSource.message]
  | .refused key fault => [(RecordError.refused key fault).message, fault.message]

def RecordError.kind : RecordError → String
  | .missingDataSource => "MissingDataSource"
  | .refused _ _ => "Io"

/-- The file system's verdict on the marker name of `key`: a NUL byte is found before the
length is looked at. -/
def markerFault? (key : String) : Option MarkerFault :=
  if key.toList.contains '\x00' then some .nulByte
  else if (key ++ markerSuffix).utf8ByteSize > maxNameBytes then some .nameTooLong
  else none

/-- A record list: its store and the keys recorded, oldest first, each once. -/
structure RecordList where
  store : RecordStore
  keys : List String := []
  deriving Inhabited

namespace RecordList

def empty (store : RecordStore) : RecordList := { store }

/-- The record list that the settings ask for: a data source is needed for markers. -/
def open? (s : ListSettings) : Except RecordError RecordList :=
  match s.provider, s.dataSource with
  | .memory, _ => .ok (empty .memory)
  | .file, some _ => .ok (empty .markers)
  | .file, none => .error .missingDataSource

def containsKey (l : RecordList) (key : String) : Bool := l.keys.contains key

def contains (l : RecordList) (m : MediaInfo) : Bool := l.containsKey m.queueKey

/-- Record a key; a key recorded before changes nothing. -/
def addKey (l : RecordList) (key : String) : Except RecordError RecordList :=
  if l.containsKey key then .ok l
  else match l.store, markerFault? key with
    | .markers, some fault => .error (.refused key fault)
    | _, _ => .ok { l with keys := l.keys ++ [key] }

def add (l : RecordList) (m : MediaInfo) : Except RecordError RecordList := l.addKey m.queueKey

/-- The recorded keys as the store shows them: in recording order in memory, in byte order
as markers. -/
def listing (l : RecordList) : List String :=
  match l.store with
  | .memory => l.keys
  | .markers => l.keys.mergeSort (fun a b => decide (a ≤ b))

@[simp] theorem containsKey_empty (store : RecordStore) (key : String) :
    (empty store).containsKey key = false := rfl

theorem containsKey_addKey {l l' : RecordList} {key : String} (h : l.addKey key = .ok l')
    (k : String) : l'.containsKey k = (l.containsKey k || k == key) := by
  unfold addKey at h
  by_cases hc : l.containsKey key
  · simp only [hc, if_true, Except.ok.injEq] at h
    subst h
    by_cases hk : k = key
    · subst hk; simp [hc]
    · simp [hk]
  · simp only [hc, Bool.false_eq_true, if_false] at h
    split at h
    · cases h
    · cases h
      by_cases hk : k = key <;> simp [containsKey, hk]

end RecordList

end CatalogQueue
