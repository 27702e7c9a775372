import CatalogQueue.Yaml.Event.Reader

/-!
Documents as a decoder sees them: the node events of one document, with anchors numbered and
aliases referring to those numbers, and the problem that ended the document early, if any.
-/

namespace CatalogQueue.Yaml

inductive Entry where
  | alias (id : Nat)
  | scalar (tag : Option Tag) (text : String) (style : ScalarStyle)
  | sequenceStart (tag : Option Tag)
  | sequenceEnd
  | mappingStart (tag : Option Tag)
  | mappingEnd
  | void
  deriving Inhabited

inductive Fault where
  | malformed (p : Problem)
  | unknownAnchor (m : Mark)
  deriving Inhabited

/-- A loaded document: its events with their marks, the problem that ended it early, and for
each anchor number the index of the event it anchors. -/
structure Document where
  entries : Array (Entry × Mark) := #[]
  fault : Option Fault := none
  anchors : List (Nat × Nat) := []
  deriving Inhabited

def assocSet {α : Type} [BEq α] (xs : List (α × Nat)) (k : α) (v : Nat) : List (α × Nat) :=
  if xs.any (·.1 == k) then xs.map fun p => if p.1 == k then (k, v) else p else xs ++ [(k, v)]

structure Loading where
  doc : Document := {}
  names : List (String × Nat) := []

def Loading.anchor (l : Loading) : Option String → Loading
  | none => l
  | some name =>
    let id := l.names.length
    let names := assocSet l.names name id
    { l with names, doc := { l.doc with anchors := assocSet l.doc.anchors id l.doc.entries.size } }

def Loading.add (l : Loading) (e : Entry) (m : Mark) : Loading :=
  { l with doc := { l.doc with entries := l.doc.entries.push (e, m) } }

inductive Loaded where
  | document (d : Document) (reader : Option Reader)
  | finished

/-- Load the next document from a reader. `first` tells whether it is the stream's first
document, which is never missing: an empty stream gives a document of one `void` event. -/
def loadDocument (r : Reader) (first : Bool) : Loaded := Id.run do
  let mut reader := r
  let mut l : Loading := {}
  for _ in [0:16 * (r.lexer.budget + 4)] do
    match Reader.next.run reader with
    | .error p => return .document { l.doc with fault := some (.malformed p) } none
    | .ok ((event, m), next) =>
      reader := next
      match event with
      | .streamStart | .documentStart => pure ()
      | .streamEnd =>
        if first then
          let whole := if l.doc.entries.isEmpty then l.add .void m else l
          return .document whole.doc none
        else return .finished
      | .documentEnd => return .document l.doc (some reader)
      | .alias name =>
        match l.names.lookup name with
        | some id => l := l.add (.alias id) m
        | none => return .document { l.doc with fault := some (.unknownAnchor m) } none
      | .scalar props text style => l := (l.anchor props.anchor).add (.scalar props.tag text style) m
      | .sequenceStart props => l := (l.anchor props.anchor).add (.sequenceStart props.tag) m
      | .sequenceEnd => l := l.add .sequenceEnd m
      | .mappingStart props => l := (l.anchor props.anchor).add (.mappingStart props.tag) m
      | .mappingEnd => l := l.add .mappingEnd m
  return .document l.doc none

/-- A stream read for decoding: its first document, and whether the stream goes on with
another document (or with a problem after the first document). -/
structure Stream where
  first : Document
  more : Bool

def Stream.read (text : String) : Stream :=
  match loadDocument (Reader.start text) true with
  | .document d (some rest) =>
    match loadDocument rest false with
    | .document .. => { first := d, more := true }
    | .finished => { first := d, more := false }
  | .document d none => { first := d, more := false }
  | .finished => { first := {}, more := false }

end CatalogQueue.Yaml
