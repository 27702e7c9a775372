import CatalogQueue.Yaml.Token

/-!
Events of YAML text: the flat sequence of node starts, ends and scalars that a reader emits
and a decoder consumes. Each event carries the mark it starts at; decoding problems are
reported there.
-/

namespace CatalogQueue.Yaml

/-- A resolved tag, as the octets it is spelled with. A `%` escape in a tag spells one octet,
so a tag need not be UTF-8 text. -/
structure Tag where
  octets : List UInt8
  deriving DecidableEq, Inhabited, Repr

/-- The anchor and the resolved tag written before a node, if any. -/
structure NodeProps where
  anchor : Option String := none
  tag : Option Tag := none
  deriving Inhabited, Repr

/-- The events of a YAML stream. -/
inductive Event where
  | streamStart
  | streamEnd
  | documentStart
  | documentEnd
  | alias (name : String)
  | scalar (props : NodeProps) (text : String) (style : ScalarStyle)
  | sequenceStart (props : NodeProps)
  | sequenceEnd
  | mappingStart (props : NodeProps)
  | mappingEnd
  deriving Inhabited, Repr

namespace Tag

def ofText (s : String) : Tag := ⟨s.toUTF8.toList⟩

def text? (t : Tag) : Option String := String.fromUTF8? (ByteArray.mk t.octets.toArray)

def isLocal (t : Tag) : Bool := t.octets.head? == some 0x21

def bool : Tag := ofText "tag:yaml.org,2002:bool"
def int : Tag := ofText "tag:yaml.org,2002:int"
def float : Tag := ofText "tag:yaml.org,2002:float"
def null : Tag := ofText "tag:yaml.org,2002:null"

end Tag

end CatalogQueue.Yaml
