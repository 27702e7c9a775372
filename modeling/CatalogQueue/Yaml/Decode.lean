import CatalogQueue.Yaml.Document
import CatalogQueue.Yaml.Scalar
import CatalogQueue.Text.Quoted

/-!
Decoding the events of a document into values: a cursor that knows the path of the value it
decodes, and the messages of what goes wrong, each placed at the innermost value being decoded.
-/

namespace CatalogQueue.Yaml

inductive Path where
  | root
  | index (parent : Path) (i : Nat)
  | key (parent : Path) (k : String)
  | alias (parent : Path)
  | unknown (parent : Path)
  deriving Inhabited

/-- A path as written before a message: `.` for the document, `passes[0].actions`,
`settings.limits`, `?` for a value under a key that is not a scalar. -/
def Path.render : Path → String
  | .root => "."
  | .index p i => p.render ++ "[" ++ toString i ++ "]"
  | .key p k => (match p with | .root => "" | _ => p.render ++ ".") ++ k
  | .alias p => p.render
  | .unknown p => (match p with | .root => "" | _ => p.render ++ ".") ++ "?"

inductive Unexpected where
  | bool (b : Bool)
  | unsigned (n : Nat)
  | signed (i : Int)
  | float (x : Binary64)
  | str (s : String)
  | unit
  | option
  | seq
  | map
  | enumValue
  | other (text : String)
  deriving Inhabited

def Unexpected.render : Unexpected → String
  | .bool b => "boolean `" ++ toString b ++ "`"
  | .unsigned n => "integer `" ++ toString n ++ "`"
  | .signed i => "integer `" ++ toString i ++ "`"
  | .float x => "floating point `" ++ x.renderWithPoint ++ "`"
  | .str s => "string " ++ Text.quoted s
  | .unit => "unit value"
  | .option => "Option value"
  | .seq => "sequence"
  | .map => "map"
  | .enumValue => "enum"
  | .other t => t

namespace Message

def invalidType (u : Unexpected) (expected : String) : String :=
  "invalid type: " ++ u.render ++ ", expected " ++ expected

def invalidValue (u : Unexpected) (expected : String) : String :=
  "invalid value: " ++ u.render ++ ", expected " ++ expected

def invalidLength (n : Nat) (expected : String) : String :=
  "invalid length " ++ toString n ++ ", expected " ++ expected

def oneOf (names : List String) : String :=
  let q (n : String) := "`" ++ n ++ "`"
  match names with
  | [a] => q a
  | [a, b] => q a ++ " or " ++ q b
  | _ => "one of " ++ ", ".intercalate (names.map q)

def unknownVariant (v : String) (names : List String) : String :=
  if names.isEmpty then "unknown variant `" ++ v ++ "`, there are no variants"
  else "unknown variant `" ++ v ++ "`, expected " ++ oneOf names

def missingField (f : String) : String := "missing field `" ++ f ++ "`"

def duplicateField (f : String) : String := "duplicate field `" ++ f ++ "`"

end Message

inductive DecodeError where
  | message (text : String) (place : Option (Mark × Path))
  | malformed (p : Problem)
  | endOfStream
  | moreThanOneDocument
  | recursionLimit (m : Mark)
  | repetitionLimit
  | unknownAnchor (m : Mark)
  deriving Inhabited

/-- ` at line L column C`, or nothing for a mark at the very start. -/
def markSuffix (m : Mark) : String := if m.isOrigin then "" else " at " ++ m.render

def DecodeError.render : DecodeError → String
  | .message t none => t
  | .message t (some (m, p)) =>
    let path := p.render
    (if path == "." then "" else path ++ ": ") ++ t ++ markSuffix m
  | .malformed p => p.message
  | .endOfStream => "EOF while parsing a value"
  | .moreThanOneDocument =>
    "deserializing from YAML containing more than one document is not supported"
  | .recursionLimit m => "recursion limit exceeded" ++ markSuffix m
  | .repetitionLimit => "repetition limit exceeded"
  | .unknownAnchor m => "unknown anchor" ++ markSuffix m

/-- What a decoder reads from: the document, the path of the value, and how many collections
it may still enter. -/
structure Scope where
  doc : Document
  path : Path := .root
  depth : Nat := 128

structure Cursor where
  pos : Nat := 0
  jumps : Nat := 0

abbrev DecodeM := ReaderT Scope (StateT Cursor (Except DecodeError))

inductive Content where
  | bool (b : Bool)
  | unsigned (n : Nat)
  | signed (i : Int)
  | float (x : Binary64)
  | string (s : String)
  | unit
  | none
  | seq (items : List Content)
  | map (entries : List (Content × Content))
  deriving Inhabited

def Content.unexpected : Content → Unexpected
  | .bool b => .bool b
  | .unsigned n => .unsigned n
  | .signed i => .signed i
  | .float x => .float x
  | .string s => .str s
  | .unit => .unit
  | .none => .option
  | .seq _ => .seq
  | .map _ => .map

def Resolved.unexpected (text : String) : Resolved → Unexpected
  | .null => .unit
  | .bool b => .bool b
  | .unsigned n => .unsigned n
  | .signed i => .signed i
  | .wideUnsigned n => .other ("integer `" ++ toString n ++ "` as u128")
  | .wideSigned i => .other ("integer `" ++ toString i ++ "` as i128")
  | .float x => .float x
  | .text => .str text

/-- The meaning of a scalar with its tag: the core schema tags demand a value of their kind,
a local tag on a plain scalar and a plain scalar without tag are resolved, anything else is
text. A scalar that does not fit its tag gives the message of why. -/
def scalarMeaning (tag : Option Tag) (text : String) (style : ScalarStyle) :
    Except String Resolved :=
  match tag with
  | some t =>
    if t == Tag.bool then
      match Scalar.boolOf? text with
      | some b => .ok (.bool b)
      | none => .error (Message.invalidValue (.str text) "a boolean")
    else if t == Tag.int then
      match Scalar.intOf? text with
      | some r => .ok r
      | none => .error (Message.invalidValue (.str text) "an integer")
    else if t == Tag.float then
      match Scalar.floatOf? text with
      | some x => .ok (.float x)
      | none => .error (Message.invalidValue (.str text) "a float")
    else if t == Tag.null then
      if Scalar.isNullWord text then .ok .null
      else .error (Message.invalidValue (.str text) "null")
    else if t.isLocal && style == .plain then .ok (Scalar.resolve text)
    else .ok .text
  | none => if style == .plain then .ok (Scalar.resolve text) else .ok .text

/-- A local tag names an enum variant: `!name`, or `!` alone. A tag whose name is not UTF-8
text names none. -/
def variantTag? (tag : Option Tag) : Option String :=
  tag.bind fun t =>
    match t.octets with
    | 0x21 :: rest => if rest.isEmpty then t.text? else Tag.text? ⟨rest⟩
    | _ => none

def invalidTypeOf (e : Entry) (expected : String) : DecodeError :=
  match e with
  | .scalar tag text style =>
    match scalarMeaning tag text style with
    | .error msg => .message msg none
    | .ok r => .message (Message.invalidType (r.unexpected text) expected) none
  | .sequenceStart _ => .message (Message.invalidType .seq expected) none
  | .mappingStart _ => .message (Message.invalidType .map expected) none
  | _ => .endOfStream

namespace Decode

def fail {α : Type} (msg : String) : DecodeM α := throw (.message msg none)

/-- The next event, left in place. Past the last event: the problem that ended the document,
or the end of the stream. -/
def peek : DecodeM (Entry × Mark) := do
  let s ← read
  match s.doc.entries[(← get).pos]? with
  | some e => pure e
  | none => throw <| match s.doc.fault with
    | some (.malformed p) => .malformed p
    | some (.unknownAnchor m) => .unknownAnchor m
    | none => .endOfStream

def advance : DecodeM Unit := modify fun c => { c with pos := c.pos + 1 }

def next : DecodeM (Entry × Mark) := do
  let e ← peek
  advance
  pure e

def fixAt {α : Type} (m : Mark) (k : DecodeM α) : DecodeM α := do
  let p := (← read).path
  tryCatch k fun e => throw <| match e with
    | .message t none => .message t (some (m, p))
    | e => e

def withPath {α : Type} (f : Path → Path) (k : DecodeM α) : DecodeM α :=
  withReader (fun s => { s with path := f s.path }) k

/-- Decode the value under a mapping key: at the key's text, or at `?` for a key that is not
a scalar. -/
def underKey {α : Type} (key? : Option String) (k : DecodeM α) : DecodeM α :=
  withPath (fun p => match key? with | some t => .key p t | none => .unknown p) k

def enter {α : Type} (m : Mark) (k : DecodeM α) : DecodeM α := do
  if (← read).depth == 0 then throw (.recursionLimit m)
  withReader (fun s => { s with depth := s.depth - 1 }) k

def jump {α : Type} (id : Nat) (k : DecodeM α) : DecodeM α := do
  let s ← read
  let c ← get
  let jumps := c.jumps + 1
  if jumps > s.doc.entries.size * 100 then throw .repetitionLimit
  match s.doc.anchors.lookup id with
  | none => throw .endOfStream
  | some target =>
    set { c with jumps, pos := target }
    let r ← withPath .alias k
    modify fun c' => { c' with pos := c.pos }
    pure r

/-- Decode the next node with `f`, which gets its first event and mark; an alias is followed
first. Messages without place get the node's mark and path. -/
def node {α : Type} (f : Entry → Mark → DecodeM α) : DecodeM α := do
  let (e, m) ← next
  match e with
  | .alias id =>
    fixAt m <| jump id do
      let (e, m) ← next
      fixAt m (f e m)
  | _ => fixAt m (f e m)

def budget : DecodeM Nat := do return (← read).doc.entries.size + 1

def skipNode : DecodeM Unit := do
  let mut open_ := 0
  for _ in [0:(← budget)] do
    let (e, _) ← next
    match e with
    | .sequenceStart _ | .mappingStart _ => open_ := open_ + 1
    | .sequenceEnd | .mappingEnd => open_ := open_ - 1
    | _ => pure ()
    if open_ == 0 then break

def walkItems {β : Type} (start : Nat) (init : β) (step : β → DecodeM β) : DecodeM β := do
  let mut acc := init
  let mut i := start
  for _ in [0:(← budget)] do
    let (e, _) ← peek
    match e with
    | .sequenceEnd | .void => break
    | _ =>
      acc ← withPath (.index · i) (step acc)
      i := i + 1
  return acc

/-- Walk the entries of a mapping up to its end; `step` decodes a key and its value, and is
told the key's text when the key is a scalar. -/
def walkEntries {β : Type} (init : β) (step : β → Option String → DecodeM β) : DecodeM β := do
  let mut acc := init
  for _ in [0:(← budget)] do
    let (e, _) ← peek
    match e with
    | .mappingEnd | .void => break
    | .scalar _ t _ => acc ← step acc (some t)
    | _ => acc ← step acc none
  return acc

/-- Whether an event stands for an empty collection: no node at all, or an empty plain
scalar. -/
def isEmptyNode : Entry → Bool
  | .void => true
  | .scalar _ t .plain => t.isEmpty
  | _ => false

/-! ### Values -/

def text (expected : String) : DecodeM String :=
  node fun e _ => match e with
    | .scalar _ t _ => pure t
    | _ => throw (invalidTypeOf e expected)

/-- Whether a scalar may be read as a value of the core schema tag `tag`: a plain scalar, or
a literal block scalar with that tag. -/
def plainOrTagged (tag : Tag) (tag? : Option Tag) (style : ScalarStyle) : Bool :=
  style == .plain || (style == .literal && tag? == some tag)

def bool : DecodeM Bool :=
  node fun e _ => match e with
    | .scalar tag t style =>
      match (if plainOrTagged Tag.bool tag style then Scalar.boolOf? t else none) with
      | some b => pure b
      | none => throw (invalidTypeOf e "a boolean")
    | _ => throw (invalidTypeOf e "a boolean")

/-- A non-negative integer read as 64 bits, then checked against `max`; `expected` names the
width (`u16`, `u32`). -/
def unsigned (max : Nat) (expected : String) : DecodeM Nat :=
  node fun e _ => match e with
    | .scalar tag t style =>
      match (if plainOrTagged Tag.int tag style then Scalar.unsignedOf? Scalar.max64 t else none) with
      | some n =>
        if n ≤ max then pure n else fail (Message.invalidValue (.unsigned n) expected)
      | none => throw (invalidTypeOf e expected)
    | _ => throw (invalidTypeOf e expected)

/-- Whether the next node is absent: a plain `null`, `~` or empty scalar, a plain scalar
tagged null, or nothing at all. A plain scalar tagged null that does not spell null (the empty
scalar included) is refused. -/
def absence : Entry → Except String Bool
  | .scalar tag t style =>
    if style != .plain then .ok false
    else match tag with
      | some tg =>
        if tg != Tag.null then .ok false
        else if Scalar.isNullWord t then .ok true
        else .error (Message.invalidValue (.str t) "null")
      | none => .ok (t.isEmpty || Scalar.isNullWord t)
  | .sequenceStart _ | .mappingStart _ => .ok false
  | _ => .ok true

/-- An optional value: absent, or decoded by `inner`. Deciding which does not enter the node,
so a refusal there takes the place of the decoder running around the option. -/
def option {α : Type} (inner : DecodeM α) : DecodeM (Option α) := do
  let here : DecodeM (Option α) := do
    let (e, _) ← peek
    match absence e with
    | .error msg => fail msg
    | .ok true =>
      advance
      pure none
    | .ok false => some <$> inner
  let (e, _) ← peek
  match e with
  | .alias id =>
    advance
    jump id here
  | _ => here

/-- A sequence, whose items are decoded by `step` in order; an empty plain scalar or nothing
counts as an empty sequence. -/
def sequence {β : Type} (expected : String) (init : β) (step : β → DecodeM β) : DecodeM β :=
  node fun e m => match e with
    | .sequenceStart _ => enter m do
      let r ← walkItems 0 init step
      discard next
      pure r
    | e => if isEmptyNode e then pure init else throw (invalidTypeOf e expected)

/-- A mapping, whose entries are decoded by `step` in order; an empty plain scalar or nothing
counts as an empty mapping. -/
def mapping {β : Type} (expected : String) (init : β) (step : β → Option String → DecodeM β) :
    DecodeM β :=
  node fun e m => match e with
    | .mappingStart _ => enter m do
      let r ← walkEntries init step
      discard next
      pure r
    | e => if isEmptyNode e then pure init else throw (invalidTypeOf e expected)

def indexOf? (names : List String) (name : String) : Option Nat :=
  (names.zip (List.range names.length)).lookup name

/-- A record: a mapping whose keys name fields. Field `i` of `names` is decoded by `field i`,
which returns how to set it; a field given twice is refused, unknown fields are skipped, and
fields not given keep their value in `init`. -/
def record {σ : Type} (expected : String) (names : List String) (init : σ)
    (field : Nat → DecodeM (σ → σ)) : DecodeM σ := do
  let (r, _) ← mapping expected (init, ([] : List Nat)) fun (acc, seen) key? => do
    let name ← text "field identifier"
    match indexOf? names name with
    | some i =>
      if seen.contains i then fail (Message.duplicateField name)
      let set ← underKey key? (field i)
      pure (set acc, i :: seen)
    | none =>
      underKey key? skipNode
      pure (acc, seen)
  pure r

def unitValue : DecodeM Unit :=
  node fun e _ => match e with
    | .scalar _ t style =>
      if style == .plain && (t.isEmpty || Scalar.isNullWord t) then pure ()
      else fail (Message.invalidValue (.str t) "null")
    | .void => pure ()
    | e => throw (invalidTypeOf e "unit")

/-- A variant without data, named by a scalar (`memory`) or by a local tag on an empty node
(`!memory`). Returns the index of the variant in `names`. A tag that names no variant is refused
without a place of its own: the decoder running around it gives the message its place. -/
def unitVariant (names : List String) : DecodeM Nat := do
  let byName (v : String) : DecodeM Nat :=
    match indexOf? names v with
    | some i => pure i
    | none => fail (Message.unknownVariant v names)
  let here : DecodeM Nat := do
    let (e, m) ← peek
    let named : Option String := match e with
      | .scalar tag _ _ | .mappingStart tag | .sequenceStart tag => variantTag? tag
      | _ => none
    match named with
    | some v =>
      let i ← byName v
      unitValue
      pure i
    | none =>
      fixAt m do
        match e with
        | .scalar _ _ _ => byName (← text "variant identifier")
        | .mappingStart _ => fail (Message.invalidType .map "a YAML tag starting with '!'")
        | .sequenceStart _ => fail (Message.invalidType .seq "a YAML tag starting with '!'")
        | _ => throw .endOfStream
  let (e, m) ← peek
  match e with
  | .alias id =>
    advance
    fixAt m (jump id here)
  | _ => here

/-! ### Values of any kind -/

def contentOf (text : String) : Resolved → Except String Content
  | .null => .ok .unit
  | .bool b => .ok (.bool b)
  | .unsigned n => .ok (.unsigned n)
  | .signed i => .ok (.signed i)
  | .float x => .ok (.float x)
  | .text => .ok (.string text)
  | r => .error (Message.invalidType (r.unexpected text) "any value")

def enumInput : String := "untagged and internally tagged enums do not support enum input"

/-- A node of any kind as content; `child` decodes nested nodes, and is absent when no more
collections may be entered. -/
def contentWith (child : Option (DecodeM Content)) : DecodeM Content :=
  node fun e m => match e with
    | .scalar tag t style =>
      if (variantTag? tag).isSome then fail enumInput
      else match scalarMeaning tag t style with
        | .error msg => fail msg
        | .ok r => match contentOf t r with
          | .ok c => pure c
          | .error msg => fail msg
    | .sequenceStart tag =>
      if (variantTag? tag).isSome then fail enumInput
      else match child with
        | none => throw (.recursionLimit m)
        | some c => do
          let items ← walkItems 0 #[] fun acc => acc.push <$> c
          discard next
          pure (.seq items.toList)
    | .mappingStart tag =>
      if (variantTag? tag).isSome then fail enumInput
      else match child with
        | none => throw (.recursionLimit m)
        | some c => do
          let entries ← walkEntries #[] fun acc key? => do
            let k ← c
            let v ← underKey key? c
            pure (acc.push (k, v))
          discard next
          pure (.map entries.toList)
    | .void => pure .none
    | _ => throw .endOfStream

/-- A node of any kind as content, entering at most `depth` nested collections. -/
def contentAt : Nat → DecodeM Content
  | 0 => contentWith none
  | d + 1 => contentWith (some (withReader (fun s => { s with depth := d }) (contentAt d)))

def content : DecodeM Content := do contentAt (← read).depth

def variantName (names : List String) : DecodeM Nat :=
  node fun e _ => match e with
    | .scalar _ v _ =>
      match indexOf? names v with
      | some i => pure i
      | none => fail (Message.unknownVariant v names)
    | _ => throw (invalidTypeOf e "variant identifier")

/-- A value whose variant is named by the field `tagName` of a mapping (or by the first item
of a sequence), with the other entries (or items) kept as content. `expected` describes the
value in messages. -/
def tagged (expected tagName : String) (names : List String) : DecodeM (Nat × Content) :=
  node fun e m => match e with
    | .scalar tag t style =>
      if (variantTag? tag).isSome then fail (Message.invalidType .enumValue expected)
      else match scalarMeaning tag t style with
        | .error msg => fail msg
        | .ok r => fail (Message.invalidType (r.unexpected t) expected)
    | .sequenceStart tag =>
      if (variantTag? tag).isSome then fail (Message.invalidType .enumValue expected)
      else enter m do
        let (first, _) ← peek
        match first with
        | .sequenceEnd | .void => fail (Message.missingField tagName)
        | _ =>
          let v ← withPath (.index · 0) (variantName names)
          let rest ← walkItems 1 #[] fun acc => acc.push <$> content
          discard next
          pure (v, .seq rest.toList)
    | .mappingStart tag =>
      if (variantTag? tag).isSome then fail (Message.invalidType .enumValue expected)
      else enter m do
        let (v?, entries) ← walkEntries (none, #[]) fun (v?, acc) key? => do
          let k ← content
          match k with
          | .string s =>
            if s == tagName then
              if v?.isSome then fail (Message.duplicateField tagName)
              let v ← underKey key? (variantName names)
              return (some v, acc)
          | _ => pure ()
          let value ← underKey key? content
          pure (v?, acc.push (k, value))
        discard next
        match v? with
        | some v => pure (v, .map entries.toList)
        | none => fail (Message.missingField tagName)
    | .void => fail (Message.invalidType .option expected)
    | _ => throw .endOfStream

/-- Decode the first document of a text with `d`. A problem of the text that cut the document
short is reported when decoding did not stop earlier; a second document is refused. -/
def run {α : Type} (d : DecodeM α) (text : String) : Except DecodeError α :=
  let stream := Stream.read text
  match (d.run { doc := stream.first }).run {} with
  | .error e => .error e
  | .ok (a, _) =>
    match stream.first.fault with
    | some (.malformed p) => .error (.malformed p)
    | some (.unknownAnchor m) => .error (.unknownAnchor m)
    | none => if stream.more then .error .moreThanOneDocument else .ok a

end Decode

end CatalogQueue.Yaml
