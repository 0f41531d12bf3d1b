import Stepwise.Yaml.Moment
import Stepwise.Yaml.Tag
import Stepwise.Yaml.Token

namespace Stepwise.Yaml

/-- A document as a tree of tagged nodes. -/
inductive Node where
  | scalar (tag : Tag) (text : String)
  | sequence (tag : Tag) (items : List Node)
  | mapping (tag : Tag) (entries : List (Node × Node))

namespace Node

/-- The tag of a plain scalar that has none of its own. -/
def plainTag (s : String) : Tag :=
  let cs := s.toList
  if s == "=" then .equals
  else if s == "<<" then .merge
  else if Tag.isTruth s then .bool
  else if Tag.isNull s then .null
  else if Tag.isFloat cs then .float
  else if Tag.isInteger cs then .int
  else if MomentText.isPlainMoment cs then .moment
  else .text

/-- Nothing, where a node could stand. -/
def absent : Node := .scalar .null ""

/-- What precedes a node: its name for later use, and its tag. -/
structure Properties where
  anchor : Option String
  tag : Option String

/-- The state of a document that is being read: what is left of its tokens, the prefixes of tags,
    and the nodes that have names, which are missing while the node itself is being read. -/
structure Reading where
  tokens : List Token
  prefixes : List (String × String)
  anchors : List (String × Option Node)

namespace Reading

def head (r : Reading) : Option Token := r.tokens.head?

def next (r : Reading) : Reading := { r with tokens := r.tokens.tail }

def isAt (r : Reading) (tokens : List Token) : Bool :=
  match r.tokens with
  | t :: _ => tokens.contains t
  | [] => true

/-- Takes a token that has to come now. -/
def expect (r : Reading) (token : Token) : Except Fault Reading :=
  if r.head == some token then .ok r.next else .error .malformed

/-- The full name of a tag. -/
def resolve (r : Reading) (raw : RawTag) : Except Fault String :=
  match raw.handle with
  | none => .ok raw.suffix
  | some handle => match r.prefixes.lookup handle with
    | some text => .ok (text ++ raw.suffix)
    | none => .error .malformed

/-- A name may be given once. -/
def declare (r : Reading) (anchor : Option String) : Except Fault Reading :=
  match anchor with
  | none => .ok r
  | some name =>
    if (r.anchors.lookup name).isSome then .error .malformed
    else .ok { r with anchors := (name, none) :: r.anchors }

def define (r : Reading) (anchor : Option String) (node : Node) : Reading :=
  match anchor with
  | none => r
  | some name => { r with anchors := (name, some node) :: r.anchors }

/-- The name and the tag before a node, in either order. -/
def properties (r : Reading) : Except Fault (Properties × Reading) := do
  match r.tokens with
  | .anchor name :: .tag raw :: rest =>
    return (⟨some name, some (← r.resolve raw)⟩, { r with tokens := rest })
  | .tag raw :: .anchor name :: rest =>
    return (⟨some name, some (← r.resolve raw)⟩, { r with tokens := rest })
  | .anchor name :: rest => return (⟨some name, none⟩, { r with tokens := rest })
  | .tag raw :: rest => return (⟨none, some (← r.resolve raw)⟩, { r with tokens := rest })
  | _ => return (⟨none, none⟩, r)

end Reading

private def scalarTag (tag : Option String) (text : String) (isPlain : Bool) : Tag :=
  match tag with
  | none => if isPlain then plainTag text else .text
  | some "!" => plainTag text
  | some name => .ofName name

private def collectionTag (tag : Option String) (common : Tag) : Tag :=
  match tag with
  | none | some "!" => common
  | some name => .ofName name

/-- Where a node stands: in a block, after a key of a block, or in brackets. -/
inductive Spot where
  | block
  | afterKey
  | flow
deriving DecidableEq

mutual

/-- A node. Each call takes a token or is one of a few between two tokens, which bounds `fuel`. -/
def read (fuel : Nat) (spot : Spot) (r : Reading) : Except Fault (Node × Reading) := do
  match fuel with
  | 0 => throw .malformed
  | fuel + 1 =>
    if let some (.alias name) := r.head then
      match r.anchors.lookup name with
      | some (some node) => return (node, r.next)
      | _ => throw .malformed
    else
      let (properties, r) ← r.properties
      let r ← r.declare properties.anchor
      let (node, r) ← readContent fuel spot properties r
      return (node, r.define properties.anchor node)

def readContent (fuel : Nat) (spot : Spot) (p : Properties) (r : Reading) :
    Except Fault (Node × Reading) := do
  match fuel with
  | 0 => throw .malformed
  | fuel + 1 =>
    let sequenceTag := collectionTag p.tag .sequence
    let mappingTag := collectionTag p.tag .mapping
    match r.head with
    | some .blockEntry =>
      if spot == .afterKey then
        let (items, r) ← readEntries fuel [.key, .value] r
        return (.sequence sequenceTag items, r)
      else empty p r
    | some (.scalar text isPlain) => return (.scalar (scalarTag p.tag text isPlain) text, r.next)
    | some .flowSequenceStart =>
      let (items, r) ← readFlowItems fuel true r.next
      return (.sequence sequenceTag items, r)
    | some .flowMappingStart =>
      let (entries, r) ← readFlowEntries fuel true r.next
      return (.mapping mappingTag entries, r)
    | some .blockSequenceStart =>
      if spot == .flow then empty p r
      else
        let (items, r) ← readEntries fuel [] r.next
        return (.sequence sequenceTag items, ← r.expect .blockEnd)
    | some .blockMappingStart =>
      if spot == .flow then empty p r
      else
        let (entries, r) ← readPairs fuel r.next
        return (.mapping mappingTag entries, ← r.expect .blockEnd)
    | _ => empty p r
where
  /-- A name or a tag alone stands for an empty node. -/
  empty (p : Properties) (r : Reading) : Except Fault (Node × Reading) :=
    if p.anchor.isSome || p.tag.isSome then .ok (.scalar (scalarTag p.tag "" true) "", r)
    else .error .malformed

/-- A node, or nothing if one of some tokens comes first. -/
def readUnless (fuel : Nat) (spot : Spot) (stops : List Token) (r : Reading) :
    Except Fault (Node × Reading) := do
  match fuel with
  | 0 => throw .malformed
  | fuel + 1 => if r.isAt stops then return (absent, r) else read fuel spot r

/-- The entries of a block sequence; `stops` are further tokens that end an entry. -/
def readEntries (fuel : Nat) (stops : List Token) (r : Reading) :
    Except Fault (List Node × Reading) := do
  match fuel with
  | 0 => throw .malformed
  | fuel + 1 =>
    if r.head == some .blockEntry then
      let (item, r) ← readUnless fuel .block (.blockEntry :: .blockEnd :: stops) r.next
      let (items, r) ← readEntries fuel stops r
      return (item :: items, r)
    else return ([], r)

/-- The keys and values of a block mapping. -/
def readPairs (fuel : Nat) (r : Reading) : Except Fault (List (Node × Node) × Reading) := do
  match fuel with
  | 0 => throw .malformed
  | fuel + 1 =>
    let stops := [.key, .value, .blockEnd]
    match r.head with
    | some .key =>
      let (key, r) ← readUnless fuel .afterKey stops r.next
      let (value, r) ← readValue fuel .afterKey stops r
      let (entries, r) ← readPairs fuel r
      return ((key, value) :: entries, r)
    | _ => return ([], r)

/-- The value of a key, if it has one. -/
def readValue (fuel : Nat) (spot : Spot) (stops : List Token) (r : Reading) :
    Except Fault (Node × Reading) := do
  match fuel with
  | 0 => throw .malformed
  | fuel + 1 =>
    if r.head == some .value then readUnless fuel spot stops r.next else return (absent, r)

/-- The items of a sequence in brackets; an item may be a mapping of one entry. -/
def readFlowItems (fuel : Nat) (isFirst : Bool) (r : Reading) :
    Except Fault (List Node × Reading) := do
  match fuel with
  | 0 => throw .malformed
  | fuel + 1 =>
    if r.head == some .flowSequenceEnd then return ([], r.next)
    else
      let r ← if isFirst then pure r else r.expect .flowEntry
      let stops := [.flowEntry, .flowSequenceEnd]
      match r.head with
      | some .key =>
        let (key, r) ← readUnless fuel .flow (.value :: stops) r.next
        let (value, r) ← readValue fuel .flow stops r
        let (items, r) ← readFlowItems fuel false r
        return (.mapping .mapping [(key, value)] :: items, r)
      | some .flowSequenceEnd => return ([], r.next)
      | _ =>
        let (item, r) ← read fuel .flow r
        let (items, r) ← readFlowItems fuel false r
        return (item :: items, r)

/-- The entries of a mapping in brackets; a key may lack its value. -/
def readFlowEntries (fuel : Nat) (isFirst : Bool) (r : Reading) :
    Except Fault (List (Node × Node) × Reading) := do
  match fuel with
  | 0 => throw .malformed
  | fuel + 1 =>
    if r.head == some .flowMappingEnd then return ([], r.next)
    else
      let r ← if isFirst then pure r else r.expect .flowEntry
      let stops := [.flowEntry, .flowMappingEnd]
      match r.head with
      | some .key =>
        let (key, r) ← readUnless fuel .flow (.value :: stops) r.next
        let (value, r) ← readValue fuel .flow stops r
        let (entries, r) ← readFlowEntries fuel false r
        return ((key, value) :: entries, r)
      | some .flowMappingEnd => return ([], r.next)
      | _ =>
        let (key, r) ← read fuel .flow r
        let (entries, r) ← readFlowEntries fuel false r
        return ((key, absent) :: entries, r)

end

private def commonPrefixes : List (String × String) :=
  [("!", "!"), ("!!", Tag.address)]

/-- The directives before a document: the version may be given once, and a prefix once. -/
def readDirectives :
    List Token → Bool → List (String × String) →
      Except Fault (List (String × String) × List Token)
  | .version major :: rest, hasVersion, prefixes =>
    if hasVersion || major != 1 then .error .malformed else readDirectives rest true prefixes
  | .tagPrefix handle text :: rest, hasVersion, prefixes =>
    if (prefixes.lookup handle).isSome then .error .malformed
    else readDirectives rest hasVersion ((handle, text) :: prefixes)
  | .directive :: rest, hasVersion, prefixes => readDirectives rest hasVersion prefixes
  | rest, _, prefixes => .ok (prefixes ++ commonPrefixes, rest)

private def isDirective : Token → Bool
  | .version _ | .tagPrefix _ _ | .directive => true
  | _ => false

/-- The only document of some tokens, if there is one. -/
def ofTokens (tokens : List Token) : Except Fault (Option Node) := do
  let fuel := 6 * tokens.length + 10
  match tokens with
  | [] => return none
  | first :: _ =>
    let (node, rest) ←
      if isDirective first || first == .documentStart then do
        let (prefixes, rest) ← readDirectives tokens false []
        match rest with
        | .documentStart :: rest => match rest with
          | [] => pure (absent, rest)
          | next :: _ =>
            if isDirective next || next == .documentStart || next == .documentEnd then
              pure (absent, rest)
            else do
              let (node, r) ← read fuel .block ⟨rest, prefixes, []⟩
              pure (node, r.tokens)
        | _ => throw .malformed
      else do
        let (node, r) ← read fuel .block ⟨tokens, commonPrefixes, []⟩
        pure (node, r.tokens)
    if (rest.dropWhile (· == .documentEnd)).isEmpty then return some node
    else throw .malformed

end Node

end Stepwise.Yaml
