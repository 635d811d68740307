import ResolverHooks.Yaml.Lexer
import ResolverHooks.Yaml.Node
import ResolverHooks.Yaml.Resolution

/-!
From tokens to the nodes of the one document of a stream. A missing node is an empty plain scalar;
an alias names the node of its anchor, which may be one that it stands in. Tokens are asked for one
by one, so the first fault of the text or of the structure is the one that is found.
-/
namespace ResolverHooks.Yaml

/-- Tag handles and what they stand for. -/
abbrev Handles := List (String × String)

def Handles.standard : Handles := [("!", "!"), ("!!", Tag.authority)]

/-- The tokens still to be read, the handles in force, and the anchors and nodes met so far. -/
structure Source where
  lexer : Lexer
  handles : Handles
  anchors : List (String × NodeId)
  nodes : Nodes

abbrev Composing (α : Type) := StateT Source (Except Fault) α

/-- A node's anchor and its tag as written. -/
structure Properties where
  anchor : Option String
  tag : Option (Option String × String)

def Properties.isNone (p : Properties) : Bool := p.anchor.isNone && p.tag.isNone

/-- The tag of a scalar: its own, or the one that its form resolves to where it is plain or has the
non-specific tag. -/
def scalarTag (name : Option String) (plain : Bool) (text : String) : Tag :=
  match name with
  | none => if plain then plainTag text else .str
  | some "!" => plainTag text
  | some n => Tag.ofName n

/-- The tag of a collection, `default` where it has none of its own. -/
def collectionTag (name : Option String) (default : Tag) : Tag :=
  match name with
  | none => default
  | some "!" => default
  | some n => Tag.ofName n

/-- Where a node stands: in a flow collection, in a block, or as a key or value of a block mapping,
where a sequence need not be indented. -/
inductive Place where
  | flow
  | block
  | blockEntry
deriving DecidableEq

namespace Composing

def fail {α : Type} : Composing α := throw .malformed

/-- The next token, which stays. -/
def peek : Composing Token := do
  let s ← get
  let (t, lexer) ← s.lexer.peek
  set { s with lexer }
  return t

def skip : Composing Unit := modify fun s => { s with lexer := s.lexer.skip }

/-- Moves over the token if it is next. -/
def take (t : Token) : Composing Bool := do
  if (← peek) = t then
    skip
    return true
  else return false

def isNext (ts : List Token) : Composing Bool := return ts.contains (← peek)

/-- Adds a node, and notes its anchor. -/
def add (anchor : Option String) (tag : Tag) (content : Content) : Composing NodeId := do
  let s ← get
  let id := s.nodes.size
  let anchors := (anchor.map fun a => (a, id)).toList ++ s.anchors
  set { s with anchors, nodes := s.nodes.push ⟨tag, content⟩ }
  return id

def fill (id : NodeId) (content : Content) : Composing NodeId := do
  modify fun s => { s with nodes := s.nodes.setContent id content }
  return id

def emptyNode : Composing NodeId := add none .null (.scalar "")

/-- The node of an anchor. -/
def aliased (name : String) : Composing NodeId := do
  match (← get).anchors.lookup name with
  | some id => return id
  | none => fail

/-- An anchor may be defined once. -/
def checkAnchor (anchor : Option String) : Composing Unit := do
  match anchor with
  | some a => if ((← get).anchors.lookup a).isSome then fail
  | none => return

/-- An anchor and a tag may stand in either order. -/
def properties : Composing Properties := do
  match ← peek with
  | .anchor a =>
    skip
    match ← peek with
    | .tag h x =>
      skip
      return ⟨some a, some (h, x)⟩
    | _ => return ⟨some a, none⟩
  | .tag h x =>
    skip
    match ← peek with
    | .anchor a =>
      skip
      return ⟨some a, some (h, x)⟩
    | _ => return ⟨none, some (h, x)⟩
  | _ => return ⟨none, none⟩

/-- The name of a tag, its handle expanded; absent for no tag. -/
def tagName : Option (Option String × String) → Composing (Option String)
  | none => return none
  | some (none, suffix) => return some suffix
  | some (some h, suffix) => do
    match (← get).handles.lookup h with
    | some expansion => return some (expansion ++ suffix)
    | none => fail

mutual

def node : Nat → Place → Composing NodeId
  | 0, _ => fail
  | fuel + 1, place => do
    match ← peek with
    | .alias name =>
      skip
      aliased name
    | _ =>
      let p ← properties
      let name ← tagName p.tag
      let t ← peek
      match t with
      | .scalar text plain =>
        skip
        checkAnchor p.anchor
        add p.anchor (scalarTag name plain text) (.scalar text)
      | .flowSequence =>
        checkAnchor p.anchor
        skip
        let id ← add p.anchor (collectionTag name .seq) (.sequence [])
        fill id (.sequence (← flowItems fuel true []))
      | .flowMapping =>
        checkAnchor p.anchor
        skip
        let id ← add p.anchor (collectionTag name .map) (.mapping [])
        fill id (.mapping (← flowEntries fuel true []))
      | .blockSequence =>
        checkAnchor p.anchor
        skip
        let id ← add p.anchor (collectionTag name .seq) (.sequence [])
        fill id (.sequence (← blockItems fuel []))
      | .blockMapping =>
        checkAnchor p.anchor
        skip
        let id ← add p.anchor (collectionTag name .map) (.mapping [])
        fill id (.mapping (← blockEntries fuel []))
      | _ =>
        if t = .entry ∧ place = .blockEntry then
          checkAnchor p.anchor
          let id ← add p.anchor (collectionTag name .seq) (.sequence [])
          fill id (.sequence (← compactItems fuel []))
        else if p.isNone then fail
        else
          -- A property alone stands for an empty scalar.
          checkAnchor p.anchor
          add p.anchor (scalarTag name true "") (.scalar "")

/-- A node unless one of the given tokens follows, which stands for an empty one. -/
def nodeUnless : Nat → List Token → Place → Composing NodeId
  | 0, _, _ => fail
  | fuel + 1, ends, place => do
    if ← isNext ends then emptyNode else node fuel place

/-- The rest of a block sequence. -/
def blockItems : Nat → List NodeId → Composing (List NodeId)
  | 0, _ => fail
  | fuel + 1, items => do
    if ← take .entry then
      let id ← nodeUnless fuel [.entry, .blockEnd] .block
      blockItems fuel (id :: items)
    else if ← take .blockEnd then return items.reverse
    else fail

/-- The rest of a block sequence that is not indented; it ends where no dash follows. -/
def compactItems : Nat → List NodeId → Composing (List NodeId)
  | 0, _ => fail
  | fuel + 1, items => do
    if ← take .entry then
      let id ← nodeUnless fuel [.entry, .key, .value, .blockEnd] .block
      compactItems fuel (id :: items)
    else return items.reverse

/-- The rest of a block mapping. -/
def blockEntries : Nat → List (NodeId × NodeId) → Composing (List (NodeId × NodeId))
  | 0, _ => fail
  | fuel + 1, entries => do
    if ← take .key then
      let k ← nodeUnless fuel [.key, .value, .blockEnd] .blockEntry
      let v ← blockValue fuel
      blockEntries fuel ((k, v) :: entries)
    else if ← take .blockEnd then return entries.reverse
    else fail

/-- The value of a block mapping's entry, empty without a colon. -/
def blockValue : Nat → Composing NodeId
  | 0 => fail
  | fuel + 1 => do
    if ← take .value then nodeUnless fuel [.key, .value, .blockEnd] .blockEntry else emptyNode

/-- The rest of a flow sequence; an entry with a key is a mapping of that one entry. -/
def flowItems : Nat → Bool → List NodeId → Composing (List NodeId)
  | 0, _, _ => fail
  | fuel + 1, first, items => do
    if ← take .flowSequenceEnd then return items.reverse
    if !first then
      if !(← take .comma) then fail
    if ← isNext [.key] then
      let id ← add none .map (.mapping [])
      skip
      let k ← nodeUnless fuel [.value, .comma, .flowSequenceEnd] .flow
      let v ← flowValue fuel .flowSequenceEnd
      let _ ← peek
      let id ← fill id (.mapping [(k, v)])
      flowItems fuel false (id :: items)
    else if ← take .flowSequenceEnd then return items.reverse
    else
      let id ← node fuel .flow
      flowItems fuel false (id :: items)

/-- The rest of a flow mapping; an entry without a key mark has an empty value. -/
def flowEntries : Nat → Bool → List (NodeId × NodeId) → Composing (List (NodeId × NodeId))
  | 0, _, _ => fail
  | fuel + 1, first, entries => do
    if ← take .flowMappingEnd then return entries.reverse
    if !first then
      if !(← take .comma) then fail
    if ← take .key then
      let k ← nodeUnless fuel [.value, .comma, .flowMappingEnd] .flow
      let v ← flowValue fuel .flowMappingEnd
      flowEntries fuel false ((k, v) :: entries)
    else if ← take .flowMappingEnd then return entries.reverse
    else
      let k ← node fuel .flow
      let v ← emptyNode
      flowEntries fuel false ((k, v) :: entries)

/-- The value of a flow entry, empty without a colon or with nothing behind it. -/
def flowValue : Nat → Token → Composing NodeId
  | 0, _ => fail
  | fuel + 1, ending => do
    if ← take .value then nodeUnless fuel [.comma, ending] .flow else emptyNode

end

/-- The directives in front of a document: at most one version, of major number 1, and each handle
at most once. There are no more of them than rounds. -/
def directives : Nat → Bool → Handles → Composing Handles
  | 0, _, _ => fail
  | rounds + 1, versioned, handles => do
    match ← peek with
    | .version major _ =>
      skip
      if versioned || major != 1 then fail else directives rounds true handles
    | .handle name expansion =>
      skip
      if (handles.lookup name).isSome then fail
      else directives rounds versioned ((name, expansion) :: handles)
    | .reserved =>
      skip
      directives rounds versioned handles
    | _ => return handles ++ Handles.standard

/-- Passes the ends of documents, which may be repeated. -/
def skipDocumentEnds : Nat → Composing Unit
  | 0 => return
  | rounds + 1 => do
    if ← take .documentEnd then skipDocumentEnds rounds

/-- Tokens that cannot begin the content of a document. -/
def isBoundary : Token → Bool
  | .version _ _ | .handle _ _ | .reserved | .documentStart | .documentEnd | .streamEnd => true
  | _ => false

/-- Nothing may follow the only document. What follows is read as far as a document's start goes. -/
def checkEnd (size : Nat) : Composing Unit := do
  let _ ← take .documentEnd
  skipDocumentEnds size
  if (← peek) != .streamEnd then
    let _ ← directives size false []
    let _ ← peek
    fail

/-- The root of the only document; absent for a stream without one. A document that starts with
three dashes may be empty, and only such a document has directives. -/
def document (size : Nat) : Composing (Option NodeId) := do
  -- A character stands for at most five tokens, and a token is at most four levels deep.
  let fuel := 32 * (size + 1)
  let t ← peek
  if t = .streamEnd then return none
  let root ←
    if !isBoundary t || t = .documentEnd then node fuel .block
    else
      let handles ← directives (size + 1) false []
      modify fun s => { s with handles }
      if !(← take .documentStart) then fail
      if isBoundary (← peek) then emptyNode else node fuel .block
  checkEnd (size + 1)
  return some root

end Composing

/-- A document: its nodes, and which of them is the root. -/
structure NodeGraph where
  nodes : Nodes
  root : NodeId

/-- The nodes of a stream, unless it is empty. -/
def compose (s : Stream) : Except Fault (Option NodeGraph) := do
  let (root, source) ← (Composing.document s.text.length).run ⟨.start s, .standard, [], #[]⟩
  return root.map fun root => ⟨source.nodes, root⟩

end ResolverHooks.Yaml
