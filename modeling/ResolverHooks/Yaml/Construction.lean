import ResolverHooks.Document.Table
import ResolverHooks.Text.Base64
import ResolverHooks.Yaml.Composition
import ResolverHooks.Yaml.Merging
import ResolverHooks.Yaml.Number

/-!
What the nodes of a document hold. A collection waits for its contents until those before it have
theirs, so of two faults the one nearer to the root is found, and on one level the earlier one.
-/
namespace ResolverHooks.Yaml

/-- What a node holds. The members of a collection are nodes again. -/
inductive Held where
  | scalar (s : Scalar)
  | seq (items : List NodeId)
  | map (entries : List (Scalar × NodeId))
  | set (items : List Scalar)
  | pairs (items : List (NodeId × NodeId))
deriving Repr, Inhabited

/-- What the nodes hold, as far as that is known, and the collections that wait for their contents,
first the one that has waited longest. `levels` bounds the nesting of merges. -/
structure Assembly where
  nodes : Nodes
  levels : Nat
  held : Array (Option Held)
  waiting : List NodeId

abbrev Assembling (α : Type) := StateT Assembly (Except Fault) α

namespace Assembling

def held? (id : NodeId) : Assembling (Option Held) := return ((← get).held[id]?).join

def hold (id : NodeId) (h : Held) : Assembling Unit :=
  modify fun a => { a with held := a.held.setIfInBounds id (some h) }

/-- The text of a scalar; a mapping can stand in for one by its value key. A chain of such mappings
is no longer than there are nodes. -/
def scalarText (ns : Nodes) : Nat → NodeId → Except Fault String
  | 0, _ => .error .malformed
  | fuel + 1, id =>
    match ns.content id with
    | .scalar text => .ok text
    | .sequence _ => .error .malformed
    | .mapping es =>
      match es.find? fun e => ns.tag e.1 = .value with
      | some e => scalarText ns fuel e.2
      | none => .error .malformed

def isMapping (ns : Nodes) (id : NodeId) : Bool := (ns.entries? id).isSome

/-- The scalar of a node whose tag takes one. -/
def scalarOf (ns : Nodes) (id : NodeId) : Except Fault Scalar := do
  let text := scalarText ns (ns.size + 1) id
  match ns.tag id with
  | .null => text.map fun _ => .null
  | .bool => return .bool (← flagOf (← text))
  | .int => return .int (← integerOf (← text))
  | .float => return .float (← realOf (id + 1) (← text))
  | .str => return .str (← text)
  | .timestamp => do
    let text ← text
    if isMapping ns id then throw .stampOfMapping
    match ← timestampOf text with
    | .inl d => return .date d
    | .inr m => return .moment m
  | .binary => do
    match Text.base64? (← text) with
    | some bs => return .bytes bs
    | none => throw .malformed
  | _ => throw .malformed

def isCollection : Tag → Bool
  | .seq | .map | .set | .pairs | .omap => true
  | _ => false

/-- Sees to it that a node holds something. A collection is put on the list of those that wait. -/
def prepare (id : NodeId) : Assembling Unit := do
  if (← held? id).isNone then
    let a ← get
    if isCollection (a.nodes.tag id) then
      hold id (.seq [])
      modify fun a => { a with waiting := a.waiting ++ [id] }
    else hold id (.scalar (← scalarOf a.nodes id))

def items (id : NodeId) : Assembling (List NodeId) := do
  match (← get).nodes.items? id with
  | some ids => return ids
  | none => throw .malformed

variable (look : NodeId → Assembling Unit)

/-- The key that a node is, which is looked at whole; only scalars are keys. -/
def key (id : NodeId) : Assembling Scalar := do
  look id
  match ← held? id with
  | some (.scalar s) => return s
  | _ => throw .malformed

variable (visit : NodeId → Assembling Unit)

/-- The entries of a mapping, whose merge keys give way first. -/
def entries (id : NodeId) : Assembling (List (Scalar × NodeId)) := do
  let a ← get
  if !isMapping a.nodes id then throw .malformed
  let nodes ← a.nodes.merge a.levels id
  set { a with nodes }
  ((nodes.entries? id).getD []).foldlM (fun es (k, v) => do
    let s ← key look k
    visit v
    return Entries.insert s v es) []

/-- Each item of a list of pairs is a mapping of one entry. -/
def pair (id : NodeId) : Assembling (NodeId × NodeId) := do
  match (← get).nodes.content id with
  | .mapping [(k, v)] =>
    visit k
    visit v
    return (k, v)
  | _ => throw .malformed

/-- The contents of a collection. Its keys are looked at, its other members visited. -/
def contents (id : NodeId) : Assembling Held := do
  match (← get).nodes.tag id with
  | .seq => do
    let ids ← items id
    ids.forM visit
    return .seq ids
  | .map => return .map (← entries look visit id)
  | .set => return .set ((← entries look visit id).map Prod.fst)
  | _ => return .pairs (← (← items id).mapM (pair visit))

/-- Gives a node all that is in it at once, inside the nodes of a path. A node that holds something
already keeps that; one that is inside itself has no end. The path repeats no node, so fuel for
every node is enough. -/
def complete : Nat → List NodeId → NodeId → Assembling Unit
  | 0, _, _ => throw .malformed
  | fuel + 1, path, id => do
    if (← held? id).isNone then
      let a ← get
      if path.contains id then throw .malformed
      else if isCollection (a.nodes.tag id) then
        let inside := complete fuel (id :: path)
        hold id (← contents inside inside id)
      else hold id (.scalar (← scalarOf a.nodes id))

/-- Gives the waiting collections their contents. Each node waits once, so as many rounds as there
are nodes are enough. -/
def settle : Nat → Assembling Unit
  | 0 => return
  | rounds + 1 => do
    match (← get).waiting with
    | [] => return
    | id :: rest =>
      modify fun a => { a with waiting := rest }
      let look := complete ((← get).nodes.size + 1) []
      hold id (← contents look prepare id)
      settle rounds

end Assembling

/-- What the nodes of a document hold, from the root on. -/
def NodeGraph.assemble (g : NodeGraph) : Except Fault (Array (Option Held)) := do
  let start : Assembly := ⟨g.nodes, g.nodes.mergeLevels, .replicate g.nodes.size none, []⟩
  let (_, a) ← (do
    Assembling.prepare g.root
    Assembling.settle g.nodes.size : Assembling Unit).run start
  return a.held

end ResolverHooks.Yaml
