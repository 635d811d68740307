/-!
Nodes of a YAML document: scalars, sequences and mappings, each with its tag. A node is named by its
place in a list of nodes, so that an alias can name the node that it stands in.
-/
namespace ResolverHooks.Yaml

/-- The tags of the YAML 1.1 type repository that have a meaning here. -/
inductive Tag where
  | null
  | bool
  | int
  | float
  | binary
  | timestamp
  | omap
  | pairs
  | set
  | str
  | seq
  | map
  | merge
  | value
  | unknown
deriving DecidableEq, Repr, Inhabited

def Tag.repository : List (String × Tag) :=
  [("null", .null), ("bool", .bool), ("int", .int), ("float", .float), ("binary", .binary),
   ("timestamp", .timestamp), ("omap", .omap), ("pairs", .pairs), ("set", .set), ("str", .str),
   ("seq", .seq), ("map", .map), ("merge", .merge), ("value", .value)]

def Tag.authority : String := "tag:yaml.org,2002:"

/-- The tag that a full tag name stands for. -/
def Tag.ofName (name : String) : Tag :=
  match repository.find? fun e => authority ++ e.1 == name with
  | some e => e.2
  | none => .unknown

/-- The place of a node among all nodes. -/
abbrev NodeId := Nat

inductive Content where
  | scalar (text : String)
  | sequence (items : List NodeId)
  | mapping (entries : List (NodeId × NodeId))
deriving Repr, Inhabited

structure Node where
  tag : Tag
  content : Content
deriving Repr, Inhabited

/-- All nodes of a document. -/
abbrev Nodes := Array Node

namespace Nodes

def node (ns : Nodes) (id : NodeId) : Node := (ns[id]?).getD ⟨.null, .scalar ""⟩

def tag (ns : Nodes) (id : NodeId) : Tag := (ns.node id).tag

def content (ns : Nodes) (id : NodeId) : Content := (ns.node id).content

def setTag (ns : Nodes) (id : NodeId) (tag : Tag) : Nodes :=
  ns.setIfInBounds id { ns.node id with tag }

def setContent (ns : Nodes) (id : NodeId) (content : Content) : Nodes :=
  ns.setIfInBounds id { ns.node id with content }

/-- The entries of a node that is a mapping. -/
def entries? (ns : Nodes) (id : NodeId) : Option (List (NodeId × NodeId)) :=
  match ns.content id with
  | .mapping es => some es
  | _ => none

def items? (ns : Nodes) (id : NodeId) : Option (List NodeId) :=
  match ns.content id with
  | .sequence ids => some ids
  | _ => none

/-- The number of entries of all mappings. -/
def entryCount (ns : Nodes) : Nat :=
  ns.foldl (fun n x => match x.content with
    | .mapping es => n + es.length
    | _ => n) 0

end Nodes

end ResolverHooks.Yaml
