import ResolverHooks.Yaml.Construction

/-!
From a YAML file to its value. A collection that contains itself becomes a value that refers to the
collection around it.
-/
namespace ResolverHooks.Yaml

/-- What a node stands for, inside the collections on the path, innermost first; a pair is on the
path without being a node. A path holds no node twice, so as many levels as there are nodes, and as
many pairs, are enough. -/
def valueOf (held : Array (Option Held)) : Nat → List (Option NodeId) → NodeId → Value
  | 0, _, _ => .null
  | fuel + 1, path, id =>
    match path.findIdx? (· == some id) with
    | some level => .enclosing level
    | none =>
      let inside := some id :: path
      match (held[id]?).join with
      | some (.scalar s) => .scalar s
      | some (.seq ids) => .seq (ids.map (valueOf held fuel inside))
      | some (.map es) => .map (es.map fun e => (e.1, valueOf held fuel inside e.2))
      | some (.set ss) => .set ss
      | some (.pairs ps) => .seq (ps.map fun p =>
          .pair (valueOf held fuel (none :: inside) p.1) (valueOf held fuel (none :: inside) p.2))
      | none => .null

def NodeGraph.value (g : NodeGraph) : Except Fault Value := do
  let held ← g.assemble
  return valueOf held (g.nodes.size + 1) [] g.root

/-- The value of a YAML stream; one without a document is null. -/
def Stream.value (s : Stream) : Except Fault Value := do
  match ← compose s with
  | none => return .null
  | some g => g.value

/-- The value of a YAML file. -/
def read (bytes : List UInt8) : Except Fault Value := (Stream.ofBytes bytes).value

end ResolverHooks.Yaml
