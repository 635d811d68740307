import ResolverHooks.Yaml.Node
import ResolverHooks.Yaml.Token

/-!
Merge keys. A mapping's merge keys give way to the entries of the mappings they name, which come in
front of its own; a mapping that is named is merged first. The nodes are changed in place, so a
mapping that several aliases name is merged once, and one that names itself is merged as far as it
has got.
-/
namespace ResolverHooks.Yaml

abbrev Merging (α : Type) := StateT Nodes (Except Fault) α

namespace Merging

/-- The entries of a mapping as they are now. -/
def entries (id : NodeId) : Merging (List (NodeId × NodeId)) := do
  match (← get).entries? id with
  | some es => return es
  | none => throw .malformed

def setEntries (id : NodeId) (es : List (NodeId × NodeId)) : Merging Unit :=
  modify fun ns => ns.setContent id (.mapping es)

/-- A value key is a text wherever it is a key. -/
def plainKey (key : NodeId) : Merging Unit := do
  if (← get).tag key = .value then modify fun ns => ns.setTag key .str

/-- The entries that a merge key brings in: those of a mapping, or of the mappings of a sequence,
the last one first. -/
def merged (flatten : NodeId → Merging Unit) (value : NodeId) :
    Merging (List (NodeId × NodeId)) := do
  match (← get).content value with
  | .mapping _ =>
    flatten value
    entries value
  | .sequence items =>
    let lists ← items.mapM fun item => do
      if ((← get).entries? item).isNone then throw .malformed
      flatten item
      entries item
    return lists.reverse.flatten
  | .scalar _ => throw .malformed

/-- Goes through the entries `rest` of a mapping and gives what the merge keys among them bring in;
the `front` that is done is reversed. If the mapping has merged itself meanwhile, no merge key is
left. -/
def mergeEntries (flatten : NodeId → Merging Unit) (id : NodeId) :
    List (NodeId × NodeId) → List (NodeId × NodeId) → Merging (List (NodeId × NodeId))
  | _, [] => return []
  | front, e :: rest => do
    if (← get).tag e.1 = .merge then
      let own := front.reverse ++ rest
      setEntries id own
      let first ← merged flatten e.2
      let now ← entries id
      if now = own then return first ++ (← mergeEntries flatten id front rest)
      else
        (now.drop front.length).forM fun e => plainKey e.1
        return first
    else
      plainKey e.1
      mergeEntries flatten id (e :: front) rest

/-- Merges a mapping, in as many levels of nesting. -/
def flatten : Nat → NodeId → Merging Unit
  | 0, _ => throw .malformed
  | levels + 1, id => do
    let more ← mergeEntries (flatten levels) id [] (← entries id)
    if !more.isEmpty then setEntries id (more ++ (← entries id))

end Merging

namespace Nodes

/-- Every level of merging has taken a merge key away, so this many are enough. -/
def mergeLevels (ns : Nodes) : Nat := ns.entryCount + 1

/-- The nodes in which the merge keys of a mapping have given way. -/
def merge (levels : Nat) (id : NodeId) (ns : Nodes) : Except Fault Nodes :=
  ((Merging.flatten levels id).run ns).map Prod.snd

end Nodes

end ResolverHooks.Yaml
