import ResolverHooks.Document.Order
import ResolverHooks.Resource.Order

/-! Pictures of a graph: a Mermaid diagram of its dependencies, and boxes for its waves. -/
namespace ResolverHooks

def lines (ls : List String) : String := "\n".intercalate ls

namespace Graph

/-- One line for each dependency on a resource of the graph, dependency first. -/
def edgeLines (g : Graph) : List String :=
  g.resources.entries.flatMap fun (id, r) =>
    (r.dependsOn.filter g.isPresent).map fun dep => "    " ++ dep.display ++ " --> " ++ id.display

/-- A resource that neither depends on another nor is depended on. -/
def isIsolated (g : Graph) (id : Scalar) (r : Resource) : Bool :=
  (g.presentDependencies r).isEmpty && (g.dependents (.scalar id)).isEmpty

def nodeLines (g : Graph) : List String :=
  (g.resources.entries.filter fun e => g.isIsolated e.1 e.2).map fun e => "    " ++ e.1.display

/-- The Mermaid diagram: edges, then isolated resources. Every id is in it. -/
def mermaid (g : Graph) : Except ShapeFault String :=
  if g.canLookUpAll then
    sayable g.ids [] (lines ("graph TD" :: g.edgeLines ++ g.nodeLines))
  else .error .unhashable

/-- The width of a wave's box. -/
def boxWidth : Nat := 60

def rule (left right : String) : String :=
  left ++ String.ofList (List.replicate boxWidth '─') ++ right

/-- An id and its group inside a box; a label that is too long pushes the edge outwards. -/
def boxLine (g : Graph) (id : Scalar) : Except ShapeFault String :=
  let group := (g.groups.find? id).getD (.str "-")
  let label := id.display ++ " [" ++ group.display ++ "]"
  sayable [id] [group]
    ("│ " ++ label ++ String.ofList (List.replicate (boxWidth - 2 - label.length) ' ') ++ " │")

def waveBox (g : Graph) (wave : List Scalar) : Except ShapeFault (List String) :=
  match Scalar.sorted? wave with
  | some ids => do return rule "┌" "┐" :: (← ids.mapM g.boxLine) ++ [rule "└" "┘"]
  | none => .error .unordered

def arrow : List String := ["       │", "       ▼"]

/-- One box per wave, an arrow between two boxes. -/
def ascii (g : Graph) : Except OrderFault String := do
  let boxes ← (← g.waves).mapM fun wave => (g.waveBox wave).mapError .shape
  return lines (List.intercalate arrow boxes)

end Graph

end ResolverHooks
