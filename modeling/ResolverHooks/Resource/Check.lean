import ResolverHooks.Resource.Intrinsic
import ResolverHooks.Resource.Order

/-! Structural checks on a graph. A graph without findings can be handed to deployment. -/
namespace ResolverHooks

inductive Finding where
  /-- A dependency on an id that is not in the graph. -/
  | dangling (id : Scalar) (dep : Value)
  /-- A dependency on a resource of another group. -/
  | crossGroup (id : Scalar) (group : Value) (dep : Value) (depGroup : Value)
  /-- A reference to an id that is neither in the graph nor defined outside it. -/
  | unresolved (id : Scalar) (target : String)
  | cycle (ids : List String)
deriving Repr

namespace Finding

/-- A group's name; what is in no group is in the root stack. -/
def groupName (group : Value) : String := if group.isTruthy then group.display else "root"

def quoted (s : String) : String := "'" ++ s ++ "'"

def message : Finding → String
  | dangling id dep => quoted id.display ++ " depends on missing resource " ++ quoted dep.display
  | crossGroup id group dep depGroup =>
    quoted id.display ++ " (" ++ groupName group ++ ") depends on " ++ quoted dep.display ++ " (" ++
      groupName depGroup ++ ") across groups"
  | unresolved id target =>
    quoted id.display ++ " references unknown resource " ++ quoted target
  | cycle ids => "dependency cycle: " ++ " -> ".intercalate ids

/-- Whether everything that the message names has a text. -/
def hasText : Finding → Bool
  | dangling id dep => id.hasText && dep.hasText
  | crossGroup id group dep depGroup =>
    id.hasText && group.hasText && dep.hasText && depGroup.hasText
  | unresolved id _ => id.hasText
  | cycle _ => true

/-- Findings that can be told. -/
def told (found : List Finding) : Except ShapeFault (List Finding) :=
  if found.all hasText then .ok found else .error .tooLong

end Finding

namespace Graph

/-- The dependencies of all resources, each with the id of its resource. -/
def allDependencies (g : Graph) : List (Scalar × Value) :=
  g.resources.entries.flatMap fun e => e.2.dependsOn.map fun dep => (e.1, dep)

def findDangling (g : Graph) : Except ShapeFault (List Finding) :=
  if g.canLookUpAll then
    Finding.told ((g.allDependencies.filter fun e => !g.isPresent e.2).map
      fun e => .dangling e.1 e.2)
  else .error .unhashable

def findCrossGroup (g : Graph) : Except ShapeFault (List Finding) :=
  if g.canLookUpAll then
    Finding.told (g.allDependencies.filterMap fun (id, dep) =>
      let group := g.groupOf id
      let depGroup := g.groupOfDependency dep
      if g.isPresent dep && group.differs depGroup then some (.crossGroup id group dep depGroup)
      else none)
  else .error .unhashable

/-- References to ids that are neither in the graph nor among the external ones. -/
def findUnresolved (g : Graph) (external : List String) : Except ShapeFault (List Finding) := do
  let found ← g.resources.entries.mapM fun e => do
    let targets := (← Intrinsic.referencedIds e.2.properties).filter fun target =>
      !g.contains (.str target) && !external.contains target
    return targets.map (Finding.unresolved e.1)
  Finding.told found.flatten

def findCycles (g : Graph) : Except ShapeFault (List Finding) :=
  match g.waves with
  | .ok _ => .ok []
  | .error (.cycle ids) => return [.cycle (← Scalar.texts ids)]
  | .error (.shape f) => .error f

/-- All findings: dangling, cross-group and unresolved ones, and a cycle. -/
def check (g : Graph) (external : List String) : Except ShapeFault (List Finding) :=
  return (← g.findDangling) ++ (← g.findCrossGroup) ++ (← g.findUnresolved external) ++
    (← g.findCycles)

end Graph

end ResolverHooks
