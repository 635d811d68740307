import ResolverHooks.Resource.Graph

/-!
Deployment order. Resources are deployed in waves: a resource belongs to the first wave by whose
start everything that it depends on has been deployed. Dependencies on absent ids have no effect.
-/
namespace ResolverHooks

/-- Why there is no deployment order: dependencies form a cycle, or one cannot be looked up. -/
inductive OrderFault where
  | cycle (ids : List Scalar)
  | shape (f : ShapeFault)
deriving DecidableEq, Repr

/-- Drops all but the first of the scalars that are the same key. -/
def firstMentions (ids : List Scalar) : List Scalar :=
  ids.foldl (fun seen id => if seen.any id.same then seen else seen ++ [id]) []

/-- Every resource with those of its dependencies that have an effect, each once. -/
abbrev Edges := List (Scalar × List Scalar)

namespace Edges

/-- What an id depends on. -/
def dependenciesOf (es : Edges) (id : Scalar) : List Scalar := (Entries.find? id es).getD []

/-- The resources that depend on an id, in the order of the graph. -/
def successors (es : Edges) (id : Scalar) : List Scalar :=
  (es.filter fun e => e.2.any id.same).map Prod.fst

/-- All resources in the order of their first mention, as a resource or as a dependency. -/
def mentioned (es : Edges) : List Scalar := firstMentions (es.flatMap fun e => e.1 :: e.2)

/-- Searches on from a node along successors, `path` leading to it, latest first. The search ends at
a node on the path, with the cycle from that node back to itself; otherwise it gives all nodes seen.
A path holds no node twice, so as many steps as there are nodes and one more are enough. -/
def searchFrom (es : Edges) : Nat → List Scalar → List Scalar → Scalar →
    Except (List Scalar) (List Scalar)
  | 0, _, seen, _ => .ok seen
  | fuel + 1, path, seen, id =>
    if path.any id.same then
      .error ((path.takeWhile (fun p => !id.same p) ++ path.filter id.same).reverse ++ [id])
    else if seen.any id.same then .ok seen
    else
      (es.successors id).foldlM (fun seen s => searchFrom es fuel (id :: path) seen s) (id :: seen)

/-- A cycle of dependencies, each id before one that depends on it, the first one repeated at the
end. -/
def findCycle (es : Edges) : Option (List Scalar) :=
  let nodes := es.mentioned
  match nodes.foldlM (es.searchFrom (nodes.length + 1) []) [] with
  | .ok _ => none
  | .error cycle => some cycle

/-- The resources whose last dependency to be deployed is `id`, after `deployed`. -/
def released (es : Edges) (deployed : List Scalar) (id : Scalar) : List Scalar :=
  (es.successors id).filter fun s => (es.dependenciesOf s).all fun d => (id :: deployed).any d.same

/-- Deploys a wave member by member: everything deployed afterwards, and the next wave. -/
def deploy (es : Edges) (deployed wave : List Scalar) : List Scalar × List Scalar :=
  wave.foldl (fun (done, next) id => (id :: done, next ++ es.released done id)) (deployed, [])

/-- The waves from one on; every wave deploys at least one resource. -/
def wavesFrom (es : Edges) : Nat → List Scalar → List Scalar → List (List Scalar)
  | 0, _, _ => []
  | fuel + 1, deployed, wave =>
    if wave.isEmpty then []
    else
      let (deployed, next) := es.deploy deployed wave
      wave :: wavesFrom es fuel deployed next

/-- The waves, where there is no cycle. -/
def waves (es : Edges) : List (List Scalar) :=
  let nodes := es.mentioned
  es.wavesFrom (nodes.length + 1) [] (nodes.filter fun id => (es.dependenciesOf id).isEmpty)

end Edges

namespace Graph

/-- The dependencies of a resource that are in the graph, each once. -/
def presentDependencies (g : Graph) (r : Resource) : List Scalar :=
  firstMentions ((r.dependsOn.filterMap Value.scalar?).filter g.contains)

def edges (g : Graph) : Edges := g.resources.entries.map fun e => (e.1, g.presentDependencies e.2)

def canLookUpAll (g : Graph) : Bool :=
  g.resources.entries.all fun e => e.2.dependsOn.all Value.isHashable

/-- The deployment waves. -/
def waves (g : Graph) : Except OrderFault (List (List Scalar)) :=
  if g.canLookUpAll then
    match g.edges.findCycle with
    | some cycle => .error (.cycle cycle)
    | none => .ok g.edges.waves
  else .error (.shape .unhashable)

/-- A deployment order: wave after wave. -/
def deploymentOrder (g : Graph) : Except OrderFault (List Scalar) := g.waves.map List.flatten

end Graph

end ResolverHooks
