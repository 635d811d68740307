import ResolverHooks.Document.Shape
import ResolverHooks.Document.Table

/-!
Resources by id, the deployment group of each, and the dependencies between them. Ids are the keys
of a document's mapping, so they need not be texts; dependencies are what a document lists, so they
may name nothing at all.
-/
namespace ResolverHooks

/-- A resource; properties that are null are missing, and the resource malformed. -/
structure Resource where
  kind : Value
  properties : Value
  dependsOn : List Value
deriving Repr, Inhabited

namespace Resource

/-- A resource as an entry of a template. -/
def toValue (r : Resource) : Value :=
  .object ([("Type", r.kind)] ++
    (if r.properties.isNull then [] else [("Properties", r.properties)]) ++
    (if r.dependsOn.isEmpty then [] else [("DependsOn", .seq r.dependsOn)]))

/-- The dependencies that a template lists: one text stands for itself, and none need be given. -/
def dependenciesOf : Option Value → Except ShapeFault (List Value)
  | none => .ok []
  | some (.str s) => .ok [.str s]
  | some v => v.members

/-- Reads a resource from an entry of a template; attributes other than these three are dropped. -/
def ofValue (v : Value) : Except ShapeFault Resource := do
  let es ← v.entries
  let dependsOn ← dependenciesOf (Entries.find? (.str "DependsOn") es)
  return {
    kind := (Entries.find? (.str "Type") es).getD (.str "")
    properties := (Entries.find? (.str "Properties") es).getD .null
    dependsOn }

end Resource

structure Graph where
  resources : Table Resource
  groups : Table Value
deriving Inhabited

namespace Graph

def empty : Graph := ⟨.empty, .empty⟩

def ids (g : Graph) : List Scalar := g.resources.keys

def find? (g : Graph) (id : Scalar) : Option Resource := g.resources.find? id

def contains (g : Graph) (id : Scalar) : Bool := g.resources.contains id

/-- Whether a dependency names a resource of the graph. -/
def isPresent (g : Graph) (dep : Value) : Bool :=
  match dep.scalar? with
  | some id => g.contains id
  | none => false

def insert (g : Graph) (id : Scalar) (r : Resource) : Graph :=
  { g with resources := g.resources.insert id r }

/-- Removes a resource and its place in a group. -/
def erase (g : Graph) (id : Scalar) : Graph :=
  ⟨g.resources.erase id, g.groups.erase id⟩

/-- Puts an id into a group, whether or not it names a resource. -/
def assign (g : Graph) (group : Value) (id : Scalar) : Graph :=
  { g with groups := g.groups.insert id group }

/-- The group of an id, null if it has none. -/
def groupOf (g : Graph) (id : Scalar) : Value := (g.groups.find? id).getD .null

/-- The group of a dependency. -/
def groupOfDependency (g : Graph) (dep : Value) : Value :=
  match dep.scalar? with
  | some id => g.groupOf id
  | none => .null

/-- Ids by group, groups in the order of their first id. -/
def members (g : Graph) : Except ShapeFault (List (Scalar × List Scalar)) :=
  g.groups.entries.foldlM (fun acc (id, group) => match group with
    | .scalar k => .ok (Entries.insert k ((Entries.find? k acc).getD [] ++ [id]) acc)
    | _ => .error .unhashable) []

def idsOfKind (g : Graph) (kind : Value) : List Scalar :=
  (g.resources.entries.filter fun e => !e.2.kind.differs kind).map Prod.fst

/-- Records a dependency once, at the end of the resource's list; absent without the resource. -/
def addDependency? (g : Graph) (id : Scalar) (dep : Value) : Option Graph :=
  (g.find? id).map fun r =>
    if r.dependsOn.any fun d => d.same dep then g
    else g.insert id { r with dependsOn := r.dependsOn ++ [dep] }

/-- The ids of the resources that list a dependency on an id. -/
def dependents (g : Graph) (id : Value) : List Scalar :=
  (g.resources.entries.filter fun e => e.2.dependsOn.any fun d => d.same id).map Prod.fst

/-- The graph of a template's resources and of the groups assigned to them. -/
def ofTemplate (template : List (Scalar × Value)) (groups : Value) : Except ShapeFault Graph := do
  let es ← match Entries.find? (.str "Resources") template with
    | some v => v.entriesOrNone
    | none => pure []
  let g ← es.foldlM (fun g (id, v) => return g.insert id (← Resource.ofValue v)) empty
  return (← groups.entriesOrNone).foldl (fun g (id, group) => g.assign group id) g

/-- The resources as a section of a template. -/
def resourcesValue (g : Graph) : Value :=
  .map (g.resources.entries.map fun (id, r) => (id, r.toValue))

/-- The output document: resources, and the group of each id. -/
def toValue (g : Graph) : Value :=
  .object [("Resources", g.resourcesValue), ("StackMapping", .map g.groups.entries)]

end Graph

end ResolverHooks
