import ResolverHooks.Hook.Entity
import ResolverHooks.Resource.Graph

/-!
What a compilation works on: the resource graph, and the hoisted contents that the storage layer has
left for its resolvers. A hoisted content is taken once.
-/
namespace ResolverHooks

/-- Contents by resolver id. A content is what the storage layer's producer for the resolver yields
when it is called, which may turn out to be nothing. A producer that itself fails while a
compilation takes its content is not represented. -/
structure Hoisted where
  contents : Table (Option String)
deriving Inhabited

namespace Hoisted

def empty : Hoisted := ⟨.empty⟩

def ids (h : Hoisted) : List Scalar := h.contents.keys

def size (h : Hoisted) : Nat := h.contents.size

def contains (h : Hoisted) (id : String) : Bool := h.contents.contains (.str id)

/-- Leaves a content for a resolver, in place of any earlier one. -/
def register (h : Hoisted) (id : String) (content : Option String) : Hoisted :=
  ⟨h.contents.insert (.str id) content⟩

def discard (h : Hoisted) (id : String) : Hoisted := ⟨h.contents.erase (.str id)⟩

def content? (h : Hoisted) (id : String) : Option String := (h.contents.find? (.str id)).join

/-- Takes a resolver's content away. -/
def consume (h : Hoisted) (id : String) : Option String × Hoisted := (h.content? id, h.discard id)

def ofList (contents : List (String × Option String)) : Hoisted :=
  contents.foldl (fun h c => h.register c.1 c.2) empty

end Hoisted

structure Arena where
  graph : Graph
  hoisted : Hoisted
deriving Inhabited

/-- What stops a compilation. -/
inductive CompileFault where
  | directive (f : DirectiveFault)
  /-- A resource that is not in the graph. -/
  | absent (id : Scalar)
  /-- A resolver without properties. -/
  | malformed (resolverId : String)
  | shape (f : ShapeFault)
deriving DecidableEq, Repr

namespace CompileFault

/-- The message for a fault; a wrong shape has none. -/
def message : CompileFault → String
  | directive f => f.message
  | absent id => "Resource '" ++ id.display ++ "' not found in graph"
  | malformed id => "Could not find any properties in the generated resource '" ++ id ++ "'."
  | shape _ => ""

end CompileFault

/-- A step of a compilation. One that fails leaves the arena as far as it had got. -/
abbrev Compilation (α : Type) := EStateM CompileFault Arena α

namespace Compilation

variable {α : Type}

def graph : Compilation Graph := return (← get).graph

def modifyGraph (f : Graph → Graph) : Compilation Unit :=
  modify fun a => { a with graph := f a.graph }

/-- The resource of an id. -/
def resource (id : String) : Compilation Resource := do
  match (← graph).find? (.str id) with
  | some r => return r
  | none => throw (.absent (.str id))

/-- Adds a resource to a group, in place of any earlier one of its id. -/
def place (group id : String) (r : Resource) : Compilation Unit :=
  modifyGraph fun g => (g.insert (.str id) r).assign (.str group) (.str id)

/-- Records a dependency of a resource that is in the graph. -/
def depend (id : String) (dep : Value) : Compilation Unit := do
  match (← graph).addDependency? (.str id) dep with
  | some g => modifyGraph fun _ => g
  | none => throw (.absent (.str id))

/-- Takes the hoisted content of a resolver. -/
def consume (id : String) : Compilation (Option String) := do
  let (content, hoisted) := (← get).hoisted.consume id
  modify fun a => { a with hoisted }
  return content

def shaped (x : Except ShapeFault α) : Compilation α :=
  match x with
  | .ok a => return a
  | .error f => throw (.shape f)

def directed (x : Except DirectiveFault α) : Compilation α :=
  match x with
  | .ok a => return a
  | .error f => throw (.directive f)

end Compilation

end ResolverHooks
