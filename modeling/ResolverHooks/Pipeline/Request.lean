import ResolverHooks.Document.Json
import ResolverHooks.Pipeline.Arena

/-!
Compile requests: the storage layer's template with the groups of its resources and its hoisted
contents, and the entities of the schema.
-/
namespace ResolverHooks

structure Request where
  template : List (Scalar × Value)
  groups : List (String × String)
  hoisted : List (String × String)
  entities : List Entity
deriving Repr, Inhabited

namespace Request

def formName : String := "CompileRequest"

/-- The key of a template's resources. -/
def resourcesKey : String := "Resources"

/-- A mapping whose keys are texts. -/
def checkTemplate (v : Value) : Checked (List (Scalar × Value)) :=
  (Schema.namedMapping .ok v).map fun es => es.map fun e => (.str e.1, e.2)

def checkTexts : Value → Checked (List (String × String)) := Schema.namedMapping Schema.text

/-- Reads a request; every field may be left out, and fields of other names are ignored. -/
def check (v : Value) : Checked Request := do
  let entries ← Schema.form formName v
  Checked.apply (Checked.apply (Checked.apply (Checked.apply (.ok Request.mk)
    (Schema.field entries "template" (.ok [(.str resourcesKey, .map [])]) checkTemplate))
    (Schema.field entries "stack_mapping" (.ok []) checkTexts))
    (Schema.field entries "hoisted" (.ok []) checkTexts))
    (Schema.field entries "entities" (.ok []) (Schema.list Entity.check))

/-- The arena in which the request is compiled. -/
def arena (r : Request) : Except ShapeFault Arena := do
  let graph ← Graph.ofTemplate r.template (.object (r.groups.map fun g => (g.1, .str g.2)))
  return ⟨graph, .ofList (r.hoisted.map fun h => (h.1, some h.2))⟩

/-- The number of resources cannot be told where they are not given as a collection. -/
def checkCountable (r : Request) : Except ShapeFault Unit := do
  let resources := (Entries.find? (.str resourcesKey) r.template).getD .null
  if resources.isTruthy then let _ ← resources.members

end Request

namespace Graph

/-- The output document as JSON text. -/
def dump (g : Graph) : Except ShapeFault String := Json.text g.toValue

end Graph

end ResolverHooks
