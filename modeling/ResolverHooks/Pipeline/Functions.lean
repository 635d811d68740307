import ResolverHooks.Mapping.HookTemplates
import ResolverHooks.Pipeline.Compute

/-!
The functions that pipelines are made of: hook steps, which call a hook function, and wrap steps,
which carry out the data operation of a resolver.
-/
namespace ResolverHooks

def functionKind : String := "AWS::AppSync::FunctionConfiguration"

/-- The step that calls a hook function, by its stage, its entity, the hook's name and the region of
the function. -/
structure HookStep where
  stage : String
  entity : String
  hookName : String
  region : Option String
deriving DecidableEq, Repr, Inhabited

namespace HookStep

def id (h : HookStep) : String := LogicalId.hookStep h.stage h.entity h.hookName h.region

/-- The step as a resource. A data source of the same group is named by its id, any other through
its attribute. -/
def resource (h : HookStep) (s : Settings) (dataSourceId : String) (sameGroup : Bool) :
    Resource where
  kind := .str functionKind
  properties := .object [("ApiId", s.apiId), ("Name", .str h.id),
    ("DataSourceName", if sameGroup then .str dataSourceId
      else Intrinsic.attributeOf dataSourceId "Name"),
    ("FunctionVersion", .str s.functionVersion),
    ("RequestMappingTemplate",
      .str (Mapping.hookRequest dataSourceId h.stage h.entity s.functionVersion)),
    ("ResponseMappingTemplate", .str Mapping.hookResponse)]
  dependsOn := []

end HookStep

def requestKey : String := "RequestMappingTemplate"

/-- A property of a resolver, null if it has none of the name. -/
def propertyOf (name : String) (properties : List (Scalar × Value)) : Value :=
  (Entries.find? (.str name) properties).getD .null

namespace Target

def wrapStepId (t : Target) : String := LogicalId.wrapStep t.typeName t.fieldName

/-- The data operation of a resolver with these properties, as a resource of its own. -/
def wrapStep (t : Target) (s : Settings) (properties : List (Scalar × Value)) : Resource where
  kind := .str functionKind
  properties := .object [("ApiId", s.apiId),
    ("DataSourceName", propertyOf "DataSourceName" properties),
    ("FunctionVersion", .str s.functionVersion), ("Name", .str t.wrapStepId),
    (requestKey, propertyOf requestKey properties),
    ("ResponseMappingTemplate", propertyOf "ResponseMappingTemplate" properties)]
  dependsOn := []

end Target

namespace Settings

/-- A group, the configured one in place of an absent or empty one. -/
def groupOr (s : Settings) (group : Option String) : String :=
  (group.filter (· != "")).getD s.stackName

end Settings

namespace Compilation

/-- Builds a hook step in a group, unless it has been built before, and gives its id. It depends on
its data source if both are in one group. -/
def buildHookStep (s : Settings) (h : HookStep) (dataSourceId : String) (group : Option String) :
    Compilation String := do
  if (← graph).contains (.str h.id) then return h.id
  let group := s.groupOr group
  let sameGroup ← isIn group (.str dataSourceId)
  place group h.id (h.resource s dataSourceId sameGroup)
  if sameGroup then depend h.id (.str dataSourceId)
  return h.id

/-- Hands a dependency on to a step if it stays inside the step's group. -/
def inherit (group stepId : String) (dep : Value) : Compilation Unit := do
  if !dep.isHashable then throw (.shape .unhashable)
  if (← graph).isPresent dep then
    if ← isIn group dep then depend stepId dep

/-- Moves the data operation of a resolver into a wrap step, with its data source, its templates and
those of its dependencies that stay inside the group. -/
def buildWrapStep (s : Settings) (t : Target) (resolver : Resource) (group : Option String) :
    Compilation String := do
  if resolver.properties.isNull then throw (.malformed t.resolverId)
  let properties ← shaped resolver.properties.entries
  let group := s.groupOr group
  place group t.wrapStepId (t.wrapStep s properties)
  resolver.dependsOn.forM (inherit group t.wrapStepId)
  return t.wrapStepId

end Compilation

end ResolverHooks
