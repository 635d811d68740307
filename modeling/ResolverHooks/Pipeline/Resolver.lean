import ResolverHooks.Pipeline.Functions

/-!
Pipeline resolvers. An operation's resolver is replaced by a pipeline that runs the hook before, the
wrapped data operation and the hook after, as far as there are hooks.
-/
namespace ResolverHooks

def resolverKind : String := "AWS::AppSync::Resolver"

namespace Target

def pipelineId (t : Target) : String := LogicalId.pipeline t.typeName t.fieldName

/-- The pipeline that runs the functions one after another. -/
def pipeline (t : Target) (s : Settings) (functions : List String) : Resource where
  kind := .str resolverKind
  properties := .object [("ApiId", s.apiId), ("TypeName", .str t.typeName),
    ("FieldName", .str t.fieldName), ("Kind", .str "PIPELINE"),
    ("PipelineConfig", .object [("Functions",
      .seq (functions.map fun id => Intrinsic.attributeOf id "FunctionId"))]),
    (requestKey, .str (Mapping.stashRequest t.typeName t.fieldName)),
    ("ResponseMappingTemplate", .str Mapping.passthrough)]
  dependsOn := []

/-- The functions of the pipeline, in the order in which they run. -/
def functions (t : Target) (before after : Option String) : List String :=
  ([before, some t.wrapStepId, after].filterMap id).filter (· != "")

end Target

/-- A request template behind hoisted content; what counts as absent is an empty template. -/
def hoistedTemplate (content : String) (template : Value) : Except ShapeFault Value :=
  if template.isTruthy then
    match template with
    | .str t => .ok (.str (Mapping.prepend content t))
    | _ => .error .notText
  else .ok (.str (Mapping.prepend content ""))

namespace Resource

/-- The properties of a step as they were built, each complete in itself. -/
def stepProperties (r : Resource) : List (Scalar × Value) :=
  match r.properties with
  | .map es => es
  | _ => []

end Resource

namespace Compilation

/-- Puts hoisted content in front of the request template of a wrap step. -/
def injectContent (stepId content : String) : Compilation Unit := do
  let r ← resource stepId
  let properties := r.stepProperties
  let template ← shaped (hoistedTemplate content (propertyOf requestKey properties))
  modifyGraph fun g => g.insert (.str stepId)
    { r with properties := .map (Entries.insert (.str requestKey) template properties) }

/-- Takes what was hoisted for a resolver, and puts it in front of the template of its step. -/
def takeContent (stepId resolverId : String) : Compilation Unit := do
  match ← consume resolverId with
  | some content => if content != "" then injectContent stepId content
  | none => pure ()

/-- Drops a resolver with all that was hoisted for it. -/
def dropResolver (id : String) : Compilation Unit :=
  modify fun a => ⟨a.graph.erase (.str id), a.hoisted.discard id⟩

/-- Builds a pipeline in a group. It depends on the functions that it runs. -/
def buildPipeline (s : Settings) (t : Target) (functions : List String) (group : String) :
    Compilation Unit := do
  place group t.pipelineId (t.pipeline s functions)
  functions.forM fun id => depend t.pipelineId (.str id)

/-- Replaces an operation's resolver by a pipeline in a group. Gives the pipeline's id and the ids
of its functions. -/
def compileOperation (s : Settings) (t : Target) (before after : Option String) (group : String) :
    Compilation (String × List String) := do
  let resolver ← resource t.resolverId
  let stepId ← buildWrapStep s t resolver (some group)
  takeContent stepId t.resolverId
  dropResolver t.resolverId
  let functions := t.functions before after
  buildPipeline s t functions group
  return (t.pipelineId, functions)

end Compilation

end ResolverHooks
