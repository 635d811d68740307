import ResolverHooks.Pipeline.Resolver

/-! The compilation of all hooked entities of a schema. -/
namespace ResolverHooks

/-- The pipeline of one operation: its id, and the functions that it runs. -/
structure CompiledOperation where
  operation : Operation
  pipelineId : String
  functions : List String
deriving DecidableEq, Repr, Inhabited

/-- What a compilation has made of an entity: the group of its pipelines, the hook step of each
stage that has one, and the pipelines. -/
structure CompiledEntity where
  entity : String
  group : String
  hookSteps : List (Stage × String)
  pipelines : List CompiledOperation
deriving DecidableEq, Repr, Inhabited

namespace Directive

def identity (d : Directive) : Identity := .ofNames d.name d.region

def hookStep (d : Directive) (entity : String) (stage : Stage) : HookStep :=
  ⟨stage.word, entity, d.name, d.identity.region⟩

/-- The hook step of a stage, if the stage's hook runs for the operation. -/
def stepFor (d : Directive) (steps : List (Stage × String)) (stage : Stage) (o : Operation) :
    Option String :=
  if (d.stage stage).enabled o then steps.lookup stage else none

/-- The stages whose hook runs for some operation. -/
def stages (d : Directive) : List Stage := Stage.all.filter fun stage => (d.stage stage).anyEnabled

end Directive

namespace Compilation

/-- Builds the hook steps of an entity, and the compute resources that they need. -/
def buildHookSteps (s : Settings) (d : Directive) (entity group : String) :
    Compilation (List (Stage × String)) :=
  d.stages.mapM fun stage => do
    let dataSourceId ← ensure s d.identity
    return (stage, ← buildHookStep s (d.hookStep entity stage) dataSourceId (some group))

/-- Compiles the operations of an entity one after another. -/
def compileOperations (s : Settings) (d : Directive) (steps : List (Stage × String))
    (group : String) (targets : List Target) : Compilation (List CompiledOperation) :=
  targets.mapM fun t => do
    let (pipelineId, functions) ← compileOperation s t (d.stepFor steps .before t.operation)
      (d.stepFor steps .after t.operation) group
    return ⟨t.operation, pipelineId, functions⟩

def compileEntity (s : Settings) (e : Entity) : Compilation CompiledEntity := do
  let d ← directed e.hookOfModel
  let group := s.groupOr e.stack
  let hookSteps ← buildHookSteps s d e.name group
  return ⟨e.name, group, hookSteps, ← compileOperations s d hookSteps group e.targets⟩

/-- Compiles the hooked entities in order. All of them are checked first, so that an invalid
directive leaves the arena as it was. -/
def transform (s : Settings) (entities : List Entity) : Compilation (List CompiledEntity) := do
  let hooked := entities.filter Entity.isHooked
  hooked.forM fun e => do let _ ← directed e.hookOfModel
  hooked.mapM (compileEntity s)

end Compilation

end ResolverHooks
