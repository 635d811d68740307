import ResolverHooks.Hook.Directive
import ResolverHooks.Naming.Target

/-! Object types of a schema, with their directives. -/
namespace ResolverHooks

/-- An object type. Each directive has its arguments, or null; `stack` is the deployment group, the
configured one where it is absent. -/
structure Entity where
  name : String
  directives : List (String × Option (List (Scalar × Value)))
  stack : Option String
  fieldNames : List (Operation × String)
deriving Repr, Inhabited

namespace Entity

def hookName : String := "hook"
def modelName : String := "model"

def hasDirective (e : Entity) (name : String) : Bool := e.directives.any fun d => d.1 == name

def isHooked (e : Entity) : Bool := e.hasDirective hookName

def checkArguments (v : Value) : Checked (List (Scalar × Value)) :=
  (Schema.namedMapping .ok v).map fun es => es.map fun e => (.str e.1, e.2)

def operationKey (k : Scalar) : Checked Operation :=
  match k with
  | .str s => match Operation.ofWord? s with
    | some o => .ok o
    | none => .fail .operation
  | _ => .fail .operation

/-- Reads an entity; fields of other names are ignored. -/
def check (v : Value) : Checked Entity := do
  let entries ← Schema.form "EntityDefinition" v
  Checked.apply (Checked.apply (Checked.apply (Checked.apply (.ok Entity.mk)
    (Schema.field entries "name" (.fail .required) Schema.nonEmptyText))
    (Schema.field entries "directives" (.ok [])
      (Schema.namedMapping (Schema.nullable checkArguments))))
    (Schema.field entries "stack" (.ok none) (Schema.nullable Schema.text)))
    (Schema.field entries "field_names" (.ok []) (Schema.mapping operationKey Schema.text))

/-- The entity's hook. -/
def hook (e : Entity) : Except DirectiveFault Directive :=
  match e.directives.lookup hookName with
  | none => .error (.notHooked e.name)
  | some arguments => Directive.ofArguments (.map (arguments.getD [])) e.name

/-- The hook of an entity that is a model; only models have resolvers to hook into. -/
def hookOfModel (e : Entity) : Except DirectiveFault Directive :=
  if e.hasDirective modelName then e.hook else .error .notModel

def targets (e : Entity) : List Target := Target.allFor e.name e.fieldNames

end Entity

end ResolverHooks
