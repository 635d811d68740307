import ResolverHooks.Naming.Operation
import ResolverHooks.Naming.Plural

/-!
The field and the resolver that the storage layer makes for an operation on an entity, by its naming
convention.
-/
namespace ResolverHooks

structure Target where
  operation : Operation
  typeName : String
  fieldName : String
  resolverId : String
deriving DecidableEq, Repr, Inhabited

namespace Target

def resolverIdFor (o : Operation) (entity : String) : String := o.title ++ entity ++ "Resolver"

/-- The conventional field name; a list field names its entities in the plural. -/
def fieldNameFor (o : Operation) (entity : String) : String :=
  match o with
  | .list => Plural.of (o.word ++ entity)
  | _ => o.word ++ entity

/-- The target of one operation, its field named by the overrides if they name it. -/
def forOperation (entity : String) (overrides : List (Operation × String)) (o : Operation) :
    Target :=
  ⟨o, o.rootType, (overrides.lookup o).getD (fieldNameFor o entity), resolverIdFor o entity⟩

/-- The targets of all five operations. -/
def allFor (entity : String) (overrides : List (Operation × String)) : List Target :=
  Operation.all.map (forOperation entity overrides)

end Target

end ResolverHooks
