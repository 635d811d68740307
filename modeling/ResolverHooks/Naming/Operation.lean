/-! The five standard operations on a model. -/
namespace ResolverHooks

inductive Operation where
  | create
  | update
  | delete
  | get
  | list
deriving DecidableEq, Repr, Inhabited

namespace Operation

/-- All operations, in the order in which they are compiled. -/
def all : List Operation := [create, update, delete, get, list]

theorem mem_all (o : Operation) : o ∈ all := by cases o <;> decide

/-- The word that starts the operation's field names. -/
def word : Operation → String
  | create => "create"
  | update => "update"
  | delete => "delete"
  | get => "get"
  | list => "list"

/-- The word that starts the operation's resolver ids. -/
def title : Operation → String
  | create => "Create"
  | update => "Update"
  | delete => "Delete"
  | get => "Get"
  | list => "List"

/-- The root type that holds the operation's field. -/
def rootType : Operation → String
  | create | update | delete => "Mutation"
  | get | list => "Query"

def ofWord? (s : String) : Option Operation := all.find? fun o => o.word == s

end Operation

end ResolverHooks
