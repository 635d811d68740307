import ResolverHooks.Mapping.Node

/-!
The mapping templates of compiled resources. A pipeline resolver puts the identity of its operation
into the context stash; hook functions hand it on, so that one function can serve many operations.
-/
namespace ResolverHooks.Mapping

/-- Keys of the context stash. -/
def typeNameKey : String := "typeName"
def fieldNameKey : String := "fieldName"

def stashPut (key value : String) : Node :=
  .quietRef ("$ctx.stash.put(\"" ++ key ++ "\", \"" ++ value ++ "\")")

def stashGet (key : String) : Node := .str ("$ctx.stash.get(\"" ++ key ++ "\")")

/-- Forwards the result. -/
def passthrough : String := "$util.toJson($ctx.result)"

/-- The request template of a pipeline resolver: it stashes the operation and sends nothing. -/
def stashRequest (typeName fieldName : String) : String :=
  (Node.block "Stash resolver specific context" (.compound [stashPut typeNameKey typeName,
    stashPut fieldNameKey fieldName, .obj []])).render 0

/-- What a hook function is invoked with. -/
def hookPayload (stage entity : String) : Node :=
  .obj [("typeName", stashGet typeNameKey), ("fieldName", stashGet fieldNameKey),
    ("arguments", .ref "util.toJson($ctx.arguments)"),
    ("identity", .ref "util.toJson($ctx.identity)"),
    ("source", .ref "util.toJson($ctx.source)"),
    ("request", .ref "util.toJson($ctx.request)"),
    ("prev", .ref "util.toJson($ctx.prev)"),
    ("stage", .str stage), ("model", .str entity)]

/-- The request template of a hook step. -/
def hookRequest (dataSource stage entity version : String) : String :=
  (Node.block ("Invoke AWS Lambda data source: " ++ dataSource) (.obj [("version", .str version),
    ("operation", .str "Invoke"), ("payload", hookPayload stage entity)])).render 0

/-- The response template of a hook step: it reports an error, or else forwards the result. -/
def hookResponse : String :=
  (Node.block "Handle error or return result" (.compound
    [.ifThen (.ref "ctx.error") (.raw "$util.error($ctx.error.message, $ctx.error.type)"),
      .raw passthrough])).render 0

/-- A template behind hoisted content. -/
def prepend (content template : String) : String := content ++ "\n" ++ template

end ResolverHooks.Mapping
