import ResolverHooks.Naming.LogicalId
import ResolverHooks.Pipeline.Arena
import ResolverHooks.Pipeline.Settings
import ResolverHooks.Resource.Intrinsic

/-!
The shared compute resources of hook functions. However many entities and stages use a function, it
has one execution role and one data source.
-/
namespace ResolverHooks

/-- A hook function: its name, and its region unless that is the stack's own. -/
structure Identity where
  name : String
  region : Option String
deriving DecidableEq, Repr, Inhabited

namespace Identity

/-- The identity of a name and a region, of which a blank one means none. -/
def ofNames (name : String) (region : Option String) : Identity :=
  ⟨name, region.filter fun r => !Text.isBlankText r⟩

def roleId (i : Identity) : String := LogicalId.role i.name i.region

def dataSourceId (i : Identity) : String := LogicalId.dataSource i.name i.region

end Identity

namespace FunctionArn

/-- The placeholder for the environment. -/
def environmentMark : List Char := "$\x7benv\x7d".toList

/-- How the placeholder ends a name. -/
def environmentEnding : List Char := '-' :: environmentMark

/-- Whether a name mentions the environment. -/
def mentionsEnvironment : List Char → Bool
  | [] => false
  | c :: rest => environmentMark.isPrefixOf (c :: rest) || mentionsEnvironment rest

/-- Drops every occurrence of the ending; `skip` characters of the current one are still to go. -/
def dropEnding (skip : Nat) : List Char → List Char
  | [] => []
  | c :: rest =>
    if 0 < skip then dropEnding (skip - 1) rest
    else if environmentEnding.isPrefixOf (c :: rest) then
      dropEnding (environmentEnding.length - 1) rest
    else c :: dropEnding 0 rest

def referencesEnvironment (name : String) : Bool := mentionsEnvironment name.toList

/-- The name for deployments that have no environment. -/
def withoutEnvironment (name : String) : String := String.ofList (dropEnding 0 name.toList)

def accountMark : String := "$\x7bAWS::AccountId\x7d"
def regionMark : String := "$\x7bAWS::Region\x7d"

/-- The text of a function's resource name. Without a region it is in the stack's. -/
def key (name : String) (region : Option String) : String :=
  "arn:aws:lambda:" ++ (region.filter (· != "")).getD regionMark ++ ":" ++ accountMark ++
    ":function:" ++ name

/-- What is bound inside the text; the environment only where the name asks for it. -/
def bindings (name : String) (s : Settings) : List (Scalar × Value) :=
  if referencesEnvironment name then [(.str "env", Intrinsic.ref (.str s.envParameter))] else []

/-- The resource name of a function, with the environment or without it. -/
def value (name : String) (region : Option String) (s : Settings) : Value :=
  Intrinsic.ifElse (.str s.envCondition)
    (Intrinsic.sub (.str (key name region)) (bindings name s))
    (Intrinsic.sub (.str (key (withoutEnvironment name) region)) [])

end FunctionArn

namespace Settings

/-- The id of the API that owns the compiled resources. -/
def apiId (s : Settings) : Value := Intrinsic.attributeOf s.apiLogicalId "ApiId"

end Settings

namespace Identity

/-- The name of the role: unique for each API, and for each environment if there is one. -/
def roleName (i : Identity) (s : Settings) : Value :=
  Intrinsic.ifElse (.str s.envCondition)
    (Intrinsic.join (.str "-") [.str (LogicalId.roleName i.name i.region true), s.apiId,
      Intrinsic.ref (.str s.envParameter)])
    (Intrinsic.join (.str "-") [.str (LogicalId.roleName i.name i.region false), s.apiId])

/-- Who may assume the role. -/
def trust (s : Settings) : Value :=
  .object [("Version", .str "2012-10-17"),
    ("Statement", .seq [.object [("Effect", .str "Allow"),
      ("Principal", .object [("Service", .str s.servicePrincipal)]),
      ("Action", .str "sts:AssumeRole")]])]

/-- The permission to invoke the function, and nothing else. -/
def invokePolicy (i : Identity) (s : Settings) : Value :=
  .object [("PolicyName", .str "InvokeLambdaFunction"),
    ("PolicyDocument", .object [("Version", .str "2012-10-17"),
      ("Statement", .seq [.object [("Effect", .str "Allow"),
        ("Action", .seq [.str "lambda:InvokeFunction"]),
        ("Resource", FunctionArn.value i.name i.region s)]])])]

def role (i : Identity) (s : Settings) : Resource where
  kind := .str "AWS::IAM::Role"
  properties := .object [("RoleName", i.roleName s), ("AssumeRolePolicyDocument", trust s),
    ("Policies", .seq [i.invokePolicy s])]
  dependsOn := []

def dataSource (i : Identity) (s : Settings) : Resource where
  kind := .str "AWS::AppSync::DataSource"
  properties := .object [("ApiId", s.apiId), ("Name", .str i.dataSourceId),
    ("Type", .str "AWS_LAMBDA"), ("ServiceRoleArn", Intrinsic.attributeOf i.roleId "Arn"),
    ("LambdaConfig", .object [("LambdaFunctionArn", FunctionArn.value i.name i.region s)])]
  dependsOn := []

end Identity

namespace Compilation

/-- Whether an id belongs to a group. -/
def isIn (group : String) (id : Value) : Compilation Bool :=
  return ((← graph).groupOfDependency id).same (.str group)

/-- Adds a resource to the shared group, unless its id is taken. Says whether it was added. -/
def placeShared (s : Settings) (id : String) (r : Resource) : Compilation Bool := do
  if (← graph).contains (.str id) then return false
  place s.stackName id r
  return true

/-- Makes sure that the role and the data source of a function exist, and gives the data source. A
data source that is new depends on its role, if that is in the shared group. -/
def ensure (s : Settings) (i : Identity) : Compilation String := do
  let _ ← placeShared s i.roleId (i.role s)
  if ← placeShared s i.dataSourceId (i.dataSource s) then
    if ← isIn s.stackName (.str i.roleId) then depend i.dataSourceId (.str i.roleId)
  return i.dataSourceId

end Compilation

end ResolverHooks
