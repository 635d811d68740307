import ResolverHooks.Naming.Sha256
import ResolverHooks.Text.Hex

/-!
Logical ids of compiled resources: a readable stem, the suffix of the resource's kind, and a digest
of the exact fragments. Stems lose information, so it is the digest that keeps ids apart; an absent
fragment and an empty one have different digests.
-/
namespace ResolverHooks

/-- Kinds of resources that a compilation creates. -/
inductive ResourceKind where
  | role
  | dataSource
  | hookStep
  | wrapStep
  | pipeline
deriving DecidableEq, Repr, Inhabited

namespace ResourceKind

def all : List ResourceKind := [role, dataSource, hookStep, wrapStep, pipeline]

/-- The name under which a kind enters a digest. -/
def name : ResourceKind → String
  | role => "ROLE"
  | dataSource => "DATA_SOURCE"
  | hookStep => "HOOK_STEP"
  | wrapStep => "WRAP_STEP"
  | pipeline => "PIPELINE"

/-- What stands in front of the stem. -/
def opening : ResourceKind → String
  | hookStep => "Invoke"
  | _ => ""

/-- What stands behind the stem. -/
def ending : ResourceKind → String
  | role => "LambdaDataSourceRole"
  | dataSource => "LambdaDataSource"
  | hookStep => "LambdaFunction"
  | wrapStep => "Function"
  | pipeline => "PipelineResolver"

def ofName? (s : String) : Option ResourceKind := all.find? fun k => k.name == s

end ResourceKind

namespace LogicalId

/-- Removes every placeholder, a dollar sign and braces with all between them. An opening without a
closing brace after it is no placeholder. -/
def dropPlaceholders (inside : Bool) : List Char → List Char
  | [] => []
  | c :: rest =>
    if inside then dropPlaceholders (c != '\x7d') rest
    else if c == '$' && rest.head? == some '\x7b' && rest.contains '\x7d' then
      dropPlaceholders true rest
    else c :: dropPlaceholders false rest

/-- Makes the first character upper case. -/
def capitalize : List Char → List Char
  | [] => []
  | c :: rest => c.toUpper :: rest

/-- The stem of a fragment: its ASCII letters and digits outside placeholders, capitalised. -/
def stem (fragment : String) : String :=
  String.ofList (capitalize ((dropPlaceholders false fragment.toList).filter Char.isAlphanum))

/-- The text whose digest tells fragments apart: fields separated by a control character that marks
units, with another one in place of an absent field. -/
def material (kind : ResourceKind) (fragments : List (Option String)) : String :=
  "\x1f".intercalate (kind.name :: fragments.map fun f => f.getD "\x00")

/-- The first thirty-two bits of the SHA-256 digest of a text, in eight upper-case digits. -/
def fingerprint (text : String) : String :=
  String.ofList (Text.fixedHex Text.upperDigit 8 (Sha256.digest text.toUTF8.toList).a.toNat)

/-- The id of a resource, for a digest function. -/
def canonicalWith (digest : String → String) (kind : ResourceKind)
    (fragments : List (Option String)) : String :=
  kind.opening ++ String.join (fragments.map fun f => stem (f.getD "")) ++ kind.ending ++
    digest (material kind fragments)

/-- The id of a resource. -/
def canonical (kind : ResourceKind) (fragments : List (Option String)) : String :=
  canonicalWith fingerprint kind fragments

def role (name : String) (region : Option String) : String := canonical .role [some name, region]

def dataSource (name : String) (region : Option String) : String :=
  canonical .dataSource [some name, region]

def hookStep (stage entity hookName : String) (region : Option String) : String :=
  canonical .hookStep [some stage, some entity, some hookName, region]

def wrapStep (typeName fieldName : String) : String :=
  canonical .wrapStep [some typeName, some fieldName]

def pipeline (typeName fieldName : String) : String :=
  canonical .pipeline [some typeName, some fieldName]

/-- How much of a role's readable name is kept; an environment's name needs room behind it. -/
def roleNameLimit (withEnvironment : Bool) : Nat := if withEnvironment then 10 else 19

/-- The name of an execution role, for a digest function: a truncated stem and the digest. -/
def roleNameWith (digest : String → String) (name : String) (region : Option String)
    (withEnvironment : Bool) : String :=
  let base := stem name ++ stem (region.getD "")
  String.ofList (base.toList.take (roleNameLimit withEnvironment)) ++
    digest (material .role [some name, region]) ++ "LambdaRole"

def roleName (name : String) (region : Option String) (withEnvironment : Bool) : String :=
  roleNameWith fingerprint name region withEnvironment

end LogicalId

end ResolverHooks
