import ResolverHooks.Pipeline.Request
import ResolverHooks.Resource.Check
import ResolverHooks.Text.Markup
import ResolverHooks.Workspace.Files
import ResolverHooks.Yaml.Token

/-! Everything that can stop a command. Some failures are reported, the others are not expected. -/
namespace ResolverHooks

/-- Why a document cannot be used. -/
inductive DocumentFault where
  | unreadable (path : Path) (f : FileFault)
  | unparsable (path : Path)
  /-- The document holds a value of another kind than a mapping. -/
  | notMapping (path : Path) (kind : String)
  | invalid (path : Path) (problems : List Problem)
deriving DecidableEq, Repr

inductive Failure where
  | compile (f : CompileFault)
  | document (f : DocumentFault)
  | cycle (ids : List Scalar)
  | settings (problems : List Problem)
  /-- A stream that cannot be read for another reason than its form, or outside a document. -/
  | yaml (f : Yaml.Fault)
  | file (path : Path) (f : FileFault)
  /-- The home directory cannot be told. -/
  | homeless
  | shape (f : ShapeFault)
  /-- Markup that cannot be shown. -/
  | markup (f : Text.Markup.Fault)
deriving DecidableEq, Repr

namespace Problem

/-- A problem as two lines: where it lies, and the broken rule. -/
def report (p : Problem) : String :=
  ".".intercalate (p.path.map Step.text) ++ "\n  " ++ p.rule.message ++ " [" ++ p.rule.code ++ "]"

/-- The problems of a form, below their number. -/
def reportAll (form : String) (problems : List Problem) : String :=
  let n := problems.length
  "\n".intercalate ((toString n ++ " validation error" ++ (if n = 1 then "" else "s") ++ " for " ++
    form) :: problems.map report)

end Problem

namespace DocumentFault

/-- What is wrong, without the details. -/
def summary : DocumentFault → String
  | unreadable p _ => "Cannot read " ++ p.text
  | unparsable p => "Cannot parse " ++ p.text
  | notMapping p kind => p.text ++ " must contain a mapping, got " ++ kind
  | invalid p _ => "Invalid compile request " ++ p.text

def details? : DocumentFault → Option String
  | unreadable p f => some (f.message p)
  | unparsable _ | notMapping _ _ => none
  | invalid _ problems => some (Problem.reportAll Request.formName problems)

end DocumentFault

namespace Failure

def ofOrder : OrderFault → Failure
  | .cycle ids => cycle ids
  | .shape f => shape f

/-- A message, and details behind it. -/
def withDetails (summary : String) (details : Option String) : String :=
  summary ++ (details.map (": " ++ ·)).getD ""

/-- What a command reports of a failure; some failures it does not report. A cycle can be reported
only if all its ids are texts. -/
def report? : Failure → Except ShapeFault (Option String)
  | compile (.directive (.arguments entity problems)) =>
    .ok (some (withDetails (DirectiveFault.arguments entity problems).message
      (some (Problem.reportAll Directive.formName problems))))
  | compile (.shape _) => .ok none
  | compile f => .ok (some f.message)
  | document f => .ok (some (withDetails f.summary f.details?))
  | cycle ids => (Scalar.texts ids).map fun ids => some (Finding.cycle ids).message
  | _ => .ok none

end Failure

end ResolverHooks
