import ResolverHooks.Pipeline.Request
import ResolverHooks.Workspace.Failure
import ResolverHooks.Yaml.Reading

/-! Documents in files: compile requests, and compiled output. JSON is read as YAML. -/
namespace ResolverHooks

namespace Files

variable (t : Files)

/-- The failure to read a document's file; that a path leads nowhere at all is not expected. -/
def unreadable (p : Path) (f : FileFault) : Failure :=
  if f = .nullCharacter then .file p f else .document (.unreadable p f)

/-- The document of a file. -/
def readDocument (p : Path) : Except Failure Value := do
  let bytes ← (t.read p).mapError (unreadable p)
  (Yaml.read bytes).mapError fun f => if f = .malformed then .document (.unparsable p) else .yaml f

/-- The document of a file, which must be a mapping. -/
def readMapping (p : Path) : Except Failure (List (Scalar × Value)) := do
  let v ← t.readDocument p
  v.entries.mapError fun _ => .document (.notMapping p v.kindName)

def loadRequest (p : Path) : Except Failure Request := do
  let entries ← t.readMapping p
  let request ← (Request.check (.map entries)).mapError fun ps => .document (.invalid p ps)
  request.checkCountable.mapError .shape
  return request

/-- Reads compiled output: resources, and the groups that they are in. -/
def loadGraph (p : Path) : Except Failure Graph := do
  let entries ← t.readMapping p
  let groups := (Entries.find? (.str "StackMapping") entries).getD .null
  (Graph.ofTemplate entries groups).mapError .shape

end Files

end ResolverHooks
