import ResolverHooks.Text.FileReader
import ResolverHooks.Yaml.Cursor
import ResolverHooks.Yaml.Token

/-!
The text of a YAML file. It is loaded in portions, and each is checked for characters that may not
stand in it, so a fault far down in a file shows only after what comes before it has been read.
-/
namespace ResolverHooks.Yaml

/-- A text, and the fault that cuts it short, if one does. -/
structure Stream where
  text : List Char
  fault : Option Fault
deriving Repr

namespace Stream

/-- The characters of a portion. -/
def portion : Nat := 4096

/-- Loads portions behind the text so far. Every portion but the last has at least one character, so
as many rounds as there are bytes and a few more are enough. -/
def load : Nat → List Char → Text.FileReader → Stream
  | 0, text, _ => ⟨text, none⟩
  | fuel + 1, text, r =>
    match r.read? portion with
    | none => ⟨text, some .undecodable⟩
    | some (cs, r) =>
      if cs.isEmpty then ⟨text, none⟩
      else if cs.all isAllowed then load fuel (text ++ cs) r
      else ⟨text, some .malformed⟩

/-- The text of a file. The first two portions are loaded together. -/
def ofBytes (bytes : List UInt8) : Stream :=
  match (Text.FileReader.start bytes).read? portion with
  | none => ⟨[], some .undecodable⟩
  | some (first, r) =>
    match r.read? portion with
    | none => ⟨[], some .undecodable⟩
    | some (second, r) =>
      if (first ++ second).all isAllowed then load (bytes.length + 1) (first ++ second) r
      else ⟨[], some .malformed⟩

end Stream

end ResolverHooks.Yaml
