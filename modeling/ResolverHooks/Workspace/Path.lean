/-!
Paths as slash-separated names. Empty names and single dots say nothing and are left out; double
dots stay, since what they lead to depends on the directory before them.
-/
namespace ResolverHooks

/-- Where a path starts. Two slashes in front are kept apart from one. -/
inductive Path.Root where
  | working
  | slash
  | doubleSlash
deriving DecidableEq, Repr, Inhabited

structure Path where
  root : Path.Root
  names : List String
deriving DecidableEq, Repr, Inhabited

namespace Path

def Root.ofSlashes : Nat → Root
  | 0 => working
  | 2 => doubleSlash
  | _ => slash

def Root.text : Root → String
  | working => ""
  | slash => "/"
  | doubleSlash => "//"

/-- Whether a name leads anywhere. -/
def isStep (name : String) : Bool := name != "" && name != "."

def ofText (text : String) : Path :=
  let cs := text.toList
  ⟨.ofSlashes (cs.takeWhile (· == '/')).length,
    ((cs.splitOn '/').map String.ofList).filter isStep⟩

def text (p : Path) : String :=
  if p.root = .working ∧ p.names = [] then "." else p.root.text ++ "/".intercalate p.names

def isAbsolute (p : Path) : Bool := p.root != .working

/-- The second path seen from the first; an absolute path is the same from everywhere. -/
def join (p q : Path) : Path := if q.isAbsolute then q else { p with names := p.names ++ q.names }

/-- A name inside a directory. -/
def entry (p : Path) (name : String) : Path := { p with names := p.names ++ [name] }

end Path

end ResolverHooks
