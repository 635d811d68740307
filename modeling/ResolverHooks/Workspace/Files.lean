import ResolverHooks.Document.Display
import ResolverHooks.Workspace.Path

/-!
A tree of files and the directory that relative paths start from. A place in the tree is the list of
the names that lead to it from the root.
-/
namespace ResolverHooks

/-- Why a path cannot be read or written. -/
inductive FileFault where
  | absent
  | isDirectory
  /-- A file stands where a directory is asked for. -/
  | notDirectory
  /-- A name, or the whole path, has more bytes than a name or a path can have. -/
  | tooLong
  /-- A path that holds a null character leads nowhere. -/
  | nullCharacter
deriving DecidableEq, Repr, Inhabited

namespace FileFault

def reason : FileFault → String
  | absent => "[Errno 2] No such file or directory"
  | isDirectory => "[Errno 21] Is a directory"
  | notDirectory => "[Errno 20] Not a directory"
  | tooLong => "[Errno 36] File name too long"
  | nullCharacter => "embedded null byte"

def message (f : FileFault) (p : Path) : String := f.reason ++ ": " ++ Text.literal p.text

end FileFault

abbrev Place := List String

/-- Every file lies in directories, whether or not they are listed. -/
structure Files where
  contents : List (Place × List UInt8)
  directories : List Place
  /-- Where relative paths start. -/
  working : Place
deriving Inhabited

namespace Files

variable (t : Files)

def content? (place : Place) : Option (List UInt8) := t.contents.lookup place

def isDirectory (place : Place) : Bool :=
  place.isEmpty || t.directories.any place.isPrefixOf ||
    t.contents.any fun f => place != f.1 && place.isPrefixOf f.1

/-- The bytes that a name may have, and those that a path may have. -/
def longestName : Nat := 255
def longestPath : Nat := 4095

/-- Follows names from a place. Each step but the last must lead to a directory. -/
def follow (here : Place) : List String → Except FileFault Place
  | [] => .ok here
  | name :: rest =>
    if !t.isDirectory here then
      .error (if (t.content? here).isSome then .notDirectory else .absent)
    else if longestName < name.utf8ByteSize then .error .tooLong
    else follow (if name = ".." then here.dropLast else here ++ [name]) rest

/-- The place that a path leads to, whether or not there is anything. -/
def resolve (p : Path) : Except FileFault Place :=
  if p.text.contains '\x00' then .error .nullCharacter
  else if longestPath < p.text.utf8ByteSize then .error .tooLong
  else t.follow (if p.isAbsolute then [] else t.working) p.names

def read (p : Path) : Except FileFault (List UInt8) := do
  let place ← t.resolve p
  if t.isDirectory place then .error .isDirectory
  else match t.content? place with
    | some bytes => .ok bytes
    | none => .error .absent

/-- Whether there is a file or a directory. A path that is too long cannot be asked for. -/
def exists? (p : Path) : Except FileFault Bool :=
  match t.resolve p with
  | .ok place => .ok (t.isDirectory place || (t.content? place).isSome)
  | .error .tooLong => .error .tooLong
  | .error _ => .ok false

/-- Puts a file at a place, in place of any earlier one. -/
def put (place : Place) (bytes : List UInt8) : Files :=
  { t with contents := (place, bytes) :: t.contents.filter fun f => f.1 != place }

def write (p : Path) (bytes : List UInt8) : Except FileFault Files := do
  let place ← t.resolve p
  if t.isDirectory place then .error .isDirectory else .ok (t.put place bytes)

/-- The working directory as a path. -/
def workingPath : Path := ⟨.slash, t.working⟩

end Files

end ResolverHooks
