import ResolverHooks.Command.Execution

/-!
The program. It gathers the files that a command line can need, runs the command on them, and writes
what the command has written.
-/
namespace ResolverHooks

/-- The part of a file tree that a path leads through. -/
partial def probe (t : Files) (here : Place) (names : List String) : IO Files := do
  let file := (← IO.currentDir) / ("/" ++ "/".intercalate here)
  if ← file.isDir then
    let t := { t with directories := here :: t.directories }
    match names with
    | [] => return t
    | name :: rest => probe t (if name = ".." then here.dropLast else here ++ [name]) rest
  else if !names.isEmpty then return t
  else
    try return t.put here (← IO.FS.readBinFile file).toList catch _ => return t

def probePath (t : Files) (p : Path) : IO Files :=
  probe t (if p.isAbsolute then [] else t.working) p.names

/-- The variables of the process. -/
def processEnvironment : IO Environment := do
  let bytes ← try pure (← IO.FS.readBinFile "/proc/self/environ").toList catch _ => pure []
  let texts := (bytes.splitOn 0).filterMap Text.decode?
  return texts.foldl (fun e s =>
    let (name, value) := Invocation.splitEquals s
    (value.map (e.set name)).getD e) ⟨[]⟩

/-- The paths that a command line reads or writes. -/
def pathsOf (w : Workspace) (i : Invocation) : List Path :=
  let config := (i.configDirectory.map fun d => [d.entry Workspace.configName]).getD
    (w.configPaths.toOption.getD [])
  match i.command with
  | .compile input output _ => input :: output.toList ++ config
  | .graph template _ _ => template :: config
  | .directive => config

def finish (o : Outcome) : IO UInt32 := do
  for (p, text) in o.written do
    IO.FS.writeFile p.text text
  IO.print o.output
  IO.eprint o.messages
  match o.ending with
  | .exit code => return code.toUInt32
  | .reported _ => return 1
  | .escaped f =>
    IO.eprintln (repr f)
    return 1

end ResolverHooks

open ResolverHooks in
def main (args : List String) : IO UInt32 := do
  let working := (Path.ofText (← IO.currentDir).toString).names
  let environment ← processEnvironment
  let w : Workspace := { files := ⟨[], [], working⟩, environment }
  match Invocation.ofArguments args with
  | .error _ => finish (w.run args)
  | .ok i =>
    let files ← (pathsOf w i).foldlM probePath w.files
    finish ({ w with files }.run args)
