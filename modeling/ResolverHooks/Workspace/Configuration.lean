import ResolverHooks.Pipeline.Settings
import ResolverHooks.Workspace.Failure
import ResolverHooks.Yaml.Reading

/-!
Settings from configuration files. The file is looked for in the directory that the environment
names, in the working directory, and below the home directory; the first one found counts.
-/
namespace ResolverHooks

/-- Environment variables, in the order in which they were first set. -/
structure Environment where
  entries : List (String × String)
deriving Repr, Inhabited

namespace Environment

def get? (e : Environment) (name : String) : Option String := e.entries.lookup name

def unset (e : Environment) (name : String) : Environment :=
  ⟨e.entries.filter fun v => v.1 != name⟩

/-- Sets a variable; one that is set keeps its place. -/
def set (e : Environment) (name value : String) : Environment :=
  if (e.get? name).isSome then
    ⟨e.entries.map fun v => if v.1 = name then (name, value) else v⟩
  else ⟨e.entries ++ [(name, value)]⟩

end Environment

/-- Where a command runs: the files around it, its environment, and the settings in use if any have
been chosen. -/
structure Workspace where
  files : Files
  environment : Environment
  settings : Option Settings := none
deriving Inhabited

namespace Workspace

variable (w : Workspace)

def configName : String := "pipehook.yaml"

/-- The section of a configuration file that holds the settings. -/
def sectionName : String := "pipehook"

def settingsOf (keywords : List (String × Value)) : Except Failure Settings := do
  let sources ← (Settings.Sources.ofKeywords keywords w.environment.entries).mapError .shape
  (Settings.ofSources sources).mapError .settings

/-- The document of a configuration file. -/
def configDocument (p : Path) : Except Failure Value := do
  let bytes ← (w.files.read p).mapError (.file p)
  (Yaml.read bytes).mapError .yaml

/-- The entries of a configuration file's section. A file that is not there has none, nor has a
section that is no mapping. -/
def configSection (p : Path) : Except Failure (List (Scalar × Value)) := do
  if ← (w.files.exists? p).mapError (.file p) then
    let entries ← (← w.configDocument p).entriesOrNone.mapError .shape
    match (Entries.find? (.str sectionName) entries).map Value.entries with
    | some (.ok es) => return es
    | _ => return []
  else return []

/-- The keyword that the entry of a section stands for. The file's own path is no setting. -/
def keyword (e : Scalar × Value) : Except ShapeFault (String × Value) :=
  match e.1 with
  | .str name => if name = "config_path" then .error .badKeyword else .ok (name, e.2)
  | _ => .error .badKeyword

/-- Names that no keyword beside a file may have. -/
def reservedKeywords : List String := ["cls", "yaml_path"]

/-- The settings of a configuration file; keywords take the place of its entries. -/
def settingsFrom (p : Path) (keywords : List (String × Value)) : Except Failure Settings := do
  if keywords.any fun k => reservedKeywords.contains k.1 then throw (.shape .badKeyword)
  let entries := keywords.foldl (fun es k => Entries.insert (.str k.1) k.2 es)
    (← w.configSection p)
  let named ← (entries.mapM keyword).mapError .shape
  w.settingsOf (("config_path", .str p.text) :: named)

/-- The home directory: slashes at its end do not count, and what is nothing without them is the
root. -/
def homeOf (directory : String) : Except Failure Path :=
  let cs := (directory.toList.reverse.dropWhile (· == '/')).reverse
  match cs with
  | [] => .ok (.ofText "/")
  | '~' :: _ => .error .homeless
  | cs => .ok (.ofText (String.ofList cs))

/-- Where configuration files are looked for, in order. -/
def configPaths : Except Failure (List Path) := do
  let named := match w.environment.get? "PIPEHOOK_CONFIG_DIR" with
    | some directory => if directory = "" then [] else [(Path.ofText directory).entry configName]
    | none => []
  let home ← match w.environment.get? "HOME" with
    | some directory => pure [((← homeOf directory).entry ".pipehook").entry configName]
    | none => pure []
  return named ++ w.files.workingPath.entry configName :: home

/-- The first of the paths that leads to something. -/
def firstPresent? : List Path → Except Failure (Option Path)
  | [] => .ok none
  | p :: rest => do
    if ← (w.files.exists? p).mapError (.file p) then return some p else firstPresent? rest

/-- The configuration file to use. -/
def configPath? : Except Failure (Option Path) := do w.firstPresent? (← w.configPaths)

/-- The settings in use, which are looked for when they are first needed. -/
def currentSettings : Except Failure Settings := do
  match w.settings with
  | some s => return s
  | none => match ← w.configPath? with
    | some p => w.settingsFrom p []
    | none => w.settingsOf []

/-- The settings in use, and the workspace in which they stay in use. -/
def useCurrent : Except Failure (Settings × Workspace) := do
  let s ← w.currentSettings
  return (s, { w with settings := some s })

/-- Takes the settings of a directory's configuration file into use; without a directory, those in
use stay so. -/
def choose (directory : Option Path) : Except Failure (Settings × Workspace) :=
  match directory with
  | some d => do
    let s ← w.settingsFrom (d.entry configName) []
    return (s, { w with settings := some s })
  | none => w.useCurrent

end Workspace

end ResolverHooks
