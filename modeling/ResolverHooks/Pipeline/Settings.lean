import ResolverHooks.Document.Schema
import ResolverHooks.Document.Shape
import ResolverHooks.Text.LowerCase
import ResolverHooks.Workspace.Path

/-!
The settings of a compilation. A setting is taken from the given keywords, or else from an
environment variable, or else it has its default. Names are matched without regard to case. A few
keywords are no settings, but say how environment variables are read.
-/
namespace ResolverHooks

structure Settings where
  debug : Bool := false
  /-- The deployment group of everything that is shared. -/
  stackName : String := "HookDirectiveStack"
  apiLogicalId : String := "GraphQLAPI"
  /-- The parameter that names the environment, and the condition that there is one. -/
  envParameter : String := "env"
  envCondition : String := "HasEnvironmentParameter"
  functionVersion : String := "2018-05-29"
  servicePrincipal : String := "appsync.amazonaws.com"
  /-- The file that the settings were read from. -/
  configPath : Option Path := none
deriving DecidableEq, Repr, Inhabited

namespace Settings

/-- What stands in front of a setting's name in the name of its environment variable. -/
def variablePrefix : String := "PIPEHOOK_"

/-- How environment variables are read. -/
structure Reading where
  variablePrefix : String := Settings.variablePrefix
  /-- Whether the case of a variable's name counts. -/
  exactNames : Bool := false
  /-- Whether an empty variable counts as not set. -/
  dropsEmpty : Bool := false
  /-- The text of a variable that stands for null. -/
  nullText : Value := .null
deriving Repr

namespace Reading

/-- A keyword that is given and not null. -/
def option? (keywords : List (String × Value)) (name : String) : Option Value :=
  (keywords.lookup name).filter (!·.isNull)

/-- The reading that keywords ask for. -/
def ofKeywords (keywords : List (String × Value)) : Except ShapeFault Reading := do
  let variablePrefix ← match option? keywords "_env_prefix" with
    | none => pure Settings.variablePrefix
    | some (.str s) => pure s
    | some _ => throw .notText
  let isOn (name : String) : Bool := (option? keywords name).any Value.isTruthy
  return {
    variablePrefix
    exactNames := isOn "_case_sensitive"
    dropsEmpty := isOn "_env_ignore_empty"
    nullText := (option? keywords "_env_parse_none_str").getD .null }

/-- A name as it is compared. -/
def compared (r : Reading) (name : String) : String :=
  if r.exactNames then name else Text.lowered name

/-- The value of a variable. -/
def value (r : Reading) (text : String) : Value :=
  if r.nullText.same (.str text) then .null else .str text

end Reading

/-- Where settings come from: keywords, and environment variables. -/
structure Sources where
  keywords : List (String × Value)
  environment : List (String × String)
  reading : Reading

namespace Sources

def ofKeywords (keywords : List (String × Value)) (environment : List (String × String)) :
    Except ShapeFault Sources :=
  return ⟨keywords, environment, ← Reading.ofKeywords keywords⟩

/-- The first keyword of the setting. -/
def fromKeywords? (s : Sources) (name : String) : Option Value :=
  (s.keywords.find? fun k => Text.lowered k.1 == name).map Prod.snd

/-- The last environment variable of the setting. -/
def fromEnvironment? (s : Sources) (name : String) : Option Value :=
  let full := s.reading.compared (s.reading.variablePrefix ++ name)
  let found := s.environment.filter fun v =>
    s.reading.compared v.1 == full && !(s.reading.dropsEmpty && v.2 == "")
  found.getLast?.map fun v => s.reading.value v.2

def value? (s : Sources) (name : String) : Option Value :=
  (s.fromKeywords? name).or (s.fromEnvironment? name)

/-- A setting's value, checked, or its default. -/
def setting {α : Type} (s : Sources) (name : String) (default : α) (check : Value → Checked α) :
    Checked α :=
  Checked.at_ (.name name) (((s.value? name).map check).getD (.ok default))

end Sources

def path : Value → Checked Path
  | .str s => .ok (.ofText s)
  | _ => .fail .path

/-- The settings that the sources give; unknown names are ignored. -/
def ofSources (s : Sources) : Checked Settings :=
  let d : Settings := {}
  let text (name default : String) : Checked String := s.setting name default Schema.text
  let fields : Checked (Option Path → Settings) :=
    Checked.apply (Checked.apply (Checked.apply (Checked.apply (Checked.apply (Checked.apply
      (Checked.apply (.ok Settings.mk) (s.setting "debug" d.debug Schema.flag))
      (text "stack_name" d.stackName)) (text "api_logical_id" d.apiLogicalId))
      (text "env_parameter" d.envParameter)) (text "env_condition" d.envCondition))
      (text "function_version" d.functionVersion)) (text "service_principal" d.servicePrincipal)
  fields.apply (s.setting "config_path" d.configPath (Schema.nullable path))

end Settings

end ResolverHooks
