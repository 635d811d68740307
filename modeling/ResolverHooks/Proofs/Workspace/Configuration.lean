import Mathlib.Data.Bool.AllAny
import ResolverHooks.Proofs.Document.Checked
import ResolverHooks.Workspace.Configuration

/-!
Where settings come from. What a configuration file says is handed on in keywords, and keywords come
before the environment: a variable gives a setting that the file leaves open, and does not override
one that it makes.
-/
namespace ResolverHooks

namespace Text

variable {c : Char} {s : String}

/-- Between the capital letters and the first letter with an accent, characters are their own lower
case. -/
theorem lowerChar_eq (h : 'Z'.toNat < c.toNat) (h' : c.toNat < 'À'.toNat) : lowerChar c = c := by
  have hruns : ∀ r ∈ lowerRuns, r.2.1 ≤ 'Z'.toNat ∨ 'À'.toNat ≤ r.1 := by decide +kernel
  have hnone : (lowerRuns.find? fun r =>
      r.1 ≤ c.toNat && c.toNat ≤ r.2.1 && (c.toNat - r.1) % r.2.2.1 = 0) = none := by
    rw [List.find?_eq_none]
    intro r hr
    rcases hruns r hr with hlow | hhigh
    · simp [Nat.not_le.mpr (Nat.lt_of_le_of_lt hlow h)]
    · simp [Nat.not_le.mpr (Nat.lt_of_lt_of_le h' hhigh)]
  rw [lowerChar, hnone]

theorem lowered_eq (h : ∀ c ∈ s.toList, 'Z'.toNat < c.toNat ∧ c.toNat < 'À'.toNat) :
    lowered s = s := by
  rw [lowered, List.map_congr_left fun c hc => lowerChar_eq (h c hc).1 (h c hc).2, List.map_id',
    String.ofList_toList]

theorem lowered_append (s s' : String) : lowered (s ++ s') = lowered s ++ lowered s' := by
  simp [lowered, String.toList_append, List.map_append]

end Text

/-- A setting: its name, the check of its values, and where it is kept. -/
structure Setting where
  Content : Type
  name : String
  check : Value → Checked Content
  get : Settings → Content

namespace Setting

variable {x : Setting} {s : Settings.Sources} {t : Settings} {named : List (String × Value)}
    {e : Environment}

def ofText (name : String) (get : Settings → String) : Setting := ⟨String, name, Schema.text, get⟩

/-- All settings but the path of the file that they are read from. -/
def all : List Setting := [
  ⟨Bool, "debug", Schema.flag, Settings.debug⟩,
  ofText "stack_name" Settings.stackName,
  ofText "api_logical_id" Settings.apiLogicalId,
  ofText "env_parameter" Settings.envParameter,
  ofText "env_condition" Settings.envCondition,
  ofText "function_version" Settings.functionVersion,
  ofText "service_principal" Settings.servicePrincipal]

def default (x : Setting) : x.Content := x.get {}

/-- What a section says of the setting: the first entry of its name, in any case. -/
def inSection? (x : Setting) (named : List (String × Value)) : Option Value :=
  (named.find? fun entry => Text.lowered entry.1 == x.name).map Prod.snd

/-- What the environment says of the setting: the last variable of its name behind the prefix, in
any case. -/
def inEnvironment? (x : Setting) (e : Environment) : Option Value :=
  (e.entries.filter fun v =>
    Text.lowered v.1 == Text.lowered (Settings.variablePrefix ++ x.name)).getLast?.map
      fun v => .str v.2

/-- Names of settings are written in small letters. -/
theorem lowered_name : ∀ x ∈ all, Text.lowered x.name = x.name := by
  simp only [all, List.forall_mem_cons]
  refine ⟨?_, ?_, ?_, ?_, ?_, ?_, ?_, List.forall_mem_nil _⟩ <;>
    exact Text.lowered_eq (List.all_iff_forall_prop.mp (by decide))

theorem inEnvironment?_eq (hx : x ∈ all) : x.inEnvironment? e =
    (e.entries.filter fun v => Text.lowered v.1 == "pipehook_" ++ x.name).getLast?.map fun v =>
      .str v.2 := by
  have hprefix : Text.lowered Settings.variablePrefix = "pipehook_" := by decide +kernel
  rw [inEnvironment?, Text.lowered_append, hprefix, lowered_name x hx]

/-- The content that a value stands for, if it is one for the setting. -/
def valid? (x : Setting) (v? : Option Value) : Option x.Content :=
  v?.bind fun v => (x.check v).toOption

/-- The setting where the file comes before the environment. -/
def fileFirst (x : Setting) (named : List (String × Value)) (e : Environment) : x.Content :=
  ((x.valid? (x.inSection? named)).or (x.valid? (x.inEnvironment? e))).getD x.default

/-- The setting where the environment comes before the file. -/
def environmentFirst (x : Setting) (named : List (String × Value)) (e : Environment) : x.Content :=
  ((x.valid? (x.inEnvironment? e)).or (x.valid? (x.inSection? named))).getD x.default

/-- The two differ only where both sources give a content. -/
theorem fileFirst_eq_environmentFirst_iff : x.fileFirst named e = x.environmentFirst named e ↔
    ∀ a b, x.valid? (x.inSection? named) = some a →
      x.valid? (x.inEnvironment? e) = some b → a = b := by
  rw [fileFirst, environmentFirst]
  cases x.valid? (x.inSection? named) <;> cases x.valid? (x.inEnvironment? e) <;> simp

/-- What sources say of a setting, checked. -/
def checked (x : Setting) (s : Settings.Sources) : Checked x.Content :=
  s.setting x.name x.default x.check

theorem checked_eq_ok_iff {a : x.Content} : x.checked s = .ok a ↔
    (∀ v, s.value? x.name = some v → ∃ a, x.check v = .ok a) ∧
      a = (x.valid? (s.value? x.name)).getD x.default := by
  rw [checked, Settings.Sources.setting, Checked.at_eq_ok_iff]
  cases s.value? x.name with
  | none => simp [valid?, eq_comm]
  | some v => cases h : x.check v <;> simp [valid?, h, Except.toOption, eq_comm]

theorem exists_checked_iff :
    (∃ a, x.checked s = .ok a) ↔ ∀ v, s.value? x.name = some v → ∃ a, x.check v = .ok a := by
  simp [checked_eq_ok_iff]

end Setting

namespace Settings

variable {s : Sources} {t : Settings}

/-- Settings are given by sources one by one. -/
theorem ofSources_eq_ok_iff :
    ofSources s = .ok t ↔ (∀ x ∈ Setting.all, x.checked s = .ok (x.get t)) ∧
    s.setting "config_path" none (Schema.nullable path) = .ok t.configPath := by
  simp only [ofSources, Checked.apply_eq_ok_iff, Setting.all, List.forall_mem_cons,
    List.not_mem_nil, false_imp_iff, implies_true, and_true]
  -- The checks are applied one by one, so that the last one stands outermost.
  constructor
  · rintro ⟨_, configPath,
      ⟨_, _, ⟨_, _, ⟨_, _, ⟨_, _, ⟨_, _, ⟨_, _, ⟨_, _, ⟨⟩, h₁, rfl⟩, h₂, rfl⟩, h₃, rfl⟩, h₄, rfl⟩,
      h₅, rfl⟩, h₆, rfl⟩, h₇, rfl⟩, h₈, rfl⟩
    exact ⟨⟨h₁, h₂, h₃, h₄, h₅, h₆, h₇⟩, h₈⟩
  · rintro ⟨⟨h₁, h₂, h₃, h₄, h₅, h₆, h₇⟩, h₈⟩
    exact ⟨_, _,
      ⟨_, _, ⟨_, _, ⟨_, _, ⟨_, _, ⟨_, _, ⟨_, _, ⟨_, _, rfl, h₁, rfl⟩, h₂, rfl⟩, h₃, rfl⟩, h₄, rfl⟩,
      h₅, rfl⟩, h₆, rfl⟩, h₇, rfl⟩, h₈, rfl⟩

theorem exists_ofSources_iff
    (hpath : ∃ p, s.setting "config_path" none (Schema.nullable path) = .ok p) :
    (∃ t, ofSources s = .ok t) ↔ ∀ x ∈ Setting.all, ∃ a, x.checked s = .ok a := by
  constructor
  · rintro ⟨t, ht⟩ x hx
    exact ⟨_, (ofSources_eq_ok_iff.mp ht).1 x hx⟩
  · intro h
    simp only [Setting.all, List.forall_mem_cons] at h
    obtain ⟨⟨debug, h₁⟩, ⟨stackName, h₂⟩, ⟨apiLogicalId, h₃⟩, ⟨envParameter, h₄⟩,
      ⟨envCondition, h₅⟩, ⟨functionVersion, h₆⟩, ⟨servicePrincipal, h₇⟩, _⟩ := h
    obtain ⟨configPath, h₈⟩ := hpath
    refine ⟨⟨debug, stackName, apiLogicalId, envParameter, envCondition, functionVersion,
      servicePrincipal, configPath⟩, ofSources_eq_ok_iff.mpr ⟨?_, h₈⟩⟩
    simp only [Setting.all, List.forall_mem_cons]
    exact ⟨h₁, h₂, h₃, h₄, h₅, h₆, h₇, List.forall_mem_nil _⟩

end Settings

/-- Names of keywords that are settings or mean nothing: not the path of a file, nor a way to read
variables. -/
def IsSettable (name : String) : Prop := name ≠ "config_path" ∧ name.toList.head? ≠ some '_'

namespace Workspace

variable {w : Workspace} {p : Path} {named : List (String × Value)} {x : Setting} {t : Settings}

/-- The keywords for a configuration file: its own path, and the entries of its section. -/
def keywordsOf (p : Path) (named : List (String × Value)) : List (String × Value) :=
  ("config_path", .str p.text) :: named

/-- The sources of the settings from a configuration file. -/
def sourcesOf (w : Workspace) (p : Path) (named : List (String × Value)) : Settings.Sources :=
  ⟨keywordsOf p named, w.environment.entries, {}⟩

theorem option?_keywordsOf (hnamed : ∀ e ∈ named, IsSettable e.1) {name : String}
    (hname : name.toList.head? = some '_') :
    Settings.Reading.option? (keywordsOf p named) name = none := by
  have hne : ∀ e ∈ keywordsOf p named, name ≠ e.1 := by
    rw [keywordsOf, List.forall_mem_cons]
    constructor
    · rintro rfl
      exact absurd (show "config_path".toList.head? = some '_' from hname) (by decide)
    · rintro e he rfl
      exact (hnamed e he).2 hname
  have hlookup : (keywordsOf p named).lookup name = none :=
    List.lookup_eq_none_iff.mpr fun e he => bne_iff_ne.mpr (hne e he)
  rw [Settings.Reading.option?, hlookup]
  rfl

/-- The settings from a configuration file are those that its section and the environment give. -/
theorem settingsFrom_eq (hsection : w.configSection p = .ok (named.map fun e => (.str e.1, e.2)))
    (hnamed : ∀ e ∈ named, IsSettable e.1) :
    w.settingsFrom p [] = (Settings.ofSources (w.sourcesOf p named)).mapError .settings := by
  have hkeywords : (named.map fun e => (Scalar.str e.1, e.2)).mapM keyword = .ok named := by
    rw [List.mapM_map]
    refine (mapM_eq_ok (F := id) fun e he => ?_).trans (by rw [List.map_id])
    exact if_neg (hnamed e he).1
  have hreading : Settings.Sources.ofKeywords (keywordsOf p named) w.environment.entries =
      .ok (w.sourcesOf p named) := by
    rw [Settings.Sources.ofKeywords, Settings.Reading.ofKeywords]
    simp only [option?_keywordsOf hnamed (show "_env_prefix".toList.head? = some '_' from rfl),
      option?_keywordsOf hnamed (show "_case_sensitive".toList.head? = some '_' from rfl),
      option?_keywordsOf hnamed (show "_env_ignore_empty".toList.head? = some '_' from rfl),
      option?_keywordsOf hnamed (show "_env_parse_none_str".toList.head? = some '_' from rfl)]
    rfl
  rw [settingsFrom, hsection]
  simp only [List.any_nil, Bool.false_eq_true, if_false, List.foldl_nil, bind, Except.bind,
    hkeywords, mapError_ok]
  rw [settingsOf, ← keywordsOf, hreading]
  rfl

theorem lowered_configPath : Text.lowered "config_path" = "config_path" :=
  Text.lowered_eq (List.all_iff_forall_prop.mp (by decide))

theorem lowered_configPath_ne :
    ∀ x ∈ Setting.all, (Text.lowered "config_path" == x.name) = false := by
  simp only [lowered_configPath, Setting.all, List.forall_mem_cons]
  refine ⟨?_, ?_, ?_, ?_, ?_, ?_, ?_, List.forall_mem_nil _⟩ <;> rfl

/-- The section comes before the environment. -/
theorem value?_sourcesOf (hx : x ∈ Setting.all) :
    (w.sourcesOf p named).value? x.name =
      (x.inSection? named).or (x.inEnvironment? w.environment) := by
  have hkeywords : (w.sourcesOf p named).fromKeywords? x.name = x.inSection? named := by
    rw [Settings.Sources.fromKeywords?, sourcesOf, keywordsOf, List.find?_cons,
      lowered_configPath_ne x hx]
    rfl
  have henvironment : (w.sourcesOf p named).fromEnvironment? x.name =
      x.inEnvironment? w.environment := by
    simp only [Settings.Sources.fromEnvironment?, sourcesOf, Settings.Reading.compared,
      Bool.false_and, Bool.not_false, Bool.and_true, Bool.false_eq_true, if_false]
    rfl
  rw [Settings.Sources.value?, hkeywords, henvironment]

theorem configPath_sourcesOf :
    (w.sourcesOf p named).setting "config_path" none (Schema.nullable Settings.path) =
    .ok (some (.ofText p.text)) := by
  have hname : (Text.lowered "config_path" == "config_path") = true :=
    beq_iff_eq.mpr lowered_configPath
  rw [Settings.Sources.setting, Settings.Sources.value?, Settings.Sources.fromKeywords?,
    sourcesOf, keywordsOf, List.find?_cons, hname]
  rfl

/-- The settings of a file are made one by one, the file coming before the environment. -/
theorem settingsFrom_eq_ok_iff
    (hsection : w.configSection p = .ok (named.map fun e => (.str e.1, e.2)))
    (hnamed : ∀ e ∈ named, IsSettable e.1) : w.settingsFrom p [] = .ok t ↔
      (∀ x ∈ Setting.all, x.checked (w.sourcesOf p named) = .ok (x.get t)) ∧
        t.configPath = some (.ofText p.text) := by
  rw [settingsFrom_eq hsection hnamed, mapError_eq_ok_iff, Settings.ofSources_eq_ok_iff,
    configPath_sourcesOf, Except.ok.injEq, @eq_comm _ t.configPath]

theorem get_eq_fileFirst (hx : x ∈ Setting.all)
    (h : x.checked (w.sourcesOf p named) = .ok (x.get t)) :
    x.get t = x.fileFirst named w.environment := by
  obtain ⟨hvalid, hget⟩ := Setting.checked_eq_ok_iff.mp h
  rw [value?_sourcesOf hx] at hvalid hget
  rw [hget, Setting.fileFirst]
  -- What the file says counts, and is valid; only where it says nothing does the variable count.
  cases hfile : x.inSection? named with
  | none => rfl
  | some v =>
    obtain ⟨a, ha⟩ := hvalid v (by rw [hfile]; rfl)
    simp [Setting.valid?, ha, Except.toOption]

/-- A configuration file gives settings where the value that counts for each is valid, and then a
setting is what the file says, or else what the environment says, or else its default. That the
environment comes first is true of just those settings for which it says nothing else than the
file. -/
theorem settingsFrom_fileFirst
    (hsection : w.configSection p = .ok (named.map fun e => (.str e.1, e.2)))
    (hnamed : ∀ e ∈ named, IsSettable e.1) :
    ((∃ t, w.settingsFrom p [] = .ok t) ↔ ∀ x ∈ Setting.all, ∀ v,
      (x.inSection? named).or (x.inEnvironment? w.environment) = some v → ∃ a, x.check v = .ok a) ∧
    (∀ t, w.settingsFrom p [] = .ok t → t.configPath = some (.ofText p.text) ∧ ∀ x ∈ Setting.all,
      x.get t = x.fileFirst named w.environment ∧
        (x.get t = x.environmentFirst named w.environment ↔
          ∀ a b, x.valid? (x.inSection? named) = some a →
            x.valid? (x.inEnvironment? w.environment) = some b → a = b)) ∧
    (w.settings = none → w.configPath? = .ok (some p) →
      w.currentSettings = w.settingsFrom p []) := by
  refine ⟨?_, fun t ht => ?_, fun hnone hpath => ?_⟩
  · have hpath : ∃ path, (w.sourcesOf p named).setting "config_path" none
        (Schema.nullable Settings.path) = .ok path := ⟨_, configPath_sourcesOf⟩
    simp only [settingsFrom_eq hsection hnamed, mapError_eq_ok_iff,
      Settings.exists_ofSources_iff hpath, Setting.exists_checked_iff]
    exact forall₂_congr fun x hx => by rw [value?_sourcesOf hx]
  · obtain ⟨hall, hpath⟩ := (settingsFrom_eq_ok_iff hsection hnamed).mp ht
    refine ⟨hpath, fun x hx => ?_⟩
    have hget := get_eq_fileFirst hx (hall x hx)
    exact ⟨hget, by rw [hget]; exact Setting.fileFirst_eq_environmentFirst_iff⟩
  · rw [currentSettings, hnone]
    simp only [hpath, bind, Except.bind]

/-- The names and the text of a document with one text in one section. -/
def singleText? : Except Yaml.Fault Value → Option (String × String × String)
  | .ok (.map [(.str title, .map [(.str name, .str text)])]) => some (title, name, text)
  | _ => none

theorem eq_of_singleText? {read : Except Yaml.Fault Value} {title name text : String}
    (h : singleText? read = some (title, name, text)) :
    read = .ok (.map [(.str title, .map [(.str name, .str text)])]) := by
  unfold singleText? at h
  split at h
  · cases h
    rfl
  · cases h

/-- A workspace in which the file and the environment name different groups for what is shared. -/
def contested : Workspace where
  files := ⟨[(["todo", "pipehook.yaml"], Text.encode "pipehook:\n  stack_name: FromFile\n")], [],
    ["todo"]⟩
  environment := ⟨[("PIPEHOOK_STACK_NAME", "AuditHooks")]⟩

def contestedPath : Path := ⟨.slash, ["todo", "pipehook.yaml"]⟩

theorem resolve_contestedPath :
    contested.files.resolve contestedPath = .ok ["todo", "pipehook.yaml"] := by
  have htext : contestedPath.text = "/todo/pipehook.yaml" := by decide +kernel
  rw [Files.resolve, htext, String.contains_char_eq, if_neg (by decide), if_neg (by decide)]
  rfl

theorem exists_contestedPath : contested.files.exists? contestedPath = .ok true := by
  rw [Files.exists?, resolve_contestedPath]
  rfl

theorem configPath?_contested : contested.configPath? = .ok (some contestedPath) := by
  have hpaths : contested.configPaths = .ok [contestedPath] := by rfl
  rw [configPath?, hpaths]
  simp only [bind, Except.bind, firstPresent?, exists_contestedPath]
  rfl

theorem configDocument_contested : contested.configDocument contestedPath =
    .ok (.map [(.str "pipehook", .map [(.str "stack_name", .str "FromFile")])]) := by
  have hread : contested.files.read contestedPath =
      .ok (Text.encode "pipehook:\n  stack_name: FromFile\n") := by
    rw [Files.read, resolve_contestedPath]
    rfl
  have hvalue := eq_of_singleText?
    (show singleText? (Yaml.read (Text.encode "pipehook:\n  stack_name: FromFile\n")) =
    some ("pipehook", "stack_name", "FromFile") by decide +kernel)
  rw [configDocument, hread]
  exact congrArg (Except.mapError Failure.yaml) hvalue

theorem configSection_contested :
    contested.configSection contestedPath = .ok [(.str "stack_name", .str "FromFile")] := by
  rw [configSection, exists_contestedPath, configDocument_contested]
  rfl

theorem isSettable_contested : ∀ e ∈ [("stack_name", Value.str "FromFile")], IsSettable e.1 := by
  intro e he
  obtain rfl := List.mem_singleton.mp he
  exact ⟨by decide, by decide⟩

theorem inSection?_contested (x : Setting) : x.inSection? [("stack_name", .str "FromFile")] =
    if "stack_name" = x.name then some (.str "FromFile") else none := by
  have hname : Text.lowered "stack_name" = "stack_name" :=
    Text.lowered_eq (List.all_iff_forall_prop.mp (by decide))
  rw [Setting.inSection?, List.find?_cons, hname]
  by_cases h : "stack_name" = x.name
  · rw [if_pos h, beq_iff_eq.mpr h]
    rfl
  · rw [if_neg h, beq_eq_false_iff_ne.mpr h]
    rfl

theorem inEnvironment?_contested (hx : x ∈ Setting.all) : x.inEnvironment? contested.environment =
    if "pipehook_stack_name" = "pipehook_" ++ x.name then some (.str "AuditHooks") else none := by
  have hvariable : Text.lowered "PIPEHOOK_STACK_NAME" = "pipehook_stack_name" := by decide +kernel
  by_cases h : "pipehook_stack_name" = "pipehook_" ++ x.name <;>
    simp [Setting.inEnvironment?_eq hx, contested, hvariable, h]

theorem settingsFrom_contested : contested.settingsFrom contestedPath [] =
    .ok { stackName := "FromFile", configPath := some contestedPath } := by
  refine (@settingsFrom_eq_ok_iff _ _ [("stack_name", .str "FromFile")] _ configSection_contested
    isSettable_contested).mpr ⟨fun x hx => ?_, by decide +kernel⟩
  rw [Setting.checked_eq_ok_iff, value?_sourcesOf hx, inSection?_contested,
    inEnvironment?_contested hx]
  revert x
  simp only [Setting.all, List.forall_mem_cons]
  refine ⟨?_, ⟨?_, rfl⟩, ?_, ?_, ?_, ?_, ?_, List.forall_mem_nil _⟩
  case refine_2 =>
    rintro v ⟨⟩
    exact ⟨_, rfl⟩
  all_goals exact ⟨by rintro v ⟨⟩, rfl⟩

theorem currentSettings_contested : contested.currentSettings =
    .ok { stackName := "FromFile", configPath := some contestedPath } := by
  rw [currentSettings, configPath?_contested]
  exact settingsFrom_contested

theorem settingsFrom_fileFirst_contested :
    contested.configSection contestedPath = .ok [(.str "stack_name", .str "FromFile")] ∧
    (∀ e ∈ [("stack_name", Value.str "FromFile")], IsSettable e.1) ∧
    ∃ t, contested.currentSettings = .ok t ∧ ∀ x ∈ Setting.all,
      x.get t = x.fileFirst [("stack_name", .str "FromFile")] contested.environment := by
  have hoverall := @settingsFrom_fileFirst contested contestedPath [("stack_name", .str "FromFile")]
    configSection_contested isSettable_contested
  refine ⟨configSection_contested, isSettable_contested, _, currentSettings_contested,
    fun x hx => ?_⟩
  exact ((hoverall.2.1 _ settingsFrom_contested).2 x hx).1

/-- The variable does not override the entry of the file. -/
theorem contested_not_environmentFirst :
    contested.configSection contestedPath = .ok [(.str "stack_name", .str "FromFile")] ∧
    ∃ t, contested.currentSettings = .ok t ∧ ∃ x ∈ Setting.all,
      x.get t ≠ x.environmentFirst [("stack_name", .str "FromFile")] contested.environment := by
  have hx : Setting.ofText "stack_name" Settings.stackName ∈ Setting.all := by simp [Setting.all]
  refine ⟨configSection_contested, _, currentSettings_contested, _, hx, ?_⟩
  rw [Setting.environmentFirst, inEnvironment?_contested hx, inSection?_contested]
  exact show "FromFile" ≠ "AuditHooks" by decide

end Workspace

end ResolverHooks
