import ResolverHooks.Decimal.Numeral
import ResolverHooks.Workspace.Path

/-!
The command line: a subcommand, behind options that hold for all of them and in front of its own.
-/
namespace ResolverHooks

inductive GraphFormat where
  | ascii
  | mermaid
  | json
deriving DecidableEq, Repr, Inhabited

inductive Command where
  /-- Compile a request; the template goes to the output. -/
  | compile (input : Path) (output : Option Path) (check : Bool)
  /-- Show the deployment order of a compiled template. -/
  | graph (template : Path) (format : GraphFormat) (check : Bool)
  /-- Show the definition of the directive. -/
  | directive
deriving DecidableEq, Repr, Inhabited

structure Invocation where
  configDirectory : Option Path
  command : Command
deriving DecidableEq, Repr, Inhabited

namespace Invocation

/-- What an option asks for. -/
inductive Switch where
  | help
  | check (on : Bool)
  /-- The value of the option comes next. -/
  | output
  | configDirectory
deriving DecidableEq, Repr

/-- The options in front of a subcommand. -/
def outerSwitch? : String → Option Switch
  | "-h" | "--help" => some .help
  | "--config-dir" => some .configDirectory
  | _ => none

/-- The options of a subcommand that reads a document. -/
def documentSwitch? : String → Option Switch
  | "-h" | "--help" => some .help
  | "-o" | "--output" => some .output
  | "-v" | "--validate" => some (.check true)
  | "--no-validate" => some (.check false)
  | _ => none

/-- The options of a subcommand that reads nothing. -/
def plainSwitch? : String → Option Switch
  | "-h" | "--help" => some .help
  | _ => none

/-- The part of a text before its first equals sign, and the part behind that. -/
def splitEquals (s : String) : String × Option String :=
  let cs := s.toList
  let name := cs.takeWhile (· != '=')
  (String.ofList name, (cs.drop name.length).tail?.map String.ofList)

/-- A long option may be written with underscores for hyphens. -/
def hyphenated (arg : String) : String :=
  match arg.toList with
  | '-' :: '-' :: cs =>
    let name := cs.takeWhile (· != '=')
    let start := name.takeWhile (· = '_')
    String.ofList ('-' :: '-' :: start ++
      (name.drop start.length).map (fun c => if c = '_' then '-' else c) ++ cs.drop name.length)
  | _ => arg

/-- Whether an argument can only be an option: a letter stands behind its hyphens, and it is no
number. -/
def isOptionLike (s : String) : Bool :=
  s.startsWith "-" && !Numeral.isNumber s &&
    ((s.toList.dropWhile (· = '-')).head?.any Char.isAlpha)

/-- Cuts an option from a value that an equals sign ties to it. The value is an argument of its own,
and may be cut again. -/
def untied (switch? : String → Option Switch) (cs : List Char) : List String :=
  match _h : cs.dropWhile (· != '=') with
  | _ :: value =>
    let name := String.ofList (cs.takeWhile (· != '='))
    if (switch? name).isSome then name :: untied switch? value else [String.ofList cs]
  | [] => [String.ofList cs]
  termination_by cs.length
  decreasing_by
    have hl := (List.dropWhile_sublist (· != '=') (l := cs)).length_le
    rw [_h, List.length_cons] at hl
    omega

/-- Why arguments are not taken as a command. -/
inductive Stop where
  /-- Help is asked for. -/
  | help
  | misuse
deriving DecidableEq, Repr

/-- What the arguments of a subcommand say. -/
structure Spoken where
  /-- Arguments that are no options, latest first. -/
  plain : List String
  output : Option String
  check : Bool
  /-- Whether there is an option that is not known. -/
  unknown : Bool
deriving DecidableEq, Repr

/-- Reads the arguments of a subcommand. Whoever asks for help gets it where the option stands; an
option that is not known is refused at the end, behind a chance for that. -/
def speak (switch? : String → Option Switch) (accepts : String → Bool) (s : Spoken) :
    List String → Except Stop Spoken
  | [] => .ok s
  | arg :: rest =>
    if arg = "--" then .ok { s with plain := rest.reverse ++ s.plain }
    else match switch? arg with
      | some .help => .error .help
      | some (.check on) => speak switch? accepts { s with check := on } rest
      | some .output =>
        match rest with
        | value :: rest =>
          if isOptionLike value || !accepts value then .error .misuse
          else speak switch? accepts { s with output := some value } rest
        | [] => .error .misuse
      | some .configDirectory | none =>
        if isOptionLike arg then speak switch? accepts { s with unknown := true } rest
        else speak switch? accepts { s with plain := arg :: s.plain } rest

/-- Cuts the arguments in front of a double hyphen. -/
def untiedAll (switch? : String → Option Switch) : List String → List String
  | [] => []
  | arg :: rest =>
    if arg = "--" then arg :: rest else untied switch? arg.toList ++ untiedAll switch? rest

/-- The arguments of a subcommand with so many plain ones. -/
def spoken (switch? : String → Option Switch) (accepts : String → Bool) (count : Nat)
    (args : List String) : Except Stop Spoken := do
  let s ← speak switch? accepts ⟨[], none, false, false⟩ (untiedAll switch? args)
  if s.unknown || s.plain.length != count then throw .misuse
  return { s with plain := s.plain.reverse }

/-- A path, or none where the argument says so. -/
def optionalPath (s : String) : Option Path := if s = "None" then none else some (.ofText s)

def formatOf? : String → Option GraphFormat
  | "ascii" => some .ascii
  | "mermaid" => some .mermaid
  | "json" => some .json
  | _ => none

/-- A subcommand with its arguments; `none` if there is no subcommand of the name. -/
def commandOf? (name : String) (args : List String) : Option (Except Stop Command) :=
  match name with
  | "compile" => some do
    let s ← spoken documentSwitch? (fun _ => true) 1 args
    return .compile (.ofText (s.plain.headD "")) (s.output.bind optionalPath) s.check
  | "graph" => some do
    let s ← spoken documentSwitch? (fun value => (formatOf? value).isSome) 1 args
    return .graph (.ofText (s.plain.headD "")) ((s.output.bind formatOf?).getD .ascii) s.check
  | "directive" => some do
    let _ ← spoken plainSwitch? (fun _ => true) 0 args
    return .directive
  | _ => none

/-- An option in front of a subcommand, and a value that an equals sign ties to it. -/
def outerOption? (arg : String) : Option (Switch × Option String) :=
  match outerSwitch? arg with
  | some switch => some (switch, none)
  | none =>
    match splitEquals arg with
    | (name, some value) => (outerSwitch? name).map fun switch => (switch, some value)
    | _ => none

/-- Refuses a command behind an option that is not known. -/
def refuseIf (unknown : Bool) (c : Except Stop Command) : Except Stop Command := do
  let c ← c
  if unknown then throw .misuse else return c

/-- Reads the arguments in front of a subcommand, and those of the subcommand. -/
def behindOptions (directory : Option Path) (unknown : Bool) : List String → Except Stop Invocation
  | [] => .error .misuse
  | arg :: rest =>
    match outerOption? arg with
    | some (.configDirectory, some value) =>
      if isOptionLike value then .error .misuse else behindOptions (optionalPath value) unknown rest
    | some (.configDirectory, none) =>
      match rest with
      | value :: rest =>
        if isOptionLike value then .error .misuse
        else behindOptions (optionalPath value) unknown rest
      | [] => .error .misuse
    | some _ => .error .help
    | none =>
      match commandOf? arg rest with
      | some command => (refuseIf unknown command).map (⟨directory, ·⟩)
      | none =>
        if arg = "--" then behindOptions directory unknown rest
        else if isOptionLike arg then behindOptions directory true rest
        else .error .misuse

/-- Reads the arguments of the command line, if they are as they should be. -/
def ofArguments (args : List String) : Except Stop Invocation :=
  behindOptions none false (args.map hyphenated)

end Invocation

end ResolverHooks
