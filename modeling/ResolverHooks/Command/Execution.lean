import ResolverHooks.Command.Invocation
import ResolverHooks.Pipeline.Transform
import ResolverHooks.Resource.Diagram
import ResolverHooks.Text.Boxes
import ResolverHooks.Workspace.Configuration
import ResolverHooks.Workspace.Loading

/-!
What the commands do. A command writes to its output, to its messages and to files; a failure leaves
what has been written so far.
-/
namespace ResolverHooks

/-- What a command has written, and the files around it. -/
structure Console where
  output : String
  messages : String
  files : Files
  /-- The files that the command has written, latest first. -/
  written : List (Path × String)
deriving Inhabited

abbrev Action (α : Type) := EStateM Failure Console α

namespace Action

variable {α : Type}

def orFail (x : Except Failure α) : Action α :=
  match x with
  | .ok a => return a
  | .error f => throw f

def shaped (x : Except ShapeFault α) : Action α := orFail (x.mapError .shape)

def marked (x : Except Text.Markup.Fault α) : Action α := orFail (x.mapError .markup)

def ordered (x : Except OrderFault α) : Action α := orFail (x.mapError .ofOrder)

/-- Lines of the output. -/
def print (lines : List String) : Action Unit :=
  modify fun c => { c with output := c.output ++ String.join (lines.map (· ++ "\n")) }

/-- Lines of the messages. -/
def tell (lines : List String) : Action Unit :=
  modify fun c => { c with messages := c.messages ++ String.join (lines.map (· ++ "\n")) }

def write (p : Path) (text : String) : Action Unit := do
  let files ← orFail (((← get).files.write p (Text.encode text)).mapError (.file p))
  modify fun c => { c with files, written := (p, text) :: c.written }

/-- Runs a compilation in an arena, and gives its result and the arena that it leaves. -/
def compiling (x : Compilation α) (a : Arena) : Action (α × Arena) :=
  match x.run a with
  | .ok result a => return (result, a)
  | .error f _ => throw (.compile f)

end Action

namespace Command

/-- The columns of the terminal. -/
def columns : Nat := 240

/-- The lines that a text takes on the terminal. -/
def onTerminal (s : String) : List String := Text.wrap columns .fold s

/-- The lines of a text with markup. -/
def markedLines (s : String) : Except Text.Markup.Fault (List String) :=
  (Text.Markup.plain s).map onTerminal

/-- Ids that a compiled graph may refer to without defining them. -/
def externalIds (s : Settings) : List String := [s.apiLogicalId, s.envParameter]

def findingLines (findings : List Finding) : Except Text.Markup.Fault (List String) := do
  if findings.isEmpty then return ["Graph validation passed - no issues found"]
  else
    let found ← findings.mapM fun f => markedLines ("  • " ++ Text.Markup.escape f.message)
    return "Graph Validation Warnings:" :: found.flatten

/-- A column whose cells are texts with markup. -/
def markedColumn (header : String) (cells : List String) : Except Text.Markup.Fault Text.Column :=
  return ⟨header, ← cells.mapM Text.Markup.plain⟩

/-- One row for each operation: its entity, its group, its name and the number of its functions. -/
def summaryColumns (results : List CompiledEntity) : Except Text.Markup.Fault (List Text.Column) :=
  let rows := results.flatMap fun r => r.pipelines.map fun p => (r, p)
  return [← markedColumn "Type" (rows.map fun row => row.1.entity),
    ← markedColumn "Stack" (rows.map fun row => row.1.group),
    ⟨"Operation", rows.map fun row => row.2.operation.word⟩,
    ⟨"Functions", rows.map fun row => toString row.2.functions.length⟩]

def summary (results : List CompiledEntity) : Except Text.Markup.Fault (List String) := do
  if results.isEmpty then return ["No types annotated with @hook"]
  else
    let table := Text.table (Text.panelRoom columns) (← summaryColumns results)
    return Text.widePanel columns "Hook Pipelines" table

/-- Checks a graph if that is asked for: the findings, or nothing. -/
def findings (s : Settings) (g : Graph) (check : Bool) : Action (Option (List Finding)) :=
  if check then return some (← Action.shaped (g.check (externalIds s))) else return none

/-- Writes compiled output to a file, or else to the output of the command. -/
def deliver (text : String) : Option Path → Action Unit
  | none => Action.print [text]
  | some p => do
    Action.write p (text ++ "\n")
    Action.tell (← Action.marked (markedLines ("Written to: " ++ p.text)))

/-- Compiles a request. Findings, where they are asked for, stop the command before its output. -/
def runCompile (s : Settings) (input : Path) (output : Option Path) (check : Bool) :
    Action Nat := do
  let request ← Action.orFail ((← get).files.loadRequest input)
  let arena ← Action.shaped request.arena
  let (results, arena) ← Action.compiling (Compilation.transform s request.entities) arena
  let found ← findings s arena.graph check
  Action.tell (← Action.marked ((found.map findingLines).getD (.ok [])))
  if (found.getD []).isEmpty then
    deliver (← Action.shaped arena.graph.dump) output
    Action.tell (← Action.marked (summary results))
    return 0
  else return 1

/-- The cells of a group: its name, and its ids one a line. -/
def groupCells (group : Scalar) (ids : List Scalar) : Except ShapeFault (String × String) := do
  let ids ← Scalar.texts ids
  match group with
  | .str s => return (s, "\n".intercalate ids)
  | .null => return ("", "\n".intercalate ids)
  | _ => throw .unprintable

/-- The groups of a graph in the order of their names, with their ids. -/
def groupRows (g : Graph) : Except ShapeFault (List (String × String)) := do
  let members ← g.members
  match Scalar.sorted? (members.map Prod.fst) with
  | some groups => groups.mapM fun k => groupCells k ((Entries.find? k members).getD [])
  | none => throw .unordered

def groupColumns (rows : List (String × String)) : Except Text.Markup.Fault (List Text.Column) :=
  return [← markedColumn "Group" (rows.map Prod.fst),
    ← markedColumn "Resources" (rows.map Prod.snd)]

def showGraph (g : Graph) : Action Unit := do
  Action.print (Text.panel ["Resource Deployment Graph"] ++ ["", "Deployment Groups:"])
  let rows ← Action.shaped (groupRows g)
  Action.print (Text.table columns (← Action.marked (groupColumns rows)))
  Action.print ["", "Deployment Waves:"]
  let waves ← Action.ordered g.ascii
  Action.print (onTerminal (String.ofList (Text.Markup.shown waves.toList)))

def sortedWave (wave : List Scalar) : Except ShapeFault Value :=
  match Scalar.sorted? wave with
  | some ids => .ok (.seq (ids.map .scalar))
  | none => .error .unordered

/-- A resource in the summary of a graph. -/
def resourceSummary (g : Graph) (id : Scalar) (r : Resource) : Value :=
  .object [("type", r.kind), ("group", g.groupOf id), ("dependencies", .seq r.dependsOn)]

/-- The deployment order, the waves and the resources of a graph as a document. -/
def graphDocument (g : Graph) : Except OrderFault Value := do
  let order ← g.deploymentOrder
  let waves ← (← g.waves).mapM fun wave => (sortedWave wave).mapError .shape
  return .object [("deployment_order", .seq (order.map .scalar)), ("waves", .seq waves),
    ("resources", .map (g.resources.entries.map fun e => (e.1, resourceSummary g e.1 e.2)))]

def runGraph (s : Settings) (template : Path) (format : GraphFormat) (check : Bool) :
    Action Nat := do
  let g ← Action.orFail ((← get).files.loadGraph template)
  let found ← findings s g check
  if let some found := found then
    Action.print ((← Action.marked (findingLines found)) ++ [""])
  match format with
  | .ascii => showGraph g
  | .mermaid => Action.print [← Action.shaped g.mermaid]
  | .json =>
    let document ← Action.ordered (graphDocument g)
    Action.print [← Action.shaped (Json.text document)]
  return 0

def usage : List String :=
  ["usage: resolver-hooks [--config-dir DIR] COMMAND", "",
    "  compile INPUT [-o PATH] [-v]        compile a request into a template",
    "  graph TEMPLATE [-o FORMAT] [-v]     show the deployment order of a template",
    "                                      (FORMAT: ascii, mermaid or json)",
    "  directive                           show the definition of the directive"]

/-- Runs a command to its exit code. -/
def run (s : Settings) : Command → Action Nat
  | compile input output check => runCompile s input output check
  | graph template format check => runGraph s template format check
  | directive => do
    modify fun c => { c with output := c.output ++ Directive.definition }
    return 0

end Command

/-- How a run ends. -/
inductive Ending where
  | exit (code : Nat)
  /-- A failure that the messages report. -/
  | reported (f : Failure)
  /-- A failure that is not expected. -/
  | escaped (f : Failure)
deriving DecidableEq, Repr

structure Outcome where
  ending : Ending
  output : String
  messages : String
  written : List (Path × String)
deriving Repr

namespace Outcome

def ofConsole (ending : Ending) (c : Console) : Outcome :=
  ⟨ending, c.output, c.messages, c.written.reverse⟩

/-- The lines that report a failure, if it is one to report. -/
def reportLines? (f : Failure) : Except Failure (Option (List String)) := do
  match ← f.report?.mapError .shape with
  | some message =>
    let lines ← (Command.markedLines ("Error: " ++ Text.Markup.escape message)).mapError .markup
    return some lines
  | none => return none

def ofFailure (f : Failure) (c : Console) : Outcome :=
  match reportLines? f with
  | .ok (some lines) =>
    ofConsole (.reported f) { c with messages := c.messages ++ String.join (lines.map (· ++ "\n")) }
  | .ok none => ofConsole (.escaped f) c
  | .error f => ofConsole (.escaped f) c

/-- A run that only shows how to use the program. -/
def usage (code : Nat) : Outcome :=
  let text := String.join (Command.usage.map (· ++ "\n"))
  if code = 0 then ⟨.exit 0, text, "", []⟩ else ⟨.exit code, "", text, []⟩

end Outcome

namespace Workspace

/-- Runs a command with the settings that it asks for. -/
def runInvocation (w : Workspace) (i : Invocation) : Outcome :=
  let console : Console := ⟨"", "", w.files, []⟩
  match w.choose i.configDirectory with
  | .error f => .ofConsole (.escaped f) console
  | .ok (s, _) =>
    match (i.command.run s).run console with
    | .ok code c => .ofConsole (.exit code) c
    | .error f c => .ofFailure f c

/-- Runs a command line. -/
def run (w : Workspace) (args : List String) : Outcome :=
  match Invocation.ofArguments args with
  | .error .help => .usage 0
  | .error .misuse => .usage 2
  | .ok i => w.runInvocation i

end Workspace

end ResolverHooks
