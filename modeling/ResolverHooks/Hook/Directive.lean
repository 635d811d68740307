import ResolverHooks.Document.Schema
import ResolverHooks.Naming.Operation
import ResolverHooks.Text.Blank

/-! The arguments of the `@hook` directive. -/
namespace ResolverHooks

/-- When a hook runs: before the data operation, or after it. -/
inductive Stage where
  | before
  | after
deriving DecidableEq, Repr

namespace Stage

def all : List Stage := [before, after]

theorem mem_all (stage : Stage) : stage ∈ all := by cases stage <;> decide

def word : Stage → String
  | before => "before"
  | after => "after"

end Stage

/-- For each operation, whether a stage's hook runs. -/
structure Flags where
  get : Bool
  list : Bool
  create : Bool
  update : Bool
  delete : Bool
deriving DecidableEq, Repr, Inhabited

namespace Flags

def none : Flags := ⟨false, false, false, false, false⟩

def enabled (f : Flags) : Operation → Bool
  | .create => f.create
  | .update => f.update
  | .delete => f.delete
  | .get => f.get
  | .list => f.list

def anyEnabled (f : Flags) : Bool := Operation.all.any f.enabled

theorem anyEnabled_iff {f : Flags} : f.anyEnabled = true ↔ ∃ o, f.enabled o = true := by
  simp [anyEnabled, Operation.mem_all]

/-- The enabled operations. -/
def operations (f : Flags) : List Operation := Operation.all.filter f.enabled

/-- The form's fields, in its order. -/
def fields : List Operation := [.get, .list, .create, .update, .delete]

/-- A flag that is absent or null is off. -/
def checkFlag (entries : List (Scalar × Value)) (o : Operation) : Checked Bool :=
  Schema.field entries o.word (.ok false) fun v => if v.isNull then .ok false else Schema.flag v

def check (v : Value) : Checked Flags := do
  let entries ← Schema.form "MethodMap" v
  let flags : Checked Flags :=
    Checked.apply (Checked.apply (Checked.apply (Checked.apply (Checked.apply (.ok Flags.mk)
      (checkFlag entries .get)) (checkFlag entries .list)) (checkFlag entries .create))
      (checkFlag entries .update)) (checkFlag entries .delete)
  (flags.both (Schema.noOther (fields.map Operation.word) entries)).map Prod.fst

end Flags

/-- The function to call and when to call it. The region is absent for the stack's own. -/
structure Directive where
  name : String
  region : Option String
  before : Flags
  after : Flags
deriving DecidableEq, Repr, Inhabited

/-- Why an entity's directives cannot be compiled. -/
inductive DirectiveFault where
  | notHooked (entity : String)
  | notModel
  /-- The arguments do not have their form; the entity's name may be empty. -/
  | arguments (entity : String) (problems : List Problem)
deriving DecidableEq, Repr

def DirectiveFault.message : DirectiveFault → String
  | notHooked entity => "Type '" ++ entity ++ "' is not annotated with @hook."
  | notModel => "Types annotated with @hook must also be annotated with @model."
  | arguments entity _ =>
    "Invalid @hook arguments" ++ if entity = "" then "" else " on type '" ++ entity ++ "'"

namespace Directive

def stage (d : Directive) : Stage → Flags
  | .before => d.before
  | .after => d.after

/-- A blank text as the region means none. -/
def checkRegion (v : Value) : Checked (Option String) :=
  match v with
  | .str s => .ok (if Text.isBlankText s then none else some s)
  | v => Schema.nullable Schema.text v

/-- The flags of a stage; null means no flags. -/
def checkStage (entries : List (Scalar × Value)) (s : Stage) : Checked Flags :=
  Schema.field entries s.word (.ok .none) fun v =>
    Flags.check (if v.isNull then .map [] else v)

def fields : List String := ["name", "region", "before", "after"]

def formName : String := "HookDirective"

def check (v : Value) : Checked Directive := do
  let entries ← Schema.form formName v
  let directive : Checked Directive :=
    Checked.apply (Checked.apply (Checked.apply (Checked.apply (.ok Directive.mk)
      (Schema.field entries "name" (.fail .required) Schema.nonEmptyText))
      (Schema.field entries "region" (.ok none) checkRegion))
      (checkStage entries .before)) (checkStage entries .after)
  (directive.both (Schema.noOther fields entries)).map Prod.fst

/-- Reads the arguments of a directive; any value that counts as absent means no arguments. -/
def ofArguments (v : Value) (entity : String) : Except DirectiveFault Directive :=
  (check (if v.isTruthy then v else .map [])).mapError (.arguments entity)

/-- The directive's definition in the schema language. -/
def definition : String :=
  "directive @hook(\n    name: String!\n    before: HookMethodMap\n    after: HookMethodMap\n" ++
    "    region: String\n) on OBJECT\n\ninput HookMethodMap \x7b\n    get: Boolean\n    " ++
    "list: Boolean\n    create: Boolean\n    update: Boolean\n    delete: Boolean\n\x7d\n"

end Directive

end ResolverHooks
