import ResolverHooks.Document.Display
import ResolverHooks.Document.Table
import ResolverHooks.Document.Unfolding
import ResolverHooks.Text.Encoding

/-!
Checking a value against the form that is asked for. A check reports every problem, in the order of
the form's fields, and each with the path that leads to it.
-/
namespace ResolverHooks

/-- One step of a path into a value. -/
inductive Step where
  | name (s : String)
  | index (i : Int)
deriving DecidableEq, Repr

/-- What a form asks for. -/
inductive Rule where
  | required
  | noOther
  | text
  /-- Bytes that are the UTF-8 form of a text. -/
  | encodedText
  | nonEmpty
  | mapping
  | list
  /-- A mapping with the fields of a form of this name. -/
  | form (name : String)
  | path
  /-- A truth value, and a word or number that stands for one. -/
  | flag
  | flagWord
  | operation
  | textKey
deriving DecidableEq, Repr

structure Problem where
  path : List Step
  rule : Rule
deriving DecidableEq, Repr

namespace Rule

/-- The short name of a broken rule. -/
def code : Rule → String
  | required => "missing"
  | noOther => "extra_forbidden"
  | text => "string_type"
  | encodedText => "string_unicode"
  | nonEmpty => "string_too_short"
  | mapping => "dict_type"
  | list => "list_type"
  | form _ => "model_type"
  | path => "path_type"
  | flag => "bool_type"
  | flagWord => "bool_parsing"
  | operation => "enum"
  | textKey => "invalid_key"

def message : Rule → String
  | required => "Field required"
  | noOther => "Extra inputs are not permitted"
  | text => "Input should be a valid string"
  | encodedText => "Input should be a valid string, unable to parse raw data as a unicode string"
  | nonEmpty => "String should have at least 1 character"
  | mapping => "Input should be a valid dictionary"
  | list => "Input should be a valid list"
  | form name => "Input should be a valid dictionary or instance of " ++ name
  | path => "Input is not a valid path for <class 'pathlib.Path'>"
  | flag => "Input should be a valid boolean"
  | flagWord => "Input should be a valid boolean, unable to interpret input"
  | operation => "Input should be 'create', 'update', 'delete', 'get' or 'list'"
  | textKey => "Keys should be strings"

end Rule

/-- The step to the entry of a key: whole numbers and truth values count as positions. -/
def Step.ofKey : Scalar → Step
  | .str s => name s
  | .bool b => index (if b then 1 else 0)
  | .int i =>
    if -(Nat.pow 2 63 : Nat) ≤ i ∧ i < (Nat.pow 2 63 : Nat) then index i
    else name (if (Scalar.int i).hasText then toString i else "<unprintable int object>")
  | k => name k.literal

def Step.text : Step → String
  | name s => s
  | index i => toString i

/-- A checked value, or everything that is wrong with it. -/
abbrev Checked (α : Type) := Except (List Problem) α

namespace Checked

variable {α β : Type}

def fail (rule : Rule) : Checked α := .error [⟨[], rule⟩]

def problems : Checked α → List Problem
  | .ok _ => []
  | .error ps => ps

/-- Both results, or the problems of both. -/
def both : Checked α → Checked β → Checked (α × β)
  | .ok a, .ok b => .ok (a, b)
  | .ok _, .error qs => .error qs
  | .error ps, .ok _ => .error ps
  | .error ps, .error qs => .error (ps ++ qs)

/-- Applies a checked function to a checked argument. -/
def apply (f : Checked (α → β)) (a : Checked α) : Checked β := (f.both a).map fun (f, a) => f a

/-- Puts a step in front of every path. -/
def at_ (step : Step) : Checked α → Checked α
  | .ok a => .ok a
  | .error ps => .error (ps.map fun p => { p with path := step :: p.path })

/-- All results, or all problems. -/
def all : List (Checked α) → Checked (List α)
  | [] => .ok []
  | c :: cs => (c.both (all cs)).map fun (a, as) => a :: as

end Checked

namespace Schema

variable {α κ : Type}

/-- A text, or the bytes of one. -/
def textOf : Scalar → Checked String
  | .str s => .ok s
  | .bytes bs => match Text.decode? bs with
    | some s => .ok s
    | none => .fail .encodedText
  | _ => .fail .text

def text : Value → Checked String
  | .scalar s => textOf s
  | _ => .fail .text

def nonEmptyText (v : Value) : Checked String := do
  let s ← text v
  if s = "" then .fail .nonEmpty else return s

/-- Null, or a value that passes the check. -/
def nullable (check : Value → Checked α) (v : Value) : Checked (Option α) :=
  if v.isNull then .ok none else (check v).map some

def trueWords : List String := ["1", "on", "t", "true", "y", "yes"]
def falseWords : List String := ["0", "off", "f", "false", "n", "no"]

def flagOfWord (s : String) : Checked Bool :=
  let word := String.ofList (s.toList.map Char.toLower)
  if trueWords.contains word then .ok true
  else if falseWords.contains word then .ok false
  else .fail .flagWord

def flagOfNumber (i : Int) : Checked Bool :=
  if i = 0 then .ok false
  else if i = 1 then .ok true
  else if -(Nat.pow 2 63 : Nat) ≤ i ∧ i < (Nat.pow 2 63 : Nat) then .fail .flagWord
  else .fail .flag

/-- A truth value, one of the words for one in any case, or zero or one. -/
def flag : Value → Checked Bool
  | .bool b => .ok b
  | .int i => flagOfNumber i
  | .float d =>
    match d.toInt? with
    | some 0 => .ok false
    | some 1 => .ok true
    | _ => .fail .flag
  | .str s => flagOfWord s
  | .scalar (.bytes bs) => match Text.decode? bs with
    | some s => flagOfWord s
    | none => .fail .flagWord
  | _ => .fail .flag

/-- The field of a form; `absent` says what holds without it. -/
def field (entries : List (Scalar × Value)) (name : String) (absent : Checked α)
    (check : Value → Checked α) : Checked α :=
  Checked.at_ (.name name) <|
    match Entries.find? (.str name) entries with
    | some v => check v
    | none => absent

/-- No entries but the fields of the form. -/
def noOther (names : List String) (entries : List (Scalar × Value)) : Checked Unit :=
  let checks := entries.filterMap fun (k, _) =>
    match k with
    | .str s => if names.contains s then none else some (Checked.at_ (.name s) (.fail .noOther))
    | k => some (Checked.at_ (Step.ofKey k) (.fail .textKey))
  (Checked.all checks).map fun (_ : List Unit) => ()

/-- The entries of a form. -/
def form (name : String) : Value → Checked (List (Scalar × Value))
  | .map es => .ok (Value.entriesOf es)
  | _ => .fail (.form name)

/-- The step to the key of an entry itself. -/
def keyStep : Step := .name "[key]"

/-- A mapping whose keys and values all pass their checks; the key is checked first. -/
def mapping (key : Scalar → Checked κ) (value : Value → Checked α) :
    Value → Checked (List (κ × α))
  | .map es =>
    Checked.all ((Value.entriesOf es).map fun (k, v) =>
      Checked.at_ (Step.ofKey k) (((key k).at_ keyStep).both (value v)))
  | _ => .fail .mapping

/-- Writes an entry; a name that is there keeps its place. -/
def write (entries : List (String × α)) (e : String × α) : List (String × α) :=
  if entries.any fun f => f.1 == e.1 then
    entries.map fun f => if f.1 = e.1 then (f.1, e.2) else f
  else entries ++ [e]

/-- A mapping whose keys are texts; of two keys that become the same text the later one counts. -/
def namedMapping (value : Value → Checked α) (v : Value) : Checked (List (String × α)) :=
  (mapping textOf value v).map fun es =>
    if (es.map Prod.fst).Nodup then es else es.foldl write []

/-- A list whose items all pass the check; a set counts as the list of its members. -/
def list (check : Value → Checked α) (v : Value) : Checked (List α) :=
  let checkAll (items : List Value) : Checked (List α) :=
    Checked.all (items.zipIdx.map fun (v, i) => Checked.at_ (.index i) (check v))
  match v with
  | .seq items => checkAll (Value.itemsOf items)
  | .set items => checkAll (items.map .scalar)
  | .pair a b => checkAll (Value.partsOf a b)
  | _ => .fail .list

end Schema

end ResolverHooks
