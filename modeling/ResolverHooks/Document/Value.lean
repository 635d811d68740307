import ResolverHooks.Decimal.Double
import ResolverHooks.Document.Calendar

/-!
Document values: what a YAML or JSON document holds. Mappings keep the order in which their entries
were written, and only scalars are keys. A collection may contain itself.
-/
namespace ResolverHooks

inductive Scalar where
  | null
  | bool (b : Bool)
  | int (i : Int)
  | float (d : Double)
  | str (s : String)
  | date (d : Date)
  | moment (m : Moment)
  | bytes (bs : List UInt8)
deriving DecidableEq, Repr, Inhabited

inductive Value where
  | scalar (s : Scalar)
  | seq (items : List Value)
  | map (entries : List (Scalar × Value))
  | set (items : List Scalar)
  | pair (first second : Value)
  /-- The collection around this place, so many levels further out; level 0 is the nearest one. -/
  | enclosing (level : Nat)
deriving Repr, Inhabited

namespace Value

@[match_pattern] abbrev null : Value := .scalar .null
@[match_pattern] abbrev bool (b : Bool) : Value := .scalar (.bool b)
@[match_pattern] abbrev int (i : Int) : Value := .scalar (.int i)
@[match_pattern] abbrev float (d : Double) : Value := .scalar (.float d)
@[match_pattern] abbrev str (s : String) : Value := .scalar (.str s)

/-- A mapping whose keys are texts. -/
def object (entries : List (String × Value)) : Value :=
  .map (entries.map fun e => (.str e.1, e.2))

end Value

/-- What a mapping tells keys apart by: numbers and truth values by the number they stand for, and
moments of a known zone by their instant. -/
inductive Key where
  | null
  | integer (i : Int)
  | real (d : Double)
  | text (s : String)
  | date (d : Date)
  | clock (i : Int)
  | instant (i : Int)
  | bytes (bs : List UInt8)
deriving DecidableEq, Repr

namespace Scalar

def key : Scalar → Key
  | .null => .null
  | .bool b => .integer (if b then 1 else 0)
  | .int i => .integer i
  | .float d => match d.toInt? with
    | some i => .integer i
    | none => .real d
  | .str s => .text s
  | .date d => .date d
  | .moment m => if m.offset.isSome then .instant m.instant else .clock m.clock
  | .bytes bs => .bytes bs

/-- Whether two scalars are the same key. -/
def same (a b : Scalar) : Bool := a.key == b.key

def isTruthy : Scalar → Bool
  | .null => false
  | .bool b => b
  | .int i => i != 0
  | .float d => !d.isZero
  | .str s => s != ""
  | .date _ | .moment _ => true
  | .bytes bs => !bs.isEmpty

/-- The kind of a scalar, as messages name it. -/
def kindName : Scalar → String
  | .null => "NoneType"
  | .bool _ => "bool"
  | .int _ => "int"
  | .float _ => "float"
  | .str _ => "str"
  | .date _ => "date"
  | .moment _ => "datetime"
  | .bytes _ => "bytes"

@[simp] theorem key_str (s : String) : (Scalar.str s).key = .text s := rfl

/-- Only a text is the same key as a text. -/
theorem key_eq_text {a : Scalar} {s : String} : a.key = .text s ↔ a = .str s := by
  cases a <;> simp [key]
  · split <;> simp
  · split <;> simp

@[simp] theorem same_str {a : Scalar} {s : String} : a.same (.str s) = true ↔ a = .str s := by
  simp [same, key_eq_text]

@[simp] theorem same_self (a : Scalar) : a.same a = true := by simp [same]

end Scalar

namespace Value

/-- Empty containers, zero, false, null and the empty text count as absent. -/
def isTruthy : Value → Bool
  | .scalar s => s.isTruthy
  | .seq items => !items.isEmpty
  | .map entries => !entries.isEmpty
  | .set items => !items.isEmpty
  | .pair _ _ | .enclosing _ => true

def kindName : Value → String
  | .scalar s => s.kindName
  | .seq _ => "list"
  | .map _ => "dict"
  | .set _ => "set"
  | .pair _ _ => "tuple"
  | .enclosing _ => "list"

def isNull : Value → Bool
  | .null => true
  | _ => false

/-- Whether a value can be looked up at all: sequences, mappings and sets cannot. -/
def isHashable : Value → Bool
  | .scalar _ => true
  | .pair a b => a.isHashable && b.isHashable
  | _ => false

/-- The scalar that a value is, if it is one. -/
def scalar? : Value → Option Scalar
  | .scalar s => some s
  | _ => none

def str? : Value → Option String
  | .str s => some s
  | _ => none

mutual

/-- Equality of values: scalars as keys, sequences member by member, mappings and sets without
regard to order. -/
def same : Value → Value → Bool
  | .scalar a, .scalar b => a.same b
  | .seq xs, .seq ys => sameItems xs ys
  | .map es, .map fs => es.length == fs.length && sameEntries es fs
  | .set xs, .set ys => xs.length == ys.length && xs.all fun x => ys.any x.same
  | .pair a b, .pair c d => same a c && same b d
  | .enclosing m, .enclosing n => m == n
  | _, _ => false

def sameItems : List Value → List Value → Bool
  | [], [] => true
  | x :: xs, y :: ys => same x y && sameItems xs ys
  | _, _ => false

/-- Every entry on the left has its like on the right. -/
def sameEntries : List (Scalar × Value) → List (Scalar × Value) → Bool
  | [], _ => true
  | (k, v) :: es, fs => (fs.any fun f => k.same f.1 && same v f.2) && sameEntries es fs

end

/-- Whether two values count as different. The number that is none differs even from itself. -/
def differs : Value → Value → Bool
  | .float d, v => d.isNaN || !same (.float d) v
  | v, w => !same v w

end Value

end ResolverHooks
