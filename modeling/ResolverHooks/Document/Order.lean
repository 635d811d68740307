import ResolverHooks.Document.Value

/-!
The order of scalars: numbers by value, texts by code points, bytes, dates, and moments among those
of their own family. Scalars of different families have no order, and nulls have none at all.
-/
namespace ResolverHooks

namespace Double

/-- A finite double as an integer over a fixed denominator, which keeps the order. -/
def scaled (d : Double) : Int :=
  let n := d.significand * Nat.pow 2 (d.exponent - leastExponent).toNat
  if d.sign then -(n : Int) else n

/-- The order of doubles and integers, infinities at the ends. -/
def leNumber (a b : Double ⊕ Int) : Bool :=
  let rank : Double ⊕ Int → Int × Int
    | .inl d => if d.isFinite then (0, d.scaled) else (if d.sign then -1 else 1, 0)
    | .inr i => (0, i * (Nat.pow 2 leastExponent.natAbs : Nat))
  let (r, x) := rank a
  let (s, y) := rank b
  decide (r < s) || (r == s && decide (x ≤ y))

end Double

namespace Scalar

/-- Families within which scalars have an order. -/
inductive Family where
  | number
  | text
  | bytes
  | date
  | clock
  | instant
deriving DecidableEq

def family? : Scalar → Option Family
  | .null => none
  | .bool _ | .int _ | .float _ => some .number
  | .str _ => some .text
  | .bytes _ => some .bytes
  | .date _ => some .date
  | .moment m => some (if m.offset.isSome then .instant else .clock)

def number? : Scalar → Option (Double ⊕ Int)
  | .bool b => some (.inr (if b then 1 else 0))
  | .int i => some (.inr i)
  | .float d => some (.inl d)
  | _ => none

/-- The order within a family. -/
def le (a b : Scalar) : Bool :=
  match a, b with
  | .str s, .str t => decide (s ≤ t)
  | .bytes s, .bytes t => decide (s ≤ t)
  | .date d, .date e => decide (d.dayNumber ≤ e.dayNumber)
  | .moment m, .moment n => decide (m.instant ≤ n.instant)
  | a, b => match a.number?, b.number? with
    | some x, some y => Double.leNumber x y
    | _, _ => false

/-- Whether a list of scalars can be sorted: all are of one family, or there is only one. -/
def areSortable : List Scalar → Bool
  | [] => true
  | [_] => true
  | x :: rest => x.family?.isSome && rest.all fun y => y.family? == x.family?

/-- The scalars in ascending order, if there is one. -/
def sorted? (xs : List Scalar) : Option (List Scalar) :=
  if areSortable xs then some (xs.mergeSort le) else none

end Scalar

/-- Texts in the order of their code points. -/
def sortedTexts (xs : List String) : List String := xs.mergeSort fun s t => decide (s ≤ t)

end ResolverHooks
