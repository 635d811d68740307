import ResolverHooks.Decimal.Double

/-!
The shortest decimal that reads back as a given double: of the decimals that round to the double,
one with the fewest digits, and of those the nearest.
-/
namespace ResolverHooks

/-- A positive decimal `0.d₁d₂… * 10 ^ point`, given by the number `d₁d₂…` it writes. -/
structure Digits where
  number : Nat
  point : Int
deriving DecidableEq, Repr

namespace Double

/-- The reals that round to a positive finite double, over one common denominator: the double lies
`below / den` above the lower end and `above / den` below the upper end, and both ends belong to the
interval exactly when the significand is even. -/
structure Rounding where
  num : Nat
  den : Nat
  below : Nat
  above : Nat
  closed : Bool

/-- Half a step of the significand to either side, the lower half step being a quarter where the
double is the first of its exponent. -/
def rounding (d : Double) : Rounding :=
  let (num, den) := d.magnitude
  let step : Nat := match d.exponent with
    | .ofNat e => Nat.pow 2 e
    | .negSucc _ => 1
  let first := d.fractionField = 0 ∧ d.exponentField > 1
  ⟨4 * num, 4 * den, if first then step else 2 * step, 2 * step, d.significand % 2 == 0⟩

/-- Whether `x / y` rounds to the double. -/
def Rounding.accepts (r : Rounding) (x y : Nat) : Bool :=
  let low := (r.num - r.below) * y
  let high := (r.num + r.above) * y
  let mid := x * r.den
  if r.closed then low ≤ mid && mid ≤ high else low < mid && mid < high

/-- How many zeros follow the point of `num / den < 1` before its first digit. -/
def zerosAfterPoint : Nat → Nat → Nat → Nat
  | 0, _, _ => 0
  | fuel + 1, num, den =>
    if den ≤ 10 * num then 0 else zerosAfterPoint fuel (10 * num) den + 1

/-- The `p` with `10 ^ (p - 1) ≤ num / den < 10 ^ p`. -/
def pointOf (num den : Nat) : Int :=
  if den ≤ num then ((Nat.toDigits 10 (num / den)).length : Int)
  else -(zerosAfterPoint 400 num den : Int)

/-- Drops the zeros at the end of a number. -/
def dropZeros : Nat → Nat → Nat
  | 0, n => n
  | fuel + 1, n => if n ≠ 0 ∧ n % 10 = 0 then dropZeros fuel (n / 10) else n

/-- The decimal with `n` digits that rounds to the double and lies nearest to it, if one does: only
the two neighbours on the grid of `n` digits can. A tie between them goes to the even one. -/
def onGrid? (r : Rounding) (point : Int) (n : Nat) : Option Nat :=
  -- The grid's unit is `unitNum / unitDen`.
  let (unitNum, unitDen) : Nat × Nat := match point - n with
    | .ofNat e => (Nat.pow 10 e, 1)
    | .negSucc e => (1, Nat.pow 10 (e + 1))
  let a := r.num * unitDen
  let b := r.den * unitNum
  let lower := a / b
  let rest := a % b
  let nearerLower := 2 * rest < b ∨ (2 * rest = b ∧ lower % 2 = 0)
  match r.accepts (lower * unitNum) unitDen, r.accepts ((lower + 1) * unitNum) unitDen with
  | true, true => some (if nearerLower then lower else lower + 1)
  | true, false => some lower
  | false, true => some (lower + 1)
  | false, false => none

/-- The shortest digits of a positive finite double; seventeen always suffice. -/
def shortest (d : Double) : Digits :=
  let r := d.rounding
  let point := pointOf r.num r.den
  let grids := (List.range 17).filterMap fun i => (onGrid? r point (i + 1)).map fun n => (i + 1, n)
  match grids with
  | [] => ⟨0, 0⟩
  | (size, n) :: _ =>
    ⟨dropZeros 20 n, if n = Nat.pow 10 size then point + 1 else point⟩

end Double

end ResolverHooks
