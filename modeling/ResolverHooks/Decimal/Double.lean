/-!
Double precision numbers by their sixty-four bits, with exact arithmetic on the rationals they
stand for. Every operation rounds an exact quotient to the nearest double, a tie going to the even
significand, so nothing here rests on machine floating point.
-/
namespace ResolverHooks

/-- A double precision number: sign bit, eleven exponent bits, fifty-two fraction bits. -/
structure Double where
  bits : UInt64
deriving DecidableEq, Repr, Inhabited

namespace Double

/-- The least exponent of two that a significand is scaled by. -/
def leastExponent : Int := -1074

def sign (d : Double) : Bool := d.bits.toNat / Nat.pow 2 63 == 1

def exponentField (d : Double) : Nat := d.bits.toNat / Nat.pow 2 52 % Nat.pow 2 11

def fractionField (d : Double) : Nat := d.bits.toNat % Nat.pow 2 52

def isNaN (d : Double) : Bool := d.exponentField == 2047 && d.fractionField != 0

def isInfinite (d : Double) : Bool := d.exponentField == 2047 && d.fractionField == 0

def isFinite (d : Double) : Bool := d.exponentField != 2047

/-- The integer `m` with `|d| = m * 2 ^ d.exponent`, for a finite `d`. -/
def significand (d : Double) : Nat :=
  if d.exponentField = 0 then d.fractionField else d.fractionField + Nat.pow 2 52

def exponent (d : Double) : Int :=
  if d.exponentField = 0 then leastExponent else (d.exponentField : Int) - 1075

def isZero (d : Double) : Bool := d.isFinite && d.significand == 0

/-- The magnitude of a finite double as a numerator and a denominator. -/
def magnitude (d : Double) : Nat × Nat :=
  match d.exponent with
  | .ofNat e => (d.significand * Nat.pow 2 e, 1)
  | .negSucc e => (d.significand, Nat.pow 2 (e + 1))

/-- The double with this sign and these lower sixty-three bits. -/
def ofFields (negative : Bool) (rest : Nat) : Double :=
  ⟨UInt64.ofNat ((if negative then Nat.pow 2 63 else 0) + rest)⟩

def infinity (negative : Bool) : Double := ofFields negative (2047 * Nat.pow 2 52)

/-- The number that is none, with a mark by which one can be told from another. -/
def nanMarked (mark : Nat) : Double :=
  ofFields false (2047 * Nat.pow 2 52 + Nat.pow 2 51 + mark % Nat.pow 2 51)

def nan : Double := nanMarked 0

def zero (negative : Bool) : Double := ofFields negative 0

/-- The nearest integer to `num / den`, a tie going to the even one. -/
def roundHalfEven (num den : Nat) : Nat :=
  let q := num / den
  let r := num % den
  if 2 * r < den ∨ (2 * r = den ∧ q % 2 = 0) then q else q + 1

/-- The exponent of two at which `num / den` has a significand below `2 ^ 53` and, unless that is
the least exponent, of at least `2 ^ 52`. -/
def scaleOf (num den : Nat) : Int :=
  let guess := (Nat.log2 num : Int) - (Nat.log2 den : Int) - 53
  let low := max guess leastExponent
  let fits : Bool :=
    match low with
    | .ofNat e => num < Nat.pow 2 53 * (den * Nat.pow 2 e)
    | .negSucc e => num * Nat.pow 2 (e + 1) < Nat.pow 2 53 * den
  if fits then low else low + 1

/-- The double nearest to `num / den`, signed. The significand and the exponent field are added, so
that a significand rounded up to `2 ^ 53` carries into the exponent. -/
def ofFraction (negative : Bool) (num den : Nat) : Double :=
  let q := scaleOf num den
  let m :=
    match q with
    | .ofNat e => roundHalfEven num (den * Nat.pow 2 e)
    | .negSucc e => roundHalfEven (num * Nat.pow 2 (e + 1)) den
  let rest := m + (q - leastExponent).toNat * Nat.pow 2 52
  if rest < 2047 * Nat.pow 2 52 then ofFields negative rest else infinity negative

/-- The double nearest to `digits * 10 ^ exponent`. Exponents far outside the range of doubles are
answered without building the power. -/
def ofDecimal (negative : Bool) (digits : Nat) (exponent : Int) : Double :=
  let size : Int := (Nat.log2 digits : Int) / 3 + 1
  if digits = 0 then zero negative
  else if exponent > 400 then infinity negative
  else if exponent + size < -400 then zero negative
  else
    match exponent with
    | .ofNat e => ofFraction negative (digits * Nat.pow 10 e) 1
    | .negSucc e => ofFraction negative digits (Nat.pow 10 (e + 1))

def negate (d : Double) : Double :=
  ofFields (!d.sign) (d.bits.toNat % Nat.pow 2 63)

/-- The integer a double stands for, if it stands for one. -/
def toInt? (d : Double) : Option Int :=
  let (num, den) := d.magnitude
  if d.isFinite && num % den == 0 then
    some (if d.sign then -(num / den : Nat) else (num / den : Nat))
  else none

/-- A finite double as a numerator, which has its sign, and a denominator. -/
def fraction (d : Double) : Int × Nat :=
  let (num, den) := d.magnitude
  (if d.sign then -(num : Int) else num, den)

/-- The double nearest to a natural number, unless that is out of range. -/
def ofNat? (n : Nat) : Option Double :=
  if n = 0 then some (zero false)
  else
    let d := ofFraction false n 1
    if d.isFinite then some d else none

/-- The sum, rounded. Infinities of opposite signs have none; a sum of zero is negative only if both
summands are. -/
def add (a b : Double) : Double :=
  if a.isNaN || b.isNaN || (a.isInfinite && b.isInfinite && a.sign != b.sign) then nan
  else if a.isInfinite then a
  else if b.isInfinite then b
  else
    let (m, d) := a.fraction
    let (n, e) := b.fraction
    let num := m * e + n * d
    if num = 0 then zero (a.sign && b.sign) else ofFraction (num < 0) num.natAbs (d * e)

/-- The product, rounded. Zero times infinity has none. -/
def mul (a b : Double) : Double :=
  let negative := a.sign != b.sign
  if a.isNaN || b.isNaN || (a.isInfinite && b.isZero) || (a.isZero && b.isInfinite) then nan
  else if a.isInfinite || b.isInfinite then infinity negative
  else if a.isZero || b.isZero then zero negative
  else
    let (m, d) := a.magnitude
    let (n, e) := b.magnitude
    ofFraction negative (m * n) (d * e)

end Double

end ResolverHooks
