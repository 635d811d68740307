import ResolverHooks.Decimal.Shortest

/-! How a double is written: one record of decisions, and the text that it leads to. -/
namespace ResolverHooks

/-- The decisions of a number format. A decimal `d.ddd * 10 ^ e` is written without an exponent when
`leastPositional ≤ e < positionalBelow`. -/
structure NumberLayout where
  leastPositional : Int
  positionalBelow : Int
  exponentDigits : Nat
  nan : String
  infinity : String

namespace NumberLayout

/-- Numbers inside a JSON text. -/
def json : NumberLayout := ⟨-4, 16, 2, "NaN", "Infinity"⟩

/-- Numbers inside a message. -/
def plain : NumberLayout := ⟨-4, 16, 2, "nan", "inf"⟩

def zeros (n : Nat) : String := String.ofList (List.replicate n '0')

def padded (width n : Nat) : String :=
  let digits := toString n
  zeros (width - digits.length) ++ digits

/-- The text of a positive decimal. A number without an exponent always shows a point. -/
def decimal (layout : NumberLayout) (d : Digits) : String :=
  let digits := Nat.toDigits 10 d.number
  let exponent := d.point - 1
  if layout.leastPositional ≤ exponent ∧ exponent < layout.positionalBelow then
    if d.point ≤ 0 then "0." ++ zeros (-d.point).toNat ++ String.ofList digits
    else
      let whole := d.point.toNat
      if digits.length ≤ whole then
        String.ofList digits ++ zeros (whole - digits.length) ++ ".0"
      else String.ofList (digits.take whole) ++ "." ++ String.ofList (digits.drop whole)
  else
    let tail := if digits.length ≤ 1 then "" else "." ++ String.ofList (digits.drop 1)
    let mark := if exponent < 0 then "e-" else "e+"
    String.ofList (digits.take 1) ++ tail ++ mark ++ padded layout.exponentDigits exponent.natAbs

/-- The text of a double; a zero keeps its sign. -/
def text (layout : NumberLayout) (d : Double) : String :=
  if d.isNaN then layout.nan
  else
    let body :=
      if d.isInfinite then layout.infinity
      else if d.isZero then "0.0"
      else layout.decimal d.shortest
    if d.sign then "-" ++ body else body

end NumberLayout

end ResolverHooks
