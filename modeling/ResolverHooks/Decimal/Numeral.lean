import ResolverHooks.Decimal.Double
import ResolverHooks.Text.Blank
import ResolverHooks.Text.Digit

/-!
Reading numbers. Digits may be of any script, blanks may stand around a number, and a decimal
integer may not be longer than a limit.
-/
namespace ResolverHooks.Numeral

/-- Drops the sign in front. -/
def dropSign : List Char → List Char
  | '+' :: rest => rest
  | '-' :: rest => rest
  | cs => cs

def isNegative (cs : List Char) : Bool := cs.head? == some '-'

/-- Blanks that may stand around a number; the information separators are none of them. -/
def isMargin (c : Char) : Bool := Text.isBlank c && !(0x1C ≤ c.toNat && c.toNat ≤ 0x1F)

def trim (cs : List Char) : List Char :=
  ((cs.dropWhile isMargin).reverse.dropWhile isMargin).reverse

/-- A number without its margin, its digits in ASCII. -/
def plain (cs : List Char) : List Char := (trim cs).map Text.plainDigit

def digitValue? (base : Nat) (c : Char) : Option Nat :=
  let v? := if '0' ≤ c ∧ c ≤ '9' then some (c.toNat - 48)
    else if 'a' ≤ c ∧ c ≤ 'z' then some (c.toNat - 87)
    else if 'A' ≤ c ∧ c ≤ 'Z' then some (c.toNat - 55)
    else none
  v?.bind fun v => if v < base then some v else none

/-- The number that ASCII digits stand for in a base, at least one digit. -/
def natural? (base : Nat) (cs : List Char) : Option Nat :=
  if cs.isEmpty then none
  else cs.foldl (fun acc c => acc.bind fun n => (digitValue? base c).map fun d => n * base + d)
    (some 0)

/-- Drops the mark of a base that a number may repeat. -/
def dropBaseMark (base : Nat) : List Char → List Char
  | '0' :: c :: rest =>
    let marks := if base = 2 then ['b', 'B'] else if base = 8 then ['o', 'O']
      else if base = 16 then ['x', 'X'] else []
    if marks.contains c then rest else '0' :: c :: rest
  | cs => cs

/-- How many digits a decimal integer may have. -/
def longestDecimal : Nat := 4300

/-- A number in a base, with a margin and a sign allowed. Only a base that is no power of two limits
the number of digits. -/
def integer? (base : Nat) (cs : List Char) : Option Int :=
  let cs := plain cs
  let digits := dropBaseMark base (dropSign cs)
  if base = 10 ∧ longestDecimal < digits.length then none
  else (natural? base digits).map fun n => if isNegative cs then -(n : Int) else n

def digitRun (cs : List Char) : List Char × List Char :=
  (cs.takeWhile Char.isDigit, cs.dropWhile Char.isDigit)

/-- Drops underscores between digits; one that stands elsewhere is refused. -/
def dropUnderscores (afterDigit : Bool) : List Char → Option (List Char)
  | [] => some []
  | '_' :: c :: rest =>
    if afterDigit && c.isDigit then (dropUnderscores true rest).map (c :: ·) else none
  | c :: rest => if c = '_' then none else (dropUnderscores c.isDigit rest).map (c :: ·)

/-- The digits behind a point, none where no point stands. -/
def fractionRun : List Char → List Char × List Char
  | '.' :: more => digitRun more
  | cs => ([], cs)

/-- The exponent that a number ends with, zero where it has none. -/
def exponent? : List Char → Option Int
  | [] => some 0
  | 'e' :: more =>
    (natural? 10 (dropSign more)).map fun n => if isNegative more then -(n : Int) else n
  | _ => none

/-- A number with or without a point and an exponent, or a name of infinity or of the number that is
none, in any case. -/
def real? (cs : List Char) : Option Double := do
  let cs ← dropUnderscores false ((plain cs).map Char.toLower)
  let negative := isNegative cs
  let body := dropSign cs
  if body = "inf".toList ∨ body = "infinity".toList then return .infinity negative
  if body = "nan".toList then return .nan
  let (whole, rest) := digitRun body
  let (fraction, rest) := fractionRun rest
  let n ← natural? 10 (whole ++ fraction)
  let exponent ← exponent? rest
  return .ofDecimal negative n (exponent - fraction.length)

/-- Whether a text is a number. -/
def isNumber (s : String) : Bool := (real? s.toList).isSome

end ResolverHooks.Numeral
