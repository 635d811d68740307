import ResolverHooks.Decimal.Numeral
import ResolverHooks.Yaml.Node

/-!
The tag of a plain scalar, by the form of its text: the YAML 1.1 forms of truth values, numbers,
timestamps, null, the merge key and the value key; anything else is a text.
-/
namespace ResolverHooks.Yaml

open Numeral (dropSign digitRun)

def boolForms : List String :=
  ["yes", "Yes", "YES", "no", "No", "NO", "true", "True", "TRUE", "false", "False", "FALSE",
   "on", "On", "ON", "off", "Off", "OFF"]

def nullForms : List String := ["", "~", "null", "Null", "NULL"]

/-- Digits of a base in which underscores may stand. -/
def isDigitOf (base : Nat) (c : Char) : Bool :=
  c == '_' || ('0' ≤ c && c ≤ '9' && c.toNat - 48 < base) ||
    (base == 16 && (('a' ≤ c && c ≤ 'f') || ('A' ≤ c && c ≤ 'F')))

def areDigits (base : Nat) (cs : List Char) : Bool := !cs.isEmpty && cs.all (isDigitOf base)

/-- A digit from 1 to 9 or, where `zero`, from 0, and then decimal digits and underscores. -/
def isWhole (zero : Bool) : List Char → Bool
  | [] => false
  | c :: rest => c.isDigit && (zero || c != '0') && rest.all (isDigitOf 10)

/-- Groups behind colons: at least one, each a number from 0 to 59 of one or two digits. -/
def isSexagesimalTail (cs : List Char) : Bool :=
  let groups := cs.splitOn ':'
  groups.length > 1 && groups.head? == some [] && (groups.drop 1).all fun g =>
    match g with
    | [a] => a.isDigit
    | [a, b] => '0' ≤ a && a ≤ '5' && b.isDigit
    | _ => false

def isInteger (cs : List Char) : Bool :=
  match dropSign cs with
  | '0' :: 'b' :: rest => areDigits 2 rest
  | '0' :: 'x' :: rest => areDigits 16 rest
  | ['0'] => true
  | '0' :: rest => areDigits 8 rest
  | body =>
    let whole := body.takeWhile (· != ':')
    isWhole false whole &&
      (whole.length == body.length || isSexagesimalTail (body.drop whole.length))

/-- An exponent with its sign, or nothing. -/
def isExponentTail : List Char → Bool
  | [] => true
  | e :: sign :: rest =>
    (e == 'e' || e == 'E') && (sign == '+' || sign == '-') && !rest.isEmpty && rest.all Char.isDigit
  | _ => false

/-- What may follow the point of a number: digits, underscores and an exponent. -/
def isFractionTail (cs : List Char) : Bool :=
  isExponentTail (cs.dropWhile (isDigitOf 10))

/-- Numbers with a point; the exponent, if any, has a sign. A text that starts with the point has a
digit behind it and no sign. -/
def isReal (cs : List Char) : Bool :=
  let body := dropSign cs
  let whole := body.takeWhile (· != '.')
  let after := body.drop (whole.length + 1)
  let hasPoint := whole.length < body.length
  let head := whole.takeWhile (· != ':')
  match cs with
  | '.' :: c :: rest =>
    (c.isDigit && isFractionTail rest) ||
      [['i', 'n', 'f'], ['I', 'n', 'f'], ['I', 'N', 'F'], ['n', 'a', 'n'], ['N', 'a', 'N'],
        ['N', 'A', 'N']].contains (c :: rest)
  | _ =>
    (hasPoint && isWhole true whole && isFractionTail after) ||
      (hasPoint && isWhole true head && isSexagesimalTail (whole.drop head.length) &&
        after.all (isDigitOf 10)) ||
      [['.', 'i', 'n', 'f'], ['.', 'I', 'n', 'f'], ['.', 'I', 'N', 'F']].contains body

/-- The fields of a timestamp, as their digits; the time of day and its zone may be absent. -/
structure Stamp where
  year : List Char
  month : List Char
  day : List Char
  time : Option (List Char × List Char × List Char)
  fraction : List Char
  zone : Option (Char × List Char × List Char)
deriving Repr

/-- Between `low` and `high` digits. -/
def digitsOf? (low high : Nat) (cs : List Char) : Option (List Char × List Char) :=
  let (ds, rest) := digitRun cs
  if low ≤ ds.length ∧ ds.length ≤ high then some (ds, rest) else none

def expect? (c : Char) : List Char → Option (List Char)
  | [] => none
  | d :: rest => if d = c then some rest else none

def skipBlanks (cs : List Char) : List Char := cs.dropWhile fun c => c == ' ' || c == '\t'

/-- A zone: nothing, `Z`, or a sign with hours and perhaps minutes. -/
def zone? (cs : List Char) : Option (Option (Char × List Char × List Char)) :=
  if cs.isEmpty then some none
  else
    match skipBlanks cs with
    | ['Z'] => some (some ('Z', [], []))
    | c :: rest =>
      if c = '+' ∨ c = '-' then do
        let (hours, rest) ← digitsOf? 1 2 rest
        if rest.isEmpty then return some (c, hours, [])
        let (minutes, rest) ← digitsOf? 2 2 (← expect? ':' rest)
        if rest.isEmpty then return some (c, hours, minutes) else none
      else none
    | [] => none

/-- A text without the line feed that may end it. -/
def withoutBreak (cs : List Char) : List Char :=
  if cs.getLast? == some '\n' then cs.dropLast else cs

/-- Reads a timestamp: a date, or a date and a time of day behind a `T` or blanks. -/
def stamp? (cs : List Char) : Option Stamp := do
  let (year, rest) ← digitsOf? 4 4 (withoutBreak cs)
  let (month, rest) ← digitsOf? 1 2 (← expect? '-' rest)
  let (day, rest) ← digitsOf? 1 2 (← expect? '-' rest)
  match rest with
  | [] => return ⟨year, month, day, none, [], none⟩
  | c :: after =>
    let rest ←
      if c = 'T' ∨ c = 't' then some after
      else if c = ' ' ∨ c = '\t' then some (skipBlanks after)
      else none
    let (hour, rest) ← digitsOf? 1 2 rest
    let (minute, rest) ← digitsOf? 2 2 (← expect? ':' rest)
    let (second, rest) ← digitsOf? 2 2 (← expect? ':' rest)
    let (fraction, rest) := match rest with
      | '.' :: more => digitRun more
      | _ => ([], rest)
    let zone ← zone? rest
    return ⟨year, month, day, some (hour, minute, second), fraction, zone⟩

/-- A date alone is recognised only with two digits for month and day. -/
def isTimestamp (cs : List Char) : Bool :=
  match stamp? cs with
  | some s => s.time.isSome || (s.month.length == 2 && s.day.length == 2)
  | none => false

/-- Marks that are no text of their own: nothing is known of what they stand for. -/
def markForms : List String := ["!", "&", "*"]

/-- The tag that the form of a text resolves to. A line feed at its end does not count. -/
def plainTag (text : String) : Tag :=
  let cs := withoutBreak text.toList
  let word := String.ofList cs
  if boolForms.contains word then .bool
  else if isReal cs then .float
  else if isInteger cs then .int
  else if word = "<<" then .merge
  else if text = "" ∨ (word ≠ "" ∧ nullForms.contains word) then .null
  else if isTimestamp cs then .timestamp
  else if word = "=" then .value
  else if markForms.contains word then .unknown
  else .str

end ResolverHooks.Yaml
