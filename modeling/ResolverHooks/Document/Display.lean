import ResolverHooks.Decimal.Layout
import ResolverHooks.Document.Value
import ResolverHooks.Text.Hex
import ResolverHooks.Text.Printable

/-!
The text of a value inside a message: a text stands for itself, and inside a container every text is
quoted. A collection inside itself is shown by dots.
-/
namespace ResolverHooks

namespace Text

/-- Escapes one character of a quoted literal; what cannot be shown is written by its code. -/
def literalChar (quote c : Char) : List Char :=
  if c = quote ∨ c = '\\' then ['\\', c]
  else if c = '\n' then ['\\', 'n']
  else if c = '\r' then ['\\', 'r']
  else if c = '\t' then ['\\', 't']
  else if isPrintable c then [c]
  else if c.toNat < 0x100 then '\\' :: 'x' :: fixedHex lowerDigit 2 c.toNat
  else if c.toNat < 0x10000 then '\\' :: 'u' :: fixedHex lowerDigit 4 c.toNat
  else '\\' :: 'U' :: fixedHex lowerDigit 8 c.toNat

/-- A quoted literal takes double quotes only where that saves escaping single ones. -/
def quoteFor (cs : List Char) : Char :=
  if cs.contains '\'' && !cs.contains '"' then '"' else '\''

def literal (s : String) : String :=
  let cs := s.toList
  let q := quoteFor cs
  String.ofList (q :: (cs.flatMap (literalChar q) ++ [q]))

/-- Bytes as a literal: every byte outside the visible range of ASCII is written by its code. -/
def bytesLiteral (bs : List UInt8) : String :=
  let cs := bs.map fun b => Char.ofNat b.toNat
  let q := quoteFor cs
  let body := cs.flatMap fun c =>
    if 0x7E < c.toNat then '\\' :: 'x' :: fixedHex lowerDigit 2 c.toNat else literalChar q c
  String.ofList ('b' :: q :: (body ++ [q]))

end Text

namespace Date

def iso (d : Date) : String :=
  NumberLayout.padded 4 d.year ++ "-" ++ NumberLayout.padded 2 d.month ++ "-" ++
    NumberLayout.padded 2 d.day

def literal (d : Date) : String :=
  "datetime.date(" ++ ", ".intercalate ([d.year, d.month, d.day].map toString) ++ ")"

end Date

namespace Moment

def offsetText (minutes : Int) : String :=
  let n := minutes.natAbs
  (if minutes < 0 then "-" else "+") ++ NumberLayout.padded 2 (n / 60) ++ ":" ++
    NumberLayout.padded 2 (n % 60)

/-- Date, separator, time and offset; a whole second shows no fraction. -/
def iso (separator : String) (m : Moment) : String :=
  let fraction := if m.microsecond = 0 then "" else "." ++ NumberLayout.padded 6 m.microsecond
  m.date.iso ++ separator ++ NumberLayout.padded 2 m.hour ++ ":" ++
    NumberLayout.padded 2 m.minute ++ ":" ++ NumberLayout.padded 2 m.second ++ fraction ++
    (m.offset.map offsetText).getD ""

def zoneLiteral (minutes : Int) : String :=
  if minutes = 0 then "datetime.timezone.utc"
  else
    let days := Int.fdiv minutes 1440
    let seconds := Int.fmod minutes 1440 * 60
    let parts := (if days = 0 then [] else ["days=" ++ toString days]) ++
      (if seconds = 0 then [] else ["seconds=" ++ toString seconds])
    "datetime.timezone(datetime.timedelta(" ++ ", ".intercalate parts ++ "))"

def literal (m : Moment) : String :=
  let fine := if m.microsecond ≠ 0 then [m.second, m.microsecond]
    else if m.second ≠ 0 then [m.second] else []
  let fields := [m.date.year, m.date.month, m.date.day, m.hour, m.minute] ++ fine
  let zone := (m.offset.map fun o => ["tzinfo=" ++ zoneLiteral o]).getD []
  "datetime.datetime(" ++ ", ".intercalate (fields.map toString ++ zone) ++ ")"

end Moment

namespace Scalar

def literal : Scalar → String
  | .null => "None"
  | .bool b => if b then "True" else "False"
  | .int i => toString i
  | .float d => NumberLayout.plain.text d
  | .str s => Text.literal s
  | .date d => d.literal
  | .moment m => m.literal
  | .bytes bs => Text.bytesLiteral bs

def display : Scalar → String
  | .str s => s
  | .date d => d.iso
  | .moment m => m.iso " "
  | s => s.literal

end Scalar

namespace Value

mutual

/-- The literal of a value inside the collections that `around` stand for, innermost first. -/
def literalWithin (around : List String) : Value → String
  | .scalar s => s.literal
  | .seq items => "[" ++ ", ".intercalate (literalItems ("[...]" :: around) items) ++ "]"
  | .map entries =>
    "\x7b" ++ ", ".intercalate (literalEntries ("\x7b...\x7d" :: around) entries) ++ "\x7d"
  | .set items =>
    if items.isEmpty then "set()"
    else "\x7b" ++ ", ".intercalate (items.map Scalar.literal) ++ "\x7d"
  | .pair a b =>
    "(" ++ literalWithin ("(...)" :: around) a ++ ", " ++ literalWithin ("(...)" :: around) b ++ ")"
  | .enclosing level => (around[level]?).getD "..."

def literalItems (around : List String) : List Value → List String
  | [] => []
  | x :: xs => literalWithin around x :: literalItems around xs

def literalEntries (around : List String) : List (Scalar × Value) → List String
  | [] => []
  | (k, v) :: es => (k.literal ++ ": " ++ literalWithin around v) :: literalEntries around es

end

def literal (v : Value) : String := literalWithin [] v

def display : Value → String
  | .scalar s => s.display
  | v => v.literal

end Value

/-! Integers of more digits than a limit have no text, so what holds one cannot be displayed. -/

/-- How many digits the text of an integer may have. -/
def longestInteger : Nat := 4300

namespace Scalar

def hasText : Scalar → Bool
  | .int i => decide (i.natAbs < Nat.pow 10 longestInteger)
  | _ => true

end Scalar

namespace Value

mutual

def hasText : Value → Bool
  | .scalar s => s.hasText
  | .seq items => haveText items
  | .map entries => haveTexts entries
  | .set items => items.all Scalar.hasText
  | .pair a b => hasText a && hasText b
  | .enclosing _ => true

def haveText : List Value → Bool
  | [] => true
  | x :: xs => hasText x && haveText xs

def haveTexts : List (Scalar × Value) → Bool
  | [] => true
  | (k, v) :: es => k.hasText && hasText v && haveTexts es

end

end Value

end ResolverHooks
