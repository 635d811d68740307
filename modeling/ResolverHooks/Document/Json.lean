import ResolverHooks.Document.Shape
import ResolverHooks.Text.Hex

/-!
JSON text with one entry per line, two spaces deeper at each level, and nothing outside ASCII.
-/
namespace ResolverHooks

namespace Json

/-- The escape of a code unit of sixteen bits. -/
def unitEscape (n : Nat) : List Char := '\\' :: 'u' :: Text.fixedHex Text.lowerDigit 4 n

/-- One character of a quoted text. What is not visible ASCII is written by its UTF-16 units, the
common control characters by their short names. -/
def escapeChar (c : Char) : List Char :=
  if c = '"' then ['\\', '"']
  else if c = '\\' then ['\\', '\\']
  else if c = '\n' then ['\\', 'n']
  else if c = '\r' then ['\\', 'r']
  else if c = '\t' then ['\\', 't']
  else if c = '\x08' then ['\\', 'b']
  else if c = '\x0c' then ['\\', 'f']
  else if 0x20 ≤ c.toNat ∧ c.toNat ≤ 0x7E then [c]
  else if c.toNat < 0x10000 then unitEscape c.toNat
  else
    let n := c.toNat - 0x10000
    unitEscape (0xD800 + n / 0x400) ++ unitEscape (0xDC00 + n % 0x400)

def quote (s : String) : List Char := '"' :: (s.toList.flatMap escapeChar ++ ['"'])

/-- The JSON text of a scalar, if JSON has one for it. -/
def scalar : Scalar → Except ShapeFault (List Char)
  | .null => .ok ['n', 'u', 'l', 'l']
  | .bool true => .ok ['t', 'r', 'u', 'e']
  | .bool false => .ok ['f', 'a', 'l', 's', 'e']
  | .int i => if (Scalar.int i).hasText then .ok (toString i).toList else .error .tooLong
  | .float d => .ok (NumberLayout.json.text d).toList
  | .str s => .ok (quote s)
  | .date _ | .moment _ | .bytes _ => .error .unserialisable

/-- A key is a quoted text; the other scalars with a JSON text are quoted as they stand. -/
def key : Scalar → Except ShapeFault (List Char)
  | .str s => .ok (quote s)
  | s => (scalar s).map fun cs => '"' :: (cs ++ ['"'])

/-- A line break and the spaces of a depth. -/
def newline (depth : Nat) : List Char := '\n' :: List.replicate (2 * depth) ' '

/-- Members between brackets, one a line; no member leaves the brackets on one line. -/
def enclose (openChar closeChar : Char) (depth : Nat) (members : List (List Char)) : List Char :=
  if members.isEmpty then [openChar, closeChar]
  else
    openChar :: (newline (depth + 1) ++ List.intercalate (',' :: newline (depth + 1)) members ++
      newline depth ++ [closeChar])

mutual

/-- The JSON text of a value at a depth, or the first fault in it. -/
def chars (depth : Nat) : Value → Except ShapeFault (List Char)
  | .scalar s => scalar s
  | .seq items => do return enclose '[' ']' depth (← itemTexts (depth + 1) items)
  | .map entries => do return enclose '\x7b' '\x7d' depth (← entryTexts (depth + 1) entries)
  | .set _ => .error .unserialisable
  | .pair a b => do
    let x ← chars (depth + 1) a
    let y ← chars (depth + 1) b
    return enclose '[' ']' depth [x, y]
  | .enclosing _ => .error .circular

def itemTexts (depth : Nat) : List Value → Except ShapeFault (List (List Char))
  | [] => .ok []
  | x :: xs => do
    let y ← chars depth x
    return y :: (← itemTexts depth xs)

def entryTexts (depth : Nat) : List (Scalar × Value) → Except ShapeFault (List (List Char))
  | [] => .ok []
  | (k, v) :: es => do
    let x ← key k
    let y ← chars depth v
    return (x ++ (':' :: ' ' :: y)) :: (← entryTexts depth es)

end

/-- The JSON text of a value. There is none where the value holds a date, bytes or a set, where it
contains itself, or where an integer is too long. -/
def text (v : Value) : Except ShapeFault String := (chars 0 v).map String.ofList

end Json

end ResolverHooks
