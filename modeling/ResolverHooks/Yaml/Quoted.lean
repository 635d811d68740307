import ResolverHooks.Text.Hex
import ResolverHooks.Yaml.Cursor
import ResolverHooks.Yaml.Token

/-!
Quoted scalars. Blanks around a line break fold into one space, further breaks are kept, and only
double quotes know escapes. A scalar holds whole characters, so that texts in which half of a
surrogate pair stands for itself are not represented.
-/
namespace ResolverHooks.Yaml

/-- White space that has been read but not yet written: blanks of one line, a folded line break with
the breaks after it, or the breaks after an escaped line break. -/
inductive Pending where
  | blanks (cs : List Char)
  | folded (first : Char) (more : List Char)
  | escaped (more : List Char)

namespace Pending

def none : Pending := .blanks []

def text : Pending → List Char
  | .blanks cs => cs
  | .folded first more =>
    if first ≠ '\n' then first :: more
    else if more.isEmpty then [' '] else more
  | .escaped more => more

/-- Blanks at the start or the end of a line are dropped. -/
def blank (c : Char) : Pending → Pending
  | .blanks cs => .blanks (cs ++ [c])
  | p => p

def lineBreak (c : Char) : Pending → Pending
  | .blanks _ => .folded (breakText c) []
  | .folded first more => .folded first (more ++ [breakText c])
  | .escaped more => .escaped (more ++ [breakText c])

end Pending

/-- The escapes of one letter. -/
def simpleEscape? (c : Char) : Option Char :=
  match c with
  | '0' => some '\x00'
  | 'a' => some '\x07'
  | 'b' => some '\x08'
  | 't' | '\t' => some '\t'
  | 'n' => some '\n'
  | 'v' => some '\x0b'
  | 'f' => some '\x0c'
  | 'r' => some '\r'
  | 'e' => some '\x1b'
  | ' ' => some ' '
  | '"' => some '"'
  | '\\' => some '\\'
  | '/' => some '/'
  | 'N' => some '\x85'
  | '_' => some '\xa0'
  | 'L' => some '\u2028'
  | 'P' => some '\u2029'
  | _ => none

/-- The character that an escape by number names. -/
def charOfCode (n : Nat) : Except Fault Char :=
  if n ≤ 0x10FFFF then .ok (Char.ofNat n)
  else if n < 0x80000000 then .error .escapeOutOfRange
  else .error .escapeTooLarge

/-- Two code units of sixteen bits that together name one character. -/
def surrogatePair? (high low : Nat) : Option Char :=
  if 0xD800 ≤ high ∧ high < 0xDC00 ∧ 0xDC00 ≤ low ∧ low < 0xE000 then
    some (Char.ofNat (0x10000 + (high - 0xD800) * 0x400 + (low - 0xDC00)))
  else none

/-- What a quoted scalar holds, and how many characters it took with its closing quote. -/
abbrev Quoted := Except Fault (List Char × Nat)

namespace Quoted

/-- Puts text in front of a scalar that took `n` characters more. -/
def more (n : Nat) (text : List Char) (q : Quoted) : Quoted :=
  q.map fun (rest, count) => (text ++ rest, count + n)

end Quoted

/-- Reads a single-quoted scalar from behind its opening quote. -/
def singleQuoted (p : Pending) : List Char → Quoted
  | [] => .error .unfinished
  | '\'' :: '\'' :: rest => (singleQuoted .none rest).more 2 (p.text ++ ['\''])
  | c :: rest =>
    if c = '\'' then .ok (p.text, 1)
    else if isBlank c then (singleQuoted (p.blank c) rest).more 1 []
    else if isBreak c then
      if atSeparator rest then .error .malformed
      else (singleQuoted (p.lineBreak c) rest).more 1 []
    else (singleQuoted .none rest).more 1 (p.text ++ [c])

/-- Whether an escape by number breaks off at the end of the text. -/
def isCutEscape (kind : Char) (cs : List Char) : Bool :=
  let digits := if kind = 'x' then 2 else if kind = 'u' then 4 else if kind = 'U' then 8 else 0
  cs.length < digits && (Text.hexNumber? cs).isSome

/-- Reads a double-quoted scalar from behind its opening quote. Escapes by number are taken for
characters: two that are the halves of a surrogate pair are read as the character that they name
together, and one that is half of a pair alone as a null character. A text that keeps such halves as
code units of their own is not represented. -/
def doubleQuoted (p : Pending) : List Char → Quoted
  | [] => .error .unfinished
  | '"' :: _ => .ok (p.text, 1)
  | '\\' :: 'x' :: a :: b :: rest =>
    match Text.hexNumber? [a, b] with
    | some n => (doubleQuoted .none rest).more 4 (p.text ++ [Char.ofNat n])
    | none => .error .malformed
  | '\\' :: 'u' :: a :: b :: c :: d :: '\\' :: 'u' :: e :: f :: g :: h :: rest =>
    match Text.hexNumber? [a, b, c, d], Text.hexNumber? [e, f, g, h] with
    | some m, some n =>
      match surrogatePair? m n with
      | some ch => (doubleQuoted .none rest).more 12 (p.text ++ [ch])
      | none =>
        (doubleQuoted .none ('\\' :: 'u' :: e :: f :: g :: h :: rest)).more 6
          (p.text ++ [Char.ofNat m])
    | some m, none =>
      (doubleQuoted .none ('\\' :: 'u' :: e :: f :: g :: h :: rest)).more 6
        (p.text ++ [Char.ofNat m])
    | none, _ => .error .malformed
  | '\\' :: 'u' :: a :: b :: c :: d :: rest =>
    match Text.hexNumber? [a, b, c, d] with
    | some n => (doubleQuoted .none rest).more 6 (p.text ++ [Char.ofNat n])
    | none => .error .malformed
  | '\\' :: 'U' :: a :: b :: c :: d :: e :: f :: g :: h :: rest =>
    match Text.hexNumber? [a, b, c, d, e, f, g, h] with
    | some n =>
      match charOfCode n with
      | .ok ch => (doubleQuoted .none rest).more 10 (p.text ++ [ch])
      | .error e => .error e
    | none => .error .malformed
  | ['\\'] => .error .unfinished
  | '\\' :: c :: rest =>
    if isBreak c then
      if atSeparator rest then .error .malformed
      else (doubleQuoted (.escaped []) rest).more 2 p.text
    else
      match simpleEscape? c with
      | some ch => (doubleQuoted .none rest).more 2 (p.text ++ [ch])
      | none => .error (if isCutEscape c rest then .unfinished else .malformed)
  | c :: rest =>
    if isBlank c then (doubleQuoted (p.blank c) rest).more 1 []
    else if isBreak c then
      if atSeparator rest then .error .malformed
      else (doubleQuoted (p.lineBreak c) rest).more 1 []
    else (doubleQuoted .none rest).more 1 (p.text ++ [c])

end ResolverHooks.Yaml
