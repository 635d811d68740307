/-! A position in a YAML text, and the character classes that layout depends on. -/
namespace ResolverHooks.Yaml

/-- Line breaks that may stand in a text whose carriage returns are already line feeds. -/
def isBreak (c : Char) : Bool := c == '\n' || c == '\x85' || c == '\u2028' || c == '\u2029'

/-- The break that a scalar keeps for a line break. -/
def breakText (c : Char) : Char := if c == '\x85' then '\n' else c

def isBlank (c : Char) : Bool := c == ' ' || c == '\t'

/-- The text ends here, or the line does. -/
def atLineEnd : List Char → Bool
  | [] => true
  | c :: _ => isBreak c

/-- The text ends here, or a blank or a line break follows. -/
def atGap : List Char → Bool
  | [] => true
  | c :: _ => isBlank c || isBreak c

/-- Three dashes or dots with a gap after them, which separate documents at the start of a line. -/
def atSeparator : List Char → Bool
  | '-' :: '-' :: '-' :: rest => atGap rest
  | '.' :: '.' :: '.' :: rest => atGap rest
  | _ => false

/-- Characters that a YAML text may hold. -/
def isAllowed (c : Char) : Bool :=
  let n := c.toNat
  n == 0x9 || n == 0xA || n == 0xD || (0x20 ≤ n && n ≤ 0x7E) || n == 0x85 ||
    (0xA0 ≤ n && n ≤ 0xD7FF) || (0xE000 ≤ n && n ≤ 0xFFFD) || 0x10000 ≤ n

/-- Characters of anchors, tag handles and directive names. -/
def isNameChar (c : Char) : Bool := c.isAlphanum || c == '-' || c == '_'

structure Cursor where
  rest : List Char
  index : Nat
  line : Nat
  column : Nat
deriving Repr, Inhabited

namespace Cursor

def start (text : List Char) : Cursor := ⟨text, 0, 0, 0⟩

/-- Moves over one character; a byte order mark takes no column. -/
def next (c : Cursor) : Cursor :=
  match c.rest with
  | [] => c
  | ch :: rest =>
    if isBreak ch then ⟨rest, c.index + 1, c.line + 1, 0⟩
    else ⟨rest, c.index + 1, c.line, if ch == '\uFEFF' then c.column else c.column + 1⟩

def drop : Nat → Cursor → Cursor
  | 0, c => c
  | n + 1, c => drop n c.next

theorem rest_next (c : Cursor) : c.next.rest = c.rest.drop 1 := by
  unfold next
  split
  · rename_i h; simp [h]
  · rename_i h; split <;> simp [h]

theorem rest_drop (n : Nat) (c : Cursor) : (c.drop n).rest = c.rest.drop n := by
  induction n generalizing c with
  | zero => rfl
  | succ n ih => simp [drop, ih, rest_next]

end Cursor

/-- How many characters separate the next token: spaces, comments and line breaks; and whether a
line break is among them. -/
def gapLength (comment : Bool) : List Char → Nat × Bool
  | [] => (0, false)
  | c :: rest =>
    if isBreak c then
      let (n, _) := gapLength false rest
      (n + 1, true)
    else if comment || c == ' ' then
      let (n, broken) := gapLength comment rest
      (n + 1, broken)
    else if c == '#' then
      let (n, broken) := gapLength true rest
      (n + 1, broken)
    else (0, false)

end ResolverHooks.Yaml
