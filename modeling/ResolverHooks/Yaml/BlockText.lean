import ResolverHooks.Text.Hex
import ResolverHooks.Yaml.Cursor
import ResolverHooks.Yaml.Token

/-!
Block scalars. The header says how the line breaks at the end are treated and, where the first line
does not show it, by how much the lines are indented.
-/
namespace ResolverHooks.Yaml

/-- What becomes of the line breaks at the end: only the last is kept, none is, or all are. -/
inductive Chomping where
  | clip
  | strip
  | keep
deriving DecidableEq, Repr

def chomping? (c : Char) : Option Chomping :=
  if c = '+' then some .keep else if c = '-' then some .strip else none

/-- An indentation indicator, one digit; zero is refused. -/
def indentDigit? (c : Char) : Option Nat :=
  if '0' ≤ c ∧ c ≤ '9' then some (c.toNat - 48) else none

structure Header where
  chomping : Chomping
  increment : Option Nat
  length : Nat

/-- The indicators of a header, in either order. -/
def header (cs : List Char) : Except Fault Header :=
  let digit (n : Nat) (h : Header) : Except Fault Header :=
    if n = 0 then .error .malformed else .ok h
  match cs with
  | [] => .ok ⟨.clip, none, 0⟩
  | a :: rest =>
    match chomping? a with
    | some ch =>
      match rest.head?.bind indentDigit? with
      | some n => digit n ⟨ch, some n, 2⟩
      | none => .ok ⟨ch, none, 1⟩
    | none =>
      match indentDigit? a with
      | some n =>
        match rest.head?.bind chomping? with
        | some ch => digit n ⟨ch, some n, 2⟩
        | none => digit n ⟨.clip, some n, 1⟩
      | none => .ok ⟨.clip, none, 0⟩

/-- Passes spaces and a comment up to the end of the line and over its break. -/
def ignoredLine (c : Cursor) : Except Fault Cursor :=
  let c := c.drop (c.rest.takeWhile (· == ' ')).length
  let c := if c.rest.head? == some '#' then
    c.drop (c.rest.takeWhile fun ch => !isBreak ch).length else c
  if atLineEnd c.rest then .ok c.next else .error .malformed

/-- The breaks of empty lines, where lines are indented by `indent`. -/
def emptyLines (indent : Nat) : Nat → List Char → Cursor → List Char × Cursor
  | 0, breaks, c => (breaks, c)
  | fuel + 1, breaks, c =>
    match c.rest with
    | [] => (breaks, c)
    | ch :: _ =>
      if isBreak ch then emptyLines indent fuel (breaks ++ [breakText ch]) c.next
      else if ch == ' ' && c.column < indent then emptyLines indent fuel breaks c.next
      else (breaks, c)

/-- The breaks of the empty lines in front of the first line, and the widest indentation seen. -/
def leadingLines : Nat → List Char → Nat → Cursor → List Char × Nat × Cursor
  | 0, breaks, widest, c => (breaks, widest, c)
  | fuel + 1, breaks, widest, c =>
    match c.rest with
    | [] => (breaks, widest, c)
    | ch :: _ =>
      if isBreak ch then leadingLines fuel (breaks ++ [breakText ch]) widest c.next
      else if ch == ' ' then leadingLines fuel breaks (max widest c.next.column) c.next
      else (breaks, widest, c)

def startsBlank (cs : List Char) : Bool := (cs.head?.map isBlank).getD false

/-- The text of the lines; its last line break and the empty lines behind it are kept apart. -/
structure Lines where
  text : List Char
  lastBreak : List Char
  trailing : List Char
  next : Cursor

/-- Reads lines while they are indented enough. A folded break between two lines that start with
text becomes a space, or nothing if empty lines follow it. -/
def blockLines (folded : Bool) (indent : Nat) :
    Nat → List Char → List Char → Cursor → Lines
  | 0, text, breaks, c => ⟨text, [], breaks, c⟩
  | fuel + 1, text, breaks, c =>
    if c.column = indent ∧ c.rest ≠ [] then
      let line := c.rest.takeWhile fun ch => !isBreak ch
      let ending := c.drop line.length
      let lineBreak := (ending.rest.head?.map breakText).toList
      let (more, next) := emptyLines indent (ending.rest.length + 1) [] ending.next
      let text := text ++ breaks ++ line
      if next.column = indent ∧ next.rest ≠ [] then
        let folds := folded && lineBreak == ['\n'] && !startsBlank c.rest && !startsBlank next.rest
        let joint := if !folds then lineBreak else if more.isEmpty then [' '] else []
        blockLines folded indent fuel (text ++ joint) more next
      else ⟨text, lineBreak, more, next⟩
    else ⟨text, [], breaks, c⟩

/-- The block scalar behind the indicator at a cursor, inside a block indented by `indent`. -/
def blockScalar (folded : Bool) (indent : Int) (c : Cursor) :
    Except Fault (List Char × Cursor) := do
  let c := c.next
  let h ← header c.rest
  let c := c.drop h.length
  if !(atLineEnd c.rest || c.rest.head? == some ' ') then throw .malformed
  let c ← ignoredLine c
  let least := max (indent + 1).toNat 1
  let (breaks, width, c) := match h.increment with
    | some n =>
      let width := least + n - 1
      let (breaks, c) := emptyLines width (c.rest.length + 1) [] c
      (breaks, width, c)
    | none =>
      let (breaks, widest, c) := leadingLines (c.rest.length + 1) [] 0 c
      (breaks, max least widest, c)
  let lines := blockLines folded width (c.rest.length + 1) [] breaks c
  let ending := match h.chomping with
    | .strip => []
    | .clip => lines.lastBreak
    | .keep => lines.lastBreak ++ lines.trailing
  return (lines.text ++ ending, lines.next)

end ResolverHooks.Yaml
