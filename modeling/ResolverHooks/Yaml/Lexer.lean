import ResolverHooks.Yaml.BlockText
import ResolverHooks.Yaml.Label
import ResolverHooks.Yaml.Plain
import ResolverHooks.Yaml.Quoted
import ResolverHooks.Yaml.Stream

/-!
From text to tokens. Block structure follows indentation. A node on one line that is followed by a
colon is a simple key: the place of every token that may begin one is remembered, and the key's mark
is put in front of it once its colon is met. Tokens are read only as far as they are asked for.
-/
namespace ResolverHooks.Yaml

/-- A place where a simple key may have begun: the number of tokens before it, and its position.
Where the block's indentation demands a key, a missing colon is a fault. -/
structure KeyMark where
  token : Nat
  required : Bool
  index : Nat
  line : Nat
  column : Nat
deriving Repr

/-- The state of the scan. `key` belongs to the innermost flow collection, `outerKeys` to the ones
around it; `queue` holds the tokens that have been read but not taken, the first of which has the
number `taken`. Where the text is cut short, `fault` is the reason. -/
structure Lexer where
  cursor : Cursor
  fault : Option Fault
  indent : Int
  outerIndents : List Int
  key : Option KeyMark
  outerKeys : List (Option KeyMark)
  keyAllowed : Bool
  queue : List Token
  taken : Nat
  done : Bool

namespace Lexer

def start (s : Stream) : Lexer :=
  let c := Cursor.start s.text
  let c := if s.text.head? == some '\uFEFF' then c.next else c
  ⟨c, s.fault, -1, [], none, [], true, [], 0, false⟩

def inFlow (l : Lexer) : Bool := !l.outerKeys.isEmpty

/-- The number of the token that comes next. -/
def count (l : Lexer) : Nat := l.taken + l.queue.length

def emit (l : Lexer) (t : Token) : Lexer := { l with queue := l.queue ++ [t] }

/-- Puts a token in front of the one with this number. -/
def emitAt (l : Lexer) (place : Nat) (t : Token) : Lexer :=
  { l with queue := l.queue.insertIdx (place - l.taken) t }

def advance (l : Lexer) (n : Nat) : Lexer := { l with cursor := l.cursor.drop n }

/-- Passes spaces, comments and line breaks; outside flow collections a new line may start a key. -/
def skipGap (l : Lexer) : Lexer :=
  let (n, broken) := gapLength false l.cursor.rest
  { l with cursor := l.cursor.drop n, keyAllowed := l.keyAllowed || (broken && !l.inFlow) }

/-- A key ends on the line where it began, and within 1024 characters. -/
def KeyMark.isStale (k : KeyMark) (c : Cursor) : Bool :=
  k.line != c.line || c.index - k.index > 1024

def dropStale (c : Cursor) : Option KeyMark → Except Fault (Option KeyMark)
  | none => .ok none
  | some k =>
    if KeyMark.isStale k c then (if k.required then .error .malformed else .ok none)
    else .ok (some k)

def forgetStale (l : Lexer) : Except Fault Lexer := do
  let key ← dropStale l.cursor l.key
  let outerKeys ← l.outerKeys.mapM (dropStale l.cursor)
  return { l with key, outerKeys }

/-- Ends the blocks that are indented further than the column. -/
def closeBlocks (column : Int) : Nat → Lexer → Lexer
  | 0, l => l
  | fuel + 1, l =>
    if column < l.indent then
      match l.outerIndents with
      | [] => l
      | i :: rest =>
        closeBlocks column fuel ({ l with indent := i, outerIndents := rest }.emit .blockEnd)
    else l

def unwind (l : Lexer) (column : Int) : Lexer :=
  if l.inFlow then l else closeBlocks column (l.outerIndents.length + 1) l

/-- Opens a block at a column that lies further in than the current block. -/
def openBlock (l : Lexer) (column : Nat) : Option Lexer :=
  if l.indent < column then
    some { l with indent := column, outerIndents := l.indent :: l.outerIndents }
  else none

def forgetKey (l : Lexer) : Except Fault Lexer :=
  match l.key with
  | some k => if k.required then .error .malformed else .ok { l with key := none }
  | none => .ok l

/-- Remembers that the next token may begin a simple key. -/
def markKey (l : Lexer) : Except Fault Lexer := do
  if !l.keyAllowed then return l
  let l ← l.forgetKey
  let c := l.cursor
  let required := !l.inFlow && l.indent == (c.column : Int)
  return { l with key := some ⟨l.count, required, c.index, c.line, c.column⟩ }

/-- A token of one character that opens a flow collection. -/
def flowStart (l : Lexer) (t : Token) : Except Fault Lexer := do
  let l ← l.markKey
  return ({ l with key := none, outerKeys := l.key :: l.outerKeys, keyAllowed := true }.emit
    t).advance 1

def flowEnd (l : Lexer) (t : Token) : Except Fault Lexer := do
  let l ← l.forgetKey
  match l.outerKeys with
  | [] => throw .malformed
  | k :: rest =>
    return ({ l with key := k, outerKeys := rest, keyAllowed := false }.emit t).advance 1

def comma (l : Lexer) : Except Fault Lexer := do
  let l ← l.forgetKey
  return ({ l with keyAllowed := true }.emit .comma).advance 1

/-- A separator of documents, or the end of the text, closes every block. -/
def boundary (l : Lexer) (t : Token) (n : Nat) : Except Fault Lexer := do
  let l ← (l.unwind (-1)).forgetKey
  return ({ l with keyAllowed := false }.emit t).advance n

def directive (l : Lexer) : Except Fault Lexer := do
  let (t, n) ← directiveToken l.cursor.rest
  let l ← l.boundary t n
  return { l with cursor := ← ignoredLine l.cursor }

/-- A dash that starts an entry, and with the first one its block. -/
def blockEntry (l : Lexer) : Except Fault Lexer := do
  let l ←
    if l.inFlow then pure l
    else if !l.keyAllowed then throw .malformed
    else pure (match l.openBlock l.cursor.column with
      | some l => l.emit .blockSequence
      | none => l)
  let l ← { l with keyAllowed := true }.forgetKey
  return (l.emit .entry).advance 1

/-- A question mark that starts a key. -/
def explicitKey (l : Lexer) : Except Fault Lexer := do
  let l ←
    if l.inFlow then pure l
    else if !l.keyAllowed then throw .malformed
    else pure (match l.openBlock l.cursor.column with
      | some l => l.emit .blockMapping
      | none => l)
  let l ← { l with keyAllowed := !l.inFlow }.forgetKey
  return (l.emit .key).advance 1

/-- A colon: the simple key that it ends gets its mark, and opens a block mapping if it lies further
in; without a key the colon stands for itself. -/
def colon (l : Lexer) : Except Fault Lexer := do
  match l.key with
  | some k =>
    let l := { l with key := none }.emitAt k.token .key
    let l := if l.inFlow then l
      else match l.openBlock k.column with
        | some l => l.emitAt k.token .blockMapping
        | none => l
    return ({ l with keyAllowed := false }.emit .value).advance 1
  | none =>
    let l ←
      if l.inFlow then pure l
      else if !l.keyAllowed then throw .malformed
      else pure (match l.openBlock l.cursor.column with
        | some l => l.emit .blockMapping
        | none => l)
    return ({ l with keyAllowed := !l.inFlow }.emit .value).advance 1

/-- A token of `n` characters that may begin a simple key. -/
def inline (l : Lexer) (t : Token) (n : Nat) : Except Fault Lexer := do
  let l ← l.markKey
  return ({ l with keyAllowed := false }.emit t).advance n

def quoted (l : Lexer) (q : Quoted) : Except Fault Lexer := do
  let l ← l.markKey
  let (text, n) ← q
  return ({ l with keyAllowed := false }.emit (.scalar (String.ofList text) false)).advance (n + 1)

def blockText (l : Lexer) (folded : Bool) : Except Fault Lexer := do
  let l ← l.forgetKey
  let (text, next) ← blockScalar folded l.indent l.cursor
  return { l with cursor := next, keyAllowed := true }.emit (.scalar (String.ofList text) false)

def plain (l : Lexer) : Except Fault Lexer := do
  let l ← l.markKey
  let p := plainScalar l.inFlow (l.indent + 1) l.cursor
  return { l with cursor := p.next, keyAllowed := p.broken }.emit
    (.scalar (String.ofList p.text) true)

/-- Whether a plain scalar may start with this character. -/
def startsPlain (flow : Bool) (c : Char) (rest : List Char) : Bool :=
  let plainStart := !(isBlank c || isBreak c) &&
    !("-?:,[]#&*!|>'%@".toList.contains c || c == '\x7b' || c == '\x7d' || c == '"' || c == '\x60')
  plainStart || (!atGap rest && (c == '-' || (!flow && (c == '?' || c == ':'))))

/-- The end of the text closes everything. -/
def finish (l : Lexer) : Except Fault Lexer := do
  let l ← l.boundary .streamEnd 0
  return { l with outerKeys := [], done := true }

/-- Reads the token at the cursor. -/
def token (l : Lexer) : Except Fault Lexer := do
  let atStart := l.cursor.column == 0
  match l.cursor.rest with
  | [] => l.finish
  | c :: rest =>
    let here := c :: rest
    if c == '%' && atStart then l.directive
    else if c == '-' && atStart && atSeparator here then l.boundary .documentStart 3
    else if c == '.' && atStart && atSeparator here then l.boundary .documentEnd 3
    else if c == '[' then l.flowStart .flowSequence
    else if c == '\x7b' then l.flowStart .flowMapping
    else if c == ']' then l.flowEnd .flowSequenceEnd
    else if c == '\x7d' then l.flowEnd .flowMappingEnd
    else if c == ',' then l.comma
    else if c == '-' && atGap rest then l.blockEntry
    else if c == '?' && (l.inFlow || atGap rest) then l.explicitKey
    else if c == ':' && (l.inFlow || atGap rest) then l.colon
    else if c == '*' then l.inline (.alias (← anchorName rest)) ((nameOf rest).length + 1)
    else if c == '&' then l.inline (.anchor (← anchorName rest)) ((nameOf rest).length + 1)
    else if c == '!' then
      let (t, n) ← tagToken here
      l.inline t n
    else if c == '|' && !l.inFlow then l.blockText false
    else if c == '>' && !l.inFlow then l.blockText true
    else if c == '\'' then l.quoted (singleQuoted .none rest)
    else if c == '"' then l.quoted (doubleQuoted .none rest)
    else if startsPlain l.inFlow c rest then l.plain
    else throw .malformed

/-- Whether the cursor is so near to the end that a token may need more text than there is. -/
def isShort (l : Lexer) : Bool := (l.cursor.rest.drop 3).isEmpty

/-- Whether a fault in the token at the cursor may come from the end of the text: its line is the
last one. -/
def isLastLine (l : Lexer) : Bool := !l.cursor.rest.any isBreak

/-- Moves to the next token, closes the blocks that end before it, and reads it. -/
def advanceToken (l : Lexer) : Except Fault Lexer := do
  let l ← l.forgetStale
  (l.unwind l.cursor.column).token

/-- Reads the next token. A text that is cut short stops the scan wherever that reaches its end. -/
def step (l : Lexer) : Except Fault Lexer :=
  let l := l.skipGap
  match l.fault with
  | none => l.advanceToken.mapError fun f => if f = .unfinished then .malformed else f
  | some cut =>
    if l.isShort then .error cut
    else match l.advanceToken with
      | .ok next => if next.cursor.rest.isEmpty then .error cut else .ok next
      | .error f => .error (if f = .unfinished ∨ (f = .malformed ∧ l.isLastLine) then cut else f)

/-- Whether the first token of the queue may still get a mark in front of it. -/
def isPending (l : Lexer) : Bool :=
  (l.key :: l.outerKeys).any fun k => (k.map KeyMark.token) == some l.taken

/-- Reads tokens until the next one is settled. Every step takes at least one character, except the
last one. -/
def fill : Nat → Lexer → Except Fault Lexer
  | 0, _ => .error .malformed
  | fuel + 1, l => do
    if l.done then return l
    if l.queue.isEmpty then fill fuel (← l.step)
    else
      let l ← l.forgetStale
      if l.isPending then fill fuel (← l.step) else return l

/-- The next token. -/
def peek (l : Lexer) : Except Fault (Token × Lexer) := do
  let l ← l.fill (l.cursor.rest.length + 3)
  return (l.queue.headD .streamEnd, l)

/-- Takes the next token away. -/
def skip (l : Lexer) : Lexer := { l with queue := l.queue.drop 1, taken := l.taken + 1 }

end Lexer

end ResolverHooks.Yaml
