import ResolverHooks.Text.Blank
import ResolverHooks.Text.Cluster

/-!
Text in lines of a terminal. A line that is too long is broken in front of a word; a word that fits
on no line is folded, or cut short with an ellipsis.
-/
namespace ResolverHooks.Text

def widthOf (cs : List Char) : Nat := width (String.ofList cs)

/-- The words of a text, behind a word that has been begun, last character first: whether it has
more than blanks, and whether a blank ends it. Blanks belong to the word in front of them, those at
the start to the first word. -/
def wordsBehind (word : List Char) (begun ended : Bool) : List Char → List (List Char)
  | [] => if begun then [word.reverse] else []
  | c :: rest =>
    if isBlank c then wordsBehind (c :: word) begun begun rest
    else if ended then word.reverse :: wordsBehind [c] true false rest
    else wordsBehind (c :: word) true false rest

def words (cs : List Char) : List (List Char) := wordsBehind [] false false cs

/-- How many spaces stand for a tab behind a number of cells: up to the next multiple of eight. -/
def tabSpaces (used : Nat) : Nat := 8 - used % 8

/-- Joins parts that tabs divide, behind a number of cells. -/
def expandTabs (used : Nat) : List (List Char) → List Char
  | [] => []
  | [part] => part
  | part :: rest =>
    let used := used + widthOf part
    part ++ List.replicate (tabSpaces used) ' ' ++ expandTabs (used + tabSpaces used) rest

/-- What becomes of a line that is longer than there is room for. -/
inductive Overflow where
  | fold
  | ellipsis
deriving DecidableEq, Repr

/-- Lines of a text that is being broken: those that are done, latest first, the line that has been
begun, and its cells. -/
structure Breaking where
  done : List (List Char)
  line : List Char
  cells : Nat
deriving Repr

namespace Breaking

/-- Starts a new line, unless nothing has been written yet. -/
def newLine (b : Breaking) : Breaking :=
  if b.done.isEmpty && b.line.isEmpty then b else ⟨b.line :: b.done, [], 0⟩

/-- Writes on the line, which then counts as this many cells. -/
def write (b : Breaking) (cs : List Char) (cells : Nat) : Breaking :=
  { b with line := b.line ++ cs, cells }

def addWord (room : Nat) (o : Overflow) (b : Breaking) (word : List Char) : Breaking :=
  let cells := widthOf (dropEndBlanks word)
  if b.cells + cells ≤ room then b.write word (b.cells + widthOf word)
  else if cells ≤ room || o = .ellipsis then b.newLine.write word (widthOf word)
  else (folded room word).foldl (fun b part => b.newLine.write part (widthOf part)) b

def lines (b : Breaking) : List (List Char) := (b.line :: b.done).reverse

end Breaking

/-- Drops blanks at the end of a line of more characters than there are cells, as far as that
helps. -/
def dropExcessBlanks (room : Nat) (cs : List Char) : List Char :=
  let blanks := cs.length - (dropEndBlanks cs).length
  cs.take (cs.length - min blanks (cs.length - room))

/-- Cuts off what is wider than the room. -/
def truncate (room : Nat) (o : Overflow) (cs : List Char) : List Char :=
  if widthOf cs ≤ room then cs
  else match o with
    | .fold => crop room cs
    | .ellipsis => crop (room - 1) cs ++ ['…']

/-- The lines that one line of a text takes. -/
def wrapLine (room : Nat) (o : Overflow) (cs : List Char) : List (List Char) :=
  let cs := expandTabs 0 (cs.splitOn '\t')
  let ws := words cs
  let broken := if ws.isEmpty then [cs]
    else (ws.foldl (Breaking.addWord room o) ⟨[], [], 0⟩).lines
  broken.map fun l => truncate room o (dropExcessBlanks room l)

/-- The lines that a text takes. -/
def wrap (room : Nat) (o : Overflow) (s : String) : List String :=
  ((s.toList.splitOn '\n').flatMap (wrapLine room o)).map String.ofList

/-- Characters that end a line where text is measured. -/
def isLineEnd (c : Char) : Bool :=
  c = '\n' || c = '\r' || c = '\x0b' || c = '\x0c' || c = '\x1c' || c = '\x1d' || c = '\x1e' ||
    c = '\x85' || c = '\u2028' || c = '\u2029'

/-- The cells that the longest line of a text takes. -/
def longestLine (s : String) : Nat := ((s.toList.splitOnP isLineEnd).map widthOf).foldl max 0

end ResolverHooks.Text
