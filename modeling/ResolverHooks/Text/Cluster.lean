import ResolverHooks.Text.Width

/-!
Text in the pieces that a terminal shows as one: a character and all behind it that takes no cells
of its own. A line is cut between such pieces only.
-/
namespace ResolverHooks.Text

/-- Characters that are shown as one, and the cells that they take. -/
structure Cluster where
  chars : List Char
  cells : Nat
deriving DecidableEq, Repr

namespace Cluster

/-- Adds characters, and cells that they may add, to the latest cluster, or to a new one if there is
none. -/
def extend (cs : List Char) (cells : Nat) : List Cluster → List Cluster
  | [] => [⟨cs, 0⟩]
  | k :: rest => ⟨k.chars ++ cs, k.cells + cells⟩ :: rest

/-- Cuts a text behind clusters that are already found, latest first, and behind a character that
can still be made wide, if there is one. -/
def cut (last : Option Char) (found : List Cluster) : List Char → List Cluster
  | [] => found.reverse
  | '\u200d' :: rest =>
    if found.isEmpty then cut last [⟨['\u200d'], 0⟩] rest
    else match rest with
      | [] => cut last (extend ['\u200d'] 0 found) []
      | c :: rest => cut last (extend ['\u200d', c] 0 found) rest
  | '\ufe0f' :: rest =>
    let grows := last.any emojiBaseRanges.holds
    cut (if grows then none else last) (extend ['\ufe0f'] (if grows then 1 else 0) found) rest
  | c :: rest =>
    if charWidth c = 0 then cut last (extend [c] 0 found) rest
    else cut (some c) (⟨[c], charWidth c⟩ :: found) rest

def ofChars (cs : List Char) : List Cluster := cut none [] cs

/-- As many clusters as fit. A space stands for the first half of a wide one. -/
def take (cells : Nat) : List Cluster → List Char
  | [] => []
  | k :: rest =>
    if cells = 0 then []
    else if cells < k.cells then [' ']
    else k.chars ++ take (cells - k.cells) rest

/-- Cuts clusters into lines of at most a number of cells, behind a line that has been begun. -/
def chop (cells : Nat) (line : List Char) (used : Nat) : List Cluster → List (List Char)
  | [] => if used = 0 then [] else [line]
  | k :: rest =>
    if cells < used + k.cells then line :: chop cells k.chars k.cells rest
    else chop cells (line ++ k.chars) (used + k.cells) rest

end Cluster

/-- The part of a text that fits into a number of cells. -/
def crop (cells : Nat) (cs : List Char) : List Char := Cluster.take cells (Cluster.ofChars cs)

/-- Cuts a text into lines of at most a number of cells. -/
def folded (cells : Nat) (cs : List Char) : List (List Char) :=
  Cluster.chop cells [] 0 (Cluster.ofChars cs)

end ResolverHooks.Text
