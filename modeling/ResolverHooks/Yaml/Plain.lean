import ResolverHooks.Yaml.Cursor

/-!
Plain scalars: runs of text on one line or several, joined by the blanks or folded line breaks
between them. Indentation and, inside flow collections, the flow indicators end them.
-/
namespace ResolverHooks.Yaml

def isFlowMark (c : Char) : Bool :=
  c == ',' || c == '[' || c == ']' || c == '\x7b' || c == '\x7d'

/-- Whether a colon in front of this text is a mapping's colon. -/
def endsAtColon (flow : Bool) : List Char → Bool
  | [] => true
  | c :: _ => isBlank c || isBreak c || (flow && isFlowMark c)

/-- The run of a plain scalar up to the next gap or indicator. -/
def plainRun (flow : Bool) : List Char → List Char
  | [] => []
  | c :: rest =>
    if isBlank c || isBreak c then []
    else if c == ':' && endsAtColon flow rest then []
    else if flow && (isFlowMark c || c == '?') then []
    else c :: plainRun flow rest

/-- The line breaks of a gap, and its length; absent breaks mean that a document separator was met,
at which a scalar ends. -/
def gapBreaks (breaks : List Char) : List Char → Option (List Char) × Nat
  | [] => (some breaks, 0)
  | c :: rest =>
    if c == ' ' then
      let (r, n) := gapBreaks breaks rest
      (r, n + 1)
    else if isBreak c then
      if atSeparator rest then (none, 1)
      else
        let (r, n) := gapBreaks (breaks ++ [breakText c]) rest
        (r, n + 1)
    else (some breaks, 0)

/-- A gap inside a plain scalar: the text it stands for if more text follows, where it ends, and
whether it holds a line break. No text means that the scalar ends here. -/
structure Gap where
  text : List Char
  next : Cursor
  broken : Bool

def plainGap (c : Cursor) : Gap :=
  let spaces := c.rest.takeWhile (· == ' ')
  let c := c.drop spaces.length
  match c.rest with
  | [] => ⟨spaces, c, false⟩
  | b :: rest =>
    if isBreak b then
      if atSeparator rest then ⟨[], c.next, true⟩
      else
        let c := c.next
        let (breaks, n) := gapBreaks [] c.rest
        let text := match breaks with
          | none => []
          | some more =>
            if breakText b ≠ '\n' then breakText b :: more
            else if more.isEmpty then [' '] else more
        ⟨text, c.drop n, true⟩
    else ⟨spaces, c, false⟩

/-- A plain scalar as far as it is read; `broken` tells whether a line break came after its last
run. -/
structure Plain where
  text : List Char
  next : Cursor
  broken : Bool

/-- Reads runs and gaps until a gap ends the scalar. A run takes at least one character, so as many
rounds as characters are enough. -/
def plainRuns (flow : Bool) (indent : Int) : Nat → Plain → List Char → Plain
  | 0, p, _ => p
  | fuel + 1, p, gap =>
    if p.next.rest.head? == some '#' then p
    else
      let run := plainRun flow p.next.rest
      if run.isEmpty then p
      else
        let after := plainGap (p.next.drop run.length)
        let p : Plain := ⟨p.text ++ gap ++ run, after.next, after.broken⟩
        if after.text.isEmpty || (!flow && (after.next.column : Int) < indent) then p
        else plainRuns flow indent fuel p after.text

/-- The plain scalar at a cursor, for a block indented by `indent`. -/
def plainScalar (flow : Bool) (indent : Int) (c : Cursor) : Plain :=
  plainRuns flow indent (c.rest.length + 1) ⟨[], c, false⟩ []

end ResolverHooks.Yaml
