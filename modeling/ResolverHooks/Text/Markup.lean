import ResolverHooks.Text.Emoji
import ResolverHooks.Text.Literal
import ResolverHooks.Text.Style

/-!
Text with markup. A tag between brackets opens a style or, with a slash in front, closes one; a
backslash in front of a tag makes it plain text. Emoji stand for their codes, and control characters
that move the cursor are left out.
-/
namespace ResolverHooks.Text.Markup

/-- Why markup cannot be shown. -/
inductive Fault where
  /-- A closing tag for a style that is not open. -/
  | unopened
  /-- The arguments of a handler are no literal. -/
  | badHandler
  /-- A style with a colour whose parts are no numbers. -/
  | badNumber
deriving DecidableEq, Repr, Inhabited

structure Tag where
  name : List Char
  /-- What stands behind an equals sign. -/
  argument : Option (List Char)
deriving DecidableEq, Repr

inductive Piece where
  | plain (cs : List Char)
  | tag (t : Tag)
deriving DecidableEq, Repr

namespace Tag

def ofBody (cs : List Char) : Tag :=
  let name := cs.takeWhile (· != '=')
  ⟨name, (cs.drop name.length).tail?⟩

/-- What a closing tag closes. -/
def closes? (t : Tag) : Option (List Char) :=
  match t.name with
  | '/' :: name => some (stripBlanks name)
  | _ => none

def isHandler (t : Tag) : Bool := t.name.head? = some '@'

/-- Characters of a handler's name. -/
def isNameChar (c : Char) : Bool :=
  c.isAlphanum || c = '_' || c = '.' || (127 < c.toNat && !isBlank c)

/-- Whether the argument of a handler is a name, a name and a literal in parentheses, or a
literal. -/
def isCallable (argument : List Char) : Bool :=
  let call := stripBlanks argument
  match call.dropWhile isNameChar with
  | [] => true
  | '(' :: rest =>
    if rest.getLast? = some ')' && !rest.contains '\n' then Literal.isLiteral ('(' :: rest)
    else Literal.isLiteral call
  | _ => Literal.isLiteral call

/-- Whether a tag can be closed. -/
def isClosable (t : Tag) : Bool :=
  !t.isHandler || (t.argument.getD []).isEmpty || t.argument.any isCallable

end Tag

def beginsTag (c : Char) : Bool := ('a' ≤ c && c ≤ 'z') || c = '#' || c = '/' || c = '@'

def isInside (c : Char) : Bool := c != ']' && c != '['

/-- The inside of a tag behind its opening bracket, and what is behind its closing one. -/
def tag? (cs : List Char) : Option (List Char × List Char) :=
  match cs.dropWhile isInside with
  | ']' :: rest => if cs.head?.any beginsTag then some (cs.takeWhile isInside, rest) else none
  | _ => none

theorem length_lt_of_tag? {cs body rest : List Char} (h : tag? cs = some (body, rest)) :
    rest.length < cs.length := by
  have hl := (List.dropWhile_sublist isInside (l := cs)).length_le
  unfold tag? at h
  split at h
  · next r hr =>
    rw [hr, List.length_cons] at hl
    split at h
    · simp only [Option.some.injEq, Prod.mk.injEq] at h
      obtain ⟨-, rfl⟩ := h
      omega
    · cases h
  · cases h

/-- A tag behind backslashes: two of them stand for one, and one that is left makes it plain
text. -/
def tagBehind (slashes : Nat) (body : List Char) : List Piece :=
  [.plain (List.replicate (slashes / 2) '\\'),
    if slashes % 2 = 1 then .plain ('[' :: body ++ [']']) else .tag (.ofBody body)]

/-- Cuts a text, behind plain characters that are held, last first. -/
def piecesBehind (held : List Char) : List Char → List Piece
  | [] => [.plain held.reverse]
  | c :: rest =>
    if c = '[' then
      match _h : tag? rest with
      | some (body, more) =>
        let slashes := (held.takeWhile (· = '\\')).length
        .plain (held.drop slashes).reverse :: tagBehind slashes body ++ piecesBehind [] more
      | none => piecesBehind (c :: held) rest
    else piecesBehind (c :: held) rest
  termination_by cs => cs.length
  decreasing_by
    · have := length_lt_of_tag? _h
      simp only [List.length_cons]
      omega
    · simp
    · simp

def pieces (cs : List Char) : List Piece := piecesBehind [] cs

/-- A backslash in front of a bracket that begins no tag is left out. -/
def dropSlashes : List Char → List Char
  | '\\' :: '[' :: rest => '[' :: dropSlashes rest
  | c :: rest => c :: dropSlashes rest
  | [] => []

/-- The bell, and what moves the cursor: neither is shown. -/
def isUnshown (c : Char) : Bool :=
  c = '\x07' || c = '\x08' || c = '\x0b' || c = '\x0c' || c = '\r'

/-- A text without markup as it is shown. -/
def shown (cs : List Char) : List Char := (Emoji.replace cs).filter (!isUnshown ·)

/-- What has been read: the text, and the tags that are open, innermost first. -/
structure Reading where
  text : List Char
  opened : List Tag
deriving Repr

namespace Reading

/-- Closes the innermost tag, or the innermost of a name. -/
def close (r : Reading) (name : List Char) : Except Fault Reading := do
  let isIt ← if name.isEmpty then pure fun (_ : Tag) => true
    else do
      let normal ← (Style.normalName (String.ofList name)).mapError fun _ => Fault.badNumber
      pure fun (t : Tag) => t.name = normal.toList
  match r.opened.find? isIt with
  | some t =>
    if t.isClosable then return { r with opened := r.opened.eraseP isIt } else throw .badHandler
  | none => throw .unopened

def add (r : Reading) : Piece → Except Fault Reading
  | .plain cs => .ok { r with text := r.text ++ shown (dropSlashes cs) }
  | .tag t =>
    match t.closes? with
    | some name => r.close name
    | none => do
      let normal ← (Style.normalName (String.ofList t.name)).mapError fun _ => Fault.badNumber
      return { r with opened := { t with name := normal.toList } :: r.opened }

end Reading

/-- The text that is shown of a text with markup. -/
def plain (s : String) : Except Fault String := do
  let r ← (pieces s.toList).foldlM Reading.add ⟨[], []⟩
  return String.ofList r.text

/-- Puts backslashes in front of tags, behind a number of backslashes. -/
def escapeBehind (slashes : Nat) : List Char → List Char
  | [] => []
  | c :: rest =>
    if c = '\\' then c :: escapeBehind (slashes + 1) rest
    else if c = '[' && (tag? rest).isSome then
      List.replicate (slashes + 1) '\\' ++ c :: escapeBehind 0 rest
    else c :: escapeBehind 0 rest

/-- Doubles one backslash at the end. -/
def closeEscape (cs : List Char) : List Char :=
  if (cs.reverse.takeWhile (· = '\\')).length = 1 then cs ++ ['\\'] else cs

/-- A text in which no tag is read. -/
def escape (s : String) : String := String.ofList (closeEscape (escapeBehind 0 s.toList))

end ResolverHooks.Text.Markup
