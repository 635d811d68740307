import ResolverHooks.Text.Hex
import ResolverHooks.Yaml.Cursor
import ResolverHooks.Yaml.Token

/-! Anchors, aliases, tags and directives: the tokens that are made of names. -/
namespace ResolverHooks.Yaml

/-- A token and how many characters it took. -/
abbrev Labelled := Except Fault (Token × Nat)

def nameOf (cs : List Char) : List Char := cs.takeWhile isNameChar

/-- The name behind the indicator of an anchor or alias; what may follow it is limited. -/
def anchorName (cs : List Char) : Except Fault String :=
  let name := nameOf cs
  let rest := cs.drop name.length
  let ends : Bool := match rest with
    | [] => true
    | c :: _ => isBlank c || isBreak c || ['?', ':', ',', ']', '\x7d', '%', '@', '\x60'].contains c
  if name.isEmpty || !ends then .error .malformed else .ok (String.ofList name)

def isUriChar (c : Char) : Bool :=
  c.isAlphanum || ("-;/?:@&=+$,_.!~*'()[]%".toList.contains c)

/-- Resolves the percent escapes of a URI; each run of them must be UTF-8. -/
def decodeUri (pending : List UInt8) : List Char → Option (List Char)
  | '%' :: a :: b :: rest => do
    let n ← Text.hexNumber? [a, b]
    decodeUri (pending ++ [UInt8.ofNat n]) rest
  | c :: rest => do
    if c = '%' then none
    else
      let text ← String.fromUTF8? ⟨pending.toArray⟩
      let more ← decodeUri [] rest
      return text.toList ++ c :: more
  | [] => (String.fromUTF8? ⟨pending.toArray⟩).map String.toList

/-- A URI, which may not be empty, and its length. -/
def uri (cs : List Char) : Except Fault (String × Nat) :=
  let span := cs.takeWhile isUriChar
  if span.isEmpty then .error .malformed
  else
    match decodeUri [] span with
    | some text => .ok (String.ofList text, span.length)
    | none => .error .malformed

/-- A tag handle: one exclamation mark, or a name between two. -/
def tagHandle (cs : List Char) : Except Fault (String × Nat) :=
  match cs with
  | '!' :: ' ' :: _ => .ok ("!", 1)
  | '!' :: rest =>
    let name := nameOf rest
    if (rest.drop name.length).head? == some '!' then
      .ok (String.ofList ('!' :: (name ++ ['!'])), name.length + 2)
    else .error .malformed
  | _ => .error .malformed

/-- A space, a line break or the end. -/
def atSpaceOrEnd : List Char → Bool
  | [] => true
  | c :: _ => c == ' ' || isBreak c

/-- Whether a tag's text holds a second exclamation mark, so that it starts with a handle. -/
def hasHandle (cs : List Char) : Bool :=
  (cs.takeWhile fun c => !(c == ' ' || isBreak c)).contains '!'

/-- The tag at an exclamation mark. -/
def tagToken (cs : List Char) : Labelled := do
  let (token, n) ← match cs with
    | _ :: '<' :: rest => do
      let (suffix, n) ← uri rest
      if (rest.drop n).head? == some '>' then pure (Token.tag none suffix, n + 3)
      else throw .malformed
    | _ :: rest =>
      if atGap rest then pure (Token.tag none "!", 1)
      else do
        let (handle, m) ← if hasHandle rest then tagHandle cs else pure ("!", 1)
        let (suffix, n) ← uri (cs.drop m)
        pure (Token.tag (some handle) suffix, m + n)
    | [] => throw .malformed
  if atSpaceOrEnd (cs.drop n) then return (token, n) else throw .malformed

def spaceCount (cs : List Char) : Nat := (cs.takeWhile (· == ' ')).length

def decimalNumber (cs : List Char) : Except Fault (Nat × Nat) :=
  let digits := cs.takeWhile Char.isDigit
  if digits.isEmpty then .error .malformed
  else .ok (digits.foldl (fun n c => n * 10 + (c.toNat - 48)) 0, digits.length)

/-- The two numbers of a version directive. -/
def versionToken (cs : List Char) : Labelled := do
  let s := spaceCount cs
  let (major, m) ← decimalNumber (cs.drop s)
  match cs.drop (s + m) with
  | '.' :: rest => do
    let (minor, n) ← decimalNumber rest
    if atSpaceOrEnd (rest.drop n) then return (.version major minor, s + m + 1 + n)
    else throw .malformed
  | _ => throw .malformed

/-- The handle and the expansion of a tag directive. -/
def handleToken (cs : List Char) : Labelled := do
  let s := spaceCount cs
  let (name, m) ← tagHandle (cs.drop s)
  let after := cs.drop (s + m)
  if after.head? != some ' ' then throw .malformed
  let t := spaceCount after
  let (expansion, n) ← uri (after.drop t)
  if atSpaceOrEnd (after.drop (t + n)) then return (.handle name expansion, s + m + t + n)
  else throw .malformed

/-- The directive at a percent sign, without the rest of its line. -/
def directiveToken (cs : List Char) : Labelled := do
  let body := cs.drop 1
  let name := nameOf body
  let rest := body.drop name.length
  if name.isEmpty || !atSpaceOrEnd rest then throw .malformed
  let (token, n) ←
    if name = "YAML".toList then versionToken rest
    else if name = "TAG".toList then handleToken rest
    else pure (Token.reserved, (rest.takeWhile fun c => !isBreak c).length)
  return (token, 1 + name.length + n)

end ResolverHooks.Yaml
