import ResolverHooks.Text.Blank
import ResolverHooks.Text.EmojiName
import ResolverHooks.Text.Hex
import ResolverHooks.Text.LowerCase

/-!
Emoji codes: the short name of an emoji between two colons stands for the emoji. A name may ask for
the shape of an emoji or of text; what is no name of an emoji stays as it is.
-/
namespace ResolverHooks.Text.Emoji

/-- The characters that code points in hexadecimal stand for, hyphens between them. -/
def ofCodePoints (cs : List Char) : List Char :=
  (cs.splitOn '-').filterMap fun digits => (hexNumber? digits).map Char.ofNat

/-- The emoji of a short name in lower case. -/
def ofName? (name : List Char) : Option (List Char) :=
  let entries := splitBlanks emojiNames.toList
  (entries.find? (name ++ ['=']).isPrefixOf).map fun e => ofCodePoints (e.drop (name.length + 1))

/-- Selectors of a shape, by the ending of a name that asks for them. -/
def selectors : List (List Char × Char) := [("-emoji".toList, '\ufe0f'), ("-text".toList, '\ufe0e')]

/-- The emoji that a code stands for, without its colons. -/
def ofCode? (code : List Char) : Option (List Char) :=
  match selectors.find? fun s => s.1.isSuffixOf code with
  | some (ending, selector) =>
    (ofName? ((code.take (code.length - ending.length)).map lowerChar)).map (· ++ [selector])
  | none => ofName? (code.map lowerChar)

/-- Puts emoji for their codes, behind a colon that may begin a code and characters, last first,
that stand between. The colon that ends a code begins none. -/
def replaceBehind : Option (List Char) → List Char → List Char
  | none, [] => []
  | some code, [] => ':' :: code.reverse
  | none, c :: rest =>
    if c = ':' then replaceBehind (some []) rest else c :: replaceBehind none rest
  | some code, c :: rest =>
    if c = ':' then
      (ofCode? code.reverse).getD (':' :: code.reverse ++ [':']) ++ replaceBehind none rest
    else if isBlank c then ':' :: code.reverse ++ c :: replaceBehind none rest
    else replaceBehind (some (c :: code)) rest

/-- Puts emoji for their codes. -/
def replace (cs : List Char) : List Char := replaceBehind none cs

end ResolverHooks.Text.Emoji
