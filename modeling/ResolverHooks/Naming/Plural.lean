/-!
Plural forms by suffix. What already ends in one lower-case `s` stays; the other rules ignore case
and look past one line feed at the end.
-/
namespace ResolverHooks.Plural

/-- Whether a character is a letter in any case. The long s and the dotted and dotless i count as
cases of `s` and `i`. -/
def isLetter (letter c : Char) : Bool :=
  c == letter || c == letter.toUpper || (letter == 's' && c == '\u017f') ||
    (letter == 'i' && (c == '\u0130' || c == '\u0131'))

def isVowel (c : Char) : Bool :=
  isLetter 'a' c || isLetter 'e' c || isLetter 'i' c || isLetter 'o' c || isLetter 'u' c

-- The predicates below read a text from its end.

/-- Ends in `s` but not in `ss`. -/
def endsInPlural : List Char → Bool
  | 's' :: 's' :: _ => false
  | 's' :: _ => true
  | _ => false

def dropLineFeed : List Char → List Char
  | '\n' :: rest => rest
  | cs => cs

/-- Ends in `y` behind something other than a vowel. -/
def endsInConsonantY : List Char → Bool
  | y :: c :: _ => isLetter 'y' y && !isVowel c
  | _ => false

/-- Ends in `x`, `z`, `ss`, `ch` or `sh`. -/
def endsInSibilant : List Char → Bool
  | [] => false
  | c :: rest =>
    isLetter 'x' c || isLetter 'z' c ||
      match rest with
      | [] => false
      | b :: _ =>
        (isLetter 's' c && isLetter 's' b) ||
          (isLetter 'h' c && (isLetter 'c' b || isLetter 's' b))

/-- The plural of a name. -/
def chars (cs : List Char) : List Char :=
  let back := cs.reverse
  let word := dropLineFeed back
  if cs.isEmpty || endsInPlural back then cs
  else if endsInConsonantY word then cs.dropLast ++ ['i', 'e', 's']
  else if endsInSibilant word then cs ++ ['e', 's']
  else cs ++ ['s']

def of (s : String) : String := String.ofList (chars s.toList)

end ResolverHooks.Plural
