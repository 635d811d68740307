import ResolverHooks.Decimal.Numeral

/-!
Literals in the arguments of a handler: numbers, quoted texts, names of constants, and tuples, sets
and tables of them. Only whether a text is a literal is told, not its value.
-/
namespace ResolverHooks.Text.Literal

def isSpace (c : Char) : Bool := c = ' ' || c = '\t' || c = '\n' || c = '\r' || c = '\x0c'

def skip (cs : List Char) : List Char := cs.dropWhile isSpace

def isWordChar (c : Char) : Bool := c.isAlphanum || c = '_'

/-- The characters of a number in front; an exponent may have a sign. -/
def numberRun (cs : List Char) : List Char × List Char :=
  let run := cs.takeWhile fun c => isWordChar c || c = '.'
  match run.getLast?, cs.drop run.length with
  | some 'e', sign :: rest | some 'E', sign :: rest =>
    if sign = '+' || sign = '-' then
      let digits := rest.takeWhile isWordChar
      (run ++ sign :: digits, rest.drop digits.length)
    else (run, sign :: rest)
  | _, rest => (run, rest)

def isImaginary (cs : List Char) : Bool := cs.getLast? = some 'j' || cs.getLast? = some 'J'

/-- Digits of a base with single underscores between them. -/
def isBased (base : Nat) (cs : List Char) : Bool :=
  (cs.splitOn '_').all fun ds => (Numeral.natural? base ds).isSome

/-- Whether characters are a number without a sign. -/
def isNumber (cs : List Char) : Bool :=
  match cs with
  | '0' :: 'x' :: rest | '0' :: 'X' :: rest => isBased 16 rest
  | '0' :: 'o' :: rest | '0' :: 'O' :: rest => isBased 8 rest
  | '0' :: 'b' :: rest | '0' :: 'B' :: rest => isBased 2 rest
  | _ =>
    let body := if isImaginary cs then cs.dropLast else cs
    let starts := body.head?.any fun c => c.isDigit || c = '.'
    let padded := body.head? = some '0' && body.all (fun c => c.isDigit || c = '_') &&
      body.any fun c => '1' ≤ c && c ≤ '9'
    starts && (Numeral.real? body).isSome && (isImaginary cs || !padded)

def dropSign : List Char → List Char
  | '+' :: cs | '-' :: cs => skip cs
  | cs => cs

/-- A number, which may be the sum of a real and an imaginary one, and what is behind it. -/
def number? (cs : List Char) : Option (List Char) :=
  let (first, rest) := numberRun (dropSign cs)
  if !isNumber first then none
  else match skip rest with
    | '+' :: more | '-' :: more =>
      let (second, rest) := numberRun (skip more)
      if !isImaginary first && isNumber second && isImaginary second then some rest else none
    | _ => some rest

/-- What is behind the quote that ends a text. -/
def behindQuote (quote : Char) : List Char → Option (List Char)
  | '\\' :: _ :: rest => behindQuote quote rest
  | c :: rest => if c = quote then some rest else if c = '\n' then none else behindQuote quote rest
  | [] => none

/-- Letters that may stand in front of a quote. -/
def quoteMarks : List String := ["", "r", "u", "b", "br", "rb"]

/-- A quoted text, and what is behind it. -/
def quoted? (cs : List Char) : Option (List Char) :=
  let mark := cs.takeWhile isWordChar
  match cs.drop mark.length with
  | q :: rest =>
    if (q = '"' || q = '\'') && quoteMarks.contains (String.ofList (mark.map Char.toLower)) then
      behindQuote q rest
    else none
  | [] => none

/-- Quoted texts side by side are one. -/
def moreQuoted (fuel : Nat) (cs : List Char) : List Char :=
  match fuel with
  | 0 => cs
  | fuel + 1 => match quoted? (skip cs) with
    | some rest => moreQuoted fuel rest
    | none => cs

def constants : List String := ["None", "True", "False"]

/-- Whether a value can be a key, and what is behind it. -/
abbrev Found := Option (Bool × List Char)

/-- A number, a text or a constant. -/
def simple? (cs : List Char) : Found :=
  let word := cs.takeWhile isWordChar
  if constants.contains (String.ofList word) then some (true, cs.drop word.length)
  else match quoted? cs with
    | some rest => some (true, moreQuoted rest.length rest)
    | none => (number? cs).map fun rest => (true, rest)

mutual

/-- A value, as deep as the fuel allows. -/
def value? (fuel : Nat) (cs : List Char) : Found :=
  match fuel with
  | 0 => none
  | fuel + 1 => match skip cs with
    | '(' :: rest => items? fuel ')' true rest
    | '\x7b' :: rest => match skip rest with
      | '\x7d' :: rest => some (false, rest)
      | rest => match value? fuel rest with
        | some (true, rest) => match skip rest with
          | ':' :: rest => match value? fuel rest with
            | some (_, rest) => entries? fuel rest
            | none => none
          | rest => (members? fuel rest).map fun found => (false, found.2)
        | _ => none
    | cs => simple? cs

/-- Values with commas between them up to a closing mark, and whether all can be keys. -/
def items? (fuel : Nat) (close : Char) (keys : Bool) (cs : List Char) : Found :=
  match fuel with
  | 0 => none
  | fuel + 1 => match skip cs with
    | [] => none
    | c :: rest =>
      if c = close then some (keys, rest)
      else match value? fuel (c :: rest) with
        | some (key, rest) => match skip rest with
          | ',' :: rest => items? fuel close (keys && key) rest
          | c :: rest => if c = close then some (keys && key, rest) else none
          | [] => none
        | none => none

/-- The members of a set behind one of them. -/
def members? (fuel : Nat) (cs : List Char) : Found :=
  match fuel with
  | 0 => none
  | fuel + 1 => match cs with
    | '\x7d' :: rest => some (true, rest)
    | ',' :: rest => match items? fuel '\x7d' true rest with
      | some (true, rest) => some (true, rest)
      | _ => none
    | _ => none

/-- The entries of a table behind one of them. -/
def entries? (fuel : Nat) (cs : List Char) : Found :=
  match fuel with
  | 0 => none
  | fuel + 1 => match skip cs with
    | '\x7d' :: rest => some (false, rest)
    | ',' :: rest => match skip rest with
      | '\x7d' :: rest => some (false, rest)
      | rest => match value? fuel rest with
        | some (true, rest) => match skip rest with
          | ':' :: rest => match value? fuel rest with
            | some (_, rest) => entries? fuel rest
            | none => none
          | _ => none
        | _ => none
    | _ => none

end

/-- Values with commas between them up to the end. -/
def isSequence (fuel : Nat) (cs : List Char) : Bool :=
  match fuel with
  | 0 => false
  | fuel + 1 => match value? fuel cs with
    | some (_, rest) => match skip rest with
      | [] => true
      | ',' :: rest => (skip rest).isEmpty || isSequence fuel rest
      | _ => false
    | none => false

/-- Whether a text is a literal; values with commas between them are a tuple. -/
def isLiteral (cs : List Char) : Bool := isSequence (2 * cs.length + 3) cs

end ResolverHooks.Text.Literal
