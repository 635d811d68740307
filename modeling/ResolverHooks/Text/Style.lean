import ResolverHooks.Decimal.Numeral
import ResolverHooks.Text.LowerCase

/-!
Names of styles. A style is a list of attributes, a colour, a background and a link in any order;
its normal name has them in a fixed order, with short words written in full.
-/
namespace ResolverHooks.Text

def colorNames : String := "
default aquamarine1 aquamarine3 black blue blue1 blue3 blue_violet bright_black bright_blue
bright_cyan bright_green bright_magenta bright_red bright_white bright_yellow cadet_blue chartreuse1
chartreuse2 chartreuse3 chartreuse4 cornflower_blue cornsilk1 cyan cyan1 cyan2 cyan3 dark_blue
dark_cyan dark_goldenrod dark_green dark_khaki dark_magenta dark_olive_green1 dark_olive_green2
dark_olive_green3 dark_orange dark_orange3 dark_red dark_sea_green dark_sea_green1 dark_sea_green2
dark_sea_green3 dark_sea_green4 dark_slate_gray1 dark_slate_gray2 dark_slate_gray3 dark_turquoise
dark_violet deep_pink1 deep_pink2 deep_pink3 deep_pink4 deep_sky_blue1 deep_sky_blue2
deep_sky_blue3 deep_sky_blue4 dodger_blue1 dodger_blue2 dodger_blue3 gold1 gold3 gray0 gray100
gray11 gray15 gray19 gray23 gray27 gray3 gray30 gray35 gray37 gray39 gray42 gray46 gray50 gray53
gray54 gray58 gray62 gray63 gray66 gray69 gray7 gray70 gray74 gray78 gray82 gray84 gray85 gray89
gray93 green green1 green3 green4 green_yellow grey0 grey100 grey11 grey15 grey19 grey23 grey27
grey3 grey30 grey35 grey37 grey39 grey42 grey46 grey50 grey53 grey54 grey58 grey62 grey63 grey66
grey69 grey7 grey70 grey74 grey78 grey82 grey84 grey85 grey89 grey93 honeydew2 hot_pink hot_pink2
hot_pink3 indian_red indian_red1 khaki1 khaki3 light_coral light_cyan1 light_cyan3
light_goldenrod1 light_goldenrod2 light_goldenrod3 light_green light_pink1 light_pink3 light_pink4
light_salmon1 light_salmon3 light_sea_green light_sky_blue1 light_sky_blue3 light_slate_blue
light_slate_gray light_slate_grey light_steel_blue light_steel_blue1 light_steel_blue3
light_yellow3 magenta magenta1 magenta2 magenta3 medium_orchid medium_orchid1 medium_orchid3
medium_purple medium_purple1 medium_purple2 medium_purple3 medium_purple4 medium_spring_green
medium_turquoise medium_violet_red misty_rose1 misty_rose3 navajo_white1 navajo_white3 navy_blue
orange1 orange3 orange4 orange_red1 orchid orchid1 orchid2 pale_green1 pale_green3 pale_turquoise1
pale_turquoise4 pale_violet_red1 pink1 pink3 plum1 plum2 plum3 plum4 purple purple3 purple4 red
red1 red3 rosy_brown royal_blue1 salmon1 sandy_brown sea_green1 sea_green2 sea_green3 sky_blue1
sky_blue2 sky_blue3 slate_blue1 slate_blue3 spring_green1 spring_green2 spring_green3
spring_green4 steel_blue steel_blue1 steel_blue3 tan thistle1 thistle3 turquoise2 turquoise4
violet wheat1 wheat4 white yellow yellow1 yellow2 yellow3 yellow4
"

/-- Why a text names no style. -/
inductive StyleFault where
  | unknown
  /-- A colour of three numbers has a part that is no number. -/
  | badNumber
deriving DecidableEq, Repr, Inhabited

structure Style where
  /-- Attributes that are on or off, latest first. -/
  flags : List (String × Bool)
  color : Option String
  background : Option String
  link : Option String
deriving DecidableEq, Repr, Inhabited

namespace Style

/-- The attributes in the order of a normal name, each with the short words for it. -/
def attributes : List (String × List String) :=
  [("bold", ["b"]), ("dim", ["d"]), ("italic", ["i"]), ("underline", ["u"]), ("blink", []),
    ("blink2", []), ("reverse", ["r"]), ("conceal", ["c"]), ("strike", ["s"]),
    ("underline2", ["uu"]), ("frame", []), ("encircle", []), ("overline", ["o"])]

def attribute? (word : String) : Option String :=
  (attributes.find? fun a => a.1 = word || a.2.contains word).map Prod.fst

/-- What stands between an opening and a closing parenthesis behind a word. -/
def argument? (word : String) (cs : List Char) : Option (List Char) :=
  let opening := word.toList ++ ['(']
  if opening.isPrefixOf cs && cs.getLast? = some ')' && opening.length < cs.length then
    some ((cs.drop opening.length).dropLast)
  else none

/-- The largest number of a colour, and of a part of a colour. -/
def largestPart : Nat := 255

/-- A colour of three parts. -/
def checkParts (cs : List Char) : Except StyleFault Unit := do
  match cs.splitOn ',' with
  | [red, green, blue] =>
    let parts ← [red, green, blue].mapM fun p =>
      ((Numeral.integer? 10 p).map .ok).getD (.error .badNumber)
    if parts.all (· ≤ (largestPart : Int)) then return () else throw .unknown
  | _ => throw .unknown

def isHexColor (cs : List Char) : Bool :=
  cs.length = 7 && cs.head? = some '#' && cs.tail.all fun c => c.isDigit || ('a' ≤ c && c ≤ 'f')

def isNumbered (cs : List Char) : Bool :=
  (argument? "color" cs).any fun n => n.length ≤ 3 && (natural n).any (· ≤ largestPart)
where
  natural (cs : List Char) : Option Nat :=
    if cs.all Char.isDigit then Numeral.natural? 10 cs else none

/-- A word as the name of a colour. -/
def colorOf (word : String) : Except StyleFault String :=
  let name := lowered word
  let cs := name.toList
  if (splitBlanks colorNames.toList).contains cs || isHexColor cs || isNumbered cs then .ok name
  else match argument? "rgb" cs with
    | some parts =>
      if !parts.isEmpty && parts.all fun c => c = ',' || (digit? c).isSome then
        (checkParts parts).map fun _ => name
      else .error .unknown
    | none => .error .unknown

/-- Adds what the words of a name say. -/
def addWords (s : Style) : List String → Except StyleFault Style
  | [] => .ok s
  | word :: rest =>
    match lowered word, rest with
    | "on", color :: rest => do addWords { s with background := some (← colorOf color) } rest
    | "link", target :: rest => addWords { s with link := some target } rest
    | "not", off :: rest =>
      match attribute? off with
      | some a => addWords { s with flags := (a, false) :: s.flags } rest
      | none => .error .unknown
    | "on", [] | "link", [] | "not", [] => .error .unknown
    | word, rest =>
      match attribute? word with
      | some a => addWords { s with flags := (a, true) :: s.flags } rest
      | none => do addWords { s with color := some (← colorOf word) } rest

def ofName (name : String) : Except StyleFault Style :=
  let words := (splitBlanks name.toList).map String.ofList
  if words = ["none"] then .ok default else addWords default words

/-- The words of an attribute, if it is on or off. -/
def attributeWords (s : Style) (a : String) : List String :=
  match s.flags.lookup a with
  | some true => [a]
  | some false => ["not", a]
  | none => []

def name (s : Style) : String :=
  let words := (attributes.map Prod.fst).flatMap s.attributeWords ++ s.color.toList ++
    (s.background.map fun c => ["on", c]).getD [] ++ (s.link.map fun t => ["link", t]).getD []
  if words.isEmpty then "none" else " ".intercalate words

/-- The normal name of a style. A name of no style is its own in lower case. -/
def normalName (s : String) : Except StyleFault String :=
  match ofName s with
  | .ok style => .ok style.name
  | .error .unknown => .ok (lowered (String.ofList (stripBlanks s.toList)))
  | .error .badNumber => .error .badNumber

end Style

end ResolverHooks.Text
