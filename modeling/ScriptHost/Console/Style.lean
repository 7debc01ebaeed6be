import ScriptHost.Number.Numeral
import ScriptHost.Text.Blank
import ScriptHost.Text.Case
import ScriptHost.Text.Pieces

/-!
# Names of styles

A style of the console is written as words: attributes such as `bold`, which `not` takes back, a
colour, a background behind `on`, and a target behind `link`.  Two ways to write the same style
have one normal form; what is no style is taken as it stands, without blanks and in lower case.
-/

namespace ScriptHost.Console

/-! ## Colours -/

/-- The shades of grey that have a name. -/
def greys : List Nat := [
  0, 3, 7, 11, 15, 19, 23, 27, 30, 35, 37, 39, 42, 46, 50, 53, 54, 58, 62, 63, 66, 69, 70,
  74, 78, 82, 84, 85, 89, 93, 100]

/-- The names of the other colours. -/
def colourWords : String :=
  "black red green yellow blue magenta cyan white bright_black bright_red bright_green " ++
  "bright_yellow bright_blue bright_magenta bright_cyan bright_white navy_blue dark_blue blue3 " ++
  "blue1 dark_green deep_sky_blue4 dodger_blue3 dodger_blue2 green4 spring_green4 turquoise4 " ++
  "deep_sky_blue3 dodger_blue1 green3 spring_green3 dark_cyan light_sea_green deep_sky_blue2 " ++
  "deep_sky_blue1 spring_green2 cyan3 dark_turquoise turquoise2 green1 spring_green1 " ++
  "medium_spring_green cyan2 cyan1 dark_red deep_pink4 purple4 purple3 blue_violet orange4 " ++
  "medium_purple4 slate_blue3 royal_blue1 chartreuse4 dark_sea_green4 pale_turquoise4 " ++
  "steel_blue steel_blue3 cornflower_blue chartreuse3 cadet_blue sky_blue3 steel_blue1 " ++
  "pale_green3 sea_green3 aquamarine3 medium_turquoise chartreuse2 sea_green2 sea_green1 " ++
  "aquamarine1 dark_slate_gray2 dark_magenta dark_violet purple light_pink4 plum4 " ++
  "medium_purple3 slate_blue1 yellow4 wheat4 light_slate_grey light_slate_gray medium_purple " ++
  "light_slate_blue dark_olive_green3 dark_sea_green light_sky_blue3 sky_blue2 dark_sea_green3 " ++
  "dark_slate_gray3 sky_blue1 chartreuse1 light_green pale_green1 dark_slate_gray1 red3 " ++
  "medium_violet_red magenta3 dark_orange3 indian_red hot_pink3 medium_orchid3 medium_orchid " ++
  "medium_purple2 dark_goldenrod light_salmon3 rosy_brown medium_purple1 gold3 dark_khaki " ++
  "navajo_white3 light_steel_blue3 light_steel_blue yellow3 dark_sea_green2 light_cyan3 " ++
  "light_sky_blue1 green_yellow dark_olive_green2 dark_sea_green1 pale_turquoise1 deep_pink3 " ++
  "magenta2 hot_pink2 orchid medium_orchid1 orange3 light_pink3 pink3 plum3 violet " ++
  "light_goldenrod3 tan misty_rose3 thistle3 plum2 khaki3 light_goldenrod2 light_yellow3 " ++
  "light_steel_blue1 yellow2 dark_olive_green1 honeydew2 light_cyan1 red1 deep_pink2 deep_pink1 " ++
  "magenta1 orange_red1 indian_red1 hot_pink dark_orange salmon1 light_coral pale_violet_red1 " ++
  "orchid2 orchid1 orange1 sandy_brown light_salmon1 light_pink1 pink1 plum1 gold1 " ++
  "navajo_white1 misty_rose1 thistle1 yellow1 light_goldenrod1 khaki1 wheat1 cornsilk1"

/-- The pieces of a text between blanks. -/
def words (s : String) : List String :=
  ((Text.pieces Text.isBlank s.toList).filter fun p => !p.isEmpty).map String.ofList

/-- Whether a word is the name of a colour. -/
def isColourName (word : String) : Bool :=
  word == "default" || (words colourWords).contains word ||
    greys.any fun n => word == "grey" ++ Number.natText n || word == "gray" ++ Number.natText n

/-- Whether a text of digits of ASCII is a number of at most 255. -/
def isByte (cs : List Char) : Bool := (Number.natOfDigits cs).any fun n => n ≤ 255

/-- The text between a beginning and an end. -/
def between? (front : String) (cs : List Char) (back : Char) : Option (List Char) :=
  if front.toList.isPrefixOf cs && cs.getLast? == some back then
    some (cs.drop front.length).dropLast
  else none

/-- The number of digits of any script; that there is none, or too many, is a fault. -/
def component (digits : List Char) : Except Fault Int :=
  match Number.wholeOf 10 digits with
  | .ok n => .ok n
  | .error .unreadable => .error (Number.unreadableFault 10 (String.ofList digits))
  | .error (.tooLong count) => .error (Number.tooLongFault count)

/-- Whether the text in the parentheses of a colour of three parts is one. -/
def isMixture (rgb : List Char) : Except Fault Bool :=
  let parts := Text.pieces (· == ',') rgb
  if parts.length = 3 && rgb.all fun c => c == ',' || (Text.decimalValue? c).isSome then
    (parts.mapM component).map fun ns => ns.all fun n => n ≤ 255
  else .ok false

/-- Whether a word is a colour: a name, six hexadecimal digits, a number, or three. -/
def isColour (word : String) : Except Fault Bool :=
  let cs := word.toList
  let isHex (c : Char) : Bool := c.isDigit || ('a' ≤ c && c ≤ 'f')
  if isColourName word ||
      (cs.head? == some '#' && cs.length == 7 && (cs.drop 1).all isHex) ||
      (between? "color(" cs ')').any fun n => n.length ≤ 3 && isByte n then .ok true
  else
    match between? "rgb(" cs ')' with
    | some rgb => isMixture rgb
    | none => .ok false

/-! ## Styles -/

/-- The attributes, in the order in which a normal form gives them. -/
def attributes : List String := [
  "bold", "dim", "italic", "underline", "blink", "blink2", "reverse", "conceal", "strike",
  "underline2", "frame", "encircle", "overline"]

/-- Other words for attributes. -/
def shortAttributes : List (String × String) := [
  ("d", "dim"), ("b", "bold"), ("i", "italic"), ("u", "underline"), ("r", "reverse"),
  ("c", "conceal"), ("s", "strike"), ("uu", "underline2"), ("o", "overline")]

/-- The attribute of a word. -/
def attribute? (word : String) : Option String :=
  if attributes.contains word then some word else shortAttributes.lookup word

/-- What words say about a style. -/
structure Style where
  /-- The attributes that were mentioned, the last one first, and whether they are given. -/
  attributes : List (String × Bool)
  colour : Option String
  background : Option String
  link : Option String
  deriving DecidableEq, Repr

namespace Style

/-- The style without anything. -/
def plain : Style := ⟨[], none, none, none⟩

/-- A style with what words say about it, if all of them can be read; the first one that cannot
be read decides. -/
def readWords (s : Style) : List String → Except Fault (Option Style)
  | [] => .ok (some s)
  | first :: rest =>
    let word := Text.lower first
    if word = "on" then
      match rest with
      | colour :: rest =>
        let colour := Text.lower colour
        match isColour colour with
        | .ok true => readWords { s with background := some colour } rest
        | .ok false => .ok none
        | .error fault => .error fault
      | [] => .ok none
    else if word = "not" then
      match rest with
      | name :: rest =>
        match attribute? name with
        | some a => readWords { s with attributes := (a, false) :: s.attributes } rest
        | none => .ok none
      | [] => .ok none
    else if word = "link" then
      match rest with
      | target :: rest => readWords { s with link := some target } rest
      | [] => .ok none
    else
      match attribute? word with
      | some a => readWords { s with attributes := (a, true) :: s.attributes } rest
      | none =>
        match isColour word with
        | .ok true => readWords { s with colour := some word } rest
        | .ok false => .ok none
        | .error fault => .error fault

/-- The words of a style. -/
def toWords (s : Style) : List String :=
  let given := Console.attributes.filterMap fun a =>
    (s.attributes.lookup a).map fun isGiven => if isGiven then a else "not " ++ a
  given ++ s.colour.toList ++ (s.background.map fun c => ["on", c]).getD [] ++
    (s.link.map fun l => ["link", l]).getD []

end Style

/-- The style of a text, if it is one. -/
def style? (s : String) : Except Fault (Option Style) :=
  if Text.strip s = "none" then .ok (some .plain) else Style.plain.readWords (words s)

/-- The normal form of the text of a style. -/
def normalize (s : String) : Except Fault String :=
  (style? s).map fun
    | some style => if style.toWords.isEmpty then "none" else " ".intercalate style.toWords
    | none => Text.lower (Text.strip s)

/-- The style without anything is called `none`. -/
example : normalize "none" = .ok "none" := by rfl

end ScriptHost.Console
