import FixLoop.Text.Blank
import FixLoop.Text.Digit

/-!
Names of styles: attributes, a colour, a colour of the background, and a link. Styles with the same
effect have one normal form.
-/

namespace FixLoop

structure Style where
  /-- The attributes that are set or unset, by their places in the list of all. -/
  attributes : List (Nat × Bool) := []
  colour : Option Text := none
  background : Option Text := none
  link : Option Text := none
  deriving Repr, DecidableEq

namespace Style

/-- The attributes in their order, each with its names, the full one first. -/
def attributeNames : List (List String) := [
  ["bold", "b"], ["dim", "d"], ["italic", "i"], ["underline", "u"], ["blink"], ["blink2"],
  ["reverse", "r"], ["conceal", "c"], ["strike", "s"], ["underline2", "uu"], ["frame"],
  ["encircle"], ["overline", "o"]]

/-- The colours that have names. -/
def colourNames : List String := [
  "default",
  "black", "red", "green", "yellow", "blue", "magenta", "cyan", "white", "bright_black",
  "bright_red", "bright_green", "bright_yellow", "bright_blue", "bright_magenta", "bright_cyan",
  "bright_white", "grey0", "gray0", "navy_blue", "dark_blue", "blue3", "blue1", "dark_green",
  "deep_sky_blue4", "dodger_blue3", "dodger_blue2", "green4", "spring_green4", "turquoise4",
  "deep_sky_blue3", "dodger_blue1", "green3", "spring_green3", "dark_cyan", "light_sea_green",
  "deep_sky_blue2", "deep_sky_blue1", "spring_green2", "cyan3", "dark_turquoise", "turquoise2",
  "green1", "spring_green1", "medium_spring_green", "cyan2", "cyan1", "dark_red", "deep_pink4",
  "purple4", "purple3", "blue_violet", "orange4", "grey37", "gray37", "medium_purple4",
  "slate_blue3", "royal_blue1", "chartreuse4", "dark_sea_green4", "pale_turquoise4",
  "steel_blue", "steel_blue3", "cornflower_blue", "chartreuse3", "cadet_blue", "sky_blue3",
  "steel_blue1", "pale_green3", "sea_green3", "aquamarine3", "medium_turquoise", "chartreuse2",
  "sea_green2", "sea_green1", "aquamarine1", "dark_slate_gray2", "dark_magenta", "dark_violet",
  "purple", "light_pink4", "plum4", "medium_purple3", "slate_blue1", "yellow4", "wheat4",
  "grey53", "gray53", "light_slate_grey", "light_slate_gray", "medium_purple",
  "light_slate_blue", "dark_olive_green3", "dark_sea_green", "light_sky_blue3", "sky_blue2",
  "dark_sea_green3", "dark_slate_gray3", "sky_blue1", "chartreuse1", "light_green",
  "pale_green1", "dark_slate_gray1", "red3", "medium_violet_red", "magenta3", "dark_orange3",
  "indian_red", "hot_pink3", "medium_orchid3", "medium_orchid", "medium_purple2",
  "dark_goldenrod", "light_salmon3", "rosy_brown", "grey63", "gray63", "medium_purple1",
  "gold3", "dark_khaki", "navajo_white3", "grey69", "gray69", "light_steel_blue3",
  "light_steel_blue", "yellow3", "dark_sea_green2", "light_cyan3", "light_sky_blue1",
  "green_yellow", "dark_olive_green2", "dark_sea_green1", "pale_turquoise1", "deep_pink3",
  "magenta2", "hot_pink2", "orchid", "medium_orchid1", "orange3", "light_pink3", "pink3",
  "plum3", "violet", "light_goldenrod3", "tan", "misty_rose3", "thistle3", "plum2", "khaki3",
  "light_goldenrod2", "light_yellow3", "grey84", "gray84", "light_steel_blue1", "yellow2",
  "dark_olive_green1", "honeydew2", "light_cyan1", "red1", "deep_pink2", "deep_pink1",
  "magenta1", "orange_red1", "indian_red1", "hot_pink", "dark_orange", "salmon1", "light_coral",
  "pale_violet_red1", "orchid2", "orchid1", "orange1", "sandy_brown", "light_salmon1",
  "light_pink1", "pink1", "plum1", "gold1", "navajo_white1", "misty_rose1", "thistle1",
  "yellow1", "light_goldenrod1", "khaki1", "wheat1", "cornsilk1", "grey100", "gray100", "grey3",
  "gray3", "grey7", "gray7", "grey11", "gray11", "grey15", "gray15", "grey19", "gray19",
  "grey23", "gray23", "grey27", "gray27", "grey30", "gray30", "grey35", "gray35", "grey39",
  "gray39", "grey42", "gray42", "grey46", "gray46", "grey50", "gray50", "grey54", "gray54",
  "grey58", "gray58", "grey62", "gray62", "grey66", "gray66", "grey70", "gray70", "grey74",
  "gray74", "grey78", "gray78", "grey82", "gray82", "grey85", "gray85", "grey89", "gray89",
  "grey93", "gray93"]

/-- The place of an attribute by one of its names. -/
def attribute? (word : Text) : Option Nat :=
  attributeNames.findIdx? (·.contains (String.ofList word))

/-- The part of a word between a start and a closing parenthesis. -/
def inParentheses? (start : String) (word : Text) : Option Text :=
  let inner := word.drop start.length
  if start.toList.isPrefixOf word && inner.getLast? = some ')' then some inner.dropLast else none

def isAsciiDigit (c : Char) : Bool := '0' ≤ c && c ≤ '9'

/-- Whether a word is a number of at most three digits that one byte can hold. -/
def isByte (word : Text) : Bool :=
  !word.isEmpty && word.length ≤ 3 && word.all isAsciiDigit &&
    ((Text.natural? word).any (· ≤ 255))

/-- Whether a word in lower case is a colour: a name, a number, or three components. -/
def isColour (word : Text) : Bool :=
  let isHex (c : Char) : Bool := isAsciiDigit c || 'a' ≤ c && c ≤ 'f'
  colourNames.contains (String.ofList word) ||
    (word.head? = some '#' && word.length = 7 && (word.drop 1).all isHex) ||
    (inParentheses? "color(" word).any isByte ||
    (inParentheses? "rgb(" word).any fun inner =>
      let parts := inner.splitOn ','
      parts.length = 3 && parts.all isByte

def setAttribute (style : Style) (place : Nat) (value : Bool) : Style :=
  { style with attributes := (place, value) :: style.attributes }

/-- The style of words; none if they are not the name of one. -/
def ofWords? (style : Style) : List Text → Option Style
  | [] => some style
  | word :: rest =>
    let word := word.map Char.toLower
    if word = ['o', 'n'] then
      match rest with
      | [] => none
      | colour :: rest =>
        let colour := colour.map Char.toLower
        if isColour colour then ofWords? { style with background := some colour } rest else none
    else if word = ['n', 'o', 't'] then
      match rest with
      | [] => none
      | name :: rest => (attribute? name).bind fun a => ofWords? (style.setAttribute a false) rest
    else if word = ['l', 'i', 'n', 'k'] then
      match rest with
      | [] => none
      | target :: rest => ofWords? { style with link := some target } rest
    else
      match attribute? word with
      | some a => ofWords? (style.setAttribute a true) rest
      | none => if isColour word then ofWords? { style with colour := some word } rest else none

/-- The words of a text. -/
def words (text : Text) : List Text := (text.splitOnP isBlank).filter (! ·.isEmpty)

/-- The words of the normal form of a style. -/
def normalWords (style : Style) : List Text :=
  let attributes := attributeNames.zipIdx.flatMap fun (names, place) =>
    match style.attributes.lookup place with
    | none => []
    | some true => [(names.headD "").toList]
    | some false => [['n', 'o', 't'], (names.headD "").toList]
  attributes ++ style.colour.toList ++
    (style.background.toList.flatMap fun colour => [['o', 'n'], colour]) ++
    (style.link.toList.flatMap fun target => [['l', 'i', 'n', 'k'], target])

/-- The normal form of a name. What names no style is taken in lower case. -/
def normal (name : Text) : Text :=
  if Text.trim name = ['n', 'o', 'n', 'e'] then ['n', 'o', 'n', 'e']
  else
    match ofWords? {} (words name) with
    | none => (Text.trim name).map Char.toLower
    | some style =>
      let found := style.normalWords
      if found.isEmpty then ['n', 'o', 'n', 'e'] else [' '].intercalate found

end Style

end FixLoop
