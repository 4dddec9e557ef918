/-
Styles in console texts, in their normal form.

A style is given by words: attributes, with `not` before those that are off, a colour, a
colour of the ground behind `on`, and the address of a link behind `link`.  Every style has one
normal form, by which two spellings of it are known to be the same.
-/
import JavaCompanion.Text.Blank
import JavaCompanion.Text.Case
import JavaCompanion.Text.Digit
import JavaCompanion.Text.Split

namespace JavaCompanion
namespace Console

open Text

/-! ## Colours -/

def colorNames : List String :=
  [
    "black", "red", "green", "yellow", "blue", "magenta", "cyan", "white", "bright_black",
    "bright_red", "bright_green", "bright_yellow", "bright_blue", "bright_magenta",
    "bright_cyan", "bright_white", "grey0", "gray0", "navy_blue", "dark_blue", "blue3", "blue1",
    "dark_green", "deep_sky_blue4", "dodger_blue3", "dodger_blue2", "green4", "spring_green4",
    "turquoise4", "deep_sky_blue3", "dodger_blue1", "green3", "spring_green3", "dark_cyan",
    "light_sea_green", "deep_sky_blue2", "deep_sky_blue1", "spring_green2", "cyan3",
    "dark_turquoise", "turquoise2", "green1", "spring_green1", "medium_spring_green", "cyan2",
    "cyan1", "dark_red", "deep_pink4", "purple4", "purple3", "blue_violet", "orange4", "grey37",
    "gray37", "medium_purple4", "slate_blue3", "royal_blue1", "chartreuse4", "dark_sea_green4",
    "pale_turquoise4", "steel_blue", "steel_blue3", "cornflower_blue", "chartreuse3",
    "cadet_blue", "sky_blue3", "steel_blue1", "pale_green3", "sea_green3", "aquamarine3",
    "medium_turquoise", "chartreuse2", "sea_green2", "sea_green1", "aquamarine1",
    "dark_slate_gray2", "dark_magenta", "dark_violet", "purple", "light_pink4", "plum4",
    "medium_purple3", "slate_blue1", "yellow4", "wheat4", "grey53", "gray53",
    "light_slate_grey", "light_slate_gray", "medium_purple", "light_slate_blue",
    "dark_olive_green3", "dark_sea_green", "light_sky_blue3", "sky_blue2", "dark_sea_green3",
    "dark_slate_gray3", "sky_blue1", "chartreuse1", "light_green", "pale_green1",
    "dark_slate_gray1", "red3", "medium_violet_red", "magenta3", "dark_orange3", "indian_red",
    "hot_pink3", "medium_orchid3", "medium_orchid", "medium_purple2", "dark_goldenrod",
    "light_salmon3", "rosy_brown", "grey63", "gray63", "medium_purple1", "gold3", "dark_khaki",
    "navajo_white3", "grey69", "gray69", "light_steel_blue3", "light_steel_blue", "yellow3",
    "dark_sea_green2", "light_cyan3", "light_sky_blue1", "green_yellow", "dark_olive_green2",
    "dark_sea_green1", "pale_turquoise1", "deep_pink3", "magenta2", "hot_pink2", "orchid",
    "medium_orchid1", "orange3", "light_pink3", "pink3", "plum3", "violet", "light_goldenrod3",
    "tan", "misty_rose3", "thistle3", "plum2", "khaki3", "light_goldenrod2", "light_yellow3",
    "grey84", "gray84", "light_steel_blue1", "yellow2", "dark_olive_green1", "honeydew2",
    "light_cyan1", "red1", "deep_pink2", "deep_pink1", "magenta1", "orange_red1", "indian_red1",
    "hot_pink", "dark_orange", "salmon1", "light_coral", "pale_violet_red1", "orchid2",
    "orchid1", "orange1", "sandy_brown", "light_salmon1", "light_pink1", "pink1", "plum1",
    "gold1", "navajo_white1", "misty_rose1", "thistle1", "yellow1", "light_goldenrod1",
    "khaki1", "wheat1", "cornsilk1", "grey100", "gray100", "grey3", "gray3", "grey7", "gray7",
    "grey11", "gray11", "grey15", "gray15", "grey19", "gray19", "grey23", "gray23", "grey27",
    "gray27", "grey30", "gray30", "grey35", "gray35", "grey39", "gray39", "grey42", "gray42",
    "grey46", "gray46", "grey50", "gray50", "grey54", "gray54", "grey58", "gray58", "grey62",
    "gray62", "grey66", "gray66", "grey70", "gray70", "grey74", "gray74", "grey78", "gray78",
    "grey82", "gray82", "grey85", "gray85", "grey89", "gray89", "grey93", "gray93" ]

/-- Why a text is no style. -/
inductive NoStyle where
  | unknown
  /-- A part of a colour is no number. -/
  | noNumber
  deriving DecidableEq, Repr

/-- What stands in parentheses behind a name, at the end of a text. -/
def inParentheses? (name : String) (s : String) : Option (List Char) :=
  let opening := name.toList ++ ['(']
  let cs := s.toList
  if opening.isPrefixOf cs && cs.getLast? = some ')' then
    some ((cs.drop opening.length).dropLast)
  else none

def isHexColor (s : String) : Bool :=
  match s.toList with
  | '#' :: digits => digits.length == 6 && digits.all fun c => (hexValue? c).isSome
  | _ => false

/-- A colour by its number. -/
def isNumberedColor (digits : List Char) : Bool :=
  digits.length ≤ 3 && digits.all Char.isDigit && (integer? digits).any (· ≤ 255)

/-- Checks a colour by its three parts. -/
def checkParts (cs : List Char) : Except NoStyle Unit := do
  if cs.isEmpty || !cs.all fun c => isDecimalDigit c || c = ',' then .error .unknown
  match parts ',' cs with
  | [red, green, blue] =>
    match integer? red, integer? green, integer? blue with
    | some r, some g, some b => if r ≤ 255 && g ≤ 255 && b ≤ 255 then return () else
      .error .unknown
    | _, _, _ => .error .noNumber
  | _ => .error .unknown

/-- Checks a word that is to be a colour, and gives its normal form. -/
def color (word : String) : Except NoStyle String := do
  let name := lower word
  if name = "default" || colorNames.contains name || isHexColor name then return name
  match inParentheses? "color" name, inParentheses? "rgb" name with
  | some digits, _ => if isNumberedColor digits then return name else .error .unknown
  | none, some cs => do
    checkParts cs
    return name
  | none, none => .error .unknown

/-! ## Styles -/

/-- The attributes in the order of the normal form. -/
def attributeNames : List String :=
  [ "bold", "dim", "italic", "underline", "blink", "blink2", "reverse", "conceal", "strike",
    "underline2", "frame", "encircle", "overline" ]

def attributeAliases : List (String × String) :=
  [ ("d", "dim"), ("b", "bold"), ("i", "italic"), ("u", "underline"), ("r", "reverse"),
    ("c", "conceal"), ("s", "strike"), ("uu", "underline2"), ("o", "overline") ]

/-- The attribute that a word means. -/
def attributeNamed? (word : String) : Option String :=
  if attributeNames.contains word then some word
  else (attributeAliases.find? (·.1 == word)).map (·.2)

structure Style where
  /-- Whether an attribute is on, for those of which it is said; the latest word counts. -/
  attributes : List (String × Bool) := []
  color : Option String := none
  ground : Option String := none
  link : Option String := none
  deriving DecidableEq, Repr

namespace Style

def say (s : Style) (name : String) (isOn : Bool) : Style :=
  { s with attributes := (name, isOn) :: s.attributes }

def attribute? (s : Style) (name : String) : Option Bool :=
  (s.attributes.find? (·.1 == name)).map (·.2)

/-- A style with what words add to it. -/
def add (s : Style) : List String → Except NoStyle Style
  | [] => .ok s
  | word :: rest =>
    let key := lower word
    if key = "on" then
      match rest with
      | [] => .error .unknown
      | ground :: rest => do add { s with ground := some (← Console.color ground) } rest
    else if key = "not" then
      match rest with
      | [] => .error .unknown
      | name :: rest =>
        match attributeNamed? name with
        | some name => add (s.say name false) rest
        | none => .error .unknown
    else if key = "link" then
      match rest with
      | [] => .error .unknown
      | address :: rest => add { s with link := some address } rest
    else
      match attributeNamed? key with
      | some name => add (s.say name true) rest
      | none => do add { s with color := some (← Console.color key) } rest

/-- The words of the normal form. -/
def words (s : Style) : List String :=
  (attributeNames.filterMap fun name =>
      (s.attribute? name).map fun isOn => if isOn then name else "not " ++ name)
    ++ s.color.toList
    ++ (s.ground.map fun c => "on " ++ c).toList
    ++ (s.link.map fun address => "link " ++ address).toList

def text (s : Style) : String :=
  if s.words.isEmpty then "none" else String.intercalate " " s.words

end Style

def blankWords (s : String) : List String :=
  ((parts ' ' (s.toList.map fun c => if isBlank c then ' ' else c)).filter
    (!·.isEmpty)).map String.ofList

def styleOf (s : String) : Except NoStyle Style :=
  if strip s = "none" then .ok {} else Style.add {} (blankWords s)

/-- The normal form of a style.  A text that is no style is its own, in lower case. -/
def normalStyle (s : String) : Except NoStyle String :=
  match styleOf s with
  | .ok style => .ok style.text
  | .error .unknown => .ok (lower (strip s))
  | .error .noNumber => .error .noNumber

end Console
end JavaCompanion
