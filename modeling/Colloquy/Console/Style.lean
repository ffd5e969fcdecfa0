import Colloquy.Text.Case
import Colloquy.Value.Text
import Colloquy.Value.TextMethod

/-!
# Styles of markup

The name of a markup tag describes a style: attributes, a colour, a background and a link, in any
order. Two descriptions of one style have the same normal text, by which a closing tag finds the tag
that it closes. What describes no style keeps its own name.
-/

namespace Colloquy.Console

open Text

def colourNames : List (List Char) := wordsOf
   "black red green yellow blue magenta cyan white bright_black bright_red bright_green
    bright_yellow bright_blue bright_magenta bright_cyan bright_white grey0 gray0 navy_blue
    dark_blue blue3 blue1 dark_green deep_sky_blue4 dodger_blue3 dodger_blue2 green4
    spring_green4 turquoise4 deep_sky_blue3 dodger_blue1 green3 spring_green3 dark_cyan
    light_sea_green deep_sky_blue2 deep_sky_blue1 spring_green2 cyan3 dark_turquoise turquoise2
    green1 spring_green1 medium_spring_green cyan2 cyan1 dark_red deep_pink4 purple4 purple3
    blue_violet orange4 grey37 gray37 medium_purple4 slate_blue3 royal_blue1 chartreuse4
    dark_sea_green4 pale_turquoise4 steel_blue steel_blue3 cornflower_blue chartreuse3
    cadet_blue sky_blue3 steel_blue1 pale_green3 sea_green3 aquamarine3 medium_turquoise
    chartreuse2 sea_green2 sea_green1 aquamarine1 dark_slate_gray2 dark_magenta dark_violet
    purple light_pink4 plum4 medium_purple3 slate_blue1 yellow4 wheat4 grey53 gray53
    light_slate_grey light_slate_gray medium_purple light_slate_blue dark_olive_green3
    dark_sea_green light_sky_blue3 sky_blue2 dark_sea_green3 dark_slate_gray3 sky_blue1
    chartreuse1 light_green pale_green1 dark_slate_gray1 red3 medium_violet_red magenta3
    dark_orange3 indian_red hot_pink3 medium_orchid3 medium_orchid medium_purple2 dark_goldenrod
    light_salmon3 rosy_brown grey63 gray63 medium_purple1 gold3 dark_khaki navajo_white3 grey69
    gray69 light_steel_blue3 light_steel_blue yellow3 dark_sea_green2 light_cyan3
    light_sky_blue1 green_yellow dark_olive_green2 dark_sea_green1 pale_turquoise1 deep_pink3
    magenta2 hot_pink2 orchid medium_orchid1 orange3 light_pink3 pink3 plum3 violet
    light_goldenrod3 tan misty_rose3 thistle3 plum2 khaki3 light_goldenrod2 light_yellow3 grey84
    gray84 light_steel_blue1 yellow2 dark_olive_green1 honeydew2 light_cyan1 red1 deep_pink2
    deep_pink1 magenta1 orange_red1 indian_red1 hot_pink dark_orange salmon1 light_coral
    pale_violet_red1 orchid2 orchid1 orange1 sandy_brown light_salmon1 light_pink1 pink1 plum1
    gold1 navajo_white1 misty_rose1 thistle1 yellow1 light_goldenrod1 khaki1 wheat1 cornsilk1
    grey100 gray100 grey3 gray3 grey7 gray7 grey11 gray11 grey15 gray15 grey19 gray19 grey23
    gray23 grey27 gray27 grey30 gray30 grey35 gray35 grey39 gray39 grey42 gray42 grey46 gray46
    grey50 gray50 grey54 gray54 grey58 gray58 grey62 gray62 grey66 gray66 grey70 gray70 grey74
    gray74 grey78 gray78 grey82 gray82 grey85 gray85 grey89 gray89 grey93 gray93"

def attributeNames : List String :=
  ["bold", "dim", "italic", "underline", "blink", "blink2", "reverse", "conceal", "strike",
    "underline2", "frame", "encircle", "overline"]

def attributeAliases : List (String × String) :=
  [("b", "bold"), ("d", "dim"), ("i", "italic"), ("u", "underline"), ("r", "reverse"),
    ("c", "conceal"), ("s", "strike"), ("uu", "underline2"), ("o", "overline")]

def attribute? (name : String) : Option String :=
  if attributeNames.contains name then some name else attributeAliases.lookup name

/-- What a tag makes of its text. -/
structure Style where
  /-- Attributes that are switched on or off, the last setting of an attribute first. -/
  attributes : List (String × Bool) := []
  colour : Option String := none
  background : Option String := none
  link : Option String := none

namespace Style

/-- What a call such as `rgb(1,2,3)` holds between its brackets. -/
def between (opening : String) (cs : List Char) : Option (List Char) :=
  if opening.toList.isPrefixOf cs && cs.getLast? == some ')' then
    some ((cs.drop opening.length).dropLast)
  else none

def maxComponent : Int := 255

/-- Whether three numbers make a colour; a missing number is a fault. -/
def isTriple (body : List Char) : Outcome Bool :=
  if body.isEmpty || !body.all (fun c => isDecimal c || c == ',') then .ok false
  else
    match splitWhen (· == ',') body with
    | [red, green, blue] => do
      let parts ← [red, green, blue].mapM fun cs =>
        match Number.readInt? 10 (String.ofList cs) with
        | some n => .ok n
        | none => .error Fault.badValue
      return parts.all (· ≤ maxComponent)
    | _ => .ok false

def isColour (word : String) : Outcome Bool :=
  let cs := word.toList
  if word == "default" || colourNames.contains cs then .ok true
  else
    match cs, between "color(" cs, between "rgb(" cs with
    | '#' :: digits, _, _ => .ok (digits.length == 6 && digits.all isHexDigit)
    | _, some body, _ =>
      .ok (0 < body.length && body.length ≤ 3 && body.all Char.isDigit &&
        ((String.ofList body).toNat?.getD 0 : Int) ≤ maxComponent)
    | _, _, some body => isTriple body
    | _, _, _ => .ok false

/-- Reads the words of a description; none if one of them means nothing. -/
def ofWords (s : Style) : List String → Outcome (Option Style)
  | [] => .ok (some s)
  | word :: rest =>
    match toLower word, rest with
    | "on", colour :: rest => do
      if ← isColour (toLower colour) then ofWords { s with background := some (toLower colour) } rest
      else return none
    | "on", [] => .ok none
    | "not", name :: rest =>
      match attribute? name with
      | some a => ofWords { s with attributes := (a, false) :: s.attributes } rest
      | none => .ok none
    | "not", [] => .ok none
    | "link", target :: rest => ofWords { s with link := some target } rest
    | "link", [] => .ok none
    | word, rest =>
      match attribute? word with
      | some a => ofWords { s with attributes := (a, true) :: s.attributes } rest
      | none => do
        if ← isColour word then ofWords { s with colour := some word } rest else return none

def toText (s : Style) : String :=
  let attributes := attributeNames.flatMap fun a =>
    match s.attributes.lookup a with
    | some true => [a]
    | some false => ["not", a]
    | none => []
  let words := attributes ++ s.colour.toList ++ (s.background.toList.flatMap fun c => ["on", c]) ++
    (s.link.toList.flatMap fun l => ["link", l])
  if words.isEmpty then "none" else " ".intercalate words

/-- Normal text of a description: that of its style, or the description itself in lower case. -/
def normalize (description : String) : Outcome String := do
  let stripped := String.ofList (Number.stripBlanks description.toList)
  if stripped == "none" then return "none"
  match ← ofWords {} ((TextMethod.words description.toList none).map String.ofList) with
  | some s => return s.toText
  | none => return toLower stripped

end Style

end Colloquy.Console
