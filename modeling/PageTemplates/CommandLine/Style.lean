import PageTemplates.Text.Case
import PageTemplates.Text.Digit

/-!
# Styles

A style is written in words: attributes such as `bold`, which `not` turns off, a
colour, a colour behind `on`, and the target of a link behind `link`. Different
words may mean the same style, so styles are compared in a normal form: full
names of attributes, in a fixed order, before the colours and the link.
-/

namespace PageTemplates.CommandLine

/-- Why a message cannot be shown: a closing tag without an open one, or a
colour that has no number, or too long a one, for one of its parts. -/
inductive StyleError where
  | unmatched (tag : String) (position : Nat)
  | nothingOpen (position : Nat)
  | noNumber
  | overlongNumber (digits : Nat)
deriving Repr, DecidableEq

/-- The wording for a message that cannot be shown. -/
def StyleError.message : StyleError → String
  | .unmatched tag position =>
      "closing tag '[" ++ tag ++ "]' at position " ++ toString position
        ++ " doesn't match any open tag"
  | .nothingOpen position =>
      "closing tag '[/]' at position " ++ toString position ++ " has nothing to close"
  | .noNumber => "invalid literal for int() with base 10: ''"
  | .overlongNumber digits => Text.tooManyDigits digits

/-- A style: its attributes, each turned on or off, the last one given first,
its colours and its link. -/
structure Style where
  attributes : List (String × Bool) := []
  colour : Option String := none
  background : Option String := none
  link : Option String := none
deriving Repr, DecidableEq

namespace Style

/-- The attributes in the order of the normal form, each with its short form if
it has one. -/
def attributeNames : List (String × Option String) :=
  [("bold", some "b"), ("dim", some "d"), ("italic", some "i"), ("underline", some "u"),
   ("blink", none), ("blink2", none), ("reverse", some "r"), ("conceal", some "c"),
   ("strike", some "s"), ("underline2", some "uu"), ("frame", none), ("encircle", none),
   ("overline", some "o")]

/-- The attribute that a word stands for. -/
def attribute? (word : String) : Option String :=
  (attributeNames.find? fun (name, short?) => name == word || short? == some word).map (·.1)

def colourNames : List String :=
  ["black", "red", "green", "yellow", "blue", "magenta", "cyan", "white", "bright_black",
   "bright_red", "bright_green", "bright_yellow", "bright_blue", "bright_magenta", "bright_cyan",
   "bright_white", "grey0", "gray0", "navy_blue", "dark_blue", "blue3", "blue1", "dark_green",
   "deep_sky_blue4", "dodger_blue3", "dodger_blue2", "green4", "spring_green4", "turquoise4",
   "deep_sky_blue3", "dodger_blue1", "green3", "spring_green3", "dark_cyan", "light_sea_green",
   "deep_sky_blue2", "deep_sky_blue1", "spring_green2", "cyan3", "dark_turquoise", "turquoise2",
   "green1", "spring_green1", "medium_spring_green", "cyan2", "cyan1", "dark_red", "deep_pink4",
   "purple4", "purple3", "blue_violet", "orange4", "grey37", "gray37", "medium_purple4",
   "slate_blue3", "royal_blue1", "chartreuse4", "dark_sea_green4", "pale_turquoise4",
   "steel_blue", "steel_blue3", "cornflower_blue", "chartreuse3", "cadet_blue", "sky_blue3",
   "steel_blue1", "pale_green3", "sea_green3", "aquamarine3", "medium_turquoise", "chartreuse2",
   "sea_green2", "sea_green1", "aquamarine1", "dark_slate_gray2", "dark_magenta", "dark_violet",
   "purple", "light_pink4", "plum4", "medium_purple3", "slate_blue1", "yellow4", "wheat4",
   "grey53", "gray53", "light_slate_grey", "light_slate_gray", "medium_purple",
   "light_slate_blue", "dark_olive_green3", "dark_sea_green", "light_sky_blue3", "sky_blue2",
   "dark_sea_green3", "dark_slate_gray3", "sky_blue1", "chartreuse1", "light_green",
   "pale_green1", "dark_slate_gray1", "red3", "medium_violet_red", "magenta3", "dark_orange3",
   "indian_red", "hot_pink3", "medium_orchid3", "medium_orchid", "medium_purple2",
   "dark_goldenrod", "light_salmon3", "rosy_brown", "grey63", "gray63", "medium_purple1", "gold3",
   "dark_khaki", "navajo_white3", "grey69", "gray69", "light_steel_blue3", "light_steel_blue",
   "yellow3", "dark_sea_green2", "light_cyan3", "light_sky_blue1", "green_yellow",
   "dark_olive_green2", "dark_sea_green1", "pale_turquoise1", "deep_pink3", "magenta2",
   "hot_pink2", "orchid", "medium_orchid1", "orange3", "light_pink3", "pink3", "plum3", "violet",
   "light_goldenrod3", "tan", "misty_rose3", "thistle3", "plum2", "khaki3", "light_goldenrod2",
   "light_yellow3", "grey84", "gray84", "light_steel_blue1", "yellow2", "dark_olive_green1",
   "honeydew2", "light_cyan1", "red1", "deep_pink2", "deep_pink1", "magenta1", "orange_red1",
   "indian_red1", "hot_pink", "dark_orange", "salmon1", "light_coral", "pale_violet_red1",
   "orchid2", "orchid1", "orange1", "sandy_brown", "light_salmon1", "light_pink1", "pink1",
   "plum1", "gold1", "navajo_white1", "misty_rose1", "thistle1", "yellow1", "light_goldenrod1",
   "khaki1", "wheat1", "cornsilk1", "grey100", "gray100", "grey3", "gray3", "grey7", "gray7",
   "grey11", "gray11", "grey15", "gray15", "grey19", "gray19", "grey23", "gray23", "grey27",
   "gray27", "grey30", "gray30", "grey35", "gray35", "grey39", "gray39", "grey42", "gray42",
   "grey46", "gray46", "grey50", "gray50", "grey54", "gray54", "grey58", "gray58", "grey62",
   "gray62", "grey66", "gray66", "grey70", "gray70", "grey74", "gray74", "grey78", "gray78",
   "grey82", "gray82", "grey85", "gray85", "grey89", "gray89", "grey93", "gray93"]

/-- The text between an opening word with a bracket and a closing bracket at the
end. -/
def inBrackets? (word : String) (cs : List Char) : Option (List Char) :=
  let opening := word.toList ++ ['(']
  let inside := (cs.drop opening.length).dropLast
  if opening.isPrefixOf cs && opening.length < cs.length && cs.getLast? == some ')'
  then some inside else none

/-- The largest value of a part of a colour. -/
def maxPart : Nat := 255

/-- Reads one part of a colour. -/
def part (cs : List Char) : Except StyleError Nat :=
  if cs.isEmpty then .error .noNumber
  else if Text.maxDigits < cs.length then .error (.overlongNumber cs.length)
  else .ok ((Text.readNat? cs).getD 0)

/-- Whether a colour is given by its three parts, between commas. -/
def hasParts (inside : List Char) : Except StyleError Bool := do
  let parts := Text.splitAtEach (· == ',') inside
  if inside.all (fun c => c == ',' || (Text.digitValue? c).isSome) && parts.length = 3 then
    return (← parts.mapM part).all (· ≤ maxPart)
  else return false

/-- Whether a word in lower case is a colour: a name, a hexadecimal number of
six digits, a number of a palette, or three parts. -/
def isColour (word : String) : Except StyleError Bool :=
  let cs := word.toList
  if word == "default" || colourNames.contains word then .ok true
  else
    match cs, inBrackets? "color" cs, inBrackets? "rgb" cs with
    | '#' :: digits, _, _ => .ok (digits.length == 6 && digits.all Text.isHexDigit)
    | _, some inside, _ =>
        .ok (1 ≤ inside.length && inside.length ≤ 3 && inside.all Char.isDigit
          && Text.digitsValue 10 inside ≤ maxPart)
    | _, none, some inside => hasParts inside
    | _, none, none => .ok false

/-- Reads the words of a style, behind those that make up `s`. There is no
style if a word means nothing. -/
def readWords (s : Style) : List String → Except StyleError (Option Style)
  | [] => .ok (some s)
  | w :: ws => do
      let word := Text.lower w
      let turned (a : String) (on : Bool) : Style := { s with attributes := (a, on) :: s.attributes }
      match word, ws with
      -- these ask for one more word
      | "on", [] | "not", [] | "link", [] => return none
      | "on", colour :: ws =>
          if ← isColour (Text.lower colour) then
            readWords { s with background := some (Text.lower colour) } ws
          else return none
      | "not", a :: ws =>
          match attribute? a with
          | some name => readWords (turned name false) ws
          | none => return none
      | "link", target :: ws => readWords { s with link := some target } ws
      | _, ws =>
          match attribute? word with
          | some name => readWords (turned name true) ws
          | none =>
              if ← isColour word then readWords { s with colour := some word } ws
              else return none

/-- The normal form of a style; a style without anything is `none`. -/
def text (s : Style) : String :=
  let attributes := attributeNames.filterMap fun (name, _) =>
    (s.attributes.lookup name).map fun on => if on then name else "not " ++ name
  let words := attributes ++ s.colour.toList ++ (s.background.map ("on " ++ ·)).toList
    ++ (s.link.map ("link " ++ ·)).toList
  if words.isEmpty then "none" else " ".intercalate words

/-- What a text is compared by where a style is expected: the normal form of the
style, or the text itself in lower case if it is none. -/
def normalName (s : String) : Except StyleError String := do
  let trimmed := Text.strip s
  if trimmed == "none" then return "none"
  match ← readWords {} (Text.words s) with
  | some style => return style.text
  | none => return Text.lower trimmed

end Style

end PageTemplates.CommandLine
