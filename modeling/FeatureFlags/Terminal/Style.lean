import FeatureFlags.Text.Digits
import FeatureFlags.Unicode.Decimal

/-! Names of styles. A style is described by words for effects and colours, in any order; its normal
form has the effects in a fixed order and the colours behind them. Descriptions that make no sense
are only brought to lower case.
-/

namespace FeatureFlags.Terminal.Style

/-- Colours that have names. -/
def colourNames : List String :=
  ["black", "red", "green", "yellow", "blue", "magenta", "cyan", "white", "bright_black",
    "bright_red", "bright_green", "bright_yellow", "bright_blue", "bright_magenta", "bright_cyan",
    "bright_white", "grey0", "gray0", "navy_blue", "dark_blue", "blue3", "blue1", "dark_green",
    "deep_sky_blue4", "dodger_blue3", "dodger_blue2", "green4", "spring_green4", "turquoise4",
    "deep_sky_blue3", "dodger_blue1", "green3", "spring_green3", "dark_cyan", "light_sea_green",
    "deep_sky_blue2", "deep_sky_blue1", "spring_green2", "cyan3", "dark_turquoise", "turquoise2",
    "green1", "spring_green1", "medium_spring_green", "cyan2", "cyan1", "dark_red", "deep_pink4",
    "purple4", "purple3", "blue_violet", "orange4", "grey37", "gray37", "medium_purple4",
    "slate_blue3", "royal_blue1", "chartreuse4", "dark_sea_green4", "pale_turquoise4",
    "steel_blue", "steel_blue3", "cornflower_blue", "chartreuse3", "cadet_blue", "sky_blue3",
    "steel_blue1", "pale_green3", "sea_green3", "aquamarine3", "medium_turquoise", "chartreuse2",
    "sea_green2", "sea_green1", "aquamarine1", "dark_slate_gray2", "dark_magenta", "dark_violet",
    "purple", "light_pink4", "plum4", "medium_purple3", "slate_blue1", "yellow4", "wheat4",
    "grey53", "gray53", "light_slate_grey", "light_slate_gray", "medium_purple",
    "light_slate_blue", "dark_olive_green3", "dark_sea_green", "light_sky_blue3", "sky_blue2",
    "dark_sea_green3", "dark_slate_gray3", "sky_blue1", "chartreuse1", "light_green",
    "pale_green1", "dark_slate_gray1", "red3", "medium_violet_red", "magenta3", "dark_orange3",
    "indian_red", "hot_pink3", "medium_orchid3", "medium_orchid", "medium_purple2",
    "dark_goldenrod", "light_salmon3", "rosy_brown", "grey63", "gray63", "medium_purple1",
    "gold3", "dark_khaki", "navajo_white3", "grey69", "gray69", "light_steel_blue3",
    "light_steel_blue", "yellow3", "dark_sea_green2", "light_cyan3", "light_sky_blue1",
    "green_yellow", "dark_olive_green2", "dark_sea_green1", "pale_turquoise1", "deep_pink3",
    "magenta2", "hot_pink2", "orchid", "medium_orchid1", "orange3", "light_pink3", "pink3",
    "plum3", "violet", "light_goldenrod3", "tan", "misty_rose3", "thistle3", "plum2", "khaki3",
    "light_goldenrod2", "light_yellow3", "grey84", "gray84", "light_steel_blue1", "yellow2",
    "dark_olive_green1", "honeydew2", "light_cyan1", "red1", "deep_pink2", "deep_pink1",
    "magenta1", "orange_red1", "indian_red1", "hot_pink", "dark_orange", "salmon1", "light_coral",
    "pale_violet_red1", "orchid2", "orchid1", "orange1", "sandy_brown", "light_salmon1",
    "light_pink1", "pink1", "plum1", "gold1", "navajo_white1", "misty_rose1", "thistle1",
    "yellow1", "light_goldenrod1", "khaki1", "wheat1", "cornsilk1", "grey100", "gray100", "grey3",
    "gray3", "grey7", "gray7", "grey11", "gray11", "grey15", "gray15", "grey19", "gray19",
    "grey23", "gray23", "grey27", "gray27", "grey30", "gray30", "grey35", "gray35", "grey39",
    "gray39", "grey42", "gray42", "grey46", "gray46", "grey50", "gray50", "grey54", "gray54",
    "grey58", "gray58", "grey62", "gray62", "grey66", "gray66", "grey70", "gray70", "grey74",
    "gray74", "grey78", "gray78", "grey82", "gray82", "grey85", "gray85", "grey89", "gray89",
    "grey93", "gray93"]

/-- The number that decimal digits name. -/
def number? (digits : List Char) : Option Nat :=
  if digits.isEmpty || !digits.all Char.isDigit then none
  else some (Digits.value digits)

/-- Whether digits name a number of at most 255. -/
def isByte (digits : List Char) : Bool := (number? digits).any fun n => n ≤ 255

/-- What stands between a beginning and a closing bracket at the end. -/
def enclosed? (start word : List Char) : Option (List Char) :=
  if start.isPrefixOf word && word.getLast? == some ')' then
    some ((word.drop start.length).dropLast)
  else none

/-- Whether a word in lower case names a colour. -/
def isColour (word : String) : Bool :=
  let chars := word.toList
  let isHexadecimal (c : Char) : Bool := c.isDigit || ('a' ≤ c && c ≤ 'f')
  word == "default" || colourNames.contains word ||
    (chars.head? == some '#' && chars.length == 7 && chars.tail.all isHexadecimal) ||
    (enclosed? "color(".toList chars).any (fun n => n.length ≤ 3 && isByte n) ||
    (enclosed? "rgb(".toList chars).any fun l =>
      let parts := (String.ofList l).splitOn ","
      parts.length == 3 && parts.all fun n => isByte n.toList

/-- Effects in the order of the normal form. -/
def effects : List String :=
  ["bold", "dim", "italic", "underline", "blink", "blink2", "reverse", "conceal", "strike",
    "underline2", "frame", "encircle", "overline"]

/-- Short names of effects. -/
def shortNames : List (String × String) :=
  [("b", "bold"), ("d", "dim"), ("i", "italic"), ("u", "underline"), ("r", "reverse"),
    ("c", "conceal"), ("s", "strike"), ("uu", "underline2"), ("o", "overline")]

/-- The effect that a word names. -/
def effect? (word : String) : Option String :=
  if effects.contains word then some word else shortNames.lookup word

/-- What a description has said so far. -/
structure Description where
  /-- The effects that are switched on or off. -/
  switches : List (String × Bool)
  colour : Option String
  background : Option String
  link : Option String

/-- Takes in a word that stands for itself. -/
def Description.single (d : Description) (word : String) : Option Description :=
  let word := word.toLower
  match effect? word with
  | some e => some { d with switches := (e, true) :: d.switches }
  | none => if isColour word then some { d with colour := some word } else none

/-- Takes in the words of a description. -/
def Description.read (d : Description) : List String → Option Description
  | [] => some d
  | [word] => d.single word
  | word :: next :: rest =>
    match word.toLower with
    | "on" =>
      if isColour next.toLower then
        { d with background := some next.toLower : Description }.read rest
      else none
    | "not" =>
      match effect? next with
      | some e => { d with switches := (e, false) :: d.switches : Description }.read rest
      | none => none
    | "link" => { d with link := some next : Description }.read rest
    | _ => (d.single word).bind fun d => d.read (next :: rest)
/-- The normal form of a description. -/
def Description.normal (d : Description) : String :=
  let switched := effects.filterMap fun e =>
    (d.switches.lookup e).map fun on => if on then e else "not " ++ e
  let words := switched ++ d.colour.toList ++
    (d.background.map fun c => ["on", c]).getD [] ++ (d.link.map fun l => ["link", l]).getD []
  if words.isEmpty then "none" else " ".intercalate words

/-- The words of a text. -/
def words (text : List Char) : List String :=
  let parts := (text.splitBy fun a b => Unicode.space.contains a == Unicode.space.contains b)
  (parts.filter fun p => !p.any Unicode.space.contains).map String.ofList

/-- The normal form of a description. -/
def normal (description : List Char) : String :=
  let words := words description
  if words.isEmpty || words == ["none"] then "none"
  else
    match Description.read ⟨[], none, none, none⟩ words with
    | some d => d.normal
    | none =>
      (String.ofList (Unicode.trim Unicode.space.contains description)).toLower

end FeatureFlags.Terminal.Style
