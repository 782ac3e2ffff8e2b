import RecordTypes.Console.ColorNames
import RecordTypes.Json.Token
import RecordTypes.Text.Blank
import RecordTypes.Text.Case

/-! Styles as tags spell them out: a word for each effect, some under short names, a color, a
color for the background after `on`, and a link. Two spellings of one style have the same normal
text, in which the effects stand in a fixed order. -/

namespace RecordTypes

def styleEffects : List String :=
  ["bold", "dim", "italic", "underline", "blink", "blink2", "reverse", "conceal", "strike",
   "underline2", "frame", "encircle", "overline"]

def abbreviatedEffects : List (String × String) :=
  [("b", "bold"), ("i", "italic"), ("u", "underline"), ("s", "strike"), ("d", "dim"),
   ("r", "reverse"), ("c", "conceal"), ("o", "overline"), ("uu", "underline2")]

def effect? (word : String) : Option String :=
  if styleEffects.contains word then some word else abbreviatedEffects.lookup word

/-- Effects that are set, or unset by a `not` before them, are kept with the last one first. -/
structure Style where
  effects : List (String × Bool)
  color : Option String
  background : Option String
  link : Option String

/-- Why words make no style: one of them means nothing, or the parts of a color are no numbers. -/
inductive StyleFault where
  | unknown
  | broken

def isHexDigit (c : Char) : Bool := c.isDigit || ('a' ≤ c && c ≤ 'f')

def inParentheses? (name : String) (s : List Char) : Option (List Char) :=
  let opening := name.toList ++ ['(']
  if opening.isPrefixOf s && s.getLast? == some ')' then some ((s.drop opening.length).dropLast)
  else none

/-- A color by its number among 256. -/
def isColorNumber (digits : List Char) : Bool :=
  !digits.isEmpty && digits.length ≤ 3 && digits.all Char.isDigit && digitsValue digits ≤ 255

/-- A color by three numbers below 256. -/
def checkColorParts (s : List Char) : Except StyleFault Unit :=
  let parts := splitOnChar ',' s
  if s.isEmpty || !(parts.flatten.all Char.isDigit) || parts.length != 3 then .error .unknown
  else if parts.any fun part => part.isEmpty || digitLimit < part.length then .error .broken
  else if parts.all fun part => digitsValue part ≤ 255 then .ok ()
  else .error .unknown

def isHexColor : List Char → Bool
  | '#' :: digits => digits.length == 6 && digits.all isHexDigit
  | _ => false

def checkColor (s : List Char) : Except StyleFault Unit :=
  match inParentheses? "rgb" s with
  | some parts => checkColorParts parts
  | none =>
    if s == "default".toList || colorNames.contains (String.ofList s) || isHexColor s ||
        (inParentheses? "color" s).any isColorNumber then .ok ()
    else .error .unknown

def colorOf (word : List Char) : Except StyleFault String := do
  let name := lower word
  checkColor name
  .ok (String.ofList name)

namespace Style

def plain : Style := ⟨[], none, none, none⟩

def withWord (style : Style) (word : List Char) : Except StyleFault Style := do
  match effect? (String.ofList (lower word)) with
  | some effect => .ok { style with effects := (effect, true) :: style.effects }
  | none => .ok { style with color := some (← colorOf word) }

def keywords : List String := ["not", "on", "link"]

/-- The word after a keyword, which is taken as it is spelled. -/
def withOperand (style : Style) (keyword : String) (word : List Char) :
    Except StyleFault Style := do
  if keyword == "not" then
    match effect? (String.ofList word) with
    | some effect => .ok { style with effects := (effect, false) :: style.effects }
    | none => .error .unknown
  else if keyword == "on" then .ok { style with background := some (← colorOf word) }
  else .ok { style with link := some (String.ofList word) }

def withWords (style : Style) : List (List Char) → Except StyleFault Style
  | [] => .ok style
  | [word] =>
    if keywords.contains (String.ofList (lower word)) then .error .unknown
    else style.withWord word
  | word :: next :: rest =>
    let name := String.ofList (lower word)
    if keywords.contains name then
      match style.withOperand name next with
      | .ok style => style.withWords rest
      | .error fault => .error fault
    else
      match style.withWord word with
      | .ok style => style.withWords (next :: rest)
      | .error fault => .error fault

def ofText (s : List Char) : Except StyleFault Style :=
  if trimBlanks s == "none".toList then .ok plain else plain.withWords (splitBlanks s)

def effectText? (style : Style) (effect : String) : Option String :=
  (style.effects.lookup effect).map fun isSet =>
    if isSet then effect else "not " ++ effect

def text (style : Style) : String :=
  let words := styleEffects.filterMap style.effectText? ++ style.color.toList ++
    (style.background.map ("on " ++ ·)).toList ++ (style.link.map ("link " ++ ·)).toList
  if words.isEmpty then "none" else " ".intercalate words

end Style

/-- Why a text is no markup: its tags do not fit together, or the parts of a color are no
numbers. -/
inductive MarkupFault where
  | tags
  | color
  deriving DecidableEq

/-- The name under which a style is opened and closed. What is no style goes by its own name in
small letters, but a color with broken parts cannot be named. -/
def styleName (s : List Char) : Except MarkupFault String :=
  match Style.ofText s with
  | .ok style => .ok style.text
  | .error .unknown => .ok (String.ofList (lower (trimBlanks s)))
  | .error .broken => .error .color

end RecordTypes
