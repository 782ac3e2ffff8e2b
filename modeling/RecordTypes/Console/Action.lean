import RecordTypes.Json.Token
import RecordTypes.Text.Blank
import RecordTypes.Text.WordChar

/-! Actions, which tags ask for whose name begins with an at sign: the name of a function, and
perhaps its arguments in parentheses, which have to be literal values. What has another form has to
be a literal value as a whole. -/

namespace RecordTypes

def isQuote (c : Char) : Bool := c == apostrophe || c == quotationMark

/-- What follows a string that has begun with a quote. -/
def afterString? (quote : Char) : List Char → Option (List Char)
  | [] => none
  | [c] => if c == quote then some [] else none
  | c :: d :: rest =>
    if c == quote then some (d :: rest)
    else if c == '\n' then none
    else if c == backslash then afterString? quote rest
    else afterString? quote (d :: rest)

def withoutPlus : List Char → List Char
  | '+' :: rest => rest
  | s => s

/-- Numbers and the names of three values. -/
def isLiteralWord (word : List Char) : Bool :=
  (numeral? (withoutPlus word)).isSome || ["True", "False", "None"].contains (String.ofList word)

def skipBlanks (s : List Char) : List Char := s.dropWhile isBlank

mutual

/-- What follows a literal value. Each value inside another one takes from the fuel. -/
def afterLiteral? : Nat → List Char → Option (List Char)
  | 0, _ => none
  | fuel + 1, s =>
    match skipBlanks s with
    | [] => none
    | c :: rest =>
      if c == '(' then afterItems? fuel ')' rest
      else if c == '\x7b' then afterBrace? fuel rest
      else if isQuote c then
        (afterString? c rest).bind fun after =>
          if ((skipBlanks after).head?).any isQuote then afterLiteral? fuel after else some after
      else if isLiteralWord ((c :: rest).takeWhile isBareChar) then
        some ((c :: rest).dropWhile isBareChar)
      else none

/-- What follows the rest of a container that begins with an item or ends. -/
def afterItems? : Nat → Char → List Char → Option (List Char)
  | 0, _, _ => none
  | fuel + 1, close, s =>
    if (skipBlanks s).head? == some close then some ((skipBlanks s).drop 1)
    else (afterLiteral? fuel s).bind (afterItem? fuel close)

def afterItem? : Nat → Char → List Char → Option (List Char)
  | 0, _, _ => none
  | fuel + 1, close, s =>
    match skipBlanks s with
    | [] => none
    | c :: rest =>
      if c == close then some rest
      else if c == ',' then afterItems? fuel close rest
      else none

/-- The first item in braces tells whether all items are pairs of a key and a value. -/
def afterBrace? : Nat → List Char → Option (List Char)
  | 0, _ => none
  | fuel + 1, s =>
    if (skipBlanks s).head? == some '\x7d' then some ((skipBlanks s).drop 1)
    else
      (afterLiteral? fuel s).bind fun after =>
        if (skipBlanks after).head? == some ':' then afterPair? fuel after
        else afterItem? fuel '\x7d' after

/-- What follows the rest of a container of pairs that begins with a colon. -/
def afterPair? : Nat → List Char → Option (List Char)
  | 0, _ => none
  | fuel + 1, s =>
    match skipBlanks s with
    | ':' :: value =>
      (afterLiteral? fuel value).bind fun after =>
        match skipBlanks after with
        | '\x7d' :: rest => some rest
        | ',' :: rest =>
          if (skipBlanks rest).head? == some '\x7d' then some ((skipBlanks rest).drop 1)
          else (afterLiteral? fuel rest).bind (afterPair? fuel)
        | _ => none
    | _ => none

end

def isLiteral (s : List Char) : Bool := afterItems? (4 * s.length + 4) ')' (s ++ [')']) == some []

def isActionName (s : List Char) : Bool := s.all fun c => isWordChar c || c == '.'

def argumentsOfAction? (s : List Char) : Option (List Char) :=
  let arguments := s.dropWhile (· != '(')
  if isActionName (s.takeWhile (· != '(')) && arguments.getLast? == some ')' &&
      !arguments.contains '\n' then some arguments
  else none

def isAction (parameters : List Char) : Bool :=
  let s := trimBlanks parameters
  isActionName s || isLiteral ((argumentsOfAction? s).getD s)

end RecordTypes
