import RecordTypes.Console.Action
import RecordTypes.Console.Emoji
import RecordTypes.Console.Style
import RecordTypes.Text.Quoted

/-! Text with tags in square brackets that style it on a console. The tags do not show. A backslash
before a tag makes it plain text, and two backslashes there stand for one. A closing tag that closes
nothing is an error, and so is one that closes an action of the wrong form. Short names of emoji are
replaced in each stretch of text that lies between tags and backslashes. -/

namespace RecordTypes

def startsTag (c : Char) : Bool := ('a' ≤ c && c ≤ 'z') || c == '#' || c == '/' || c == '@'

/-- What comes before the closing bracket, and what after. A tag holds no opening bracket. -/
def untilClosed? : List Char → Option (List Char × List Char)
  | [] => none
  | c :: rest =>
    if c == ']' then some ([], rest)
    else if c == '[' then none
    else (untilClosed? rest).map fun (inside, after) => (c :: inside, after)

theorem untilClosed?_length_lt {s inside after : List Char}
    (h : untilClosed? s = some (inside, after)) : after.length < s.length := by
  induction s generalizing inside with
  | nil => simp [untilClosed?] at h
  | cons c rest ih =>
    unfold untilClosed? at h
    split at h
    · simp only [Option.some.injEq, Prod.mk.injEq] at h
      simp [h.2]
    · split at h
      · simp at h
      · obtain ⟨⟨i, a⟩, hr, he⟩ := Option.map_eq_some_iff.mp h
        simp only [Prod.mk.injEq] at he
        have := ih (he.2 ▸ hr)
        simp only [List.length_cons]
        omega

def tagAtFront? : List Char → Option (List Char × List Char)
  | '[' :: c :: rest =>
    if startsTag c then (untilClosed? rest).map fun (inside, after) => (c :: inside, after)
    else none
  | _ => none

theorem tagAtFront?_length_lt {s inside after : List Char}
    (h : tagAtFront? s = some (inside, after)) : after.length < s.length := by
  unfold tagAtFront? at h
  split at h
  · split at h
    · obtain ⟨⟨i, a⟩, hr, he⟩ := Option.map_eq_some_iff.mp h
      simp only [Prod.mk.injEq] at he
      have := untilClosed?_length_lt (he.2 ▸ hr)
      simp only [List.length_cons]
      omega
    · simp at h
  · simp at h

/-- A character of a stretch of text, a stretch of its own, or a tag. -/
inductive MarkupPiece where
  | plain (c : Char)
  | stretch (s : List Char)
  | tag (content : List Char)

def MarkupPiece.tag? : MarkupPiece → Option (List Char)
  | .tag content => some content
  | .plain _ | .stretch _ => none

def bracketed (s : List Char) : List Char := '[' :: (s ++ [']'])

def plainPieces (backslashes : Nat) (s : List Char) : List MarkupPiece :=
  (List.replicate backslashes backslash ++ s).map .plain

/-- The pieces of a text after a number of backslashes that have not been placed yet. -/
def piecesAfter (backslashes : Nat) (s : List Char) : List MarkupPiece :=
  match s with
  | [] => plainPieces backslashes []
  | c :: rest =>
    if c == backslash then piecesAfter (backslashes + 1) rest
    else
      match _h : tagAtFront? (c :: rest) with
      | some (content, after) =>
        let piece := if backslashes % 2 == 1 then .stretch (bracketed content) else .tag content
        .stretch (List.replicate (backslashes / 2) backslash) :: piece :: piecesAfter 0 after
      | none =>
        let shown := if c == '[' then backslashes - 1 else backslashes
        plainPieces shown [c] ++ piecesAfter 0 rest
termination_by s.length
decreasing_by
  · simp
  · exact tagAtFront?_length_lt _h
  · simp

/-- A style that is open: its name and the parameters after an equals sign. -/
structure OpenTag where
  name : String
  parameters : Option (List Char)

def parametersOf (content : List Char) : Option (List Char) :=
  match content.dropWhile (· != '=') with
  | _ :: parameters => some parameters
  | [] => none

def openTag (content : List Char) : Except MarkupFault OpenTag :=
  (styleName (content.takeWhile (· != '='))).map fun name => ⟨name, parametersOf content⟩

/-- The tags still open, the innermost first, after the end of one, and the one that ended. An end
without a name is that of the innermost tag. -/
def closeTag (openTags : List OpenTag) (name : List Char) :
    Except MarkupFault (OpenTag × List OpenTag) :=
  let name := trimBlanks name
  if name.isEmpty then
    match openTags with
    | tag :: rest => .ok (tag, rest)
    | [] => .error .tags
  else
    match styleName name with
    | .error fault => .error fault
    | .ok style =>
      match openTags.find? fun tag => tag.name == style with
      | some tag => .ok (tag, openTags.eraseP fun tag => tag.name == style)
      | none => .error .tags

/-- The parameters of a tag whose name begins with an at sign are an action. -/
def OpenTag.isComplete (tag : OpenTag) : Bool :=
  match tag.parameters with
  | none | some [] => true
  | some parameters => tag.name.toList.head? != some '@' || isAction parameters

def tagsAfter (openTags : List OpenTag) : List Char → Except MarkupFault (List OpenTag)
  | '/' :: content =>
    match closeTag openTags (content.takeWhile (· != '=')) with
    | .ok (tag, rest) => if tag.isComplete then .ok rest else .error .tags
    | .error fault => .error fault
  | content => (openTag content).map fun tag => tag :: openTags

/-- What remains of the pieces, if every end ends something. The stretch that is not complete yet is
kept backwards. -/
def textOfPieces (openTags : List OpenTag) (stretch : List Char) :
    List MarkupPiece → Except MarkupFault (List Char)
  | [] => .ok (withEmoji stretch.reverse)
  | .plain c :: pieces => textOfPieces openTags (c :: stretch) pieces
  | .stretch s :: pieces =>
    (textOfPieces openTags [] pieces).map fun rest =>
      withEmoji stretch.reverse ++ withEmoji s ++ rest
  | .tag content :: pieces =>
    match tagsAfter openTags content with
    | .ok tags =>
      (textOfPieces tags [] pieces).map fun rest => withEmoji stretch.reverse ++ rest
    | .error fault => .error fault

/-- The text without its tags. -/
def textOfMarkup (s : List Char) : Except MarkupFault (List Char) :=
  textOfPieces [] [] (piecesAfter 0 s)

/-- The fault in the style that an opening tag shows, which takes in its parameters. -/
def styleFault? : List Char → Option MarkupFault
  | '/' :: _ => none
  | content =>
    match openTag content with
    | .error fault => some fault
    | .ok ⟨_, none⟩ => none
    | .ok ⟨name, some parameters⟩ =>
      match styleName (name.toList ++ ' ' :: parameters) with
      | .error fault => some fault
      | .ok _ => none

/-- The tags in a text after a number of backslashes. -/
def tagsIn (backslashes : Nat) (s : List Char) : List (List Char) :=
  (piecesAfter backslashes s).filterMap MarkupPiece.tag?

/-- What a console shows. It looks at the styles once it has the text. -/
def shown (s : List Char) : Except MarkupFault (List Char) :=
  match textOfMarkup s, (tagsIn 0 s).findSome? styleFault? with
  | .error fault, _ | .ok _, some fault => .error fault
  | .ok text, none => .ok text

/-- Backslashes before a tag are doubled and one is added. -/
def escapedAfter (backslashes : Nat) (s : List Char) : List Char :=
  match s with
  | [] => List.replicate backslashes backslash
  | c :: rest =>
    if c == backslash then escapedAfter (backslashes + 1) rest
    else
      match _h : tagAtFront? (c :: rest) with
      | some (content, after) =>
        List.replicate (2 * backslashes + 1) backslash ++ bracketed content ++ escapedAfter 0 after
      | none => List.replicate backslashes backslash ++ c :: escapedAfter 0 rest
termination_by s.length
decreasing_by
  · simp
  · exact tagAtFront?_length_lt _h
  · simp

/-- The text as markup that shows it. A single backslash at the end is doubled, so that a tag may
follow. -/
def escapedMarkup (s : List Char) : List Char :=
  let escaped := escapedAfter 0 s
  match escaped.reverse with
  | a :: b :: _ => if a == backslash && b != backslash then escaped ++ [backslash] else escaped
  | [a] => if a == backslash then escaped ++ [backslash] else escaped
  | [] => escaped

end RecordTypes
