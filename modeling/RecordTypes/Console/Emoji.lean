import RecordTypes.Console.EmojiNames
import RecordTypes.Text.Blank
import RecordTypes.Text.Case

/-! Emoji written by a short name between colons. After the name a suffix may ask for the look of an
emoji or for that of text. A name that no emoji has is left as it stands. -/

namespace RecordTypes

structure Emoji where
  name : String
  text : List Char
  hasTones : Bool

/-- A name of an entry. The tilde at its end is not a part of it. -/
def Emoji.ofName (text name : List Char) : Emoji :=
  if name.getLast? == some '~' then ⟨String.ofList name.dropLast, text, true⟩
  else ⟨String.ofList name, text, false⟩

def emojiOfEntry (entry : List Char) : List Emoji :=
  match splitOnChar ' ' entry with
  | text :: names => names.map (Emoji.ofName text)
  | [] => []

def allEmoji : List Emoji :=
  emojiEntries.flatMap fun line => (splitOnChar ';' line.toList).flatMap emojiOfEntry

/-- The tones of skin by the ends of names, longer ends first. -/
def skinTones : List (List Char × Char) :=
  [("_medium-light_skin_tone".toList, Char.ofNat 0x1F3FC),
   ("_medium-dark_skin_tone".toList, Char.ofNat 0x1F3FE),
   ("_light_skin_tone".toList, Char.ofNat 0x1F3FB),
   ("_medium_skin_tone".toList, Char.ofNat 0x1F3FD),
   ("_dark_skin_tone".toList, Char.ofNat 0x1F3FF)]

def emojiLook : Char := '\ufe0f'

def textLook : Char := '\ufe0e'

/-- The tone comes after the first character, in place of a request for a look. -/
def toned (tone : Char) : List Char → List Char
  | c :: rest => c :: tone :: (if rest.head? == some emojiLook then rest.drop 1 else rest)
  | [] => []

def findEmoji? (name : List Char) : Option Emoji :=
  allEmoji.find? fun emoji => emoji.name == String.ofList name

def tonedEmoji? (name : List Char) : Option (List Char) :=
  skinTones.findSome? fun (ending, tone) =>
    if ending.isSuffixOf name then
      match findEmoji? (name.take (name.length - ending.length)) with
      | some emoji => if emoji.hasTones then some (toned tone emoji.text) else none
      | none => none
    else none

def emoji? (name : List Char) : Option (List Char) :=
  match findEmoji? name with
  | some emoji => some emoji.text
  | none => tonedEmoji? name

/-- A short name up to its closing colon. -/
structure ShortName where
  name : List Char
  look : List Char
  after : List Char

/-- The suffix that asks for a look, with the closing colon. -/
def lookSuffix? (s : List Char) : Option (List Char × List Char) :=
  if "-emoji:".toList.isPrefixOf s then some ([emojiLook], s.drop 7)
  else if "-text:".toList.isPrefixOf s then some ([textLook], s.drop 6)
  else if [':'].isPrefixOf s then some ([], s.drop 1)
  else none

def shortName? : List Char → Option ShortName
  | [] => none
  | c :: rest =>
    match lookSuffix? (c :: rest) with
    | some (look, after) => some ⟨[], look, after⟩
    | none =>
      if isBlank c then none
      else (shortName? rest).map fun s => ⟨c :: s.name, s.look, s.after⟩

theorem lookSuffix?_length_lt {s look after : List Char}
    (h : lookSuffix? s = some (look, after)) : after.length < s.length := by
  have hpos : 0 < s.length := by
    cases s with
    | nil => simp [lookSuffix?] at h
    | cons c rest => simp
  unfold lookSuffix? at h
  split at h
  · simp only [Option.some.injEq, Prod.mk.injEq] at h
    rw [← h.2, List.length_drop]
    omega
  · split at h
    · simp only [Option.some.injEq, Prod.mk.injEq] at h
      rw [← h.2, List.length_drop]
      omega
    · split at h
      · simp only [Option.some.injEq, Prod.mk.injEq] at h
        rw [← h.2, List.length_drop]
        omega
      · simp at h

theorem shortName?_length_lt {s : List Char} {short : ShortName} (h : shortName? s = some short) :
    short.after.length < s.length := by
  induction s generalizing short with
  | nil => simp [shortName?] at h
  | cons c rest ih =>
    unfold shortName? at h
    split at h
    · rename_i look after hl
      cases h
      exact lookSuffix?_length_lt hl
    · split at h
      · simp at h
      · obtain ⟨inner, hi, he⟩ := Option.map_eq_some_iff.mp h
        have := ih hi
        subst he
        simp only [List.length_cons]
        omega

def withEmoji (s : List Char) : List Char :=
  match s with
  | [] => []
  | c :: rest =>
    if c == ':' then
      match _h : shortName? rest with
      | some short =>
        match emoji? (lower short.name) with
        | some text => text ++ short.look ++ withEmoji short.after
        | none => c :: rest.take (rest.length - short.after.length) ++ withEmoji short.after
      | none => c :: withEmoji rest
    else c :: withEmoji rest
termination_by s.length
decreasing_by
  · have := shortName?_length_lt _h
    simp only [List.length_cons]
    omega
  · have := shortName?_length_lt _h
    simp only [List.length_cons]
    omega
  · simp
  · simp

end RecordTypes
