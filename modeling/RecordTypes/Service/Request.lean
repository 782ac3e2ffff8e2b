import RecordTypes.Reading.Issue
import RecordTypes.Service.Url

/-! Requests to the service: an address in canonical form and the words that authorize it. An
address or a token that cannot be sent makes no request. -/

namespace RecordTypes

inductive RequestFault where
  | urlTooLong
  | unprintable (c : Char) (position : Nat)
  /-- A run of characters that are not ASCII, in the words that authorize a request. -/
  | notAscii (run : List Char) (position : Nat)

def encodingFault (place : String) : String :=
  "'ascii' codec can't encode " ++ place ++ ": ordinal not in range(128)"

def RequestFault.message : RequestFault → String
  | .urlTooLong => "URL too long"
  | .unprintable c position =>
    "Invalid non-printable ASCII character in URL, " ++ String.ofList (displayQuoted [c]) ++
      " at position " ++ integerText position ++ "."
  | .notAscii [c] position =>
    encodingFault ("character '" ++ String.ofList (codePointEscape c) ++ "' in position " ++
      integerText position)
  | .notAscii run position =>
    encodingFault ("characters in position " ++ integerText position ++ "-" ++
      integerText (position + run.length - 1))

structure Request where
  url : String
  authorization : String

def serviceHost : String := "https://api.airtable.com"

def longestUrl : Nat := 65536

def isAscii (c : Char) : Bool := c.toNat < 0x80

def canonicalUrl (resource : String) : Except RequestFault String :=
  let url := (serviceHost ++ resource).toList
  if longestUrl < url.length then .error .urlTooLong
  else
    match url.findIdx? fun c => isAscii c && !isAsciiPrintable c with
    | some position => .error (.unprintable (url.getD position '\x00') position)
    | none => .ok (serviceHost ++ String.ofList (canonicalResource resource.toList))

def authorizationFor (token : String) : Except RequestFault String :=
  let words := "Bearer " ++ token
  match words.toList.dropWhile isAscii with
  | [] => .ok words
  | rest => .error (.notAscii (rest.takeWhile fun c => !isAscii c)
      (words.toList.takeWhile isAscii).length)

def Request.make (resource token : String) : Except RequestFault Request := do
  let authorization ← authorizationFor token
  .ok ⟨← canonicalUrl resource, authorization⟩

end RecordTypes
