import RecordTypes.Json.OfText
import RecordTypes.Reading.Base
import RecordTypes.Service.Error

/-! The file that holds the metadata of one base: its name, its text and what is read from it. -/

namespace RecordTypes

def documentName : String := "meta.json"

def documentText (raw : Json) : String := String.ofList raw.spreadText

def metadataOfJson (raw : Json) : Except MetadataError Metadata :=
  match Metadata.ofJson raw with
  | .ok metadata => .ok metadata
  | .error m => .error (.mismatch m)

def metadataOfText (source : String) (text : String) : Except MetadataError Metadata :=
  match Json.ofText? text.toList with
  | some raw => metadataOfJson raw
  | none => .error (.malformed source)

/-- Bytes that are no text hold no JSON either. -/
def metadataOfBytes (source : String) (bytes : ByteArray) : Except MetadataError Metadata :=
  match String.fromUTF8? bytes with
  | some text => metadataOfText source text
  | none => .error (.malformed source)

end RecordTypes
