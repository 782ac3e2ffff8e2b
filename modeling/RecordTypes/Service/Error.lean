import RecordTypes.Generation.Basic

/-! What can keep metadata from being loaded and declarations from being generated. -/

namespace RecordTypes

inductive MetadataError where
  | missingCredential
  | refused (status : Int) (url body : String)
  | unreachable (url reason : String)
  | malformed (source : String)
  | mismatch (m : Mismatch)
  | baseNotFound (baseId : String)

def MetadataError.message : MetadataError → String
  | .missingCredential =>
    "No Airtable access token provided. Pass one with --token or set the " ++
      "AIRTABLE_TYPEGEN_ACCESS_TOKEN (or AIRTABLE_API_KEY) environment variable."
  | .refused status url body =>
    "Airtable responded with HTTP " ++ integerText status ++ " for " ++ url ++
      (if body.isEmpty then "" else ": " ++ body)
  | .unreachable url reason => "Could not reach Airtable at " ++ url ++ ": " ++ reason
  | .malformed source => "Airtable metadata from " ++ source ++ " is not valid JSON"
  | .mismatch m => m.message
  | .baseNotFound baseId => "Could not find base with ID " ++ baseId

end RecordTypes
