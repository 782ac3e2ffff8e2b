import RecordTypes.Target.Basic
import RecordTypes.Value.Reference

/-! Declarations shared by all the tables that use them, in the order in which they are written. -/

namespace RecordTypes

structure SharedDeclaration where
  shape : SharedShape
  identifiers : List String
  lines : List String

def interfaceAttachment : SharedDeclaration where
  shape := .attachment
  identifiers := ["IAirtableThumbnail", "IAirtableAttachment"]
  lines :=
    ["export interface IAirtableThumbnail \x7b",
     "  url: string",
     "  width: number",
     "  height: number",
     "\x7d",
     "",
     "export interface IAirtableAttachment \x7b",
     "  id: string",
     "  url: string",
     "  filename: string",
     "  size: number",
     "  type: string",
     "  thumbnails?: \x7b",
     "    small: IAirtableThumbnail",
     "    large: IAirtableThumbnail",
     "    full: IAirtableThumbnail",
     "  \x7d",
     "\x7d"]

def interfaceCollaborator : SharedDeclaration where
  shape := .collaborator
  identifiers := ["IAirtableCollaborator"]
  lines :=
    ["export interface IAirtableCollaborator \x7b",
     "  id: string",
     "  email: string",
     "  name: string",
     "\x7d"]

def zodAttachment : SharedDeclaration where
  shape := .attachment
  identifiers := ["AirtableThumbnailSchema", "AirtableAttachmentSchema"]
  lines :=
    ["export const AirtableThumbnailSchema = z.object(\x7b",
     "  url: z.string(),",
     "  width: z.number(),",
     "  height: z.number(),",
     "\x7d)",
     "",
     "export const AirtableAttachmentSchema = z.object(\x7b",
     "  id: z.string(),",
     "  url: z.string(),",
     "  filename: z.string(),",
     "  size: z.number(),",
     "  type: z.string(),",
     "  thumbnails: z.object(\x7b",
     "    small: AirtableThumbnailSchema,",
     "    large: AirtableThumbnailSchema,",
     "    full: AirtableThumbnailSchema,",
     "  \x7d).optional(),",
     "\x7d)"]

def zodCollaborator : SharedDeclaration where
  shape := .collaborator
  identifiers := ["AirtableCollaboratorSchema"]
  lines :=
    ["export const AirtableCollaboratorSchema = z.object(\x7b",
     "  id: z.string(),",
     "  email: z.string(),",
     "  name: z.string(),",
     "\x7d)"]

def classLines (name parent : String) (members : List (String × String)) : List String :=
  ("class " ++ name ++ "(" ++ parent ++ "):") ::
    members.map fun (member, type) => pythonDialect.indented 1 (member ++ ": " ++ type)

def classAttachment (parent optionalThumbnails : String) : SharedDeclaration where
  shape := .attachment
  identifiers := ["AirtableThumbnail", "AirtableThumbnails", "AirtableAttachment"]
  lines :=
    classLines "AirtableThumbnail" parent [("url", "str"), ("width", "int"), ("height", "int")] ++
    ["", ""] ++
    classLines "AirtableThumbnails" parent
      [("small", "AirtableThumbnail"), ("large", "AirtableThumbnail"),
       ("full", "AirtableThumbnail")] ++
    ["", ""] ++
    classLines "AirtableAttachment" parent
      [("id", "str"), ("url", "str"), ("filename", "str"), ("size", "int"), ("type", "str"),
       ("thumbnails", optionalThumbnails)]

def classCollaborator (parent : String) : SharedDeclaration where
  shape := .collaborator
  identifiers := ["AirtableCollaborator"]
  lines :=
    classLines "AirtableCollaborator" parent [("id", "str"), ("email", "str"), ("name", "str")]

def classBarcode (parent : String) : SharedDeclaration where
  shape := .barcode
  identifiers := ["AirtableBarcode"]
  lines := classLines "AirtableBarcode" parent [("text", "str"), ("type", "str")]

def classButton (parent optionalUrl : String) : SharedDeclaration where
  shape := .button
  identifiers := ["AirtableButton"]
  lines := classLines "AirtableButton" parent [("label", "str"), ("url", optionalUrl)]

def modelEmail : SharedDeclaration where
  shape := .email
  identifiers := ["AirtableEmail"]
  lines :=
    ["AirtableEmail = Annotated[str, " ++
      "Field(pattern=r\x22^[^@\x5cs]+@[^@\x5cs]+\x5c.[^@\x5cs]+$\x22)]"]

def Target.sharedDeclarations : Target → List SharedDeclaration
  | .interface => [interfaceAttachment, interfaceCollaborator]
  | .zod => [zodAttachment, zodCollaborator]
  | .typedDict =>
    [classAttachment "TypedDict" "NotRequired[AirtableThumbnails]", classCollaborator "TypedDict",
     classBarcode "TypedDict", classButton "TypedDict" "NotRequired[str]"]
  | .model =>
    [classAttachment "BaseModel" "Optional[AirtableThumbnails] = None",
     classCollaborator "BaseModel", classBarcode "BaseModel",
     classButton "BaseModel" "Optional[str] = None", modelEmail]

def Target.sharedLines (target : Target) (declaration : SharedDeclaration) : List String :=
  declaration.lines ++ match target.language with
    | .typescript => [""]
    | .python => ["", ""]

end RecordTypes
