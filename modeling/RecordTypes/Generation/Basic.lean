import RecordTypes.Generation.Assembly
import RecordTypes.Generation.Selection
import RecordTypes.Reading.Number

/-! The text of all declarations for a base. -/

namespace RecordTypes

structure GenerationOptions where
  language : Language
  mode : Mode
  fieldIds : Bool
  requested : Option (List String)

namespace GenerationOptions

def standard : GenerationOptions := ⟨.typescript, .types, false, none⟩

def target (options : GenerationOptions) : Target := Target.of options.language options.mode

def read : Json → Reading GenerationOptions :=
  readModel "GenerateOptions" fun members =>
    GenerationOptions.mk <$>
      withDefault "language" standard.language (readName Language) members <*>
      withDefault "mode" standard.mode (readName Mode) members <*>
      withDefault "include_field_id_mapping" standard.fieldIds readBoolean members <*>
      optional "table_filter" (readList readText) members

end GenerationOptions

inductive GenerationError where
  | unresolved (u : Unresolved)
  | collisions (cs : List Collision)

def Collision.line (c : Collision) : String :=
  "  " ++ c.identifier ++ ": " ++ ", ".intercalate c.sources

def collisionMessage (cs : List Collision) : String :=
  "Generated identifiers collide:\n" ++ "\n".intercalate (cs.map Collision.line)

def GenerationError.message : GenerationError → String
  | .unresolved u => u.message
  | .collisions cs => collisionMessage cs

def registeredFrom (source : String) (identifiers : List String) : List Registration :=
  identifiers.map fun identifier => ⟨identifier, source⟩

/-- A shared declaration is written if a field of the tables refers to its shape. -/
def Assembly.addShared (target : Target) (fields : List Field) (a : Assembly)
    (declaration : SharedDeclaration) : Assembly :=
  if anyReferences fields declaration.shape then
    a.add (target.sharedLines declaration) (registeredFrom fromShared declaration.identifiers) []
  else a

def Assembly.addLookups (target : Target) (a : Assembly) : Assembly :=
  a.add (target.tableLookupLines a.tables) (registeredFrom fromLookups target.lookupIdentifiers) []

/-- All declarations for the tables, whatever they collide with. -/
def assemble (target : Target) (fieldIds : Bool) (base : Base) (tables : List Table) : Assembly :=
  let fields := tables.flatMap fun table => table.fields
  let start := Assembly.empty.add (target.header base)
    (registeredFrom fromImports target.importedNames) []
  let shared := target.sharedDeclarations.foldl (Assembly.addShared target fields) start
  let all := tables.foldl (Assembly.addTable target fieldIds) shared
  if fieldIds then all.addLookups target else all

def generate (base : Base) (tables : List Table) (options : GenerationOptions) :
    Except GenerationError String :=
  match selectIf tables options.requested with
  | .error u => .error (.unresolved u)
  | .ok selected =>
    let assembly := assemble options.target options.fieldIds base selected
    match assembly.collisions with
    | [] => .ok assembly.text
    | cs => .error (.collisions cs)

end RecordTypes
