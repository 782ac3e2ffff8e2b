import RecordTypes.Command.Arguments
import RecordTypes.Files.Folder
import RecordTypes.Service.Fetch
import RecordTypes.Target.Basic
import RecordTypes.Text.Blank

/-! The commands and what their arguments mean. -/

namespace RecordTypes

structure Document where
  path : Path
  text : String

/-- Where metadata comes from: a base at the service, or a document that may be checked to be that
of a base. -/
structure MetadataSource where
  baseId : Option String
  document : Option Document
  token : Option String

structure GenerateCommand where
  source : MetadataSource
  output : Option Path
  options : GenerationOptions

inductive Command where
  | generate (command : GenerateCommand)
  | save (source : MetadataSource) (folder : Path)
  | report (source : MetadataSource) (folder : Path)

/-- Why there is no command: the arguments make none, or help is asked for. -/
inductive NoCommand where
  | misused
  | help

abbrev CommandResult := Except NoCommand

def helpForm : OptionForm := ⟨"--help", none, false⟩

def tokenForm : OptionForm := ⟨"--token", none, true⟩

def documentForm : OptionForm := ⟨"--meta-file", none, true⟩

def generateForms : List OptionForm :=
  [⟨"--output", some 'o', true⟩, ⟨"--language", none, true⟩, ⟨"--mode", none, true⟩,
   ⟨"--zod", some 'z', false⟩, ⟨"--tables", some 't', true⟩, ⟨"--field-ids", none, false⟩,
   documentForm, tokenForm, helpForm]

def saveForms : List OptionForm := [tokenForm, helpForm]

def reportForms : List OptionForm := [documentForm, tokenForm, helpForm]

def baseIdVariable : String := "AIRTABLE_BASE_ID"

/-- The name given for an option, or a standard one if none is given. -/
def namedOption {α : Type} [Named α] (a : Arguments) (name : String) (standard : α) :
    CommandResult α :=
  match a.value? name with
  | none => .ok standard
  | some value =>
    match Named.ofName? value with
    | some choice => .ok choice
    | none => .error .misused

/-- No path holds a null character. -/
def possiblePath (s : String) : CommandResult Path :=
  if s.toList.contains '\x00' then .error .misused else .ok (Path.ofText s)

def outputOption (a : Arguments) : CommandResult (Option Path) :=
  match a.value? "--output" with
  | none => .ok none
  | some s => (possiblePath s).map some

/-- The document has to be there. -/
def documentOption (folder : Folder) (a : Arguments) : CommandResult (Option Document) :=
  match a.value? documentForm.name with
  | none => .ok none
  | some s => do
    let path ← possiblePath s
    match folder.entry path with
    | .file text => .ok (some ⟨path, text⟩)
    | .missing | .folder => .error .misused

/-- Names between commas, without blanks around them. No names at all ask for nothing. -/
def requestedTables (given : Option String) : Option (List String) :=
  match given with
  | none => none
  | some s =>
    if s.isEmpty then none
    else some (((splitOnChar ',' s.toList).map fun name => String.ofList (trimBlanks name)).filter
      fun name => !name.isEmpty)

def generateCommand (environment : Environment) (folder : Folder) (a : Arguments) :
    CommandResult Command := do
  let baseId ← match a.others with
    | [] => .ok (environment.value? baseIdVariable)
    | [baseId] => .ok (some baseId)
    | _ => .error .misused
  let language ← namedOption a "--language" Language.typescript
  let mode ← namedOption a "--mode" Mode.types
  let output ← outputOption a
  let document ← documentOption folder a
  .ok (.generate {
    source := ⟨baseId, document, a.value? tokenForm.name⟩
    output := output
    options := {
      language := language
      mode := if a.has "--zod" then .schemas else mode
      fieldIds := a.has "--field-ids"
      requested := requestedTables (a.value? "--tables") } })

/-- The arguments of the commands that write into a folder. The folder is always given. -/
def baseAndFolder : List String → CommandResult (String × Path)
  | [baseId, folder] => (possiblePath folder).map fun path => (baseId, path)
  | _ => .error .misused

def saveCommand (a : Arguments) : CommandResult Command := do
  let (baseId, path) ← baseAndFolder a.others
  .ok (.save ⟨some baseId, none, a.value? tokenForm.name⟩ path)

def reportCommand (folder : Folder) (a : Arguments) : CommandResult Command := do
  let (baseId, path) ← baseAndFolder a.others
  let document ← documentOption folder a
  .ok (.report ⟨some baseId, document, a.value? tokenForm.name⟩ path)

def withForms (forms : List OptionForm) (arguments : List String)
    (command : Arguments → CommandResult Command) : CommandResult Command :=
  match argumentsOf forms arguments with
  | none => .error .misused
  | some a => if a.has helpForm.name then .error .help else command a

def Command.ofWords (environment : Environment) (folder : Folder) :
    List String → CommandResult Command
  | "gen" :: rest => withForms generateForms rest (generateCommand environment folder)
  | "meta" :: rest => withForms saveForms rest saveCommand
  | "csv" :: rest => withForms reportForms rest (reportCommand folder)
  | "--help" :: _ => .error .help
  | _ => .error .misused

/-- Nothing but the end of options may come before the name of the command. -/
def Command.ofArguments (environment : Environment) (folder : Folder) :
    List String → CommandResult Command
  | "--" :: words => Command.ofWords environment folder words
  | words => Command.ofWords environment folder words

end RecordTypes
