import RecordTypes.Command.Basic
import RecordTypes.Console.Line
import RecordTypes.Naming
import RecordTypes.Report.Basic
import RecordTypes.Service.Document

/-! What a command does: the files it writes and the lines it prints, in order, and how it ends. A
step that fails is the last one. -/

namespace RecordTypes

inductive Step where
  /-- Nothing remains of an announcement, but it has to be well-formed markup. -/
  | announce (markup : String)
  | makeFolder (path : Path)
  | write (path : Path) (text : String)
  | print (markup : String)

/-- An exception that nothing handles: in markup that is to be printed, in a file, in a request that
cannot be made, or in one that was. -/
inductive Uncaught where
  | markup (fault : MarkupFault)
  | file (fault : FileFault)
  | unsent (fault : RequestFault)
  | request (failure : TransportFailure)

def Uncaught.name : Uncaught → String
  | .markup .tags => "MarkupError"
  | .markup .color => "ValueError"
  | .file .taken => "FileExistsError"
  | .file .noFolder => "NotADirectoryError"
  | .file .folder => "IsADirectoryError"
  | .file (.noName step) => if step.toList.contains '\x00' then "ValueError" else "OSError"
  | .unsent (.notAscii ..) => "UnicodeEncodeError"
  | .unsent .urlTooLong | .unsent (.unprintable ..) => "InvalidURL"
  | .request failure => failure.kind

/-- A program exits with a status, or an exception ends it. -/
inductive Ending where
  | exit (status : Nat)
  | raised (exception : Uncaught)

def Ending.status : Ending → Nat
  | .exit status => status
  | .raised _ => 1

structure Plan where
  steps : List Step
  ending : Ending

def printFailure (message : String) : Step :=
  .print (String.ofList ("[red]".toList ++ escapedMarkup message.toList ++ "[/]".toList))

def Plan.failing (steps : List Step) (message : String) : Plan :=
  ⟨steps ++ [printFailure message], .exit 1⟩

/-- The retries of an exchange are told to the user. -/
def retrySteps (e : Exchange) : List Step :=
  e.pauses.map fun (seconds : Nat) =>
    .print ("[yellow]Request timed out, retrying in " ++ integerText seconds ++ " seconds...[/]")

/-- What a source yields, with what is printed on the way. -/
structure Loaded (α : Type) where
  steps : List Step
  result : Except FetchError α

def fetchNotice (baseId : String) : String :=
  "[progress.description]Fetching metadata for base " ++ baseId ++ "..."

def fetchRaw (environment : Environment) (replies : List Reply) (source : MetadataSource) :
    Loaded Json :=
  let baseId := source.baseId.getD ""
  let (result, e) := (Exchange.start replies).fetch environment source.token baseId
  ⟨.announce (fetchNotice baseId) :: retrySteps e, result⟩

/-- The metadata of the base with an id, unless the id is empty or not given. -/
def checkBase (baseId : Option String) (metadata : Metadata) : Except MetadataError Metadata :=
  match baseId with
  | none => .ok metadata
  | some id =>
    if id.isEmpty || metadata.base.id == id then .ok metadata else .error (.baseNotFound id)

def loadDocument (baseId : Option String) (document : Document) :
    Except MetadataError Metadata := do
  checkBase baseId (← metadataOfText document.path.text document.text)

def Loaded.bind {α β : Type} (l : Loaded α) (f : α → Except MetadataError β) : Loaded β :=
  ⟨l.steps, match l.result with
    | .ok a => (f a).mapError .failed
    | .error e => .error e⟩

def loadMetadata (environment : Environment) (replies : List Reply) (source : MetadataSource) :
    Loaded Metadata :=
  match source.document with
  | some document => ⟨[], (loadDocument source.baseId document).mapError .failed⟩
  | none => (fetchRaw environment replies source).bind metadataOfJson

/-- An error is told to the user, but not a fault of a request. -/
def Loaded.plan {α : Type} (l : Loaded α) (next : α → Plan) : Plan :=
  match l.result with
  | .ok a => let plan := next a; ⟨l.steps ++ plan.steps, plan.ending⟩
  | .error (.failed e) => Plan.failing l.steps e.message
  | .error (.unsent fault) => ⟨l.steps, .raised (.unsent fault)⟩
  | .error (.fault failure) => ⟨l.steps, .raised (.request failure)⟩

def standardOutput (baseName : String) (language : Language) : Path :=
  let words := fileWords baseName.toList
  let name := match language with
    | .typescript => joinWith ['-'] words ++ ".ts".toList
    | .python => joinWith ['_'] words ++ ".py".toList
  Path.ofText (String.ofList name)

def GenerateCommand.isWithoutSource (command : GenerateCommand) : Bool :=
  (command.source.baseId.getD "").isEmpty && command.source.document.isNone

def GenerateCommand.finish (command : GenerateCommand) (metadata : Metadata) : Plan :=
  match RecordTypes.generate metadata.base metadata.tables command.options with
  | .error e => Plan.failing [] e.message
  | .ok text =>
    let path := command.output.getD (standardOutput metadata.base.name command.options.language)
    ⟨[.write path text,
      .print ("[green]" ++ Named.name command.options.language ++ " " ++
        Named.name command.options.mode ++ " written to " ++ path.text ++ "[/]")], .exit 0⟩

def savePlan (folder : Path) (raw : Json) : Plan :=
  let path := folder.child documentName
  ⟨[.write path (documentText raw), .print ("Base metadata written to " ++ path.text)],
    .exit 0⟩

def reportPlan (folder : Path) (metadata : Metadata) : Plan :=
  let tablesPath := folder.child "tables.csv"
  let fieldsPath := folder.child "fields.csv"
  ⟨[.makeFolder folder,
    .write tablesPath (tablesReport metadata.tables),
    .print ("Table CSV exported to " ++ tablesPath.text),
    .write fieldsPath (fieldsReport metadata.tables),
    .print ("Fields CSV exported to " ++ fieldsPath.text)], .exit 0⟩

def Command.plan (environment : Environment) (replies : List Reply) : Command → Plan
  | .generate command =>
    if command.isWithoutSource then
      Plan.failing [] "Missing BASE_ID. Pass it as an argument or set AIRTABLE_BASE_ID."
    else (loadMetadata environment replies command.source).plan command.finish
  | .save source folder => (fetchRaw environment replies source).plan (savePlan folder)
  | .report source folder => (loadMetadata environment replies source).plan (reportPlan folder)

end RecordTypes
