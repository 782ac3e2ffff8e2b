import RecordTypes.Command.Run

/-! The program. It reads the file that the arguments name and carries out what the command comes
to. It has no connection of its own, so metadata comes from a file. -/

namespace RecordTypes

/-- A file that holds no text is read as empty. -/
def readTextFile (path : String) : IO (Option String) := do
  try
    let bytes ← IO.FS.readBinFile path
    return some ((String.fromUTF8? bytes).getD "")
  catch _ => return none

/-- The file that the arguments name, in a folder that holds nothing else. -/
def folderOf (arguments : List String) : IO Folder := do
  match (argumentsOf generateForms (arguments.drop 1)).bind fun a => a.value? documentForm.name with
  | none => return .empty
  | some path =>
    let place := (Path.ofText path).steps
    match ← readTextFile path with
    | some text => return ⟨[⟨place, text⟩], (List.range place.length).map place.take⟩
    | none => return .empty

def environmentOf (names : List String) : IO Environment :=
  names.filterMapM fun name => do
    return (← IO.getEnv name).map fun value => (name, value)

def raise {α : Type} (exception : Uncaught) : IO α := throw (IO.userError exception.name)

def perform : Step → IO Unit
  | .announce markup =>
    match textOfMarkup markup.toList with
    | .ok _ => return
    | .error fault => raise (.markup fault)
  | .makeFolder path => IO.FS.createDirAll path.text
  | .write path text => do
    IO.FS.createDirAll (Path.mk path.root path.steps.dropLast).text
    IO.FS.writeFile path.text text
  | .print markup =>
    match shown markup.toList with
    | .ok s => IO.println (String.ofList (consoleText s))
    | .error fault => raise (.markup fault)

def performEnding : Ending → IO Nat
  | .exit status => return status
  | .raised exception => raise exception

def usage : String := "Usage: gen [BASE_ID] | meta BASE_ID FOLDER | csv BASE_ID FOLDER"

def performCommand (arguments : List String) : IO Nat := do
  let environment ← environmentOf (baseIdVariable :: credentialVariables)
  let folder ← folderOf arguments
  match Command.ofArguments environment folder arguments with
  | .ok command =>
    let plan := command.plan environment []
    plan.steps.forM perform
    performEnding plan.ending
  | .error .misused => do
    IO.eprintln usage
    return misuseStatus
  | .error .help => do
    IO.println usage
    return 0

end RecordTypes

def main (arguments : List String) : IO UInt32 := do
  return (← RecordTypes.performCommand arguments).toUInt32
