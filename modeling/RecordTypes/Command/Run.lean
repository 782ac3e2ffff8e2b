import RecordTypes.Command.Plan

/-! A command carried out in a folder. -/

namespace RecordTypes

structure Run where
  folder : Folder
  printed : List Char
  ending : Ending

namespace Run

def start (folder : Folder) : Run := ⟨folder, [], .exit 0⟩

def status (r : Run) : Nat := r.ending.status

def step (r : Run) : Step → Except Uncaught Run
  | .announce markup =>
    match textOfMarkup markup.toList with
    | .ok _ => .ok r
    | .error fault => .error (.markup fault)
  | .makeFolder path =>
    match r.folder.make path with
    | .ok folder => .ok { r with folder := folder }
    | .error fault => .error (.file fault)
  | .write path text =>
    match r.folder.write path text with
    | .ok folder => .ok { r with folder := folder }
    | .error fault => .error (.file fault)
  | .print markup =>
    match shown markup.toList with
    | .ok s => .ok { r with printed := r.printed ++ consoleText s ++ ['\n'] }
    | .error fault => .error (.markup fault)

/-- The steps one after the other and the ending, unless a step fails: nothing handles what it
raises. -/
def steps (r : Run) (ending : Ending) : List Step → Run
  | [] => { r with ending := ending }
  | step :: rest =>
    match r.step step with
    | .ok r => r.steps ending rest
    | .error exception => { r with ending := .raised exception }

def lines (r : Run) : List String := filledLines r.printed

end Run

def misuseStatus : Nat := 2

def runCommand (environment : Environment) (replies : List Reply) (folder : Folder)
    (arguments : List String) : Run :=
  match Command.ofArguments environment folder arguments with
  | .ok command =>
    let plan := command.plan environment replies
    (Run.start folder).steps plan.ending plan.steps
  | .error .misused => ⟨folder, [], .exit misuseStatus⟩
  | .error .help => ⟨folder, [], .exit 0⟩

end RecordTypes
