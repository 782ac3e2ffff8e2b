import RecordTypes.Files.Path

/-! A folder of text files, with the folders in it. What is written outside of it is not kept. -/

namespace RecordTypes

structure TextFile where
  place : List String
  text : String

/-- What the file system has against a path. -/
inductive FileFault where
  /-- A folder is to be made where there is a file. -/
  | taken
  /-- The path leads through a file. -/
  | noFolder
  /-- A file is to be written where there is a folder. -/
  | folder
  /-- A step of the path cannot be the name of anything. -/
  | noName (step : String)

structure Folder where
  files : List TextFile
  folders : List (List String)

namespace Folder

def empty : Folder := ⟨[], []⟩

def file? (folder : Folder) (place : List String) : Option String :=
  (folder.files.find? fun file => file.place == place).map fun file => file.text

def hasFolder (folder : Folder) (place : List String) : Bool :=
  place.isEmpty || folder.folders.contains place

def put (folder : Folder) (place : List String) (text : String) : Folder :=
  if (folder.file? place).isSome then
    { folder with
      files := folder.files.map fun file => if file.place == place then ⟨place, text⟩ else file }
  else { folder with files := folder.files ++ [⟨place, text⟩] }

/-- A file system takes no longer names, and none with a null character. -/
def isName (step : String) : Bool := step.utf8ByteSize ≤ 255 && !step.toList.contains '\x00'

/-- Where a way leads that starts in the folder: to a place in it, or out of it. -/
inductive Spot where
  | inside (place : List String)
  | outside

/-- One step on the way. A folder that is missing is made; a file is in the way. -/
def enter (folder : Folder) (spot : Spot) (step : String) : Except FileFault (Folder × Spot) :=
  match spot with
  | .outside => if isName step then .ok (folder, .outside) else .error (.noName step)
  | .inside place =>
    if step == ".." then
      .ok (folder, if place.isEmpty then .outside else .inside place.dropLast)
    else
      let next := place ++ [step]
      if !isName step then .error (.noName step)
      else if (folder.file? next).isSome then .error .taken
      else if folder.hasFolder next then .ok (folder, .inside next)
      else .ok ({ folder with folders := folder.folders ++ [next] }, .inside next)

/-- The way through a file is no way. But folders are made one by one from the first that is missing
on, so that a file on the way from there is where a folder is to be made. -/
def enterAll (folder : Folder) (spot : Spot) (made : Bool) :
    List String → Except FileFault (Folder × Spot)
  | [] => .ok (folder, spot)
  | step :: steps =>
    match folder.enter spot step with
    | .ok (next, spot) =>
      next.enterAll spot (made || folder.folders.length < next.folders.length) steps
    | .error .taken => .error (if made || steps.isEmpty then .taken else .noFolder)
    | .error fault => .error fault

def start (path : Path) : Spot := if path.root.isEmpty then .inside [] else .outside

def make (folder : Folder) (path : Path) : Except FileFault Folder :=
  (folder.enterAll (start path) false path.steps).map Prod.fst

/-- Writes a file in place of any earlier one, with all folders on the way. Nothing is written if
there is a folder at the path, or a file on the way to it. -/
def write (folder : Folder) (path : Path) (text : String) : Except FileFault Folder :=
  match folder.enterAll (start path) false path.steps.dropLast, path.steps.getLast? with
  | .error fault, _ => .error fault
  | .ok _, none | .ok _, some ".." => .error .folder
  | .ok (folder, spot), some name =>
    if !isName name then .error (.noName name)
    else
      match spot with
      | .outside => .ok folder
      | .inside place =>
        if folder.hasFolder (place ++ [name]) then .error .folder
        else .ok (folder.put (place ++ [name]) text)

inductive Entry where
  | missing
  | folder
  | file (text : String)

/-- What is found along the steps of a way: a step from a file leads nowhere, and what lies outside
is not seen. -/
def entryFrom (folder : Folder) (place : List String) : List String → Entry
  | [] => if folder.hasFolder place then .folder else
    match folder.file? place with
    | some text => .file text
    | none => .missing
  | step :: steps =>
    if !folder.hasFolder place then .missing
    else if step == ".." then
      if place.isEmpty then .missing else folder.entryFrom place.dropLast steps
    else folder.entryFrom (place ++ [step]) steps

def entry (folder : Folder) (path : Path) : Entry :=
  if path.root.isEmpty then folder.entryFrom [] path.steps else .missing

end Folder

end RecordTypes
