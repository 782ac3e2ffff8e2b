import RecordTypes.Text.Runs

/-! Paths of files. Single dots and empty steps say nothing and are left out; a step up is kept, for
it depends on the folders that are there. -/

namespace RecordTypes

/-- Two slashes at the front, and no more, are a root of their own. -/
structure Path where
  root : String
  steps : List String
  deriving DecidableEq

namespace Path

def rootOf (s : List Char) : String :=
  match (s.takeWhile (· == '/')).length with
  | 0 => ""
  | 2 => "//"
  | _ => "/"

def stepsOf (s : List Char) : List String :=
  ((splitOnChar '/' s).map String.ofList).filter fun step => step != "" && step != "."

def ofText (s : String) : Path := ⟨rootOf s.toList, stepsOf s.toList⟩

def text (path : Path) : String :=
  if path.root.isEmpty && path.steps.isEmpty then "."
  else path.root ++ "/".intercalate path.steps

def child (path : Path) (name : String) : Path := ⟨path.root, path.steps ++ [name]⟩

end Path

end RecordTypes
