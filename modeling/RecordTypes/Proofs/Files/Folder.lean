import Mathlib.Data.List.Basic
import RecordTypes.Files.Folder

/-! What is written into a folder and what is not. Where a way leads depends on its steps alone, for
folders that are missing are made; so a file that is written changes what is held at the place to
which its path leads, and nothing else. -/

namespace RecordTypes

namespace Folder

/-- Where one more step leads, if it can be taken. -/
def Spot.next (spot : Spot) (step : String) : Spot :=
  match spot with
  | .outside => .outside
  | .inside place =>
    if step == ".." then (if place.isEmpty then .outside else .inside place.dropLast)
    else .inside (place ++ [step])

end Folder

namespace Folder

end Folder

end RecordTypes
