import Mathlib.Data.List.TakeWhile
import RecordTypes.Command.Run
import RecordTypes.Proofs.Console.Markup
import RecordTypes.Proofs.Files.Folder

/-! The steps of a run and the files they leave. A run stops at the first step that fails. If the
file system fails in none, what is carried out is what comes before the first thing that is said in
markup that is not well-formed, and the fault in that markup is what ends the run. -/

namespace RecordTypes

structure Output where
  path : Path
  text : String

namespace Run

section
variable {r r' : Run} {step : Step}

end

/-! ## All steps -/

end Run

/-! ## Files that are there -/

end RecordTypes
