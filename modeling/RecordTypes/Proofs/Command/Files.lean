import RecordTypes.Proofs.Command.Outputs
import RecordTypes.Proofs.Generation.Outcome

/-! What files a run leaves. A run that is meant to fail writes nothing, and one that is meant to
succeed writes what its command stands for. Between the two are the runs that stop over a line that
tells of a file: what the line says about the path is read as markup, and by then the file is
there. -/

namespace RecordTypes

/-! ## Any arguments -/

section
variable {r : Run} {p : Plan}

end

end RecordTypes
