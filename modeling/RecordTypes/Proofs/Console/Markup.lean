import Mathlib.Data.List.TakeWhile
import RecordTypes.Console.Markup

/-! Which texts are well-formed markup. Only the tags in a text tell, and a text without an opening
bracket has none, whatever stands before and after it. -/

namespace RecordTypes

end RecordTypes
