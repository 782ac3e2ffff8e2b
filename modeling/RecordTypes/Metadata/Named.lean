/-! Finite vocabularies: types whose values are known by a name each, in a fixed order. -/

namespace RecordTypes

class Named (α : Type) where
  all : List α
  name : α → String

def Named.ofName? {α : Type} [Named α] (s : String) : Option α :=
  (all : List α).find? fun a => Named.name a == s

def Named.names (α : Type) [Named α] : List String := (all : List α).map Named.name

end RecordTypes
