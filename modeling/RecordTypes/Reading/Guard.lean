import RecordTypes.Metadata.FieldType
import RecordTypes.Reading.Basic

/-! How deep descriptors of fields may lie in each other. This is up to the reader, which may count
some types and not others; all that is known of it is that it opens a descriptor wherever it opens
one of the same type that lies deeper. -/

namespace RecordTypes

/-- The types that are opened at a depth, and what is said of the others. The depth counts the
descriptors around one. -/
structure Guard where
  admits : Nat → FieldType → Bool
  refusal : String
  admits_of_succ (depth : Nat) (type : FieldType) (h : admits (depth + 1) type = true) :
    admits depth type = true

namespace Guard

/-- The same guard seen from one descriptor further down. -/
def below (guard : Guard) : Guard where
  admits depth := guard.admits (depth + 1)
  refusal := guard.refusal
  admits_of_succ depth := guard.admits_of_succ (depth + 1)

def opens (guard : Guard) (type : FieldType) : Bool := guard.admits 0 type

theorem opens_of_below {guard : Guard} {type : FieldType} (h : guard.below.opens type = true) :
    guard.opens type = true :=
  guard.admits_of_succ 0 type h

def opening {α : Type} (guard : Guard) (type : FieldType) (reading : Reading α) : Reading α :=
  if guard.opens type then reading else .fault (.refused guard.refusal)

end Guard

/-- Whether no other type has the same form of options. -/
def FieldType.isAlone : FieldType → Bool
  | .temporal _ | .duration | .rating => true
  | .basic _ | .number _ | .timestamp _ | .computed _ | .choice _ => false

def longestWay : Nat := 255

/-- A way into results takes a step for every choice by a `type` and one for every form of options
that several types share. -/
def Guard.standard : Guard where
  admits depth type := decide (2 * depth + (if type.isAlone then 1 else 2) ≤ longestWay)
  refusal := "Recursion error - maximum validation depth exceeded"
  admits_of_succ depth type h := by
    simp only [decide_eq_true_eq] at h ⊢
    omega

end RecordTypes
