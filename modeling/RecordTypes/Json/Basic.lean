/-! JSON values. The members of an object stay in their order, whole numbers are kept apart from
fractions, and the fractions include the values that are not finite. -/

namespace RecordTypes

inductive Json where
  | null
  | bool (b : Bool)
  | int (n : Int)
  | float (x : Float)
  | str (s : String)
  | arr (items : List Json)
  | obj (members : List (String × Json))
  deriving Inhabited

abbrev Members := List (String × Json)

def Members.find? (members : Members) (key : String) : Option Json := members.lookup key

/-- A later value for a key replaces the earlier one in its place. -/
def Members.insert : Members → String → Json → Members
  | [], key, value => [(key, value)]
  | (k, v) :: rest, key, value =>
    if k == key then (k, value) :: rest else (k, v) :: Members.insert rest key value

theorem Members.sizeOf_find?_lt {members : Members} {key : String} {value : Json}
    (h : Members.find? members key = some value) : sizeOf value < sizeOf members := by
  induction members with
  | nil => simp [Members.find?] at h
  | cons member rest ih =>
    obtain ⟨k, v⟩ := member
    simp only [Members.find?, List.lookup_cons] at h
    split at h
    · cases h
      simp only [List.cons.sizeOf_spec, Prod.mk.sizeOf_spec]
      omega
    · have := ih h
      simp only [List.cons.sizeOf_spec]
      omega

end RecordTypes
