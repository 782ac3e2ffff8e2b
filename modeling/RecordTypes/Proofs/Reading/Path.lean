import Mathlib.Data.List.Basic
import RecordTypes.Reading.Place

/-! Paths cut in two. What a path says below some value depends on that value alone, so the same
place under another name has the same path but for its beginning. -/

namespace RecordTypes

def Place.text : Place → String
  | .index i => "[" ++ String.ofList (intText i) ++ "]"
  | .key name | .tag name => "." ++ name

/-- What the places of a location add to the path of the value that they start from. -/
def pathTail (raw : Json) : Location → String
  | [] => ""
  | place :: rest =>
    if place.isTypeOf raw then pathTail raw rest
    else
      place.text ++ pathTail ((raw.child? place <|> raw.childFromEnd? place).getD .null) rest

theorem pathFrom_cons {raw child : Json} {place : Place} (htype : place.isTypeOf raw = false)
    (hchild : raw.child? place = some child) (path : String) (rest : Location) :
    pathFrom path raw (place :: rest) = pathFrom (extendPath path place) child rest := by
  simp [pathFrom, htype, hchild]

theorem pathTail_cons {raw child : Json} {place : Place} (htype : place.isTypeOf raw = false)
    (hchild : raw.child? place = some child) (rest : Location) :
    pathTail raw (place :: rest) = place.text ++ pathTail child rest := by
  simp [pathTail, htype, hchild]

theorem extendPath_eq_append {path : String} (h : path.isEmpty = false) (place : Place) :
    extendPath path place = path ++ place.text := by
  cases place <;> simp [extendPath, Place.text, h, String.append_assoc]

theorem isEmpty_append_eq_false {s : String} (h : s.isEmpty = false) (t : String) :
    (s ++ t).isEmpty = false := by
  rw [Bool.eq_false_iff] at h ⊢
  simp only [ne_eq, String.isEmpty_iff] at h ⊢
  intro happend
  have hlist := congrArg String.toList happend
  simp only [String.toList_append, String.toList_empty, List.append_eq_nil_iff] at hlist
  exact h (String.toList_eq_nil_iff.mp hlist.1)

theorem pathFrom_eq_append {path : String} (h : path.isEmpty = false) (raw : Json)
    (location : Location) : pathFrom path raw location = path ++ pathTail raw location := by
  induction location generalizing path raw with
  | nil => simp [pathFrom, pathTail]
  | cons place rest ih =>
    rw [pathFrom, pathTail]
    by_cases htype : place.isTypeOf raw = true
    · rw [if_pos htype, if_pos htype, ih h]
    · rw [if_neg htype, if_neg htype, extendPath_eq_append h,
        ih (isEmpty_append_eq_false h _), String.append_assoc]

theorem pathOf_eq_append {root : String} (h : root.isEmpty = false) (raw : Json)
    (location : Location) : pathOf root raw location = root ++ pathTail raw location := by
  simp only [pathOf, pathFrom_eq_append h, isEmpty_append_eq_false h, Bool.false_eq_true, if_false]

/-- A path that begins in one way, with another beginning in its place. -/
def rebase (old new path : String) : String :=
  new ++ String.ofList (path.toList.drop old.toList.length)

theorem rebase_append (old new tail : String) : rebase old new (old ++ tail) = new ++ tail := by
  simp [rebase]

end RecordTypes
