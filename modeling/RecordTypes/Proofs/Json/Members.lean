import Mathlib.Data.List.Basic
import Mathlib.Data.List.Nodup
import RecordTypes.Reading.Basic

/-! Members of an object after others were put in: those that are found, and those that are new. -/

namespace RecordTypes

namespace Members

theorem find?_cons_self (key : String) (value : Json) (members : Members) :
    find? ((key, value) :: members) key = some value := by
  simp [find?]

theorem find?_cons_of_ne {key other : String} (h : key ≠ other) (value : Json)
    (members : Members) : find? ((other, value) :: members) key = find? members key := by
  simp only [find?, List.lookup_cons, beq_eq_false_iff_ne.mpr h]

theorem find?_insert_of_ne {key other : String} (h : key ≠ other) (members : Members)
    (value : Json) : (members.insert other value).find? key = members.find? key := by
  induction members with
  | nil => exact find?_cons_of_ne h value []
  | cons member members ih =>
    obtain ⟨k, v⟩ := member
    by_cases hk : k = other
    · subst hk
      have hinsert : insert ((k, v) :: members) k value = (k, value) :: members := by
        simp [insert]
      rw [hinsert, find?_cons_of_ne h, find?_cons_of_ne h]
    · have hinsert :
          insert ((k, v) :: members) other value = (k, v) :: insert members other value := by
        simp [insert, hk]
      rw [hinsert]
      by_cases hkey : key = k
      · subst hkey
        rw [find?_cons_self, find?_cons_self]
      · rw [find?_cons_of_ne hkey, find?_cons_of_ne hkey, ih]

theorem find?_insert_self (members : Members) (key : String) (value : Json) :
    (members.insert key value).find? key = some value := by
  induction members with
  | nil => exact find?_cons_self key value []
  | cons member members ih =>
    obtain ⟨k, v⟩ := member
    by_cases hk : k = key
    · subst hk
      have hinsert : insert ((k, v) :: members) k value = (k, value) :: members := by
        simp [insert]
      rw [hinsert, find?_cons_self]
    · have hinsert :
          insert ((k, v) :: members) key value = (k, v) :: insert members key value := by
        simp [insert, hk]
      rw [hinsert, find?_cons_of_ne (Ne.symm hk), ih]

theorem spelled?_of_find? {members : Members} {key : String} {value : Json}
    (h : members.find? key = some value) : members.spelled? key = some value := by
  rw [spelled?, h]

theorem underscored_ne_of_spelled? {members : Members} {key : String} {value : Json}
    (h : members.spelled? key = some value) (hnone : members.find? key = none) :
    underscored key ≠ key := by
  intro heq
  simp [spelled?, heq, hnone] at h

theorem spelling_eq (members : Members) (key : String) :
    members.spelling key = key ∨ members.spelling key = underscored key := by
  rw [spelling]
  split
  · exact .inl rfl
  · exact .inr rfl

theorem find?_spelling {members : Members} {key : String} {value : Json}
    (h : members.spelled? key = some value) :
    members.find? (members.spelling key) = some value := by
  rw [spelling, has]
  cases hfind : members.find? key with
  | some found => exact hfind.trans (spelled?_of_find? hfind ▸ h)
  | none => simpa [spelled?, hfind] using h

theorem spelling_of_same {key : String} (hkey : underscored key = key) (members : Members) :
    members.spelling key = key := by
  rw [spelling, hkey, ite_self]

theorem find?_of_spelled? {members : Members} {key : String} {value : Json}
    (hkey : underscored key = key) (h : members.spelled? key = some value) :
    members.find? key = some value := by
  have hfind := find?_spelling h
  rwa [spelling_of_same hkey] at hfind

theorem spelled?_insert_of_ne {key other : String} (h : key ≠ other)
    (hspelled : underscored key ≠ other) (members : Members) (value : Json) :
    (members.insert other value).spelled? key = members.spelled? key := by
  simp only [spelled?, find?_insert_of_ne h, find?_insert_of_ne hspelled]

theorem spelling_insert_of_ne {key other : String} (h : key ≠ other) (members : Members)
    (value : Json) : (members.insert other value).spelling key = members.spelling key := by
  rw [spelling, spelling, has, has, find?_insert_of_ne h]

theorem insert_of_not_mem {members : Members} {key : String}
    (h : key ∉ members.map Prod.fst) (value : Json) :
    members.insert key value = members ++ [(key, value)] := by
  induction members with
  | nil => rfl
  | cons member members ih =>
    obtain ⟨k, v⟩ := member
    rw [List.map_cons, List.mem_cons, not_or] at h
    rw [insert, if_neg (by simpa using Ne.symm h.1), ih h.2]
    rfl

theorem insert_of_nodup {found members : Members} {key : String} {value : Json}
    (h : ((found ++ (key, value) :: members).map Prod.fst).Nodup) :
    found.insert key value = found ++ [(key, value)] := by
  rw [List.map_append, List.map_cons, List.nodup_middle, List.nodup_cons] at h
  exact insert_of_not_mem (fun hmem => h.1 (List.mem_append_left _ hmem)) value

end Members

end RecordTypes
