import RecordTypes.Proofs.Json.Members
import RecordTypes.Proofs.Reading.Model

/-! Edits of a document that leave all declared keys with what they hold: keys that no model
declares come and go, and declared keys change their spelling. -/

namespace RecordTypes

/-- One key of an object changes. It is either none of the declared keys, in neither spelling, or a
declared key that takes its spelling with underscores while this one is free. -/
inductive KeyEdit (keys : List String) (members edited : Members) : Prop where
  | undeclared (key : String) (hkey : key ∉ keys) (hspelled : key ∉ keys.map underscored)
      (hothers : ∀ k, k ≠ key → edited.find? k = members.find? k)
  | respelled (key : String) (hkey : key ∈ keys)
      (hfree : members.find? (underscored key) = none) (hold : edited.find? key = none)
      (hnew : edited.find? (underscored key) = members.find? key)
      (hothers : ∀ k, k ≠ key → k ≠ underscored key → edited.find? k = members.find? k)

/-- An edit of the keys of one object that is read as a model, at any depth. -/
inductive Slot.Edited : Slot → Json → Json → Prop where
  | keys {m : Model} {members edited : Members} (h : KeyEdit m.keys members edited) :
      Edited (.model m) (.obj members) (.obj edited)
  | part {m : Model} {members : Members} {key : String} {slot : Slot} {raw edited : Json}
      (hpart : (key, slot) ∈ m.parts members) (hraw : members.spelled? key = some raw)
      (h : Edited slot raw edited) :
      Edited (.model m) (.obj members) (.obj (members.insert (members.spelling key) edited))
  | item {m : Model} {items : List Json} {i : Nat} {raw edited : Json}
      (hitem : items[i]? = some raw) (h : Edited (.model m) raw edited) :
      Edited (.list m) (.arr items) (.arr (items.set i edited))

theorem Slot.Edited.ne_null {slot : Slot} {raw edited : Json} (h : slot.Edited raw edited) :
    raw ≠ .null ∧ edited ≠ .null := by
  cases h <;> exact ⟨nofun, nofun⟩

/-! ## What is found at the declared keys -/

/-- What is found at a key is the same, or one is an edit of the other. -/
def Slot.Alike (slot : Slot) (found edited : Option Json) : Prop :=
  edited = found ∨ ∃ raw raw', found = some raw ∧ edited = some raw' ∧ slot.Edited raw raw'

def Model.Alike (m : Model) (members edited : Members) : Prop :=
  ∀ key slot, (key, slot) ∈ m.parts members →
    slot.Alike (members.spelled? key) (edited.spelled? key)

theorem KeyEdit.spelled?_eq {m : Model} {members edited : Members}
    (h : KeyEdit m.keys members edited) {key : String} (hkey : key ∈ m.keys) :
    edited.spelled? key = members.spelled? key := by
  cases h with
  | undeclared other hother hspelled hothers =>
    have hne : key ≠ other := fun heq => hother (heq ▸ hkey)
    have hne' : underscored key ≠ other := fun heq => hspelled (heq ▸ List.mem_map_of_mem hkey)
    simp only [Members.spelled?, hothers key hne, hothers _ hne']
  | respelled other hother hfree hold hnew hothers =>
    by_cases heq : key = other
    · subst heq
      have hspelled : members.spelled? key = members.find? key := by
        simp only [Members.spelled?, hfree]
        cases members.find? key <;> rfl
      rw [hspelled]
      simp only [Members.spelled?, hold, hnew]
    · obtain ⟨-, hne, hne', hne''⟩ := Model.spelledApart hkey hother heq
      simp only [Members.spelled?, hothers key heq hne', hothers _ hne hne'']

theorem KeyEdit.alike {m : Model} {members edited : Members}
    (h : KeyEdit m.keys members edited) : m.Alike members edited :=
  fun _ _ hpart => .inl (h.spelled?_eq (Model.key_mem_keys hpart))

theorem Members.spelled?_insert_spelling {members : Members} {key : String} {raw : Json}
    (h : members.spelled? key = some raw) (value : Json) :
    (members.insert (members.spelling key) value).spelled? key = some value := by
  by_cases hkey : members.has key = true
  · rw [spelling, if_pos hkey, spelled?, find?_insert_self]
  · have hnone : members.find? key = none := by simpa [has] using hkey
    have hne := (underscored_ne_of_spelled? h hnone).symm
    rw [spelling, if_neg hkey, spelled?, find?_insert_of_ne hne, hnone, find?_insert_self]

theorem Members.spelled?_insert_spelling_of_apart {key other : String}
    (h : SpelledApart key other) (members : Members) (value : Json) :
    (members.insert (members.spelling other) value).spelled? key = members.spelled? key := by
  obtain ⟨hne, hne', hne'', hne'''⟩ := h
  obtain hother | hother := members.spelling_eq other <;> rw [hother]
  · exact spelled?_insert_of_ne hne hne' members value
  · exact spelled?_insert_of_ne hne'' hne''' members value

theorem Model.alike_insert {m : Model} {members : Members} {key : String} {slot : Slot}
    {raw edited : Json} (hpart : (key, slot) ∈ m.parts members)
    (hraw : members.spelled? key = some raw) (h : slot.Edited raw edited) :
    m.Alike members (members.insert (members.spelling key) edited) := by
  intro other slot' hother
  by_cases heq : other = key
  · subst heq
    obtain rfl := Model.slot_unique hpart hother
    exact .inr ⟨raw, edited, hraw, Members.spelled?_insert_spelling hraw edited, h⟩
  · have hapart := Model.spelledApart (Model.key_mem_keys hother) (Model.key_mem_keys hpart) heq
    exact .inl (Members.spelled?_insert_spelling_of_apart hapart members edited)

theorem Slot.Edited.alike {m : Model} {members : Members} {edited : Json}
    (h : (Slot.model m).Edited (.obj members) edited) :
    ∃ members', edited = .obj members' ∧ m.Alike members members' := by
  cases h with
  | keys h => exact ⟨_, rfl, h.alike⟩
  | part hpart hraw h => exact ⟨_, rfl, Model.alike_insert hpart hraw h⟩

end RecordTypes
