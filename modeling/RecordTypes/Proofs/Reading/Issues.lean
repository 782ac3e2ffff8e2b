import Mathlib.Data.List.Forall2
import RecordTypes.Proofs.Json.Members
import RecordTypes.Proofs.Reading.Base

/-! The issues of a value put together from those of its parts: a list has the issues of its items
in order, each at the index of its item. -/

namespace RecordTypes

def Issue.under (place : Place) (issue : Issue) : Issue := ⟨place :: issue.location, issue.fault⟩

namespace Reading

variable {α β : Type}

def issues : Reading α → List Issue
  | .value _ => []
  | .faulty issues => issues

theorem issues_map (f : α → β) (x : Reading α) : (f <$> x).issues = x.issues := by
  cases x <;> rfl

theorem issues_seq (f : Reading (α → β)) (x : Reading α) :
    (f <*> x).issues = f.issues ++ x.issues := by
  cases f with
  | value f => cases x <;> rfl
  | faulty issues =>
    cases x with
    | value a => exact (List.append_nil issues).symm
    | faulty more => rfl

theorem issues_under (place : Place) (x : Reading α) :
    (x.under place).issues = x.issues.map (Issue.under place) := by
  cases x <;> rfl

/-- What is read, or what is wrong without where it is. -/
def outcome : Reading α → Except (List Fault) α
  | .value a => .ok a
  | .faulty issues => .error (issues.map Issue.fault)

theorem outcome_map (f : α → β) (x : Reading α) : (f <$> x).outcome = x.outcome.map f := by
  cases x <;> rfl

theorem outcome_under (place : Place) (x : Reading α) : (x.under place).outcome = x.outcome := by
  cases x with
  | value a => rfl
  | faulty issues => exact congrArg Except.error (List.map_map ..)

theorem outcome_seq_congr {f f' : Reading (α → β)} {x x' : Reading α}
    (hf : f'.outcome = f.outcome) (hx : x'.outcome = x.outcome) :
    (f' <*> x').outcome = (f <*> x).outcome := by
  cases f <;> cases f' <;> cases x <;> cases x' <;> simp_all [outcome, Seq.seq, apply]

theorem outcome_eq_ok_iff {x : Reading α} {a : α} : x.outcome = .ok a ↔ x = .value a := by
  cases x <;> simp [outcome]

theorem under_eq_value_iff {place : Place} {x : Reading α} {a : α} :
    x.under place = .value a ↔ x = .value a := by
  cases x <;> simp [under]

theorem toExcept_eq_ok_iff {root : String} {raw : Json} {x : Reading α} {a : α} :
    x.toExcept root raw = .ok a ↔ x = .value a := by
  cases x <;> simp [toExcept]

end Reading

section
variable {α : Type} {read : Json → Reading α}

theorem readItems_eq_value_iff {index : Nat} {items : List Json} {as : List α} :
    readItems read index items = .value as ↔
      List.Forall₂ (fun item a => read item = .value a) items as := by
  induction items generalizing index as with
  | nil => simp [readItems, eq_comm]
  | cons item items ih =>
    constructor
    · intro h
      obtain ⟨cons, rest, hcons, hrest, rfl⟩ := Reading.seq_eq_value h
      obtain ⟨a, ha, rfl⟩ := Reading.map_eq_value hcons
      exact .cons (Reading.under_eq_value ha) (ih.mp hrest)
    · rintro (_ | ⟨ha, hrest⟩)
      rw [readItems, ha, ih.mpr hrest]
      rfl

theorem exists_items_of_required {key : String} {members : Members} {as : List α}
    (hkey : underscored key = key) (h : required key (readList read) members = .value as) :
    ∃ items, members.find? key = some (.arr items) ∧
      List.Forall₂ (fun item a => read item = .value a) items as := by
  obtain ⟨raw, hraw, hread⟩ := required_eq_value h
  have hfind := Members.find?_of_spelled? hkey hraw
  cases raw with
  | arr items => exact ⟨items, hfind, readItems_eq_value_iff.mp hread⟩
  | _ => cases hread

theorem exists_items_of_toExcept {key model root : String} {raw : Json} {as : List α}
    (hkey : underscored key = key)
    (h : (readModel model (required key (readList read)) raw).toExcept root raw = .ok as) :
    ∃ (members : Members) (items : List Json), raw = .obj members ∧
      members.find? key = some (.arr items) ∧
      List.Forall₂ (fun item a => read item = .value a) items as := by
  have hread := Reading.toExcept_eq_ok_iff.mp h
  cases raw with
  | obj members =>
    obtain ⟨items, hitems, hall⟩ := exists_items_of_required hkey hread
    exact ⟨members, items, rfl, hitems, hall⟩
  | _ => cases hread

theorem issues_readItems (index : Nat) (items : List Json) :
    (readItems read index items).issues =
      (items.zipIdx index).flatMap fun p => (read p.1).issues.map (Issue.under (.index p.2)) := by
  induction items generalizing index with
  | nil => rfl
  | cons item items ih =>
    rw [readItems, Reading.issues_seq, Reading.issues_map, Reading.issues_under, ih]
    rfl

end

end RecordTypes
