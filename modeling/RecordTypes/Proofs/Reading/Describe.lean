import RecordTypes.Proofs.Metadata.Field
import RecordTypes.Proofs.Reading.Edit
import RecordTypes.Proofs.Reading.Lead
import RecordTypes.Proofs.Value.Chain

/-! Readers described by a slot: of the edits that the slot allows they notice nothing but where
something is, and what they find wrong lies where the slot leads. Both hold of each reader once they
hold of its parts. -/

namespace RecordTypes

/-! ## Readers of values without parts -/

/-- What is wrong is wrong with the value as a whole. -/
def Reading.IsWhole {α : Type} (x : Reading α) : Prop := ∀ issue ∈ x.issues, issue.location = []

namespace Reading

variable {α β : Type}

theorem isWhole_value (a : α) : (value a).IsWhole := nofun

theorem isWhole_fault (f : Fault) : (fault f : Reading α).IsWhole := by
  intro issue hissue
  obtain rfl : issue = ⟨[], f⟩ := List.mem_singleton.mp hissue
  rfl

theorem IsWhole.map {x : Reading α} (h : x.IsWhole) (f : α → β) : (x.map f).IsWhole := by
  cases x with
  | value a => exact isWhole_value (f a)
  | faulty issues => exact h

theorem IsWhole.check {x : Reading α} (h : x.IsWhole) {f : α → Reading β}
    (hf : ∀ a, (f a).IsWhole) : (x.check f).IsWhole := by
  cases x with
  | value a => exact hf a
  | faulty issues => exact h

end Reading

open Reading

theorem isWhole_readText (raw : Json) : (readText raw).IsWhole := by
  cases raw with
  | str s => exact isWhole_value s
  | _ => exact isWhole_fault _

theorem isWhole_readName {α : Type} [Named α] (raw : Json) : (readName α raw).IsWhole := by
  cases raw with
  | str s =>
    rw [readName]
    cases (Named.ofName? s : Option α) with
    | some a => exact isWhole_value a
    | none => exact isWhole_fault _
  | _ => exact isWhole_fault _

theorem isWhole_readMembers (raw : Json) : (readMembers raw).IsWhole := by
  cases raw with
  | obj members => exact isWhole_value members
  | _ => exact isWhole_fault _

theorem isWhole_readDigits (s : List Char) : (readDigits s).IsWhole := by
  simp only [readDigits]
  split
  · exact isWhole_value 0
  split
  · exact isWhole_fault _
  split
  · exact isWhole_fault _
  split
  · exact isWhole_fault _
  · exact isWhole_value _

theorem isWhole_readIntegerText (s : List Char) : (readIntegerText s).IsWhole := by
  rw [readIntegerText]
  cases plainNumeral? s with
  | none => exact isWhole_fault _
  | some numeral =>
    dsimp only [readNumeral]
    split <;> exact (isWhole_readDigits _).map _

theorem isWhole_readIntegerFloat (x : Float) : (readIntegerFloat x).IsWhole := by
  rw [readIntegerFloat]
  split
  · cases wholeValue? x with
    | none => exact isWhole_fault _
    | some n =>
      dsimp only
      split
      · exact isWhole_value n
      · exact isWhole_fault _
  · exact isWhole_fault _

theorem isWhole_readWithin (least greatest : Nat) (raw : Json) :
    (readWithin least greatest raw).IsWhole := by
  have hread : (readInteger raw).IsWhole := by
    cases raw with
    | int n => exact isWhole_value n
    | bool b => exact isWhole_value _
    | float x => exact isWhole_readIntegerFloat x
    | str s => exact isWhole_readIntegerText s.toList
    | _ => exact isWhole_fault _
  refine hread.check fun n => ?_
  split
  · exact isWhole_fault _
  split
  · exact isWhole_fault _
  · exact isWhole_value _

/-! ## What is read at a key -/

section
variable {α : Type} (key : String) (read : Json → Reading α) (members : Members)

theorem outcome_required :
    (required key read members).outcome =
      ((members.spelled? key).map fun raw => (read raw).outcome).getD (.error [.missing]) := by
  unfold required
  cases members.spelled? key with
  | none => rfl
  | some raw => exact Reading.outcome_under _ _

theorem outcome_withDefault (default : α) :
    (withDefault key default read members).outcome =
      ((members.spelled? key).map fun raw => (read raw).outcome).getD (.ok default) := by
  unfold withDefault
  cases members.spelled? key with
  | none => rfl
  | some raw => exact Reading.outcome_under _ _

end

/-! ## Slots and the readers they describe -/

structure Slot.Describes {α : Type} (slot : Slot) (read : Json → Reading α) (raw : Json) :
    Prop where
  unnoticed : ∀ edited, slot.Edited raw edited → (read edited).outcome = (read raw).outcome
  leads : ∀ issue ∈ (read raw).issues, slot.Leads raw issue.location

structure Model.Describes {α : Type} (m : Model) (read : Members → Reading α)
    (members : Members) : Prop where
  unnoticed : ∀ edited, m.Alike members edited → (read edited).outcome = (read members).outcome
  leads : ∀ issue ∈ (read members).issues, (Slot.model m).Leads (.obj members) issue.location

section
variable {α β : Type} {raw : Json}

theorem Slot.describes_plain {read : Json → Reading α} (h : ∀ raw, (read raw).IsWhole)
    (raw : Json) : plain.Describes read raw where
  unnoticed := nofun
  leads issue hissue := by
    rw [h raw issue hissue]
    exact .here plain raw

theorem Slot.Describes.readOrNull {slot : Slot} {read : Json → Reading α}
    (h : slot.Describes read raw) : slot.Describes (readOrNull read) raw where
  unnoticed edited hedited := by
    obtain ⟨hraw, hedited'⟩ := hedited.ne_null
    rw [readOrNull_of_ne hraw, readOrNull_of_ne hedited', outcome_map, outcome_map,
      h.unnoticed edited hedited]
  leads issue hissue := by
    by_cases hraw : raw = .null
    · subst hraw
      cases hissue
    · rw [readOrNull_of_ne hraw, issues_map] at hissue
      exact h.leads issue hissue

theorem outcome_readItems_congr {read : Json → Reading α} {items edited : List Json}
    (h : edited.map (fun item => (read item).outcome) = items.map fun item => (read item).outcome)
    (index : Nat) :
    (readItems read index edited).outcome = (readItems read index items).outcome := by
  induction items generalizing index edited with
  | nil =>
    obtain rfl := List.map_eq_nil_iff.mp h
    rfl
  | cons item items ih =>
    obtain ⟨item', edited', rfl, hitem, hrest⟩ := List.map_eq_cons_iff.mp h
    refine outcome_seq_congr ?_ (ih hrest (index + 1))
    rw [outcome_map, outcome_map, outcome_under, outcome_under, hitem]

theorem Slot.describes_list {m : Model} {read : Json → Reading α}
    (h : ∀ item, ∀ items, raw = .arr items → item ∈ items → (Slot.model m).Describes read item) :
    (Slot.list m).Describes (readList read) raw where
  unnoticed edited hedited := by
    cases hedited with
    | @item _ items i old new hitem hnew =>
      have hmem := List.mem_of_getElem? hitem
      have hsame := (h old items rfl hmem).unnoticed new hnew
      refine outcome_readItems_congr ?_ 0
      rw [List.map_set, hsame]
      refine List.ext_getElem? fun j => ?_
      by_cases hj : i = j
      · subst hj
        obtain ⟨hi, -⟩ := List.getElem?_eq_some_iff.mp hitem
        rw [List.getElem?_set_self (by simpa using hi), List.getElem?_map, hitem, Option.map_some]
      · rw [List.getElem?_set_ne hj]
  leads issue hissue := by
    cases raw with
    | arr items =>
      rw [readList, issues_readItems] at hissue
      obtain ⟨⟨item, i⟩, hitem, hissue⟩ := List.mem_flatMap.mp hissue
      obtain ⟨inner, hinner, rfl⟩ := List.mem_map.mp hissue
      have hfound := List.mk_mem_zipIdx_iff_getElem?.mp hitem
      have hmem := List.mem_of_getElem? hfound
      exact .item hfound ((h item items rfl hmem).leads inner hinner)
    | _ =>
      rw [isWhole_fault _ issue hissue]
      exact .here _ _

theorem Slot.describes_model {m : Model} {read : Members → Reading α}
    (h : ∀ members, raw = .obj members → m.Describes read members) (name : String) :
    (Slot.model m).Describes (readModel name read) raw where
  unnoticed edited hedited := by
    cases raw with
    | obj members =>
      obtain ⟨members', rfl, halike⟩ := hedited.alike
      exact (h members rfl).unnoticed members' halike
    | _ => cases hedited
  leads issue hissue := by
    cases raw with
    | obj members => exact (h members rfl).leads issue hissue
    | _ =>
      rw [isWhole_fault _ issue hissue]
      exact .here _ _

end

namespace Model

variable {α β : Type} {m : Model} {members : Members}

theorem Describes.map {read : Members → Reading α} (h : m.Describes read members) (f : α → β) :
    m.Describes (fun ms => f <$> read ms) members where
  unnoticed edited halike := by rw [outcome_map, outcome_map, h.unnoticed edited halike]
  leads issue hissue := by
    rw [issues_map] at hissue
    exact h.leads issue hissue

theorem Describes.seq {f : Members → Reading (α → β)} {read : Members → Reading α}
    (hf : m.Describes f members) (h : m.Describes read members) :
    m.Describes (fun ms => f ms <*> read ms) members where
  unnoticed edited halike :=
    outcome_seq_congr (hf.unnoticed edited halike) (h.unnoticed edited halike)
  leads issue hissue := by
    rw [issues_seq, List.mem_append] at hissue
    exact hissue.elim (hf.leads issue) (h.leads issue)

section
variable {key : String} {slot : Slot} {read : Json → Reading α}
  (hpart : (key, slot) ∈ m.parts members)
  (h : ∀ raw, members.spelled? key = some raw → slot.Describes read raw)
include hpart h

theorem Alike.map_spelled?_eq {edited : Members} (halike : m.Alike members edited) :
    ((edited.spelled? key).map fun raw => (read raw).outcome) =
      (members.spelled? key).map fun raw => (read raw).outcome := by
  obtain hsame | ⟨raw, raw', hraw, hraw', hedited⟩ := halike key slot hpart
  · rw [hsame]
  · rw [hraw, hraw', Option.map_some, Option.map_some, (h raw hraw).unnoticed raw' hedited]

theorem leads_part {raw : Json} (hraw : members.spelled? key = some raw) {issue : Issue}
    (hissue : issue ∈ ((read raw).under (.key (members.spelling key))).issues) :
    (Slot.model m).Leads (.obj members) issue.location := by
  rw [issues_under] at hissue
  obtain ⟨inner, hinner, rfl⟩ := List.mem_map.mp hissue
  exact .part hpart hraw ((h raw hraw).leads inner hinner)

theorem describes_required : m.Describes (required key read) members where
  unnoticed edited halike := by
    rw [outcome_required, outcome_required, halike.map_spelled?_eq hpart h]
  leads issue hissue := by
    unfold required at hissue
    cases hraw : members.spelled? key with
    | some raw =>
      rw [hraw] at hissue
      exact leads_part hpart h hraw hissue
    | none =>
      rw [hraw] at hissue
      obtain rfl : issue = ⟨[.key key], .missing⟩ := List.mem_singleton.mp hissue
      exact .absent hpart hraw

theorem describes_withDefault (default : α) : m.Describes (withDefault key default read) members where
  unnoticed edited halike := by
    rw [outcome_withDefault, outcome_withDefault, halike.map_spelled?_eq hpart h]
  leads issue hissue := by
    unfold withDefault at hissue
    cases hraw : members.spelled? key with
    | some raw =>
      rw [hraw] at hissue
      exact leads_part hpart h hraw hissue
    | none =>
      rw [hraw] at hissue
      cases hissue

theorem describes_optional : m.Describes (optional key read) members :=
  describes_withDefault hpart (fun raw hraw => (h raw hraw).readOrNull) none

end

end Model

end RecordTypes
