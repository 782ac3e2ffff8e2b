import Mathlib.Data.List.Basic
import RecordTypes.Value.Field

/-! The choices of selections, each once. What is erased from a list comes again in it, so that what
is left has the order of the first occurrences. -/

namespace RecordTypes

/-! ## First occurrences -/

theorem idxOf_lt_of_filter {α : Type} [DecidableEq α] (p : α → Bool) {xs : List α} {x y : α}
    (hy : p y = true) (h : (xs.filter p).idxOf x < (xs.filter p).idxOf y) :
    xs.idxOf x < xs.idxOf y := by
  induction xs with
  | nil => simp at h
  | cons a xs ih =>
    by_cases hxa : x = a
    · subst hxa
      have hya : x ≠ y := by
        rintro rfl
        exact Nat.lt_irrefl _ h
      rw [List.idxOf_cons_self, List.idxOf_cons_ne xs hya]
      exact Nat.succ_pos _
    · have hya : a ≠ y := by
        rintro rfl
        rw [List.filter_cons_of_pos hy, List.idxOf_cons_self] at h
        exact Nat.not_lt_zero _ h
      rw [List.idxOf_cons_ne xs (Ne.symm hxa), List.idxOf_cons_ne xs hya]
      refine Nat.succ_lt_succ (ih ?_)
      by_cases ha : p a = true
      · rw [List.filter_cons_of_pos ha, List.idxOf_cons_ne _ (Ne.symm hxa),
          List.idxOf_cons_ne _ hya] at h
        exact Nat.lt_of_succ_lt_succ h
      · rwa [List.filter_cons_of_neg ha] at h

theorem pairwise_eraseDups {α : Type} [DecidableEq α] (xs : List α) :
    xs.eraseDups.Pairwise fun x y => xs.idxOf x < xs.idxOf y := by
  induction hn : xs.length using Nat.strongRecOn generalizing xs with
  | ind n ih =>
    cases xs with
    | nil => simp
    | cons a xs =>
      have hshort : (xs.filter fun b => !b == a).length < n := by
        have hh := List.length_filter_le (fun b => !b == a) xs
        simp only [List.length_cons] at hn
        omega
      have hne : ∀ x ∈ (xs.filter fun b => !b == a).eraseDups, a ≠ x := by
        rintro x hx rfl
        have hself := (List.mem_filter.mp (List.mem_eraseDups.mp hx)).2
        simp at hself
      rw [List.eraseDups_cons]
      refine List.Pairwise.cons (fun x hx => ?_) ?_
      · rw [List.idxOf_cons_self, List.idxOf_cons_ne xs (hne x hx)]
        exact Nat.succ_pos _
      · refine (ih _ hshort _ rfl).imp_of_mem fun {x y} hx hy hxy => ?_
        have hpy : (!y == a) = true := by simpa using (hne y hy).symm
        rw [List.idxOf_cons_ne xs (hne x hx), List.idxOf_cons_ne xs (hne y hy)]
        exact Nat.succ_lt_succ (idxOf_lt_of_filter (fun b => !b == a) hpy hxy)

/-- Everything that the first list has, once, in the order of the first occurrences. -/
structure ListsOnce {α : Type} [DecidableEq α] (xs once : List α) : Prop where
  mem_iff : ∀ x, x ∈ once ↔ x ∈ xs
  order : once.Pairwise fun x y => xs.idxOf x < xs.idxOf y

theorem listsOnce_eraseDups {α : Type} [DecidableEq α] (xs : List α) :
    ListsOnce xs xs.eraseDups where
  mem_iff _ := List.mem_eraseDups
  order := pairwise_eraseDups xs

/-! ## Selections -/

/-- A field whose cells hold one of the choices, or several of them. -/
def Field.SelectsFrom (field : Field) (choices : List Choice) : Prop :=
  ∃ heading, field = .plain heading (.choice .singleSelect choices) ∨
    field = .plain heading (.choice .multipleSelects choices)

theorem Field.SelectsFrom.choiceNames_eq {field : Field} {choices : List Choice}
    (h : field.SelectsFrom choices) : field.choiceNames = distinctNames choices := by
  obtain ⟨heading, rfl | rfl⟩ := h <;> rfl

theorem distinctNames_ne_nil {choices : List Choice} (h : choices ≠ []) :
    distinctNames choices ≠ [] := by
  obtain ⟨first, rest, rfl⟩ := List.exists_cons_of_ne_nil h
  rw [distinctNames, List.map_cons, List.eraseDups_cons]
  exact List.cons_ne_nil _ _

theorem Field.hasEnumeration_iff (field : Field) :
    field.hasEnumeration = true ↔ ∃ choices, field.SelectsFrom choices ∧ choices ≠ [] := by
  have hnames : field.hasEnumeration = true ↔ field.choiceNames ≠ [] := by
    simp [Field.hasEnumeration]
  rw [hnames]
  constructor
  · intro hne
    cases field with
    | computed => exact absurd rfl hne
    | plain heading shape =>
      cases shape with
      | choice type choices =>
        have hchoices : choices ≠ [] := by
          rintro rfl
          cases type <;> exact absurd rfl hne
        cases type with
        | singleSelect => exact ⟨choices, ⟨heading, Or.inl rfl⟩, hchoices⟩
        | multipleSelects => exact ⟨choices, ⟨heading, Or.inr rfl⟩, hchoices⟩
        | externalSyncSource => exact absurd rfl hne
      | _ => exact absurd rfl hne
  · rintro ⟨choices, hselects, hne⟩
    rw [hselects.choiceNames_eq]
    exact distinctNames_ne_nil hne

end RecordTypes
