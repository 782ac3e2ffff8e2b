import Mathlib.Data.List.Basic

/-! Readers that go through lines from top to bottom. What a reader finds in some lines does not
depend on what comes after them, as long as nothing that is begun in them goes on behind their
end. -/

namespace RecordTypes

variable {Found : Type} {read : List String → List Found}

/-- Whatever comes after the lines, they have what was found. -/
def ReadsAs (read : List String → List Found) (lines : List String) (found : List Found) : Prop :=
  ∀ rest, read (lines ++ rest) = found ++ read rest

theorem ReadsAs.read_eq {lines : List String} {found : List Found} (h : ReadsAs read lines found)
    (hnil : read [] = []) : read lines = found := by
  have hlines := h []
  rwa [List.append_nil, hnil, List.append_nil] at hlines

theorem ReadsAs.append {lines lines' : List String} {found found' : List Found}
    (h : ReadsAs read lines found) (h' : ReadsAs read lines' found') :
    ReadsAs read (lines ++ lines') (found ++ found') := by
  intro rest
  rw [List.append_assoc, h, h', List.append_assoc]

theorem ReadsAs.flatMap {α : Type} {lines : α → List String} {found : α → List Found} {xs : List α}
    (h : ∀ x ∈ xs, ReadsAs read (lines x) (found x)) :
    ReadsAs read (xs.flatMap lines) (xs.flatMap found) := by
  induction xs with
  | nil => exact fun _ => rfl
  | cons x xs ih =>
    obtain ⟨hx, hrest⟩ := List.forall_mem_cons.mp h
    exact hx.append (ih hrest)

theorem ReadsAs.of_passed {lines : List String}
    (h : ∀ line ∈ lines, ∀ rest, read (line :: rest) = read rest) : ReadsAs read lines [] := by
  intro rest
  induction lines with
  | nil => rfl
  | cons line lines ih =>
    obtain ⟨hline, hlines⟩ := List.forall_mem_cons.mp h
    rw [List.cons_append, hline]
    exact ih hlines

end RecordTypes
