import Mathlib.Data.List.Basic
import RecordTypes.Text.Words

/-! What is left of a text when it is cut into words: its letters and numbers, all of them and in
order. The cuts before capitals are blanks put in between, so they take nothing away. -/

namespace RecordTypes

theorem openRuns_flatten (p : Char → Bool) (s : List Char) :
    (openRuns p s).1 ++ (openRuns p s).2.flatten = s.filter p ∧ [] ∉ (openRuns p s).2 := by
  induction s with
  | nil => simp [openRuns]
  | cons c rest ih =>
    obtain ⟨hflatten, hne⟩ := ih
    by_cases hc : p c = true
    · simp [openRuns, hc, hflatten, hne]
    · cases hfront : (openRuns p rest).1 with
      | nil => simpa [openRuns, hc, hfront, hne] using hflatten
      | cons d front => simpa [openRuns, hc, hfront, hne] using hflatten

theorem flatten_runs (p : Char → Bool) (s : List Char) : (runs p s).flatten = s.filter p := by
  have hflatten := (openRuns_flatten p s).1
  cases hfront : (openRuns p s).1 with
  | nil => simpa [runs, hfront] using hflatten
  | cons c front => simpa [runs, hfront] using hflatten

theorem nil_not_mem_runs (p : Char → Bool) (s : List Char) : [] ∉ runs p s := by
  have hne := (openRuns_flatten p s).2
  cases hfront : (openRuns p s).1 with
  | nil => simpa [runs, hfront] using hne
  | cons c front => simpa [runs, hfront] using hne

section
variable {p : Char → Bool} (hblank : p ' ' = false)
include hblank

theorem filter_spaceBeforeCapitals (s : List Char) :
    (spaceBeforeCapitals s).filter p = s.filter p := by
  induction s using spaceBeforeCapitals.induct with
  | case1 a b rest hcut ih => simp [spaceBeforeCapitals, hcut, List.filter_cons, hblank, ih]
  | case2 a b rest hcut ih => simp [spaceBeforeCapitals, hcut, List.filter_cons, ih]
  | case3 s hs =>
    rcases s with - | ⟨a, - | ⟨b, rest⟩⟩
    · rfl
    · rfl
    · exact absurd rfl (hs a b rest)

theorem filter_spaceBeforeLastCapital (s : List Char) :
    (spaceBeforeLastCapital s).filter p = s.filter p := by
  induction s using spaceBeforeLastCapital.induct with
  | case1 a b c rest hcut ih => simp [spaceBeforeLastCapital, hcut, List.filter_cons, hblank, ih]
  | case2 a b c rest hcut ih => simp [spaceBeforeLastCapital, hcut, List.filter_cons, ih]
  | case3 s hs =>
    rcases s with - | ⟨a, - | ⟨b, - | ⟨c, rest⟩⟩⟩
    · rfl
    · rfl
    · rfl
    · exact absurd rfl (hs a b c rest)

end

theorem flatten_splitWords (s : List Char) :
    (splitWords s).flatten = s.filter isLetterOrNumber := by
  have hblank : isLetterOrNumber ' ' = false := by decide
  rw [splitWords, flatten_runs, filter_spaceBeforeLastCapital hblank,
    filter_spaceBeforeCapitals hblank]

theorem nil_not_mem_splitWords (s : List Char) : [] ∉ splitWords s := nil_not_mem_runs _ _

theorem joinWith_cons (separator : Char) (word : List Char) (words : List (List Char)) :
    joinWith [separator] (word :: words) = word ++ words.flatMap (separator :: ·) := by
  induction words generalizing word with
  | nil => simp [joinWith]
  | cons next words ih =>
    have hnext := ih next
    rw [joinWith] at hnext
    rw [joinWith, List.intercalate_cons_cons, hnext]
    simp

end RecordTypes
