import RecordTypes.Proofs.Code.IdentifierChar
import RecordTypes.Proofs.Text.NameChar
import RecordTypes.Proofs.Text.Words

/-! Which names make identifiers. The name of a type is made of the letters and numbers of the name
that people chose, so it is an identifier of a language if these may all stand in one, where an
underscore makes up for a digit at the front. -/

namespace RecordTypes

namespace Language

/-- Every character stands where an identifier may have it. The text may be empty. -/
structure Admits (language : Language) (s : List Char) : Prop where
  start : ∀ c ∈ s.head?, language.isIdentifierStart c = true
  parts : ∀ c ∈ s, language.isIdentifierPart c = true

theorem admits_iff (language : Language) (s : List Char) :
    (s.head?.all language.isIdentifierStart && s.all language.isIdentifierPart) = true ↔
      language.Admits s := by
  rw [Bool.and_eq_true, Option.all_eq_true, List.all_eq_true]
  exact ⟨fun h => ⟨h.1, h.2⟩, fun h => ⟨h.start, h.parts⟩⟩

instance (language : Language) (s : List Char) : Decidable (language.Admits s) :=
  decidable_of_iff _ (admits_iff language s)

/-- An identifier that has a meaning of its own in Python names nothing else there. -/
structure IsIdentifier (language : Language) (name : String) : Prop where
  nonempty : name ≠ ""
  admitted : language.Admits name.toList
  unreserved : language = .python → name ∉ keywords

instance (language : Language) (name : String) : Decidable (language.IsIdentifier name) :=
  decidable_of_iff (name ≠ "" ∧ language.Admits name.toList ∧
      (language = .python → name ∉ keywords))
    ⟨fun h => ⟨h.1, h.2.1, h.2.2⟩, fun h => ⟨h.nonempty, h.admitted, h.unreserved⟩⟩

/-- The letters and numbers of a text may all stand in an identifier, and the first one may begin
it unless it is a digit. -/
structure Keeps (language : Language) (s : List Char) : Prop where
  start : ∀ c ∈ s.find? isLetterOrNumber,
    isDigitChar c = true ∨ language.isIdentifierStart c = true
  parts : ∀ c ∈ s, isLetterOrNumber c = true → language.isIdentifierPart c = true

theorem keeps_iff (language : Language) (s : List Char) :
    ((s.find? isLetterOrNumber).all (fun c => isDigitChar c || language.isIdentifierStart c) &&
      s.all fun c => !isLetterOrNumber c || language.isIdentifierPart c) = true ↔
      language.Keeps s := by
  rw [Bool.and_eq_true, Option.all_eq_true, List.all_eq_true]
  constructor
  · rintro ⟨hstart, hparts⟩
    refine ⟨fun c hc => by simpa using hstart c hc, fun c hc hletter => ?_⟩
    simpa [hletter] using hparts c hc
  · intro h
    refine ⟨fun c hc => by simpa using h.start c hc, fun c hc => ?_⟩
    cases hletter : isLetterOrNumber c with
    | false => rfl
    | true => exact h.parts c hc hletter

instance (language : Language) (s : List Char) : Decidable (language.Keeps s) :=
  decidable_of_iff _ (keeps_iff language s)

theorem Keeps.of_letterless (language : Language) {s : List Char}
    (h : ∀ c ∈ s, isLetterOrNumber c = false) : language.Keeps s := by
  constructor
  · intro c hc
    have hletter := List.find?_some hc
    rw [h c (List.mem_of_find?_eq_some hc)] at hletter
    cases hletter
  · intro c hc hletter
    rw [h c hc] at hletter
    cases hletter

theorem IsIdentifier.not_startsWithDigit {language : Language} {name : String}
    (h : language.IsIdentifier name) : startsWithDigit name.toList = false := by
  cases hchars : name.toList with
  | nil => rfl
  | cons c rest =>
    exact language.not_isDigitChar_of_start (h.admitted.start c (by simp [hchars]))

theorem Admits.append_iff {language : Language} {s t : List Char} (hs : s ≠ []) :
    language.Admits (s ++ t) ↔
      language.Admits s ∧ ∀ c ∈ t, language.isIdentifierPart c = true := by
  obtain ⟨c, rest, rfl⟩ := List.exists_cons_of_ne_nil hs
  constructor
  · intro h
    obtain ⟨hparts, hmore⟩ := List.forall_mem_append.mp h.parts
    exact ⟨⟨h.start, hparts⟩, hmore⟩
  · rintro ⟨h, hmore⟩
    exact ⟨h.start, List.forall_mem_append.mpr ⟨h.parts, hmore⟩⟩

end Language

/-! ## Words -/

theorem exists_lowerFrom_cons {c : Char} (hc : IsLetterChange c (lowerChar c)) (afterCased : Bool)
    (rest : List Char) : ∃ form later,
      lowerFrom afterCased (c :: rest) = form ++ lowerFrom later rest ∧ IsLetterChange c form := by
  refine ⟨_, _, rfl, ?_⟩
  split
  · rename_i hsigma
    rw [beq_iff_eq.mp hsigma]
    split
    · exact isLetterChange_sigma (Or.inr rfl)
    · exact isLetterChange_sigma (Or.inl rfl)
  · exact hc

section
variable (language : Language)

theorem IsLetterChange.parts_iff {c : Char} {s : List Char} (h : IsLetterChange c s) :
    (∀ d ∈ s, language.isIdentifierPart d = true) ↔ language.isIdentifierPart c = true := by
  rcases h with rfl | ⟨hc, hs⟩
  · simp
  · have hparts := isStablePart_of_isSpelling hs
    exact iff_of_true (fun d hd => language.isIdentifierPart_of_stable (hparts d hd))
      (language.isIdentifierPart_of_stable (isStablePart_of_start hc))

theorem lowerFrom_parts_iff {s : List Char} (hs : ∀ c ∈ s, IsLetterChange c (lowerChar c))
    (afterCased : Bool) :
    (∀ d ∈ lowerFrom afterCased s, language.isIdentifierPart d = true) ↔
      ∀ c ∈ s, language.isIdentifierPart c = true := by
  induction s generalizing afterCased with
  | nil => simp [lowerFrom]
  | cons c rest ih =>
    obtain ⟨hc, hrest⟩ := List.forall_mem_cons.mp hs
    obtain ⟨form, later, hlower, hform⟩ := exists_lowerFrom_cons hc afterCased rest
    rw [hlower, List.forall_mem_append, List.forall_mem_cons, ih hrest, hform.parts_iff language]

theorem capitalized_parts_iff {word : List Char} (hword : ∀ c ∈ word, isLetterOrNumber c = true) :
    (∀ d ∈ capitalized word, language.isIdentifierPart d = true) ↔
      ∀ c ∈ word, language.isIdentifierPart c = true := by
  cases word with
  | nil => simp [capitalized]
  | cons c rest =>
    obtain ⟨hc, hrest⟩ := List.forall_mem_cons.mp hword
    rw [capitalized, List.forall_mem_append, List.forall_mem_cons, lower,
      lowerFrom_parts_iff language fun d hd => isLetterChange_lowerChar (hrest d hd),
      (isLetterChange_upperChar hc).parts_iff language]

theorem pascalCase_parts_iff (s : List Char) :
    (∀ d ∈ pascalCase s, language.isIdentifierPart d = true) ↔
      ∀ c ∈ s, isLetterOrNumber c = true → language.isIdentifierPart c = true := by
  have hwords : (∀ d ∈ (splitWords s).flatMap capitalized,
      language.isIdentifierPart d = true) ↔
      ∀ word ∈ splitWords s, ∀ c ∈ word, language.isIdentifierPart c = true := by
    rw [List.forall_mem_flatMap]
    exact forall₂_congr fun word hword => capitalized_parts_iff language (runs_all hword)
  have hletters : (∀ word ∈ splitWords s, ∀ c ∈ word, language.isIdentifierPart c = true) ↔
      ∀ c ∈ s, isLetterOrNumber c = true → language.isIdentifierPart c = true := by
    rw [← List.forall_mem_flatten, flatten_splitWords]
    simp only [List.mem_filter, and_imp]
  rw [← hletters, ← hwords, pascalCase]
  split
  · simp [language.isIdentifierPart_underscore]
  · rfl

end

theorem splitWords_of_find? {s : List Char} {c : Char} (h : s.find? isLetterOrNumber = some c) :
    ∃ rest words, splitWords s = (c :: rest) :: words := by
  have hflatten := flatten_splitWords s
  rw [← List.head?_filter, ← hflatten] at h
  cases hwords : splitWords s with
  | nil => simp [hwords] at h
  | cons word words =>
    cases word with
    | nil =>
      have hne := nil_not_mem_splitWords s
      simp [hwords] at hne
    | cons d rest =>
      rw [hwords] at h
      simp only [List.flatten_cons, List.cons_append, List.head?_cons, Option.some.injEq] at h
      exact ⟨rest, words, by rw [h]⟩

theorem splitWords_of_find?_eq_none {s : List Char} (h : s.find? isLetterOrNumber = none) :
    splitWords s = [] := by
  have hflatten := flatten_splitWords s
  rw [← List.head?_filter, List.head?_eq_none_iff] at h
  rw [h, List.flatten_eq_nil_iff] at hflatten
  refine List.eq_nil_iff_forall_not_mem.mpr fun word hword => ?_
  rw [hflatten word hword] at hword
  exact nil_not_mem_splitWords s hword

/-! ## Names of types -/

theorem pascalCase_of_find?_eq_none {s : List Char} (h : s.find? isLetterOrNumber = none) :
    pascalCase s = [] := by
  simp [pascalCase, splitWords_of_find?_eq_none h, startsWithDigit]

theorem startsWithDigit_pascalCase (s : List Char) : startsWithDigit (pascalCase s) = false := by
  rw [pascalCase]
  split
  · exact (by decide : isDigitChar '_' = false)
  · rename_i hdigit
    exact Bool.eq_false_iff.mpr hdigit

theorem exists_pascalCase_eq_cons (language : Language) {s : List Char} {c : Char}
    (h : s.find? isLetterOrNumber = some c) : ∃ d rest, pascalCase s = d :: rest ∧
      (language.isIdentifierStart d = true ↔
        isDigitChar c = true ∨ language.isIdentifierStart c = true) := by
  obtain ⟨more, words, hwords⟩ := splitWords_of_find? h
  have hname : (splitWords s).flatMap capitalized =
      upperChar c ++ (lower more ++ words.flatMap capitalized) := by
    simp [hwords, capitalized]
  obtain ⟨d, form, hupper, hdigit, -, hstart⟩ :=
    (isLetterChange_upperChar (List.find?_some h)).exists_cons
  rw [hupper, List.cons_append] at hname
  generalize form ++ (lower more ++ words.flatMap capitalized) = tail at hname
  rw [← hdigit, ← hstart language]
  by_cases hd : isDigitChar d = true
  · refine ⟨'_', d :: tail, ?_, iff_of_true language.isIdentifierStart_underscore (Or.inl hd)⟩
    simp [pascalCase, hname, startsWithDigit, hd]
  · refine ⟨d, tail, ?_, (or_iff_right hd).symm⟩
    simp [pascalCase, hname, startsWithDigit, hd]

theorem pascalCase_eq_nil_iff (s : List Char) :
    pascalCase s = [] ↔ ∀ c ∈ s, isLetterOrNumber c = false := by
  simp only [← Bool.not_eq_true, ← List.find?_eq_none]
  constructor
  · intro h
    cases hfind : s.find? isLetterOrNumber with
    | none => rfl
    | some c =>
      obtain ⟨d, rest, hname, -⟩ := exists_pascalCase_eq_cons .python hfind
      rw [h] at hname
      cases hname
  · exact pascalCase_of_find?_eq_none

namespace Language

variable (language : Language)

theorem admits_pascalCase_iff (s : List Char) :
    language.Admits (pascalCase s) ↔ language.Keeps s := by
  have hstart : (∀ d ∈ (pascalCase s).head?, language.isIdentifierStart d = true) ↔
      ∀ c ∈ s.find? isLetterOrNumber,
        isDigitChar c = true ∨ language.isIdentifierStart c = true := by
    cases h : s.find? isLetterOrNumber with
    | none => simp [pascalCase_of_find?_eq_none h]
    | some c =>
      obtain ⟨d, rest, hname, hd⟩ := exists_pascalCase_eq_cons language h
      simpa [hname] using hd
  constructor
  · intro h
    exact ⟨hstart.mp h.start, (pascalCase_parts_iff language s).mp h.parts⟩
  · intro h
    exact ⟨hstart.mpr h.start, (pascalCase_parts_iff language s).mpr h.parts⟩

theorem keeps_append_iff {s : List Char} {c : Char} (hs : s.find? isLetterOrNumber = some c)
    (t : List Char) : language.Keeps (s ++ t) ↔ language.Keeps s ∧
      ∀ c ∈ t, isLetterOrNumber c = true → language.isIdentifierPart c = true := by
  have hfind : (s ++ t).find? isLetterOrNumber = s.find? isLetterOrNumber := by
    simp [List.find?_append, hs]
  constructor
  · intro h
    obtain ⟨hparts, hmore⟩ := List.forall_mem_append.mp h.parts
    exact ⟨⟨fun d hd => h.start d (hfind.trans hd), hparts⟩, hmore⟩
  · rintro ⟨h, hmore⟩
    exact ⟨fun d hd => h.start d (hfind.symm.trans hd),
      List.forall_mem_append.mpr ⟨h.parts, hmore⟩⟩

theorem admits_pascalCase_append_iff (s t : List Char) :
    language.Admits (pascalCase s ++ pascalCase t) ↔ language.Keeps (s ++ t) := by
  cases hs : s.find? isLetterOrNumber with
  | none =>
    have hletterless : ∀ c ∈ s, isLetterOrNumber c = false := by
      simpa using List.find?_eq_none.mp hs
    have hkeeps : language.Keeps t ↔ language.Keeps (s ++ t) := by
      have hfind : (s ++ t).find? isLetterOrNumber = t.find? isLetterOrNumber := by
        simp [List.find?_append, hs]
      have hparts := (Keeps.of_letterless language hletterless).parts
      constructor
      · intro h
        exact ⟨fun d hd => h.start d (hfind.symm.trans hd),
          List.forall_mem_append.mpr ⟨hparts, h.parts⟩⟩
      · intro h
        exact ⟨fun d hd => h.start d (hfind.trans hd), (List.forall_mem_append.mp h.parts).2⟩
    rw [pascalCase_of_find?_eq_none hs, List.nil_append, admits_pascalCase_iff, hkeeps]
  | some c =>
    obtain ⟨d, rest, hname, -⟩ := exists_pascalCase_eq_cons language hs
    have hne : pascalCase s ≠ [] := by simp [hname]
    rw [Admits.append_iff hne, admits_pascalCase_iff, pascalCase_parts_iff,
      keeps_append_iff language hs]

end Language

end RecordTypes
