import Mathlib.Data.List.DropRight
import RecordTypes.Proofs.Code.Identifier

/-! Names of properties. Whatever name people chose, the property has a name of its own: it is not
empty, does not look private or like one that models keep for themselves, and neither the language
nor models use it. It is an identifier if the letters and numbers of the chosen name may stand in
one. Some may not, such as a raised two, and they are not taken out. -/

namespace RecordTypes

/-! ## Signs written out -/

def IsAscii (s : List Char) : Prop := ∀ c ∈ s, c.toNat < 128

instance (s : List Char) : Decidable (IsAscii s) :=
  decidable_of_iff ((s.all fun c => Nat.blt c.toNat 128) = true) <| by
    simp only [List.all_eq_true, Nat.blt_eq]
    rfl

section
variable {Q : Char → Prop} (hascii : ∀ c : Char, c.toNat < 128 → Q c)
include hascii

theorem forall_mem_of_isAscii {s : List Char} (hs : IsAscii s) : ∀ c ∈ s, Q c :=
  fun c hc => hascii c (hs c hc)

theorem forall_mem_replaceChar {a : Char} {new : List Char} (ha : a.toNat < 128)
    (hnew : IsAscii new) (s : List Char) :
    (∀ c ∈ replaceChar a new s, Q c) ↔ ∀ c ∈ s, Q c := by
  rw [replaceChar, List.forall_mem_flatMap]
  refine forall₂_congr fun d _ => ?_
  split
  · rename_i hd
    rw [beq_iff_eq.mp hd]
    exact iff_of_true (forall_mem_of_isAscii hascii hnew) (hascii a ha)
  · simp

theorem forall_mem_replacePair {a b : Char} {new : List Char} (ha : a.toNat < 128)
    (hb : b.toNat < 128) (hnew : IsAscii new) (s : List Char) :
    (∀ c ∈ replacePair a b new s, Q c) ↔ ∀ c ∈ s, Q c := by
  induction s using replacePair.induct a b with
  | case1 x y rest hxy ih =>
    have hpair : x = a ∧ y = b := by simpa using hxy
    have hnew := forall_mem_of_isAscii hascii hnew
    rw [replacePair, if_pos hxy, List.forall_mem_append, ih, List.forall_mem_cons,
      List.forall_mem_cons, hpair.1, hpair.2]
    exact ⟨fun h => ⟨hascii a ha, hascii b hb, h.2⟩, fun h => ⟨hnew, h.2.2⟩⟩
  | case2 x y rest hxy ih =>
    rw [replacePair, if_neg hxy, List.forall_mem_cons, ih, List.forall_mem_cons (a := x)]
  | case3 s hs =>
    rw [replacePair]
    exact hs

theorem forall_mem_spellQuestion (s : List Char) :
    (∀ c ∈ spellQuestion s, Q c) ↔ ∀ c ∈ s, Q c := by
  unfold spellQuestion
  split
  · rename_i hmark
    obtain ⟨front, rfl⟩ := List.getLast?_eq_some_iff.mp (beq_iff_eq.mp hmark)
    have hfront := forall_mem_of_isAscii hascii (by decide : IsAscii ['i', 's', '_'])
    have hend := forall_mem_of_isAscii hascii (by decide : IsAscii ['?'])
    rw [List.dropLast_concat, List.forall_mem_append, List.forall_mem_append]
    exact ⟨fun h => ⟨h.2, hend⟩, fun h => ⟨hfront, h.1⟩⟩
  · rfl

theorem forall_mem_spellNumberSign (s : List Char) :
    (∀ c ∈ spellNumberSign s, Q c) ↔ ∀ c ∈ s, Q c := by
  unfold spellNumberSign
  split
  · rename_i hmark
    have hlast : s.getLast? = some '#' := by
      have hhead : (s.reverse.take 2).head? = some '#' := by rw [beq_iff_eq.mp hmark]; rfl
      rwa [List.head?_take, if_neg (by decide), List.head?_reverse] at hhead
    obtain ⟨front, rfl⟩ := List.getLast?_eq_some_iff.mp hlast
    have hword := forall_mem_of_isAscii hascii (by decide : IsAscii "number".toList)
    have hend := forall_mem_of_isAscii hascii (by decide : IsAscii ['#'])
    rw [List.dropLast_concat, List.forall_mem_append, List.forall_mem_append]
    exact and_congr_right fun _ => iff_of_true hword hend
  · rfl

theorem forall_mem_joinWith (words : List (List Char)) :
    (∀ c ∈ joinWith [' '] words, Q c) ↔ ∀ c ∈ words.flatten, Q c := by
  induction words with
  | nil => exact Iff.rfl
  | cons word words ih =>
    cases words with
    | nil => simp [joinWith]
    | cons next words =>
      have hblank := forall_mem_of_isAscii hascii (by decide : IsAscii [' '])
      rw [joinWith, List.intercalate_cons_cons, ← joinWith, List.forall_mem_append,
        List.forall_mem_append, ih, List.flatten_cons (l := word), List.forall_mem_append]
      exact and_congr_left fun _ => and_iff_left hblank

theorem forall_mem_spelledOut (hsigns : ∀ c : Char, isLetterOrNumber c = false → Q c)
    (s : List Char) : (∀ c ∈ spelledOut s, Q c) ↔ ∀ c ∈ s, Q c := by
  unfold spelledOut
  dsimp only
  rw [forall_mem_joinWith hascii, flatten_splitWords]
  have hletters (t : List Char) :
      (∀ c ∈ t.filter isLetterOrNumber, Q c) ↔ ∀ c ∈ t, Q c := by
    simp only [List.mem_filter, and_imp]
    refine forall₂_congr fun c _ => ⟨fun h => ?_, fun h _ => h⟩
    by_cases hc : isLetterOrNumber c = true
    · exact h hc
    · exact hsigns c (Bool.eq_false_iff.mpr hc)
  rw [hletters, forall_mem_replacePair hascii (by decide) (by decide) (by decide),
    forall_mem_replacePair hascii (by decide) (by decide) (by decide),
    forall_mem_replaceChar hascii (by decide) (by decide),
    forall_mem_replaceChar hascii (by decide) (by decide),
    forall_mem_replaceChar hascii (by decide) (by decide),
    forall_mem_replaceChar hascii (by decide) (by decide),
    forall_mem_replaceChar hascii (by decide) (by decide),
    forall_mem_replaceChar hascii (by decide) (by decide),
    forall_mem_spellNumberSign hascii, forall_mem_spellQuestion hascii]

end

theorem joinWith_cases {words : List (List Char)} (hne : [] ∉ words)
    (hwords : ∀ word ∈ words, ∀ c ∈ word, isLetterOrNumber c = true) :
    joinWith [' '] words = [] ∨
      ∃ c rest, joinWith [' '] words = c :: rest ∧ isLetterOrNumber c = true := by
  cases words with
  | nil => exact Or.inl rfl
  | cons word words =>
    cases word with
    | nil => exact absurd List.mem_cons_self hne
    | cons c rest =>
      have hc := hwords _ List.mem_cons_self c List.mem_cons_self
      cases words with
      | nil => exact Or.inr ⟨c, rest, by simp [joinWith], hc⟩
      | cons next words =>
        exact Or.inr ⟨c, _, by rw [joinWith, List.intercalate_cons_cons]; rfl, hc⟩

theorem spelledOut_cases (s : List Char) : spelledOut s = [] ∨
    ∃ c rest, spelledOut s = c :: rest ∧ isLetterOrNumber c = true :=
  joinWith_cases (nil_not_mem_splitWords _) fun _ hword => runs_all hword

theorem isLetterOrNumber_of_mem_spelledOut {s : List Char} {c : Char} (h : c ∈ spelledOut s) :
    c = ' ' ∨ isLetterOrNumber c = true := by
  rcases mem_joinWith h with hblank | ⟨word, hword, hc⟩
  · exact Or.inl (List.mem_singleton.mp hblank)
  · exact Or.inr (runs_all hword c hc)

/-! ## Small letters and underscores -/

theorem forall_mem_blanksReplaced {Q : Char → Prop} (s : List Char) :
    (∀ c ∈ collapseUnderscores (replaceChar ' ' ['_'] s), Q c) ↔
      ∀ c ∈ s, Q (if c == ' ' then '_' else c) := by
  simp only [mem_collapseUnderscores]
  rw [replaceChar, List.forall_mem_flatMap]
  refine forall₂_congr fun c _ => ?_
  split <;> simp

theorem isLetterChange_spelledOut (s : List Char) :
    ∀ c ∈ collapseUnderscores (replaceChar ' ' ['_'] (spelledOut s)),
      IsLetterChange c (lowerChar c) := by
  rw [forall_mem_blanksReplaced]
  intro c hc
  split
  · exact .same rfl
  · rename_i hblank
    rcases isLetterOrNumber_of_mem_spelledOut hc with rfl | hletter
    · exact absurd rfl hblank
    · exact isLetterChange_lowerChar hletter

theorem ne_underscore_of_isLetterOrNumber {c : Char} (h : isLetterOrNumber c = true) :
    c ≠ '_' := by
  rintro rfl
  cases h

/-! ## Underscores at the ends -/

def stripped (s : List Char) : List Char := (s.dropWhile (· == '_')).rdropWhile (· == '_')

theorem trimmedName_eq (s : List Char) : trimmedName s =
    if startsWithDigit (stripped s) = true then 'n' :: '_' :: stripped s else stripped s :=
  rfl

theorem exists_stripped_cons {d : Char} (hd : d ≠ '_') (more : List Char) :
    ∃ rest, stripped (d :: more) = d :: rest := by
  have hfront : (d :: more).dropWhile (· == '_') = d :: more := by simp [hd]
  have hne : (d :: more).rdropWhile (· == '_') ≠ [] := by simp [hd]
  obtain ⟨first, rest, hcons⟩ := List.exists_cons_of_ne_nil hne
  have hprefix := List.rdropWhile_prefix (· == '_') (l := d :: more)
  rw [hcons, List.cons_prefix_cons] at hprefix
  exact ⟨rest, by rw [stripped, hfront, hcons, hprefix.1]⟩

theorem stripped_parts_iff (language : Language) (s : List Char) :
    (∀ c ∈ stripped s, language.isIdentifierPart c = true) ↔
      ∀ c ∈ s, language.isIdentifierPart c = true := by
  have hfront : ∀ c ∈ s.takeWhile (· == '_'), language.isIdentifierPart c = true := by
    intro c hc
    have hunderscore := List.mem_takeWhile_imp hc
    rw [beq_iff_eq.mp hunderscore]
    exact language.isIdentifierPart_underscore
  have hend : ∀ c ∈ (s.dropWhile (· == '_')).rtakeWhile (· == '_'),
      language.isIdentifierPart c = true := by
    intro c hc
    have hunderscore := List.mem_rtakeWhile_imp hc
    rw [beq_iff_eq.mp hunderscore]
    exact language.isIdentifierPart_underscore
  have hs : s = s.takeWhile (· == '_') ++
      (stripped s ++ (s.dropWhile (· == '_')).rtakeWhile (· == '_')) := by
    rw [stripped, List.rdropWhile_append_rtakeWhile, List.takeWhile_append_dropWhile]
  conv_rhs => rw [hs, List.forall_mem_append, List.forall_mem_append]
  exact ⟨fun h => ⟨hfront, h, hend⟩, fun h => h.2.1⟩

section
variable (language : Language)

theorem snakeCase_parts_iff (s : List Char) :
    (∀ d ∈ snakeCase (spelledOut s), language.isIdentifierPart d = true) ↔
      ∀ c ∈ spelledOut s, isLetterOrNumber c = true → language.isIdentifierPart c = true := by
  rw [snakeCase, lower, lowerFrom_parts_iff language (isLetterChange_spelledOut s),
    forall_mem_blanksReplaced]
  refine forall₂_congr fun c hc => ?_
  rcases isLetterOrNumber_of_mem_spelledOut hc with rfl | hletter
  · exact iff_of_true language.isIdentifierPart_underscore fun h => by cases h
  · have hblank : (c == ' ') = false := by
      rw [Bool.eq_false_iff]
      intro h
      rw [beq_iff_eq.mp h] at hletter
      cases hletter
    simp [hblank, hletter]

theorem exists_snakeCase_eq_cons {s rest : List Char} {c : Char} (h : spelledOut s = c :: rest)
    (hc : isLetterOrNumber c = true) : ∃ d more, snakeCase (spelledOut s) = d :: more ∧
      isDigitChar d = isDigitChar c ∧ d ≠ '_' ∧
      ∀ language : Language, language.isIdentifierStart d = language.isIdentifierStart c := by
  have hchange := isLetterChange_spelledOut s
  have hunderscore := ne_underscore_of_isLetterOrNumber hc
  have hfront : ∃ later, collapseUnderscores (replaceChar ' ' ['_'] (spelledOut s)) =
      c :: later := by
    have hblank : c ≠ ' ' := by
      rintro rfl
      cases hc
    have hreplaced : replaceChar ' ' ['_'] (spelledOut s) = c :: replaceChar ' ' ['_'] rest := by
      simp [replaceChar, h, hblank]
    rw [hreplaced]
    cases replaceChar ' ' ['_'] rest with
    | nil => exact ⟨[], rfl⟩
    | cons b later =>
      exact ⟨collapseUnderscores (b :: later), by simp [collapseUnderscores, hunderscore]⟩
  obtain ⟨later, hlater⟩ := hfront
  rw [hlater] at hchange
  obtain ⟨form, after, hlower, hform⟩ :=
    exists_lowerFrom_cons (hchange c List.mem_cons_self) false later
  obtain ⟨d, more, rfl, hdigit, hd, hstart⟩ := hform.exists_cons
  exact ⟨d, _, by rw [snakeCase, lower, hlater, hlower]; rfl, hdigit, hd hunderscore, hstart⟩

theorem trimmedName_parts_iff (s : List Char) :
    (∀ d ∈ trimmedName s, language.isIdentifierPart d = true) ↔
      ∀ c ∈ s, language.isIdentifierPart c = true := by
  have hn : language.isIdentifierPart 'n' = true :=
    language.isIdentifierPart_of_stable (by decide)
  have hunderscore := language.isIdentifierPart_underscore
  rw [trimmedName_eq, ← stripped_parts_iff language s]
  split
  · rw [List.forall_mem_cons, List.forall_mem_cons]
    exact (and_iff_right hn).trans (and_iff_right hunderscore)
  · exact Iff.rfl

theorem exists_trimmedName_cons {d : Char} (hd : d ≠ '_') (more : List Char) :
    ∃ rest, trimmedName (d :: more) =
      if isDigitChar d = true then 'n' :: '_' :: d :: rest else d :: rest := by
  obtain ⟨rest, hrest⟩ := exists_stripped_cons hd more
  exact ⟨rest, by rw [trimmedName_eq, hrest, startsWithDigit]⟩

/-- A name before it is kept apart from those that are taken. -/
def plainProperty (s : List Char) : List Char := trimmedName (snakeCase (spelledOut s))

theorem plainProperty_of_nil {s : List Char} (h : spelledOut s = []) : plainProperty s = [] := by
  rw [plainProperty, h]
  rfl

theorem exists_plainProperty_eq_cons {s rest : List Char} {c : Char}
    (h : spelledOut s = c :: rest) (hc : isLetterOrNumber c = true) :
    ∃ d more, plainProperty s = d :: more ∧ d ≠ '_' ∧ ∀ language : Language,
      (language.isIdentifierStart d = true ↔
        isDigitChar c = true ∨ language.isIdentifierStart c = true) := by
  obtain ⟨d, more, hsnake, hdigit, hd, hstart⟩ := exists_snakeCase_eq_cons h hc
  obtain ⟨rest, htrimmed⟩ := exists_trimmedName_cons hd more
  rw [plainProperty, hsnake, htrimmed]
  simp only [← hdigit, ← hstart]
  split
  · rename_i hd
    have hn (language : Language) : language.isIdentifierStart 'n' = true :=
      language.isIdentifierStart_of_stable (by decide)
    exact ⟨'n', _, rfl, by decide, fun language => iff_of_true (hn language) (Or.inl hd)⟩
  · rename_i hnone
    exact ⟨d, rest, rfl, hd, fun language => (or_iff_right hnone).symm⟩

theorem admits_plainProperty_iff (s : List Char) :
    language.Admits (plainProperty s) ↔ language.Keeps (spelledOut s) := by
  have hparts : (∀ d ∈ plainProperty s, language.isIdentifierPart d = true) ↔
      ∀ c ∈ spelledOut s, isLetterOrNumber c = true → language.isIdentifierPart c = true := by
    rw [plainProperty, trimmedName_parts_iff, snakeCase_parts_iff]
  have hstart : (∀ d ∈ (plainProperty s).head?, language.isIdentifierStart d = true) ↔
      ∀ c ∈ (spelledOut s).find? isLetterOrNumber,
        isDigitChar c = true ∨ language.isIdentifierStart c = true := by
    rcases spelledOut_cases s with h | ⟨c, rest, h, hc⟩
    · simp [plainProperty_of_nil h, h]
    · obtain ⟨d, more, hname, -, hd⟩ := exists_plainProperty_eq_cons h hc
      simpa [hname, h, hc] using hd language
  exact ⟨fun h => ⟨hstart.mp h.start, hparts.mp h.parts⟩,
    fun h => ⟨hstart.mpr h.start, hparts.mpr h.parts⟩⟩

/-! ## Taken names -/

/-- A property may have the name: no one else has it, and it does not look private. -/
structure IsFreeName (name : String) : Prop where
  nonempty : name ≠ ""
  open_front : name.toList.head? ≠ some '_'
  not_of_models : ¬ "model_".toList <+: name.toList
  not_keyword : name ∉ keywords
  not_reserved : name ∉ reservedNames

instance (name : String) : Decidable (IsFreeName name) :=
  decidable_of_iff (name ≠ "" ∧ name.toList.head? ≠ some '_' ∧ ¬ "model_".toList <+: name.toList ∧
      name ∉ keywords ∧ name ∉ reservedNames)
    ⟨fun h => ⟨h.1, h.2.1, h.2.2.1, h.2.2.2.1, h.2.2.2.2⟩,
      fun h => ⟨h.nonempty, h.open_front, h.not_of_models, h.not_keyword, h.not_reserved⟩⟩

theorem isReserved_iff (s : List Char) :
    isReserved s = true ↔ String.ofList s ∈ keywords ++ reservedNames := by
  simp [isReserved]

theorem taken_names : ∀ word ∈ keywords ++ reservedNames,
    IsFreeName (word ++ "_") ∧ ¬ "field_".toList <+: word.toList := by
  decide +kernel

theorem isFreeName_unreserved {s : List Char} (h : s.head? ≠ some '_') :
    IsFreeName (String.ofList (unreserved s)) := by
  unfold unreserved
  split
  · decide
  · rename_i hempty
    split
    · have hfield : ∀ word ∈ keywords ++ reservedNames,
          String.ofList ("field_".toList ++ s) ≠ word := by
        rintro word hword rfl
        exact (taken_names _ hword).2 (by simp)
      exact {
        nonempty := by simp
        open_front := by simp
        not_of_models := by simp
        not_keyword := fun hmem => hfield _ (List.mem_append_left _ hmem) rfl
        not_reserved := fun hmem => hfield _ (List.mem_append_right _ hmem) rfl }
    · rename_i hmodel
      split
      · rename_i hreserved
        rw [String.ofList_append]
        exact (taken_names _ ((isReserved_iff s).mp hreserved)).1
      · rename_i hfree
        rw [isReserved_iff, List.mem_append, not_or] at hfree
        exact {
          nonempty := by simpa using hempty
          open_front := by simpa using h
          not_of_models := by simpa using hmodel
          not_keyword := hfree.1
          not_reserved := hfree.2 }

theorem isFreeName_propertyName (s : List Char) :
    IsFreeName (String.ofList (propertyName s)) := by
  apply isFreeName_unreserved
  change (plainProperty s).head? ≠ some '_'
  rcases spelledOut_cases s with h | ⟨c, rest, h, hc⟩
  · simp [plainProperty_of_nil h]
  · obtain ⟨d, more, hname, hd, -⟩ := exists_plainProperty_eq_cons h hc
    simp [hname, hd]

theorem admits_unreserved_iff (s : List Char) :
    language.Admits (unreserved s) ↔ language.Admits s := by
  unfold unreserved
  split
  · rename_i hempty
    rw [List.isEmpty_iff.mp hempty]
    cases language <;> decide
  · rename_i hempty
    have hne : s ≠ [] := by simpa using hempty
    split
    · rename_i hmodel
      obtain ⟨rest, rfl⟩ := List.isPrefixOf_iff_prefix.mp hmodel
      have hfield : language.Admits "field_".toList := by cases language <;> decide
      have hfront : language.Admits "model_".toList := by cases language <;> decide
      rw [Language.Admits.append_iff (by decide), Language.Admits.append_iff (by decide),
        List.forall_mem_append]
      exact ⟨fun h => ⟨hfront, h.2.2⟩, fun h => ⟨hfield, hfront.parts, h.2⟩⟩
    · split
      · rw [Language.Admits.append_iff hne]
        simp [language.isIdentifierPart_underscore]
      · rfl

end

theorem isStablePart_ascii : ∀ n < 128, isLetterOrNumber (Char.ofNat n) = true →
    isStablePart (Char.ofNat n) = true := by
  decide +kernel

/-- A name is kept in its letters and numbers, so that it makes an identifier only if these may all
stand in one and the first of the name as it is spelled out may begin one, or is a digit. Nothing
else may be wrong with what is made of it. -/
theorem propertyName_free_and_isIdentifier_iff (s : List Char) :
    IsFreeName (String.ofList (propertyName s)) ∧
    (Language.python.IsIdentifier (String.ofList (propertyName s)) ↔
      (∀ c ∈ s, isLetterOrNumber c = true → Language.python.isIdentifierPart c = true) ∧
      ∀ c ∈ (spelledOut s).head?,
        isDigitChar c = true ∨ Language.python.isIdentifierStart c = true) := by
  have hfree := isFreeName_propertyName s
  have hadmits : Language.python.IsIdentifier (String.ofList (propertyName s)) ↔
      Language.python.Admits (propertyName s) := by
    refine ⟨fun h => by simpa using h.admitted, fun h => ⟨hfree.nonempty, ?_, fun _ => ?_⟩⟩
    · simpa using h
    · exact hfree.not_keyword
  have hfind : (spelledOut s).find? isLetterOrNumber = (spelledOut s).head? := by
    rcases spelledOut_cases s with h | ⟨c, rest, h, hc⟩
    · rw [h]
      rfl
    · simp [h, hc]
  have hletters : (∀ c ∈ spelledOut s, isLetterOrNumber c = true →
        Language.python.isIdentifierPart c = true) ↔
      ∀ c ∈ s, isLetterOrNumber c = true → Language.python.isIdentifierPart c = true := by
    refine forall_mem_spelledOut (fun c hascii hc => ?_) (fun c hc hletter => ?_) s
    · have hpart := isStablePart_ascii c.toNat hascii (by rwa [Char.ofNat_toNat])
      rwa [Char.ofNat_toNat] at hpart
    · rw [hc] at hletter
      cases hletter
  refine ⟨hfree, ?_⟩
  rw [hadmits, propertyName, ← plainProperty, admits_unreserved_iff, admits_plainProperty_iff,
    ← hletters, ← hfind]
  exact ⟨fun h => ⟨h.parts, h.start⟩, fun h => ⟨h.2, h.1⟩⟩

/-- The raised two of a square metre is kept, and no identifier has one. -/
theorem area_is_no_identifier :
    String.ofList (propertyName "Area (m²)".toList) = "area_m²" ∧
      ¬ Language.python.IsIdentifier (String.ofList (propertyName "Area (m²)".toList)) := by
  decide +kernel

end RecordTypes
