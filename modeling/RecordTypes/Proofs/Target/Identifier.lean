import RecordTypes.Proofs.Code.Identifier
import RecordTypes.Proofs.Target.Names
import RecordTypes.Target.Declaration

/-! When the names that are declared for a table and its fields are identifiers. The type of a
record has a name to fall back on and an enumeration has none, and neither is kept apart from the
three capitalised words that mean something in Python. -/

namespace RecordTypes

/-- The words of Python that a capitalised name can be. -/
def capitalKeywords : List String := ["False", "None", "True"]

theorem mem_keywords_of_capitalized {name : String} (h : IsCapitalized name.toList) :
    name ∈ keywords ↔ name ∈ capitalKeywords := by
  have hsmall : ∀ word ∈ keywords, word ∈ capitalKeywords ∨
      word.toList.head?.any isSmall = true := by
    decide
  constructor
  · intro hname
    rcases hsmall name hname with hcapital | hhead
    · exact hcapital
    · obtain ⟨c, hc, hsmall⟩ := (Option.any_eq_true _ _).mp hhead
      rw [h c hc] at hsmall
      cases hsmall
  · intro hname
    simp only [capitalKeywords, List.mem_cons, List.not_mem_nil, or_false] at hname
    rcases hname with rfl | rfl | rfl <;> decide

namespace Table

variable (table : Table)

theorem typeName_ne_empty : table.typeName ≠ "" := by
  rcases table.typeName_cases with ⟨-, htype⟩ | ⟨hne, htype⟩
  · rw [htype]
    decide
  · rwa [htype]

theorem admits_typeName_iff (language : Language) :
    language.Admits table.typeName.toList ↔ language.Keeps table.name.toList := by
  have hpascal := language.admits_pascalCase_iff table.name.toList
  rcases table.typeName_cases with ⟨hempty, htype⟩ | ⟨-, htype⟩
  · have hnil : pascalCase table.name.toList = [] := by simpa [pascalName] using hempty
    have hnone : language.Admits [] := ⟨by simp, by simp⟩
    have htable : language.Admits "Table".toList := by cases language <;> decide +kernel
    rw [htype]
    exact iff_of_true htable (hpascal.mp (hnil ▸ hnone))
  · rw [htype, ← hpascal, pascalName, String.toList_ofList]

theorem isIdentifier_typeName_iff (language : Language) :
    language.IsIdentifier table.typeName ↔ language.Keeps table.name.toList ∧
      (language = .python → table.typeName ∉ capitalKeywords) := by
  rw [← table.admits_typeName_iff, ← mem_keywords_of_capitalized table.isCapitalized_typeName]
  constructor
  · intro h
    exact ⟨h.admitted, h.unreserved⟩
  · rintro ⟨hadmits, hkeyword⟩
    exact ⟨table.typeName_ne_empty, hadmits, hkeyword⟩

theorem isIdentifier_typeName_append_iff (language : Language) {ending : String}
    (hending : ∀ c ∈ ending.toList, language.isIdentifierPart c = true)
    (hkeyword : ∀ word ∈ keywords, ¬ ending.toList <:+ word.toList) :
    language.IsIdentifier (table.typeName ++ ending) ↔ language.Keeps table.name.toList := by
  have hne : table.typeName.toList ≠ [] := by simpa using table.typeName_ne_empty
  have hadmits : language.Admits (table.typeName ++ ending).toList ↔
      language.Keeps table.name.toList := by
    rw [String.toList_append, Language.Admits.append_iff hne, table.admits_typeName_iff]
    exact and_iff_left hending
  constructor
  · intro h
    exact hadmits.mp h.admitted
  · intro h
    refine ⟨?_, hadmits.mpr h, fun _ hword => hkeyword _ hword ?_⟩
    · intro hempty
      rw [← String.toList_inj, String.toList_append] at hempty
      exact hne (List.append_eq_nil_iff.mp hempty).1
    · rw [String.toList_append]
      exact List.suffix_append _ _

theorem isIdentifier_schemaName_iff (language : Language) :
    language.IsIdentifier table.schemaName ↔ language.Keeps table.name.toList :=
  table.isIdentifier_typeName_append_iff language
    (List.all_eq_true.mp (by cases language <;> decide +kernel)) (by decide)

theorem isIdentifier_fieldLookupName_iff (language : Language) :
    language.IsIdentifier table.fieldLookupName ↔ language.Keeps table.name.toList :=
  table.isIdentifier_typeName_append_iff language
    (List.all_eq_true.mp (by cases language <;> decide +kernel)) (by decide)

end Table

theorem pascalName_eq_empty_iff (s : String) :
    pascalName s = "" ↔ ∀ c ∈ s.toList, isLetterOrNumber c = false := by
  rw [← pascalCase_eq_nil_iff, pascalName, ← String.toList_inj, String.toList_ofList]
  rfl

theorem isIdentifier_enumerationName_iff (language : Language) (tableName : String)
    (field : Field) :
    language.IsIdentifier (enumerationName tableName field) ↔
      (∃ c ∈ (tableName ++ field.label).toList, isLetterOrNumber c = true) ∧
      language.Keeps (tableName ++ field.label).toList ∧
      (language = .python → enumerationName tableName field ∉ capitalKeywords) := by
  have hadmits : language.Admits (enumerationName tableName field).toList ↔
      language.Keeps (tableName ++ field.label).toList := by
    simp only [enumerationName, pascalName, String.toList_append, String.toList_ofList]
    exact language.admits_pascalCase_append_iff _ _
  have hempty : enumerationName tableName field ≠ "" ↔
      ∃ c ∈ (tableName ++ field.label).toList, isLetterOrNumber c = true := by
    rw [enumerationName, ne_eq, String.append_eq_empty_iff, pascalName_eq_empty_iff,
      pascalName_eq_empty_iff, String.toList_append, ← List.forall_mem_append]
    simp
  rw [← hadmits, ← hempty,
    ← mem_keywords_of_capitalized (isCapitalized_enumerationName tableName field)]
  constructor
  · intro h
    exact ⟨h.nonempty, h.admitted, h.unreserved⟩
  · rintro ⟨hne, hadmitted, hkeyword⟩
    exact ⟨hne, hadmitted, hkeyword⟩

end RecordTypes
