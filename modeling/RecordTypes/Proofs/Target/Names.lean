import RecordTypes.Proofs.Text.NameChar
import RecordTypes.Target.Names

/-! Whatever tables and fields are called, what is declared for them goes by names that a reader of
code takes as a whole, and the names of types and enumerations begin with no small letter. -/

namespace RecordTypes

theorem isName_pascalName (s : String) : IsName (pascalName s).toList := by
  simpa [pascalName] using isName_pascalCase s.toList

theorem Table.typeName_cases (table : Table) :
    (pascalName table.name = "" ∧ table.typeName = "Table") ∨
      (pascalName table.name ≠ "" ∧ table.typeName = pascalName table.name) := by
  unfold Table.typeName
  dsimp only
  split
  · rename_i hempty
    exact Or.inl ⟨String.isEmpty_iff.mp hempty, rfl⟩
  · rename_i hname
    exact Or.inr ⟨fun hempty => hname (String.isEmpty_iff.mpr hempty), rfl⟩

theorem Table.isName_typeName (table : Table) : IsName table.typeName.toList := by
  rcases table.typeName_cases with ⟨-, htype⟩ | ⟨-, htype⟩
  · rw [htype]
    decide
  · rw [htype]
    exact isName_pascalName table.name

theorem Table.isName_schemaName (table : Table) : IsName table.schemaName.toList := by
  simp only [Table.schemaName, String.toList_append]
  exact table.isName_typeName.append (by decide)

theorem Table.isName_fieldLookupName (table : Table) : IsName table.fieldLookupName.toList := by
  simp only [Table.fieldLookupName, String.toList_append]
  exact table.isName_typeName.append (by decide)

theorem isName_enumerationName (tableName : String) (field : Field) :
    IsName (enumerationName tableName field).toList := by
  simp only [enumerationName, String.toList_append]
  exact (isName_pascalName tableName).append (isName_pascalName field.label)

theorem Field.isName_propertyName (field : Field) : IsName field.propertyName.toList := by
  simpa [Field.propertyName] using RecordTypes.isName_propertyName field.label.toList

theorem Field.isName_enumeration? (field : Field) (tableName : String) :
    ∀ name ∈ field.enumeration? tableName, IsName name.toList := by
  intro name hname
  unfold Field.enumeration? at hname
  split at hname
  · rw [← Option.some.inj hname]
    exact isName_enumerationName tableName field
  · simp at hname

/-! ## Capitals -/

/-- No small letter of ASCII stands at the front. -/
def IsCapitalized (s : List Char) : Prop := ∀ c ∈ s.head?, isSmall c = false

instance (s : List Char) : Decidable (IsCapitalized s) :=
  decidable_of_iff (s.head?.all (fun c => !isSmall c) = true)
    (by simp [IsCapitalized, Option.all_eq_true])

theorem IsCapitalized.append {s t : List Char} (hs : IsCapitalized s) (ht : IsCapitalized t) :
    IsCapitalized (s ++ t) := by
  cases s with
  | nil => exact ht
  | cons c rest => exact hs

theorem isCapitalized_capitalized (word : List Char) : IsCapitalized (capitalized word) := by
  cases word with
  | nil => simp [IsCapitalized, capitalized]
  | cons c rest =>
    obtain ⟨hne, hcapital⟩ := upperChar_capital c
    obtain ⟨d, more, hupper⟩ := List.exists_cons_of_ne_nil hne
    have hd := hcapital d (by simp [hupper])
    simpa [IsCapitalized, capitalized, hupper] using hd

theorem isCapitalized_pascalName (s : String) : IsCapitalized (pascalName s).toList := by
  have hwords (words : List (List Char)) : IsCapitalized (words.flatMap capitalized) := by
    induction words with
    | nil => simp [IsCapitalized]
    | cons word words ih => exact (isCapitalized_capitalized word).append ih
  simp only [pascalName, String.toList_ofList, pascalCase]
  split
  · simp [IsCapitalized, isSmall]
  · exact hwords _

theorem Table.isCapitalized_typeName (table : Table) : IsCapitalized table.typeName.toList := by
  rcases table.typeName_cases with ⟨-, htype⟩ | ⟨-, htype⟩
  · rw [htype]
    decide
  · rw [htype]
    exact isCapitalized_pascalName table.name

theorem Table.isCapitalized_fieldLookupName (table : Table) :
    IsCapitalized table.fieldLookupName.toList := by
  rw [Table.fieldLookupName, String.toList_append]
  exact table.isCapitalized_typeName.append (by decide)

theorem isCapitalized_enumerationName (tableName : String) (field : Field) :
    IsCapitalized (enumerationName tableName field).toList := by
  rw [enumerationName, String.toList_append]
  exact (isCapitalized_pascalName tableName).append (isCapitalized_pascalName field.label)

theorem Field.isCapitalized_enumeration? (field : Field) (tableName : String) :
    ∀ name ∈ field.enumeration? tableName, IsCapitalized name.toList := by
  intro name hname
  unfold Field.enumeration? at hname
  split at hname
  · rw [← Option.some.inj hname]
    exact isCapitalized_enumerationName tableName field
  · simp at hname

end RecordTypes
