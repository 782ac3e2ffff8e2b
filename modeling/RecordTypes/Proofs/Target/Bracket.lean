import RecordTypes.Proofs.Code.Bracket
import RecordTypes.Proofs.Target.Expression
import RecordTypes.Proofs.Target.Names

/-! Type expressions are well-formed code for every field of every table: a choice is quoted
wherever it stands, and an enumeration goes by a name that is made of letters and digits. -/

namespace RecordTypes

theorem isWellFormedCode_enclosed {opening s closing : String} (hs : IsWellFormedCode s.toList)
    (hopening : (CodeState.start.after opening.toList).isCode = true)
    (hmarks : IsWellFormedCode (opening.toList ++ closing.toList)) :
    IsWellFormedCode (opening ++ s ++ closing).toList := by
  simp only [String.toList_append]
  exact hs.within hopening hmarks

namespace Target

theorem isWellFormedCode_alternatives (target : Target) {separator : String}
    (hsep : IsWellFormedCode separator.toList) (names : List String) :
    IsWellFormedCode (alternativesText target.dialect separator names).toList := by
  simp only [alternativesText, String.toList_intercalate, List.map_map]
  refine intercalate_of_append (by decide) (fun _ _ => IsWellFormedCode.append) hsep ?_
  intro piece hpiece
  obtain ⟨name, -, rfl⟩ := List.mem_map.mp hpiece
  exact isWellFormedCode_quoted target name

theorem isWellFormedCode_selection (target : Target) {enumeration? : Option String}
    (henum : ∀ name ∈ enumeration?, IsName name.toList) (names : List String) :
    IsWellFormedCode (target.scalar enumeration? (.oneOf names)).toList := by
  have hliteral : IsWellFormedCode (literalText names).toList :=
    isWellFormedCode_enclosed (model.isWellFormedCode_alternatives (by decide) names) (by decide)
      (by decide)
  have hzod : IsWellFormedCode
      ("z.enum([" ++ alternativesText typescriptDialect ", " names ++ "])").toList :=
    isWellFormedCode_enclosed (zod.isWellFormedCode_alternatives (by decide) names) (by decide)
      (by decide)
  cases target with
  | interface => exact interface.isWellFormedCode_alternatives (by decide) names
  | typedDict => exact hliteral
  | zod =>
    cases enumeration? with
    | none => exact hzod
    | some name => exact (henum name rfl).isWellFormedCode
  | model =>
    cases enumeration? with
    | none => exact hliteral
    | some name => exact (henum name rfl).isWellFormedCode

theorem isWellFormedCode_number (target : Target) (n : Number) :
    IsWellFormedCode (target.scalar none (.number n)).toList := by
  have htext {chars : List Char} (h : IsWellFormedCode chars) :=
    holds_of_chars (P := IsWellFormedCode) h
  cases n with
  | stars max =>
    have hmax : IsWellFormedCode (String.ofList (Nat.toDigits 10 max)).toList := by
      rw [String.toList_ofList]
      exact (isName_toDigits max).isWellFormedCode
    cases target with
    | interface => exact htext (by decide)
    | zod => exact isWellFormedCode_enclosed hmax (by decide) (by decide)
    | typedDict => exact htext (by decide)
    | model => exact isWellFormedCode_enclosed hmax (by decide) (by decide)
  | _ => cases target <;> exact htext (by decide)

theorem isWellFormedCode_scalar (target : Target) {enumeration? : Option String}
    (henum : ∀ name ∈ enumeration?, IsName name.toList) (s : Scalar) :
    IsWellFormedCode (target.scalar enumeration? s).toList := by
  cases s with
  | oneOf names => exact target.isWellFormedCode_selection henum names
  | number n =>
    rw [target.scalar_eq_none enumeration?]
    · exact target.isWellFormedCode_number n
    · simp
  | _ =>
    rw [target.scalar_eq_none enumeration?]
    · cases target <;> exact holds_of_chars (P := IsWellFormedCode) (by decide)
    · simp

theorem isWellFormedCode_expression (target : Target) {enumeration? : Option String}
    (henum : ∀ name ∈ enumeration?, IsName name.toList) (v : ValueType) :
    IsWellFormedCode (target.expression enumeration? v).toList := by
  cases v with
  | one s => exact target.isWellFormedCode_scalar henum s
  | many s =>
    have hscalar := target.isWellFormedCode_scalar henum s
    cases target <;> exact isWellFormedCode_enclosed hscalar (by decide) (by decide)
  | mixed =>
    change IsWellFormedCode target.mixedList.toList
    cases target with
    | zod => exact holds_of_chars_append (P := IsWellFormedCode) (by decide +kernel)
    | _ => exact holds_of_chars (P := IsWellFormedCode) (by decide)

/-- Whatever a table, a field and its choices are called, and however deep the results of the field
lie, its type is written with closed literals, nested brackets and no line end. -/
theorem fieldExpression_is_well_formed (target : Target) (tableName : String) (field : Field) :
    IsWellFormedCode (target.fieldExpression tableName field).toList :=
  target.isWellFormedCode_expression (field.isName_enumeration? tableName) field.valueType

end Target

end RecordTypes
