import RecordTypes.Proofs.Code.Token
import RecordTypes.Proofs.Value.Shape
import RecordTypes.Target.Declaration

/-! The names that type expressions use: those that a language brings along, those that the file
takes from elsewhere, those of one shared shape, and the name of one enumeration. -/

namespace RecordTypes

namespace Target

/-- Types that need no import. -/
def builtinNames : Target → List String
  | .interface => ["boolean", "number", "string", "unknown"]
  | .zod => []
  | .typedDict | .model => ["bool", "dict", "float", "int", "list", "str"]

def shapeIdentifiers (target : Target) (shape : SharedShape) : List String :=
  (target.sharedDeclarations.filter fun declaration => declaration.shape == shape).flatMap
    fun declaration => declaration.identifiers

def knownNames (target : Target) (shape? : Option SharedShape) : List String :=
  target.builtinNames ++ target.importedNames ++ shape?.toList.flatMap target.shapeIdentifiers

theorem usesOnly_of_known {target : Target} {shape? : Option SharedShape} {s : List Char}
    (h : UsesOnly (target.knownNames shape?) s) (more : List String) :
    UsesOnly (target.knownNames shape? ++ more) s :=
  h.mono fun _ => List.mem_append_left _

/-! ## Scalars -/

theorem usesOnly_stars (target : Target) {opening : String} (max : Nat) {closing : String}
    {c : Char} {rest : List Char} (hclosing : closing.toList = c :: rest)
    (hopening : UsesOnly (target.knownNames none) opening.toList)
    (hstart : CodeState.start.after opening.toList = CodeState.start)
    (hend : UsesOnly (target.knownNames none) closing.toList)
    (hc : endsWord c = true) :
    UsesOnly (target.knownNames none)
      (opening ++ String.ofList (Nat.toDigits 10 max) ++ closing).toList := by
  have hdigits := UsesOnly.of_digits (w := Nat.toDigits 10 max)
    (fun _ => isDigit_of_mem_toDigits) (target.knownNames none)
  simp only [String.toList_append, String.toList_ofList]
  rw [hclosing] at hend ⊢
  exact hdigits.enclosed c rest hopening hstart hend hc

theorem scalar_eq_none (target : Target) (enumeration? : Option String) {s : Scalar}
    (h : ∀ names, s ≠ .oneOf names) : target.scalar enumeration? s = target.scalar none s := by
  cases s with
  | oneOf names => exact absurd rfl (h names)
  | _ => cases target <;> rfl

theorem usesOnly_number (target : Target) (n : Number) :
    UsesOnly (target.knownNames none) (target.scalar none (.number n)).toList := by
  cases n with
  | stars max =>
    cases target with
    | interface => exact holds_of_chars (P := UsesOnly _) (by decide)
    | zod =>
      exact usesOnly_stars .zod max rfl (holds_of_chars (P := UsesOnly _) (by decide))
        (holds_of_chars (P := fun s => CodeState.start.after s = _) (by decide)) (by decide) rfl
    | typedDict => exact holds_of_chars (P := UsesOnly _) (by decide)
    | model =>
      exact usesOnly_stars .model max rfl (holds_of_chars (P := UsesOnly _) (by decide))
        (holds_of_chars (P := fun s => CodeState.start.after s = _) (by decide)) (by decide) rfl
  | _ => cases target <;> exact holds_of_chars (P := UsesOnly _) (by decide)

theorem isNameless_alternatives {d : Dialect} (hquote : ∀ s, IsNameless (d.quote s))
    {separator : String} (hsep : IsNameless separator.toList) (names : List String) :
    IsNameless (alternativesText d separator names).toList := by
  simp only [alternativesText, String.toList_intercalate, List.map_map]
  refine hsep.intercalate fun piece hpiece => ?_
  obtain ⟨name, -, rfl⟩ := List.mem_map.mp hpiece
  simpa [Dialect.quoted] using hquote name.toList

theorem usesOnly_literalText {target : Target} (h : "Literal" ∈ target.importedNames)
    (names : List String) : UsesOnly (target.knownNames none) (literalText names).toList := by
  have hsep : IsNameless ", ".toList := by decide
  have hnames := UsesOnly.of_isNameless
    (isNameless_alternatives (d := pythonDialect) isNameless_doubleQuoted hsep names)
    (target.knownNames none)
  have hopening : UsesOnly ["Literal"] "Literal[".toList := by decide
  simp only [literalText, String.toList_append]
  refine hnames.enclosed ']' [] (hopening.mono fun name hname => ?_) (by decide)
    (UsesOnly.of_isNameless (by decide) _) (by decide)
  rw [List.mem_singleton.mp hname]
  simp [knownNames, h]

theorem usesOnly_enumLiteral (names : List String) :
    UsesOnly (Target.zod.knownNames none)
      ("z.enum([" ++ alternativesText typescriptDialect ", " names ++ "])").toList := by
  have hsep : IsNameless ", ".toList := by decide
  have hnames := UsesOnly.of_isNameless
    (isNameless_alternatives (d := typescriptDialect) isNameless_singleQuoted hsep names)
    (Target.zod.knownNames none)
  simp only [String.toList_append]
  exact hnames.enclosed ']' [')'] (by decide) (by decide) (by decide) (by decide)

theorem usesOnly_selection (target : Target) {enumeration? : Option String}
    (henum : ∀ name ∈ enumeration?, IsName name.toList) (names : List String) :
    UsesOnly (target.knownNames none ++ enumeration?.toList)
      (target.scalar enumeration? (.oneOf names)).toList := by
  cases target with
  | interface =>
    exact UsesOnly.of_isNameless
      (isNameless_alternatives (d := typescriptDialect) isNameless_singleQuoted (by decide) names) _
  | zod =>
    cases enumeration? with
    | none => exact usesOnly_of_known (usesOnly_enumLiteral names) _
    | some name => exact (UsesOnly.of_isName (henum name rfl)).mono fun _ => List.mem_append_right _
  | typedDict => exact usesOnly_of_known (usesOnly_literalText (by decide) names) _
  | model =>
    cases enumeration? with
    | none => exact usesOnly_of_known (usesOnly_literalText (by decide) names) _
    | some name => exact (UsesOnly.of_isName (henum name rfl)).mono fun _ => List.mem_append_right _

theorem usesOnly_scalar (target : Target) {enumeration? : Option String}
    (henum : ∀ name ∈ enumeration?, IsName name.toList) (s : Scalar) :
    UsesOnly (target.knownNames s.shape? ++ enumeration?.toList)
      (target.scalar enumeration? s).toList := by
  cases s with
  | oneOf names => exact target.usesOnly_selection henum names
  | number n =>
    rw [target.scalar_eq_none enumeration?]
    · exact usesOnly_of_known (target.usesOnly_number n) _
    · simp
  | _ =>
    rw [target.scalar_eq_none enumeration?]
    · refine usesOnly_of_known ?_ _
      cases target <;> exact holds_of_chars (P := UsesOnly _) (by decide)
    · simp

/-! ## Lists -/

theorem usesOnly_list (target : Target) {known : List String} {element : String}
    (hknown : ∀ name ∈ target.knownNames none, name ∈ known)
    (h : UsesOnly known element.toList) : UsesOnly known (target.list element).toList := by
  have hpiece : ∀ s : List Char, UsesOnly (target.knownNames none) s → UsesOnly known s :=
    fun s hs => hs.mono hknown
  cases target with
  | interface =>
    simp only [list, String.toList_append]
    exact h.enclosed '>' [] (hpiece _ (by decide)) (by decide)
      (hpiece _ (by decide)) (by decide)
  | zod =>
    simp only [list, String.toList_append]
    exact h.enclosed ')' [] (hpiece _ (by decide)) (by decide)
      (hpiece _ (by decide)) (by decide)
  | typedDict | model =>
    simp only [list, String.toList_append]
    exact h.enclosed ']' [] (hpiece _ (by decide)) (by decide)
      (hpiece _ (by decide)) (by decide)

theorem mem_usedNames_list (target : Target) {element name : String}
    (hclosed : (CodeState.start.after element.toList).isCode = true)
    (h : name ∈ usedNames element.toList) : name ∈ usedNames (target.list element).toList := by
  have hmem {opening closing : List Char} {c : Char}
      (hopening : CodeState.start.after opening = CodeState.start)
      (hc : endsWord c = true) : name ∈ usedNames (opening ++ element.toList ++ c :: closing) := by
    rw [(usedNames_enclosed closing hopening hclosed hc).2]
    exact List.mem_append_left _ (List.mem_append_right _ h)
  cases target <;>
    (simp only [list, String.toList_append]
     exact hmem (by decide +kernel) (by decide))

theorem usesOnly_expression (target : Target) {enumeration? : Option String}
    (henum : ∀ name ∈ enumeration?, IsName name.toList) (v : ValueType) :
    UsesOnly (target.knownNames v.shape? ++ enumeration?.toList)
      (target.expression enumeration? v).toList := by
  cases v with
  | one s => exact target.usesOnly_scalar henum s
  | many s =>
    refine target.usesOnly_list (fun name hname => ?_) (target.usesOnly_scalar henum s)
    simp only [knownNames, Option.toList_none, List.flatMap_nil, List.append_nil] at hname
    simp only [knownNames, List.mem_append] at hname ⊢
    exact Or.inl (Or.inl hname)
  | mixed =>
    refine usesOnly_of_known (?_ : UsesOnly _ target.mixedList.toList) _
    cases target with
    | zod => exact holds_of_chars_append (P := UsesOnly _) (by decide +kernel)
    | _ => exact holds_of_chars (P := UsesOnly _) (by decide)

theorem fieldExpression_of_types (target : Target) (h : target.mode = .types) (tableName : String)
    (field : Field) :
    target.fieldExpression tableName field = target.expression none field.valueType := by
  unfold fieldExpression
  cases target with
  | zod | model => cases h
  | interface | typedDict => cases field.valueType <;> rfl

end Target

end RecordTypes
